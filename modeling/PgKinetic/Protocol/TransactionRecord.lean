import PgKinetic.Protocol.VirtualSession

/-!
# What a session records of its transaction

A session records whether a transaction is open, where it reads from (its access mode, and whether
a write has forced it to the primary) and on which shard it runs. Each statement is applied to the
record, and then the shard hint of its text.

Here is, command by command, when a statement leaves the record as it is
(`VirtualSession.applyTransactionCommand_eq_iff`), and when its shard hint does
(`VirtualSession.updateTransactionShardState_eq_iff`).
-/

namespace PgKinetic

open Option

namespace ReadRoutingTransactionState

theorem eq_new_iff (r : ReadRoutingTransactionState) (accessMode : TransactionAccessMode)
    (isWrite : Bool) :
    (r = if isWrite then (new accessMode).forcePrimary else new accessMode) ↔
      (r.accessMode = accessMode ∧ r.primaryForced = isWrite) ∧ r.refresh = r := by
  obtain ⟨mode, role, reason, forced⟩ := r
  cases isWrite <;> cases accessMode <;> cases mode <;> cases forced <;>
    simp [new, forcePrimary, refresh, eq_comm]

theorem eq_setAccessMode_iff (r : ReadRoutingTransactionState) (accessMode : TransactionAccessMode)
    (isWrite : Bool) :
    (r = if isWrite then (r.setAccessMode accessMode).forcePrimary
      else r.setAccessMode accessMode) ↔
      (r.accessMode = accessMode ∧ (isWrite → r.primaryForced)) ∧ r.refresh = r := by
  obtain ⟨mode, role, reason, forced⟩ := r
  cases isWrite <;> cases accessMode <;> cases mode <;> cases forced <;>
    simp [setAccessMode, forcePrimary, refresh, eq_comm]

theorem eq_forcePrimary_iff (r : ReadRoutingTransactionState) :
    r = r.forcePrimary ↔ r.primaryForced ∧ r.refresh = r := by
  obtain ⟨mode, role, reason, forced⟩ := r
  cases mode <;> cases forced <;> simp [forcePrimary, refresh, eq_comm]

end ReadRoutingTransactionState

namespace VirtualSession

/-- What the transaction records, if anything, is settled and has the property. -/
def Records (s : VirtualSession) (p : ReadRoutingTransactionState → Prop) : Prop :=
  ∃ r, s.readRoutingTransaction = some r ∧ p r ∧ r.refresh = r

/-- A statement of the transaction changes nothing of what the session records of it. -/
def KeepsControl (s : VirtualSession) (isWrite : Bool) : SqlCommand → Prop
  | .begin accessMode => s.transaction = .inTransaction ∧
      s.Records fun r => r.accessMode = accessMode ∧ r.primaryForced = isWrite
  | .commit | .rollback =>
    s.transaction = .idle ∧ s.readRoutingTransaction = none ∧ s.transactionShard = none
  | .setTransaction accessMode => s.transaction = .inTransaction →
      s.Records fun r => r.accessMode = accessMode ∧ (isWrite → r.primaryForced)
  | _ => s.transaction = .inTransaction → isWrite → s.Records (·.primaryForced)

/-- The shard hint of a text changes nothing of what the session records of its transaction. -/
def KeepsShard (s : VirtualSession) (sql : Text) : Prop :=
  ∀ routing, s.readRoutingTransaction = some routing →
    match ShardHint.transactionShardId sql with
    | none => ∀ t, s.transactionShard = some t → t.crossShardViolation
    | some shardId => s.transaction = .inTransaction → ∃ t, s.transactionShard = some t ∧
        if t.currentShardId = shardId then
          t.currentShardRouteReason = .unknownQuery → routing.routeReason = .unknownQuery
        else t.crossShardViolation

/-- A session with another record of its transaction is the same session exactly if it has that
record already. -/
theorem setRecord_eq_iff (s : VirtualSession) (transaction : TransactionState)
    (routing : Option ReadRoutingTransactionState) (shard : Option TransactionShardState) :
    { s with transaction, readRoutingTransaction := routing, transactionShard := shard } = s ↔
      s.transaction = transaction ∧ s.readRoutingTransaction = routing ∧
        s.transactionShard = shard := by
  cases s
  simp [eq_comm]

/-- In a transaction, a write forces the record to the primary. -/
theorem setRouting_eq_iff {s : VirtualSession} (isWrite : Bool)
    (state : ReadRoutingTransactionState) :
    (if isWrite then
        { s with transaction := .inTransaction
                 readRoutingTransaction := some state : VirtualSession }.markTransactionWrite
      else { s with transaction := .inTransaction, readRoutingTransaction := some state }) = s ↔
      s.transaction = .inTransaction ∧
        s.readRoutingTransaction = some (if isWrite then state.forcePrimary else state) := by
  have hwritten : (if isWrite then
      { s with transaction := .inTransaction
               readRoutingTransaction := some state : VirtualSession }.markTransactionWrite
      else { s with transaction := .inTransaction, readRoutingTransaction := some state }) =
      { s with transaction := .inTransaction
               readRoutingTransaction := some (if isWrite then state.forcePrimary else state)
               transactionShard := s.transactionShard } := by
    cases isWrite <;> rfl
  rw [hwritten, setRecord_eq_iff]
  exact and_congr_right fun _ => and_iff_left rfl

theorem markTransactionWrite_eq_iff (s : VirtualSession) :
    s.markTransactionWrite = s ↔
      (s.transaction = .inTransaction → s.Records (·.primaryForced)) := by
  by_cases hopen : s.transaction = .inTransaction
  · have hset : s.markTransactionWrite =
        { s with
          transaction := .inTransaction
          readRoutingTransaction :=
            some (s.readRoutingTransaction.getD (.new .readWrite)).forcePrimary } := by
      rw [markTransactionWrite, if_neg (not_not.2 hopen), ← hopen]
    refine (Eq.congr hset rfl).trans ((setRouting_eq_iff false _).trans ?_)
    rw [Records]
    cases s.readRoutingTransaction with
    | none => simp [hopen]
    | some r => simp [hopen, ReadRoutingTransactionState.eq_forcePrimary_iff]
  · simp [markTransactionWrite, hopen]

theorem applyTransactionCommand_eq_iff (s : VirtualSession) (command : SqlCommand)
    (isWrite : Bool) :
    s.applyTransactionCommand command isWrite = s ↔ s.KeepsControl isWrite command := by
  cases command with
  | begin accessMode =>
    rw [applyTransactionCommand, beginTransaction, setRouting_eq_iff]
    simp only [← ReadRoutingTransactionState.eq_new_iff, KeepsControl, Records, exists_eq_right]
  | commit | rollback =>
    have hended : (if isWrite then s.endTransaction.markTransactionWrite else s.endTransaction) =
        s.endTransaction := by cases isWrite <;> rfl
    exact (Eq.congr hended rfl).trans (s.setRecord_eq_iff _ _ _)
  | setTransaction accessMode =>
    by_cases hopen : s.transaction = .inTransaction
    · have hset : s.setTransactionAccessMode accessMode =
          { s with
            transaction := .inTransaction
            readRoutingTransaction := some ((s.readRoutingTransaction.getD
              (.new accessMode)).setAccessMode accessMode) } := by
        rw [setTransactionAccessMode, if_neg (not_not.2 hopen), ← hopen]
      rw [applyTransactionCommand, hset, setRouting_eq_iff, KeepsControl, Records]
      cases s.readRoutingTransaction with
      | none => simp [hopen]
      | some r => simp [hopen, ReadRoutingTransactionState.eq_setAccessMode_iff]
    · simp [applyTransactionCommand, setTransactionAccessMode, markTransactionWrite, KeepsControl,
        hopen]
  | _ =>
    cases isWrite with
    | false => exact iff_of_true rfl fun _ h => absurd h Bool.false_ne_true
    | true =>
      exact s.markTransactionWrite_eq_iff.trans
        ⟨fun h hopen _ => h hopen, fun h hopen => h hopen rfl⟩

theorem updateTransactionShardState_eq_iff (s : VirtualSession) (sql : Text) :
    s.updateTransactionShardState sql = s ↔ s.KeepsShard sql := by
  have hshard : ∀ shard, { s with transactionShard := shard } = s ↔ s.transactionShard = shard :=
    fun shard => (s.setRecord_eq_iff _ _ shard).trans (by simp)
  have hmark : s.markTransactionCrossShardViolation = s ↔
      ∀ t, s.transactionShard = some t → t.crossShardViolation := by
    rw [markTransactionCrossShardViolation, hshard]
    cases s.transactionShard with
    | none => simp
    | some t => cases t; simp
  have htwice : s.markTransactionCrossShardViolation.markTransactionCrossShardViolation =
      s.markTransactionCrossShardViolation := by
    simp [markTransactionCrossShardViolation, Function.comp_def]
  unfold updateTransactionShardState KeepsShard
  cases s.readRoutingTransaction with
  | none => simp
  | some routing =>
    simp only [some.injEq, forall_eq']
    cases ShardHint.transactionShardId sql with
    | none => exact hmark
    | some shardId =>
      dsimp only
      unfold applyTransactionShardAffinity
      by_cases hopen : s.transaction = .inTransaction
      · rw [if_neg (not_not.2 hopen), forall_prop_of_true hopen]
        cases ht : s.transactionShard with
        | none => exact iff_of_false (fun h => by simpa [ht] using (hshard _).1 h) (by simp)
        | some t =>
          simp only [some.injEq, exists_eq_left']
          by_cases hid : t.currentShardId = shardId
          · simp only [if_pos hid]
            by_cases hreason : t.currentShardRouteReason = .unknownQuery ∧
                routing.routeReason ≠ .unknownQuery
            · rw [if_pos hreason]
              refine (hshard _).trans (iff_of_false (fun h => ?_) fun h => hreason.2 (h hreason.1))
              rw [ht] at h
              have hsame := congrArg TransactionShardState.currentShardRouteReason (some.inj h)
              exact hreason.2 (hsame.symm.trans hreason.1)
            · rw [if_neg hreason]
              exact iff_of_true rfl fun h => not_not.1 fun h' => hreason ⟨h, h'⟩
          · simp only [if_neg hid]
            rw [htwice, hmark, ht]
            simp
      · simp [hopen]

theorem markTransactionWrite_shard (s : VirtualSession) :
    s.markTransactionWrite.transactionShard = s.transactionShard := by
  rw [markTransactionWrite]
  split <;> rfl

/-- A shard hint does not undo what a statement has done to the session. -/
theorem applyTransactionCommand_eq_of_update {s : VirtualSession} {command : SqlCommand}
    {isWrite : Bool} {sql : Text}
    (h : (s.applyTransactionCommand command isWrite).updateTransactionShardState sql = s) :
    s.applyTransactionCommand command isWrite = s := by
  obtain ⟨shard, heq⟩ := (s.applyTransactionCommand command isWrite).updateTransactionShardState_eq
    sql
  -- only the end of a transaction touches its shard, and then no hint is looked at
  have hkept : (s.applyTransactionCommand command isWrite).transactionShard = s.transactionShard →
      s.applyTransactionCommand command isWrite = s := by
    intro hshard
    rw [heq] at h
    have hsame : shard = s.transactionShard := congrArg transactionShard h
    rw [hsame, ← hshard] at h
    exact h
  have hwrite : ∀ t : VirtualSession, t.transactionShard = s.transactionShard →
      (if isWrite then t.markTransactionWrite else t).transactionShard = s.transactionShard := by
    intro t ht
    split
    · rw [markTransactionWrite_shard, ht]
    · exact ht
  cases command with
  | commit | rollback => cases isWrite <;> exact h
  | begin accessMode => exact hkept (hwrite _ rfl)
  | setTransaction accessMode =>
    refine hkept (hwrite _ ?_)
    rw [setTransactionAccessMode]
    split <;> rfl
  | _ => exact hkept (hwrite _ rfl)

end VirtualSession

end PgKinetic
