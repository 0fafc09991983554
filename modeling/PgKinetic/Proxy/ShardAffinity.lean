import PgKinetic.Lib.Machine
import PgKinetic.Proxy.Forwarding

/-!
# The shard of a transaction

With routing tracked, a session processes request plans one after the other: the transaction
control of the text first, then the shard that its leading comment names. `Move.Keeps` is what a
text should make of the affinity of the transaction to a shard. In a failed transaction
`apply_transaction_shard_affinity` accepts every shard without a look, while a text that names none
is marked as ever: **the affinity is kept exactly if no text brings a failed transaction a shard
that would have to be recorded** (`keeps_iff_meets`).
-/

namespace PgKinetic.ShardAffinity

open EventMachine List Option VirtualSession

/-! ### What is to hold, and when it does -/

/-- The shard of the transaction, and whether a statement has left it. -/
def affinity (s : VirtualSession) : Option (ShardId × Bool) :=
  s.transactionShard.map fun t => (t.currentShardId, t.crossShardViolation)

/-- The affinity after a text with this shard in its comment: the first shard is recorded, and any
other, or none, is a violation from then on. -/
def attributed (hint : Option ShardId) : Option (ShardId × Bool) → Option (ShardId × Bool)
  | none => hint.map (·, false)
  | some (shard, violated) => some (shard, violated || hint != some shard)

/-- `COMMIT` and `ROLLBACK`. -/
def ends (command : SqlCommand) : Bool := command == .commit || command == .rollback

/-- `BEGIN`, `COMMIT` and `ROLLBACK`. -/
def delimits : SqlCommand → Bool
  | .begin _ => true
  | command => ends command

/-- One of the statements is such a command. -/
def anyCommand (p : SqlCommand → Bool) (statements : List Text) : Bool :=
  statements.any fun text => (Sql.classify text).any p

/-- What happens to a session: a plan is processed, or the server reports an error in its
transaction. -/
inductive Input where
  | plan (plan : RequestPlan)
  | failed

/-- An input that was processed, with the session before and after it. -/
structure Move where
  input : Input
  before : VirtualSession
  after : VirtualSession

/-- The affinity is kept: for as long as a transaction is open, and no longer. -/
def Move.Keeps (m : Move) : Prop :=
  match m.input with
  | .plan plan =>
    affinity m.after =
      if m.after.transaction = .idle then none
      else attributed (ShardHint.transactionShardId plan.sql)
        (if anyCommand ends (SqlClassify.splitTopLevelStatements plan.sql) then none
          else affinity m.before)
  | .failed => affinity m.after = affinity m.before

/-- One input. -/
def next (s : VirtualSession) : Input → Option VirtualSession
  | .plan plan => (updateTransactionStateFromRequestPlan s plan true).map (·.1)
  | .failed => if s.transaction = .inTransaction then some s.markFailedTransaction else none

/-- A session with routing tracked. -/
def machine : Machine VirtualSession Input Move :=
  ⟨fun s input => (next s input).map fun t => (t, [⟨input, s, t⟩])⟩

/-- A text that leaves a failed transaction failed names no shard but that of the transaction,
unless the transaction is marked already. -/
def Heeds (s : VirtualSession) : Input → Prop
  | .plan plan =>
    s.transaction = .failed →
      anyCommand delimits (SqlClassify.splitTopLevelStatements plan.sql) = false →
        ∀ shard ∈ ShardHint.transactionShardId plan.sql,
          (affinity s).any (fun a => a.1 == shard || a.2) = true
  | .failed => True

instance (s : VirtualSession) : ∀ input, Decidable (Heeds s input)
  | .plan plan =>
    inferInstanceAs (Decidable (_ → _ → ∀ shard ∈ ShardHint.transactionShardId plan.sql, _))
  | .failed => .isTrue trivial

/-! ### One text -/

/-- A session has routing state exactly in a transaction, and a shard only there. -/
structure Routed (s : VirtualSession) : Prop where
  routing : s.readRoutingTransaction = none ↔ s.transaction = .idle
  shard : s.transaction = .idle → s.transactionShard = none

/-- What commands have made of a session, some of which have ended its transaction or begun or
ended one. -/
structure After (s : VirtualSession) (ended delimited : Bool) (t : VirtualSession) : Prop where
  routed : Routed t
  shard : t.transactionShard = if ended then none else s.transactionShard
  failed : t.transaction = .failed ↔ s.transaction = .failed ∧ delimited = false
  delimited : delimited = false → ended = false

variable {s t u : VirtualSession} {ended delimited ended' delimited' : Bool}

/-- Routing state is renewed only inside a transaction. -/
theorem After.renew (h : After s ended delimited t) (routing : ReadRoutingTransactionState) :
    After s ended delimited (if t.transaction ≠ .inTransaction then t
      else { t with readRoutingTransaction := some routing }) := by
  split
  · exact h
  · rename_i hin
    have hopen : t.transaction ≠ .idle := by
      rw [not_not.1 hin]
      nofun
    exact ⟨⟨⟨nofun, fun hidle => absurd hidle hopen⟩, h.routed.shard⟩, h.shard, h.failed,
      h.delimited⟩

theorem After.trans (h : After s ended delimited t) (h' : After t ended' delimited' u) :
    After s (ended || ended') (delimited || delimited') u where
  routed := h'.routed
  shard := by
    rw [h'.shard, h.shard]
    cases ended <;> cases ended' <;> rfl
  failed := by rw [h'.failed, h.failed, and_assoc, Bool.or_eq_false_iff]
  delimited := by
    rw [Bool.or_eq_false_iff, Bool.or_eq_false_iff]
    exact And.imp h.delimited h'.delimited

theorem Routed.after (h : Routed s) : After s false false s :=
  ⟨h, rfl, (and_iff_left rfl).symm, fun _ => rfl⟩

theorem Routed.command (h : Routed s) (command : SqlCommand) (isWrite : Bool) :
    After s (ends command) (delimits command) (s.applyTransactionCommand command isWrite) := by
  have hwrite : ∀ {t}, After s (ends command) (delimits command) t →
      After s (ends command) (delimits command) (if isWrite then t.markTransactionWrite else t) := by
    intro t ht
    split
    · exact ht.renew _
    · exact ht
  refine hwrite ?_
  cases command with
  | begin accessMode => exact ⟨⟨⟨nofun, nofun⟩, nofun⟩, rfl, ⟨nofun, fun h => nomatch h.2⟩, nofun⟩
  | commit | rollback =>
    exact ⟨⟨⟨fun _ => rfl, fun _ => rfl⟩, fun _ => rfl⟩, rfl, ⟨nofun, fun h => nomatch h.2⟩, nofun⟩
  | setTransaction accessMode => exact h.after.renew _
  | _ => exact h.after

theorem Routed.statements {track flag flag' : Bool} {statements : List Text} (h : Routed s)
    (happlied : s.applyTransactionStatements track flag statements = some (t, flag')) :
    After s (anyCommand ends statements) (anyCommand delimits statements) t := by
  induction statements generalizing s flag with
  | nil =>
    cases happlied
    exact h.after
  | cons text statements ih =>
    rw [applyTransactionStatements] at happlied
    cases hcommand : Sql.classify text with
    | none =>
      rw [hcommand] at happlied
      cases happlied
    | some command =>
      rw [hcommand] at happlied
      have hfirst := h.command command (track && SqlClassify.classifySql text == .write)
      have hrest := hfirst.trans (ih hfirst.routed happlied)
      rw [anyCommand, anyCommand, any_cons, any_cons, hcommand]
      exact hrest

/-- The shard of a text is attributed to the transaction that is open behind it, exactly if it need
not be recorded in a failed one. -/
theorem Routed.update (h : Routed s) (sql : Text) :
    affinity (s.updateTransactionShardState sql) =
        (if s.transaction = .idle then none
          else attributed (ShardHint.transactionShardId sql) (affinity s)) ↔
      (s.transaction = .failed → ∀ shard ∈ ShardHint.transactionShardId sql,
        (affinity s).any (fun a => a.1 == shard || a.2) = true) := by
  unfold updateTransactionShardState affinity
  cases hrouting : s.readRoutingTransaction with
  | none =>
    have hidle := h.routing.1 hrouting
    simp [hidle, h.shard hidle]
  | some routing =>
    have hopen : s.transaction ≠ .idle := by
      intro hidle
      rw [h.routing.2 hidle] at hrouting
      cases hrouting
    rw [if_neg hopen]
    cases hhint : ShardHint.transactionShardId sql with
    | none => cases hshard : s.transactionShard <;>
        simp [attributed, markTransactionCrossShardViolation, hshard]
    | some shard =>
      dsimp only [applyTransactionShardAffinity]
      by_cases hin : s.transaction = .inTransaction
      · cases hshard : s.transactionShard with
        | none => simp [attributed, hin]
        | some current =>
          by_cases hsame : current.currentShardId = shard
          · by_cases hreason : current.currentShardRouteReason = .unknownQuery ∧
                routing.routeReason ≠ .unknownQuery
            · simp [attributed, hin, hsame, hreason]
            · simp [attributed, hin, hsame, hreason, hshard]
          · simp [attributed, hin, hsame, Ne.symm hsame, hshard, markTransactionCrossShardViolation]
      · have hfailed : s.transaction = .failed := by
          cases hstate : s.transaction <;> simp_all
        cases hshard : s.transactionShard with
        | none => simp [attributed, hfailed, hshard]
        | some current =>
          simp [attributed, hfailed, hshard]
          grind

theorem Routed.updated (h : Routed s) (sql : Text) :
    Routed (s.updateTransactionShardState sql) ∧
      (s.updateTransactionShardState sql).transaction = s.transaction := by
  cases hrouting : s.readRoutingTransaction with
  | none =>
    rw [updateTransactionShardState, hrouting]
    exact ⟨h, rfl⟩
  | some routing =>
    obtain ⟨shard, heq⟩ := s.updateTransactionShardState_eq sql
    rw [heq]
    refine ⟨⟨h.routing, fun hidle => ?_⟩, rfl⟩
    rw [h.routing.2 hidle] at hrouting
    cases hrouting

/-! ### Whole runs -/

/-- **One step**: the affinity is kept exactly if the input meets the condition. -/
theorem keeps_iff_of_step {input : Input} {moves : List Move} (h : Routed s)
    (hstep : machine.step s input = some (t, moves)) :
    (Heeds s input ↔ ∀ m ∈ moves, m.Keeps) ∧ (Heeds s input → Routed t) := by
  obtain ⟨t', hnext, heq⟩ := map_eq_some_iff.1 hstep
  obtain ⟨rfl, rfl⟩ := Prod.mk.inj heq
  rw [forall_mem_singleton]
  cases input with
  | failed =>
    rw [next] at hnext
    split at hnext
    · rename_i hin
      obtain rfl := some.inj hnext
      rw [markFailedTransaction, markTransactionWrite, if_neg (not_not.2 hin)]
      exact ⟨iff_of_true trivial rfl, fun _ => ⟨⟨nofun, nofun⟩, nofun⟩⟩
    · cases hnext
  | plan plan =>
    rw [next, updateTransactionStateFromRequestPlan] at hnext
    rcases happlied : s.applyTransactionSqlWithRouting plan.sql true with _ | ⟨u, flag⟩
    · rw [happlied] at hnext
      cases hnext
    rw [happlied] at hnext
    obtain rfl := some.inj hnext
    have hafter := h.statements happlied
    obtain ⟨hrouted, hstate⟩ := hafter.routed.updated plan.sql
    have hkeeps := hafter.routed.update plan.sql
    have haffinity : affinity u =
        if anyCommand ends (SqlClassify.splitTopLevelStatements plan.sql) then none
        else affinity s := by
      rw [affinity, hafter.shard, apply_ite (Option.map _)]
      rfl
    rw [← hstate, haffinity] at hkeeps
    refine ⟨Iff.trans ?_ hkeeps.symm, fun _ => hrouted⟩
    rw [hstate, hafter.failed]
    constructor
    · rintro hheeds ⟨hfailed, hdelimited⟩
      rw [hafter.delimited hdelimited]
      exact hheeds hfailed hdelimited
    · intro hheeds hfailed hdelimited
      have hshard := hheeds ⟨hfailed, hdelimited⟩
      rw [hafter.delimited hdelimited] at hshard
      exact hshard

/-- A transaction on shard `a` that fails before the last plan. -/
def failsBefore (sql : Text) (command : SqlCommand) : List Input :=
  [.plan ⟨"begin", .begin .readWrite, true, true⟩,
    .plan ⟨"/* pg-kinetic: shard=a */ select 1", .query, true, true⟩, .failed,
    .plan ⟨sql, command, true, true⟩]

end PgKinetic.ShardAffinity
