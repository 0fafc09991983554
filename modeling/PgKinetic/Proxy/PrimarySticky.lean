import PgKinetic.Lib.Machine
import PgKinetic.Proxy.CheckoutTarget
import PgKinetic.Proxy.CommittedWrite

/-!
# A transaction that has written stays on the primary

The statements of the texts that `apply_transaction_sql_with_routing` is called with are visited
one after the other, each with the flag of its call. `Tracked` puts the session next to what the
visits so far amount to: whether a transaction is open and, if so, whether a statement of class
`Write` has been executed in it. To the server a `BEGIN` inside a transaction changes nothing,
and so it is here (`trackWritten`); the session starts its routing state anew (`trackWrite`).

**A visit keeps the transaction on the primary exactly if it meets `Keeps`**: the write is
tracked, and the `BEGIN` does not come after a write.
-/

namespace PgKinetic.PrimarySticky

open EventMachine List Option VirtualSession

/-! ### The session and its history -/

/-- What happens to a session: a statement is visited on behalf of a call, or the shard of the
transaction is updated, as the proxy does after each call. -/
inductive Input where
  | statement (text : Text) (track : Bool)
  | shard (sql : Text)
  deriving DecidableEq

/-- What a statement makes of the transaction on the server, `none` outside of one and else
whether it has written. -/
def trackWritten (written : Option Bool) (command : SqlCommand) (isWrite : Bool) : Option Bool :=
  match command with
  | .begin _ => some (written.getD false || isWrite)
  | .commit | .rollback => none
  | _ => written.map (· || isWrite)

/-- A session, next to the transaction that its statements have opened. -/
structure Tracked where
  session : VirtualSession := {}
  written : Option Bool := none
  deriving DecidableEq

/-- A statement that has been visited, or a shard update (`command` is `none` then). -/
structure Visit where
  command : Option SqlCommand
  /-- The transaction before the visit. -/
  before : Option Bool
  after : Tracked
  /-- What the visit adds to `committed_write_transaction`. -/
  reported : Bool
  deriving DecidableEq

/-- The statement is of class `Write`. -/
def isWrite (statement : Text) : Bool := SqlClassify.classifySql statement == .write

/-- One visit. -/
def step (s : Tracked) : Input → Option (Tracked × List Visit)
  | .statement text track =>
    match Sql.classify text, s.session.applyTransactionStatements track false [text] with
    | some command, some (session, reported) =>
      let after := ⟨session, trackWritten s.written command (isWrite text)⟩
      some (after, [⟨some command, s.written, after, reported⟩])
    | _, _ => none
  | .shard sql =>
    let after := { s with session := s.session.updateTransactionShardState sql }
    some (after, [⟨none, s.written, after, false⟩])

/-- The sessions of a proxy. -/
def machine : Machine Tracked Input Visit := ⟨step⟩

theorem machine_step : machine.step = step := rfl

/-- The visits of a call. -/
def visits (sql : Text) (track : Bool) : List Input :=
  (SqlClassify.splitTopLevelStatements sql).map (.statement · track)

/-! ### A call is its visits -/

variable {text : Text} {command : SqlCommand} {s : VirtualSession}

/-- The visit of one statement. -/
theorem applyTransactionStatements_singleton (s : VirtualSession) (track flag : Bool)
    (hcommand : Sql.classify text = some command) :
    s.applyTransactionStatements track flag [text] =
      some (s.applyTransactionCommand command (track && isWrite text),
        flag || (command == .commit && s.readRoutingTransaction.any (·.primaryForced))) := by
  rw [applyTransactionStatements, hcommand]
  rfl

theorem step_statement (s : Tracked) (track : Bool) (hcommand : Sql.classify text = some command) :
    machine.step s (.statement text track) =
      let after : Tracked := ⟨s.session.applyTransactionCommand command (track && isWrite text),
        trackWritten s.written command (isWrite text)⟩
      some (after, [⟨some command, s.written, after,
        command == .commit && s.session.readRoutingTransaction.any (·.primaryForced)⟩]) := by
  have hvisit := applyTransactionStatements_singleton s.session track false hcommand
  rw [Bool.false_or] at hvisit
  rw [machine_step, step, hcommand, hvisit]

theorem step_statement_none (s : Tracked) (track : Bool) (hcommand : Sql.classify text = none) :
    machine.step s (.statement text track) = none := by
  rw [machine_step, step, hcommand]

/-- The visits to the statements of a text add up to what the session makes of them. -/
theorem applyTransactionStatements_eq_run (s : Tracked) (track flag : Bool)
    (statements : List Text) :
    s.session.applyTransactionStatements track flag statements =
      (machine.run s (statements.map (.statement · track))).map fun final =>
        (final.1.session, flag || final.2.any (·.reported)) := by
  induction statements generalizing s flag with
  | nil =>
    rw [map_nil, Machine.run_nil, map_some, any_nil, Bool.or_false]
    rfl
  | cons text statements ih =>
    rw [applyTransactionStatements, map_cons, Machine.run]
    cases hcommand : Sql.classify text with
    | none => rw [step_statement_none s track hcommand]; rfl
    | some command =>
      rw [step_statement s track hcommand]
      dsimp only
      have hrest := ih ⟨s.session.applyTransactionCommand command (track && isWrite text),
        trackWritten s.written command (isWrite text)⟩
      rw [isWrite] at hrest ⊢
      rw [hrest]
      generalize machine.run _ _ = final
      cases final with
      | none => rfl
      | some final =>
        simp only [map_some, cons_append, nil_append, any_cons, Bool.or_assoc]

/-- **A call of `apply_transaction_sql_with_routing` is its visits**, and reports what one of
them reports. -/
theorem applyTransactionSqlWithRouting_eq_run (s : Tracked) (sql : Text) (track : Bool) :
    s.session.applyTransactionSqlWithRouting sql track =
      (machine.run s (visits sql track)).map fun final =>
        (final.1.session, final.2.any (·.reported)) := by
  have hrun := applyTransactionStatements_eq_run s track false
    (SqlClassify.splitTopLevelStatements sql)
  exact hrun

/-! ### What is to hold, and when it does -/

/-- The visit finds and leaves a transaction that has written on the primary: its routing state
is forced there, its `COMMIT` is reported, and nothing is left of it in an idle session. -/
structure Visit.Sticky (v : Visit) : Prop where
  forced : v.after.written = some true →
    v.after.session.readRoutingTransaction.any (·.primaryForced) = true ∧
      v.after.session.currentTransactionTargetRole = some .primary
  reported : v.command = some .commit → v.before = some true → v.reported = true
  idle : v.after.session.transaction = .idle →
    v.after.session.readRoutingTransaction = none ∧ v.after.session.transactionShard = none

instance (v : Visit) : Decidable v.Sticky :=
  decidable_of_iff
    ((v.after.written = some true →
      v.after.session.readRoutingTransaction.any (·.primaryForced) = true ∧
        v.after.session.currentTransactionTargetRole = some .primary) ∧
      (v.command = some .commit → v.before = some true → v.reported = true) ∧
      (v.after.session.transaction = .idle →
        v.after.session.readRoutingTransaction = none ∧
          v.after.session.transactionShard = none))
    ⟨fun h => ⟨h.1, h.2.1, h.2.2⟩, fun h => ⟨h.forced, h.reported, h.idle⟩⟩

/-- The first write of a transaction is tracked, and no `BEGIN` comes after it. (A `BEGIN` that
were itself of class `Write` would have to be tracked as one.) -/
def KeepsCommand (written : Option Bool) (command : SqlCommand) (isWrite track : Bool) : Prop :=
  match command with
  | .begin _ => written = some true ∨ isWrite = true → track = true ∧ isWrite = true
  | .commit | .rollback => True
  | _ => written = some false → isWrite = true → track = true

instance (written : Option Bool) (isWrite track : Bool) :
    ∀ command, Decidable (KeepsCommand written command isWrite track)
  | .begin _ => inferInstanceAs (Decidable (_ ∨ _ → _ ∧ _))
  | .commit | .rollback => .isTrue trivial
  | .setTransaction _ | .set .. | .reset _ | .discardAll | .discardTemp | .discardPlans
  | .createTemp | .advisoryLock | .advisoryUnlock | .copy | .listen | .unlisten | .query =>
    inferInstanceAs (Decidable (_ → _ → _))

/-- The condition on a visit, in terms of the transaction before it and the statement. -/
def Keeps (s : Tracked) : Input → Prop
  | .statement text track =>
    ∀ command ∈ Sql.classify text, KeepsCommand s.written command (isWrite text) track
  | .shard _ => True

instance (s : Tracked) : ∀ input, Decidable (Keeps s input)
  | .statement text track =>
    inferInstanceAs (Decidable (∀ command ∈ Sql.classify text,
      KeepsCommand s.written command (isWrite text) track))
  | .shard _ => .isTrue trivial

/-! ### One visit -/

/-- A forced routing state has its role from the flag, and an idle session has none. -/
structure Settled (s : VirtualSession) : Prop where
  role : ∀ routing ∈ s.readRoutingTransaction, routing.primaryForced = true →
    routing.targetRole = .primary
  idle : s.transaction = .idle → s.readRoutingTransaction = none ∧ s.transactionShard = none

/-- The session knows of the transaction what there is to know. -/
structure Knows (s : Tracked) : Prop where
  settled : Settled s.session
  openWrite : s.session.openWrite = s.written

theorem role_refresh (routing : ReadRoutingTransactionState)
    (hforced : routing.refresh.primaryForced = true) : routing.refresh.targetRole = .primary := by
  rw [ReadRoutingTransactionState.refresh] at hforced ⊢
  split
  · rfl
  · rename_i hnot
    rw [if_neg hnot] at hforced
    split at hforced
    · exact absurd hforced hnot
    · rfl

/-- A session in a transaction whose routing state has just been refreshed is settled. -/
theorem settled_of_refresh {routing : ReadRoutingTransactionState}
    (hin : s.transaction = .inTransaction)
    (hrouting : s.readRoutingTransaction = some routing.refresh) : Settled s where
  role := by
    intro routing' hmem hforced
    rw [hrouting] at hmem
    obtain rfl := some.inj hmem
    exact role_refresh routing hforced
  idle := by
    intro hidle
    rw [hin] at hidle
    cases hidle

theorem Settled.markTransactionWrite (h : Settled s) : Settled s.markTransactionWrite := by
  rw [VirtualSession.markTransactionWrite]
  split
  · exact h
  · rename_i hin
    exact settled_of_refresh (not_not.1 hin) rfl

theorem Settled.setTransactionAccessMode (h : Settled s) (accessMode : TransactionAccessMode) :
    Settled (s.setTransactionAccessMode accessMode) := by
  rw [VirtualSession.setTransactionAccessMode]
  split
  · exact h
  · rename_i hin
    exact settled_of_refresh (not_not.1 hin) rfl

theorem Settled.applyTransactionCommand (h : Settled s) (command : SqlCommand) (isWrite : Bool) :
    Settled (s.applyTransactionCommand command isWrite) := by
  have hwrite : ∀ t, Settled t → Settled (if isWrite then t.markTransactionWrite else t) := by
    intro t ht
    split
    · exact ht.markTransactionWrite
    · exact ht
  have hend : Settled s.endTransaction := ⟨nofun, fun _ => ⟨rfl, rfl⟩⟩
  refine hwrite _ ?_
  cases command with
  | begin accessMode => exact settled_of_refresh rfl rfl
  | commit | rollback => exact hend
  | setTransaction accessMode => exact h.setTransactionAccessMode accessMode
  | _ => exact h

/-- A shard is placed only inside a transaction. -/
theorem Settled.updateTransactionShardState (h : Settled s) (sql : Text) :
    Settled (s.updateTransactionShardState sql) := by
  cases hrouting : s.readRoutingTransaction with
  | none =>
    rw [VirtualSession.updateTransactionShardState, hrouting]
    exact h
  | some routing =>
    obtain ⟨shard, heq⟩ := s.updateTransactionShardState_eq sql
    rw [heq]
    refine ⟨h.role, fun hidle => ?_⟩
    rw [(h.idle hidle).1] at hrouting
    cases hrouting

/-- The session has a transaction open whenever the server has. -/
theorem isSome_trackWrite (written : Option Bool) (command : SqlCommand) (isWrite known : Bool) :
    (trackWrite written command known).isSome = (trackWritten written command isWrite).isSome := by
  cases command with
  | commit | rollback | begin accessMode => rfl
  | _ => cases written <;> rfl

/-- The transaction that the session tracks is the one on the server exactly if the visit
meets the condition. -/
theorem keepsCommand_iff (written : Option Bool) (command : SqlCommand) (isWrite track : Bool) :
    KeepsCommand written command isWrite track ↔
      (trackWritten written command isWrite = some true →
        trackWrite written command (track && isWrite) = some true) := by
  cases command with
  | commit | rollback => simp [KeepsCommand, trackWritten]
  | begin accessMode =>
    cases written with
    | none | some written => simp [KeepsCommand, trackWritten, trackWrite]
  | _ =>
    cases written with
    | none => simp [KeepsCommand, trackWritten]
    | some written => cases written <;> simp +contextual [KeepsCommand, trackWritten, trackWrite]

variable {track isWrite : Bool} {written : Option Bool}

/-- The session never takes a transaction for one that has written if it has not. -/
theorem trackWrite_of_ne (h : trackWritten written command isWrite ≠ some true) :
    trackWrite written command (track && isWrite) = trackWritten written command isWrite := by
  cases command with
  | commit => rfl
  | rollback => rfl
  | begin accessMode => cases isWrite <;> cases written <;> simp_all [trackWritten, trackWrite]
  | _ =>
    cases written with
    | none => rfl
    | some written => cases isWrite <;> cases written <;> simp_all [trackWritten, trackWrite]

theorem eq_of_keepsCommand (h : KeepsCommand written command isWrite track) :
    trackWrite written command (track && isWrite) = trackWritten written command isWrite := by
  by_cases hwritten : trackWritten written command isWrite = some true
  · rw [(keepsCommand_iff ..).1 h hwritten, hwritten]
  · exact trackWrite_of_ne hwritten

/-- A settled session that knows its transaction to have written is forced to the primary. -/
theorem forced_of_openWrite (h : Settled s) (hwritten : s.openWrite = some true) :
    s.readRoutingTransaction.any (·.primaryForced) = true ∧
      s.currentTransactionTargetRole = some .primary := by
  have hforced := primaryForced_of_openWrite hwritten
  refine ⟨hforced, ?_⟩
  obtain ⟨routing, hrouting, hflag⟩ := (Option.any_eq_true _ _).1 hforced
  rw [currentTransactionTargetRole, hrouting, map_some, h.role routing hrouting hflag]

/-- A session forced to the primary that has a transaction open knows it to have written. -/
theorem openWrite_of_forced {written : Bool} (hopen : s.openWrite = some written)
    (hforced : s.readRoutingTransaction.any (·.primaryForced) = true) :
    s.openWrite = some true := by
  rw [openWrite] at hopen ⊢
  split at hopen
  · rw [if_pos ‹_›, hforced]
  · cases hopen

/-- **One visit** leaves what is to hold exactly if it meets the condition, and the session then
still knows its transaction. -/
theorem sticky_iff_of_step {s t : Tracked} {input : Input} {vs : List Visit} (h : Knows s)
    (hstep : machine.step s input = some (t, vs)) :
    (Keeps s input ↔ ∀ v ∈ vs, v.Sticky) ∧ (Keeps s input → Knows t) := by
  cases input with
  | shard sql =>
    cases hstep
    have hsettled := h.settled.updateTransactionShardState sql
    have hopen := (s.session.openWrite_updateTransactionShardState sql).trans h.openWrite
    refine ⟨⟨fun _ => forall_mem_singleton.2 ?_, fun _ => trivial⟩,
      fun _ => ⟨hsettled, hopen⟩⟩
    exact ⟨fun hwritten => forced_of_openWrite hsettled (hopen.trans hwritten), nofun,
      hsettled.idle⟩
  | statement text track =>
    cases hcommand : Sql.classify text with
    | none => rw [step_statement_none s track hcommand] at hstep; cases hstep
    | some command =>
      rw [step_statement s track hcommand] at hstep
      cases hstep
      have hsettled := h.settled.applyTransactionCommand command (track && isWrite text)
      have hopen := s.session.openWrite_applyTransactionCommand command (track && isWrite text)
      rw [h.openWrite] at hopen
      have hkeeps : Keeps s (.statement text track) ↔
          KeepsCommand s.written command (isWrite text) track := by
        rw [Keeps, hcommand]
        exact ⟨fun h => h command rfl, fun h _ heq => some.inj heq ▸ h⟩
      rw [hkeeps]
      refine ⟨⟨fun hkeep => forall_mem_singleton.2 ⟨fun hwritten => ?_,
        fun hcommit hbefore => ?_, hsettled.idle⟩, fun hsticky => ?_⟩, fun hkeep => ⟨hsettled, ?_⟩⟩
      · refine forced_of_openWrite hsettled ?_
        rw [hopen, eq_of_keepsCommand hkeep]
        exact hwritten
      · obtain rfl := some.inj hcommit
        rw [primaryForced_of_openWrite (h.openWrite.trans hbefore)]
        rfl
      · refine (keepsCommand_iff ..).2 fun hwritten => ?_
        have hforced := ((forall_mem_singleton.1 hsticky).forced hwritten).1
        have hsome : (trackWrite s.written command (track && isWrite text)).isSome = true := by
          rw [isSome_trackWrite s.written command (isWrite text), hwritten]
          rfl
        obtain ⟨known, hknown⟩ := isSome_iff_exists.1 hsome
        rw [← hopen]
        exact openWrite_of_forced (hopen.trans hknown) hforced
      · exact hopen.trans (eq_of_keepsCommand hkeep)

/-! ### Whole runs -/

theorem knows_default : Knows {} := ⟨⟨nofun, fun _ => ⟨rfl, rfl⟩⟩, rfl⟩

/-- **Primary stickiness.** From a new session, whatever statements are visited: all visits keep
the transactions that have written on the primary exactly if all meet the condition. -/
theorem sticky_iff_meets {inputs : List Input} {t : Tracked} {vs : List Visit}
    (hrun : machine.run {} inputs = some (t, vs)) :
    (∀ v ∈ vs, v.Sticky) ↔ machine.Meets Keeps {} inputs := by
  exact (machine.meets_iff_of_step (I := Knows) (fun _ _ _ _ => sticky_iff_of_step) knows_default
    hrun).symm

/-- A transaction that writes, is declared read-only and commits. -/
def readOnlyAfterWrite : List Input :=
  visits "begin; delete from t; set transaction read only; commit" true

theorem sticky_readOnlyAfterWrite : ∃ t vs, machine.run {} readOnlyAfterWrite = some (t, vs) ∧
    vs.length = 4 ∧ ∀ v ∈ vs, v.Sticky := by
  have hrun : (machine.run {} readOnlyAfterWrite).any (·.2.length == 4) = true := by decide +kernel
  obtain ⟨⟨t, vs⟩, hrun, hlength⟩ := (Option.any_eq_true _ _).1 hrun
  have hmeets : machine.Meets Keeps {} readOnlyAfterWrite := by decide +kernel
  exact ⟨t, vs, hrun, eq_of_beq hlength, (sticky_iff_meets hrun).2 hmeets⟩

/-- A transaction that writes, comes upon a second `BEGIN` and commits. -/
def beginAfterWrite : List Input := visits "begin; delete from t; begin read only; commit" true

/-- There are four visits, and `p` holds of the last three. -/
def lastThree (p : Visit → Visit → Visit → Bool) : List Visit → Bool
  | [_, v₂, v₃, v₄] => p v₂ v₃ v₄
  | _ => false

/-- **A second `BEGIN` drops the write**: its statements may go to a replica, and its `COMMIT`
is not reported. -/
theorem beginAfterWrite_not_sticky :
    ∃ t v₁ v₂ v₃ v₄, machine.run {} beginAfterWrite = some (t, [v₁, v₂, v₃, v₄]) ∧
      v₂.after.written = some true ∧ v₃.after.written = some true ∧
      v₃.after.session.currentTransactionTargetRole = some .replica ∧
      v₄.command = some .commit ∧ v₄.reported = false ∧ ¬ v₃.Sticky ∧ ¬ v₄.Sticky := by
  have hrun : (machine.run {} beginAfterWrite).any (fun final =>
      lastThree (fun v₂ v₃ v₄ => decide (v₂.after.written = some true ∧
        v₃.after.written = some true ∧
        v₃.after.session.currentTransactionTargetRole = some .replica ∧
        v₄.command = some .commit ∧ v₄.reported = false ∧ ¬ v₃.Sticky ∧ ¬ v₄.Sticky))
        final.2) = true := by
    decide +kernel
  obtain ⟨⟨t, vs⟩, hrun, hvisits⟩ := (Option.any_eq_true _ _).1 hrun
  dsimp only at hvisits
  unfold lastThree at hvisits
  split at hvisits
  · rename_i v₁ v₂ v₃ v₄
    exact ⟨t, v₁, v₂, v₃, v₄, hrun, of_decide_eq_true hvisits⟩
  · cases hvisits

end PgKinetic.PrimarySticky
