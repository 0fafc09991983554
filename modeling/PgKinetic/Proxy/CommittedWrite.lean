import PgKinetic.Proxy.Forwarding

/-!
# Writes the session sees committed

The proxy learns of a committed write from the texts of a cycle alone: `COMMIT`, while the tracked
transaction is one in which a text of class `Write` has been seen. What it needs of a session for
that is whether it is in a transaction and, if so, whether the transaction has written
(`VirtualSession.openWrite`); `commitsWrite` is the same question put to a list of statements.

The flag `committed_write_transaction` of a cycle is set whenever the statements in its texts
commit a write (`committedWrite_of_commitsWrite`).
-/

namespace PgKinetic

open Option List ReadRoutingTransactionState

/-- The top-level statements of the text a frame brings. -/
def FrontendMessage.statements : FrontendMessage → List Text
  | .query sql | .parse _ sql _ => SqlClassify.splitTopLevelStatements sql
  | _ => []

/-- The top-level statements in the texts that a cycle brings. -/
def cycleStatements (frames : List FrontendMessage) : List Text :=
  frames.flatMap FrontendMessage.statements

/-- What a statement makes of a transaction, `none` outside of one and else whether it has
written. -/
def trackWrite (transaction : Option Bool) (command : SqlCommand) (isWrite : Bool) : Option Bool :=
  match command with
  | .begin _ => some isWrite
  | .commit | .rollback => none
  | _ => transaction.map (· || isWrite)

/-- One of the statements is `COMMIT`, of a transaction that has written. -/
def commitsWrite : Option Bool → List Text → Bool
  | _, [] => false
  | transaction, statement :: statements =>
    match Sql.classify statement with
    | none => false
    | some command =>
      (command == .commit && transaction == some true) ||
        commitsWrite (trackWrite transaction command
          (SqlClassify.classifySql statement == .write)) statements

namespace VirtualSession

/-- The transaction the session tracks, and whether it has written. -/
def openWrite (s : VirtualSession) : Option Bool :=
  if s.transaction = .inTransaction then some (s.readRoutingTransaction.any (·.primaryForced))
  else none

/-- A transaction known to have written is one that forces the primary. -/
theorem primaryForced_of_openWrite {s : VirtualSession} (h : s.openWrite = some true) :
    s.readRoutingTransaction.any (·.primaryForced) = true := by
  rw [openWrite] at h
  split at h
  · exact some.inj h
  · cases h

theorem openWrite_markTransactionWrite (s : VirtualSession) :
    s.markTransactionWrite.openWrite = s.openWrite.map fun _ => true := by
  rw [markTransactionWrite]
  split
  · rename_i hout
    rw [openWrite, if_neg hout]
    rfl
  · rename_i hin
    have hin : s.transaction = .inTransaction := not_not.1 hin
    rw [openWrite, openWrite, if_pos hin, if_pos hin]
    rfl

theorem openWrite_setTransactionAccessMode (s : VirtualSession)
    (accessMode : TransactionAccessMode) :
    (s.setTransactionAccessMode accessMode).openWrite = s.openWrite := by
  have hkept : ∀ (routing : ReadRoutingTransactionState) mode,
      (routing.setAccessMode mode).primaryForced = routing.primaryForced := by
    intro routing mode
    rw [setAccessMode, refresh]
    repeat' split
    all_goals rfl
  have hnew : (new accessMode).primaryForced = false := by cases accessMode <;> rfl
  rw [setTransactionAccessMode]
  split
  · rfl
  · rename_i hin
    have hin : s.transaction = .inTransaction := not_not.1 hin
    rw [openWrite, openWrite, if_pos hin, if_pos hin, any_some, hkept]
    cases s.readRoutingTransaction with
    | none => rw [getD_none, hnew, any_none]
    | some routing => rfl

/-- **The tracked transaction follows the statements.** -/
theorem openWrite_applyTransactionCommand (s : VirtualSession) (command : SqlCommand)
    (isWrite : Bool) :
    (s.applyTransactionCommand command isWrite).openWrite =
      trackWrite s.openWrite command isWrite := by
  have hwrite : ∀ t : VirtualSession,
      (if isWrite then t.markTransactionWrite else t).openWrite =
        t.openWrite.map (· || isWrite) := by
    intro t
    cases isWrite with
    | true => rw [if_pos rfl, openWrite_markTransactionWrite]; simp
    | false => simp
  have hbegin : ∀ accessMode, (s.beginTransaction accessMode).openWrite = some false := by
    intro accessMode
    cases accessMode <;> rfl
  refine (hwrite _).trans ?_
  cases command with
  | begin accessMode => rw [hbegin, trackWrite, map_some, Bool.false_or]
  | setTransaction accessMode =>
    rw [openWrite_setTransactionAccessMode]
    rfl
  | _ => rfl

theorem openWrite_updateTransactionShardState (s : VirtualSession) (sql : Text) :
    (s.updateTransactionShardState sql).openWrite = s.openWrite := by
  obtain ⟨shard, heq⟩ := s.updateTransactionShardState_eq sql
  rw [heq]
  rfl

/-- The statements of a text: what they commit the flag records, and what they leave open the
session does. -/
theorem commitsWrite_applyTransactionStatements {s t : VirtualSession} {flag flag' : Bool}
    {statements rest : List Text}
    (h : applyTransactionStatements true s flag statements = some (t, flag'))
    (hcommits : flag = true ∨ commitsWrite s.openWrite (statements ++ rest) = true) :
    flag' = true ∨ commitsWrite t.openWrite rest = true := by
  induction statements generalizing s flag with
  | nil =>
    cases h
    exact hcommits
  | cons statement statements ih =>
    rw [applyTransactionStatements] at h
    split at h
    · cases h
    · rename_i command hcommand
      refine ih h ?_
      rw [openWrite_applyTransactionCommand, Bool.true_and, Bool.or_eq_true]
      rcases hcommits with hflag | hcommits
      · exact .inl (.inl hflag)
      · rw [cons_append, commitsWrite, hcommand] at hcommits
        rcases Bool.or_eq_true _ _ ▸ hcommits with hcommit | hlater
        · obtain ⟨hcommit, hwritten⟩ := Bool.and_eq_true _ _ ▸ hcommit
          have hforced := primaryForced_of_openWrite (eq_of_beq hwritten)
          exact .inl (.inr (by rw [hcommit, hforced]; rfl))
        · exact .inr hlater

end VirtualSession

/-- The plans that update the transaction state are those of the texts a cycle brings. -/
theorem statements_requestPlansForFrames {prepared : PreparedCatalog}
    {frames : List FrontendMessage} {plans : List RequestPlan}
    (hplans : requestPlansForFrames prepared frames = some plans) :
    ((plans.filter (·.updatesTransactionState)).flatMap fun plan =>
      SqlClassify.splitTopLevelStatements plan.sql) = cycleStatements frames := by
  induction frames generalizing plans with
  | nil =>
    obtain rfl := some.inj hplans
    rfl
  | cons frame frames ih =>
    rw [requestPlansForFrames] at hplans
    split at hplans
    · rename_i plan rest hplan hrest
      obtain rfl := some.inj hplans
      have hcons : cycleStatements (frame :: frames) =
          frame.statements ++ cycleStatements frames := flatMap_cons
      rw [filter_append, flatMap_append, ih hrest, hcons]
      congr 1
      -- a statement that is used from the catalog updates nothing
      have huse : ∀ statement : Option PreparedStatement,
          ((statement.map RequestPlan.fromPrepared).toList.filter
            (·.updatesTransactionState)) = [] := by
        intro statement
        cases statement <;> rfl
      have hnew : ∀ sql updates,
          (RequestPlan.new sql true updates).map some = some plan →
          ((plan.toList.filter (·.updatesTransactionState)).flatMap fun plan =>
            SqlClassify.splitTopLevelStatements plan.sql) =
              SqlClassify.splitTopLevelStatements sql := by
        intro sql updates hplan
        obtain ⟨new, hnew, rfl⟩ := map_eq_some_iff.1 hplan
        obtain ⟨command, -, rfl⟩ := map_eq_some_iff.1 hnew
        exact append_nil _
      cases frame with
      | query sql => exact hnew sql true hplan
      | parse name sql oids => exact hnew sql false hplan
      | bind name =>
        obtain rfl := some.inj hplan
        rw [huse]
        rfl
      | describe target =>
        cases target with
        | statement name =>
          obtain rfl := some.inj hplan
          rw [huse]
          rfl
        | _ =>
          obtain rfl := some.inj hplan
          rfl
      | malformed tag =>
        cases tag with
        | query | parse => cases hplan
        | _ =>
          obtain rfl := some.inj hplan
          rfl
      | _ =>
        obtain rfl := some.inj hplan
        rfl
    · cases hplans

/-- **A write that a cycle's statements commit sets the cycle's flag.** -/
theorem committedWrite_of_commitsWrite {plans : List RequestPlan} {s t : VirtualSession}
    {flag flag' : Bool}
    (h : updateTransactionStateFromRequestPlans true s flag plans = some (t, flag'))
    (hcommits : flag = true ∨ commitsWrite s.openWrite
      ((plans.filter (·.updatesTransactionState)).flatMap fun plan =>
        SqlClassify.splitTopLevelStatements plan.sql) = true) :
    flag' = true := by
  induction plans generalizing s flag with
  | nil =>
    cases h
    rcases hcommits with hflag | hcommits
    · exact hflag
    · cases hcommits
  | cons plan plans ih =>
    rw [updateTransactionStateFromRequestPlans] at h
    split at h
    · rename_i hupdates
      split at h
      · cases h
      · rename_i session committed hplan
        refine ih h ?_
        rw [filter_cons_of_pos hupdates, flatMap_cons] at hcommits
        rw [updateTransactionStateFromRequestPlan] at hplan
        split at hplan
        · cases hplan
        · rename_i session' committed' hstatements
          cases hplan
          rw [if_pos rfl, VirtualSession.openWrite_updateTransactionShardState, Bool.or_eq_true]
          rcases hcommits with hflag | hcommits
          · exact .inl (.inl hflag)
          · have hrest := VirtualSession.commitsWrite_applyTransactionStatements hstatements
              (.inr hcommits)
            rcases hrest with hcommitted | hopen
            · exact .inl (.inr hcommitted)
            · exact .inr hopen
    · rename_i hupdates
      rw [filter_cons_of_neg hupdates] at hcommits
      exact ih h hcommits

end PgKinetic
