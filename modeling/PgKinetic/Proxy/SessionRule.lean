import PgKinetic.Proxy.Turn

/-!
# What a cycle keeps of a session

While a cycle is planned and forwarded its session changes in two ways: transaction control and
errors change what it records of its transaction, and simple queries change the rest. A predicate
that does not look at the transaction (`IgnoresTransaction`) is kept by everything of the first
kind, so to show that a cycle keeps it (`rule_forwardMessageCycle`) it is enough to look at the
commands of the simple queries in it.
-/

namespace PgKinetic

open Option List

namespace VirtualSession

/-- The predicate does not look at what a session records of its transaction. -/
def IgnoresTransaction (P : VirtualSession → Prop) : Prop :=
  ∀ s transaction routing shard, P s →
    P { s with
        transaction := transaction
        readRoutingTransaction := routing
        transactionShard := shard }

namespace IgnoresTransaction

variable {P : VirtualSession → Prop} (hP : IgnoresTransaction P) {s : VirtualSession}

include hP

theorem endTransaction (h : P s) : P s.endTransaction := hP s _ _ _ h

theorem setTransactionAccessMode (h : P s) (accessMode : TransactionAccessMode) :
    P (s.setTransactionAccessMode accessMode) := by
  rw [VirtualSession.setTransactionAccessMode]
  split
  · exact h
  · exact hP s _ _ _ h

theorem markTransactionWrite (h : P s) : P s.markTransactionWrite := by
  rw [VirtualSession.markTransactionWrite]
  split
  · exact h
  · exact hP s _ _ _ h

theorem markFailedTransaction (h : P s) : P s.markFailedTransaction :=
  hP _ _ _ _ (hP.markTransactionWrite h)

theorem applyTransactionCommand (h : P s) (command : SqlCommand) (isWrite : Bool) :
    P (s.applyTransactionCommand command isWrite) := by
  have hwrite : ∀ t : VirtualSession, P t → P (if isWrite then t.markTransactionWrite else t) := by
    intro t ht
    split
    · exact hP.markTransactionWrite ht
    · exact ht
  refine hwrite _ ?_
  cases command with
  | begin accessMode => exact hP s _ _ _ h
  | commit | rollback => exact hP.endTransaction h
  | setTransaction accessMode => exact hP.setTransactionAccessMode h accessMode
  | _ => exact h

variable {t : VirtualSession}

theorem applyTransactionStatements {track committed committed' : Bool} {statements : List Text}
    (h : P s) (ht : applyTransactionStatements track s committed statements = some (t, committed'))
    :
    P t := by
  induction statements generalizing s committed with
  | nil =>
    cases ht
    exact h
  | cons statement statements ih =>
    rw [applyTransactionStatements] at ht
    split at ht
    · cases ht
    · exact ih (hP.applyTransactionCommand h _ _) ht

theorem updateTransactionShardState (h : P s) (sql : Text) :
    P (s.updateTransactionShardState sql) := by
  obtain ⟨shard, heq⟩ := s.updateTransactionShardState_eq sql
  rw [heq]
  exact hP s _ _ _ h

/-- Transaction control of a cycle. -/
theorem updateTransactionStateFromRequestPlans {track committed committed' : Bool}
    {plans : List RequestPlan} (h : P s)
    (ht : updateTransactionStateFromRequestPlans track s committed plans = some (t, committed')) :
    P t := by
  induction plans generalizing s committed with
  | nil =>
    cases ht
    exact h
  | cons plan plans ih =>
    rw [updateTransactionStateFromRequestPlans] at ht
    split at ht
    · split at ht
      · cases ht
      · rename_i hplan
        refine ih ?_ ht
        rw [updateTransactionStateFromRequestPlan] at hplan
        split at hplan
        · cases hplan
        · rename_i hstatements
          cases hplan
          have happlied := hP.applyTransactionStatements h hstatements
          split
          · exact hP.updateTransactionShardState happlied plan.sql
          · exact happlied
    · exact ih h ht

end IgnoresTransaction

end VirtualSession

/-! ### Planning -/

variable {P : VirtualSession → Prop} {prepared : PreparedCatalog} {frames : List FrontendMessage}

/-- **The rule of planning.** Only the commands of simple queries change the session. -/
theorem rule_planFrontendCycle {backendId : BackendId} {s : VirtualSession}
    {commands : List SqlCommand} {planned : PlannedCycle}
    (hcommands : ∀ command ∈ commands, ∀ s, P s → P (updateVirtualSessionFromFrame s command))
    (h : P s) (hplanned : planFrontendCycle backendId s prepared commands frames = some planned) :
    P planned.session := by
  induction frames generalizing s prepared commands planned with
  | nil =>
    obtain rfl := some.inj hplanned
    exact h
  | cons frame frames ih =>
    simp only [planFrontendCycle] at hplanned
    split at hplanned
    · cases hplanned
    · obtain ⟨rest, hrest, rfl⟩ := map_eq_some_iff.1 hplanned
      split at hrest
      · split at hrest
        · cases hrest
        · rename_i command commands
          have hrule : P rest.session := ih
            (fun c hc => hcommands c (mem_cons_of_mem _ hc))
            (hcommands command mem_cons_self s h) hrest
          exact hrule
      · have hrule : P rest.session := ih hcommands h hrest
        exact hrule

/-! ### Forwarding -/

section

variable {P : VirtualSession → Prop} (hP : VirtualSession.IgnoresTransaction P)

include hP

theorem rule_drainWith {backendId : BackendId} {progress : BackendCycleProgress}
    {acc : ForwardCycleState} (frames : List BackendFrame) (h : P acc.session) :
    P (drainWith (ForwardCycleState.onFrame backendId) progress acc frames).acc.session := by
  induction frames generalizing progress acc with
  | nil => exact h
  | cons frame frames ih =>
    rw [drainWith]
    split
    · exact ih h
    · refine ih ?_
      rw [ForwardCycleState.onFrame]
      split
      · exact hP.markFailedTransaction h
      · exact h

variable {maxBuffer : Nat}

theorem rule_relay {shape : FrontendCycleShape} {r : RelayState} (events : List WireEvent)
    (h : P r.state.session) : P (relay shape maxBuffer r events).1.state.session := by
  refine relay_rule (I := fun r => P r.state.session) (Q := fun r _ => P r.state.session)
    (fun r frames rest clientWrite hr => ?_) (fun r buffer result hr _ => hr) h events
  exact ⟨fun _ _ => rule_drainWith hP frames hr, fun _ => rule_drainWith hP frames hr⟩

/-- **The rule of forwarding.** -/
theorem rule_forwardMessageCycle {s : VirtualSession} {prepared : PreparedCatalog} {b : Backend}
    {backendRead : List Byte} {frames : List FrontendMessage} {commands : List SqlCommand}
    {env : ForwardEnv}
    (hcommands : ∀ command ∈ commands, ∀ s, P s → P (updateVirtualSessionFromFrame s command))
    (h : P s) :
    P (forwardMessageCycle maxBuffer s prepared b backendRead frames commands env).session := by
  unfold forwardMessageCycle
  split
  · exact h
  · rename_i planned hplanned
    have hsession := rule_planFrontendCycle hcommands h hplanned
    dsimp only
    split
    · exact hsession
    · exact hsession
    · split
      · exact hsession
      · exact rule_relay hP _ hsession

end

/-! ### The attempt to forward a cycle -/

/-- The session an attempt leaves. -/
def Attempt.session : Attempt → VirtualSession
  | .ended outcome => outcome.state.session
  | .forwarded _ fwd _ _ => fwd.session

theorem session_errorResponseAndReady (st : SessionState) (clientWrite : Bool)
    (status : ReadyStatus) :
    (errorResponseAndReady st clientWrite status).state.session = st.session := by
  cases clientWrite <;> rfl

/-- The session state of a cycle comes from its simple queries. -/
theorem exists_query_of_mem_commands {plans : List RequestPlan} {command : SqlCommand}
    (hplans : requestPlansForFrames prepared frames = some plans)
    (h : command ∈ (plans.filter (·.updatesSessionState)).map (·.command)) :
    ∃ sql, .query sql ∈ frames ∧ Sql.classify sql = some command := by
  induction frames generalizing plans with
  | nil =>
    obtain rfl := some.inj hplans
    cases h
  | cons frame frames ih =>
    rw [requestPlansForFrames] at hplans
    split at hplans
    · rename_i plan rest hplan hrest
      obtain rfl := some.inj hplans
      rw [filter_append, map_append] at h
      rcases mem_append.1 h with h | h
      · obtain ⟨p, hp, rfl⟩ := mem_map.1 h
        obtain ⟨hmem, hupdates⟩ := mem_filter.1 hp
        obtain rfl := mem_toList.1 hmem
        have huse : ∀ statement : Option PreparedStatement,
            statement.map RequestPlan.fromPrepared ≠ some p := by
          intro statement hstatement
          obtain ⟨st, -, rfl⟩ := map_eq_some_iff.1 hstatement
          cases hupdates
        cases frame with
        | query sql =>
          obtain ⟨q, hq, heq⟩ := map_eq_some_iff.1 hplan
          obtain ⟨c, hc, rfl⟩ := map_eq_some_iff.1 hq
          obtain rfl := some.inj heq
          exact ⟨sql, mem_cons_self, hc⟩
        | parse name sql oids =>
          obtain ⟨q, hq, heq⟩ := map_eq_some_iff.1 hplan
          obtain ⟨c, -, rfl⟩ := map_eq_some_iff.1 hq
          obtain rfl := some.inj heq
          cases hupdates
        | bind name => exact absurd (some.inj hplan) (huse _)
        | describe target =>
          cases target with
          | statement name => exact absurd (some.inj hplan) (huse _)
          | _ => cases hplan
        | malformed tag => cases tag <;> cases hplan
        | _ => cases hplan
      · obtain ⟨sql, hsql, hc⟩ := ih hrest h
        exact ⟨sql, mem_cons_of_mem _ hsql, hc⟩
    · cases hplans

section

variable {P : VirtualSession → Prop} (hP : VirtualSession.IgnoresTransaction P)
  {cfg : SessionConfig} {st : SessionState} {b : Backend} {frames : List FrontendMessage}
  {plans : List RequestPlan} {committedWrite : Bool} {env : CycleEnv}

include hP

/-- **The rule of an attempt.** -/
theorem rule_attemptCycle
    (hcommands : ∀ sql, .query sql ∈ frames → ∀ command, Sql.classify sql = some command →
      ∀ s, P s → P (updateVirtualSessionFromFrame s command)) (h : P st.session) :
    P (attemptCycle cfg st frames env).session := by
  have hattempted := attempted_attemptCycle cfg st frames env
  generalize attemptCycle cfg st frames env = a at hattempted
  cases hattempted with
  | rejected => exact h
  | ended hsession =>
    rcases hsession with hsession | ⟨plans, committedWrite, hupdate⟩
    · rw [Attempt.session, hsession]
      exact h
    · exact hP.updateTransactionStateFromRequestPlans h hupdate
  | @ran plans session _ _ _ hplans hupdate _ hruns =>
    have hforward : ∀ {st : SessionState} {b env}, P st.session →
        P (forwardOnce cfg st b frames plans env).session := by
      intro st b env hst
      refine rule_forwardMessageCycle hP (fun command hmem => ?_) hst
      obtain ⟨sql, hsql, hcommand⟩ := exists_query_of_mem_commands hplans hmem
      exact hcommands sql hsql command hcommand
    have hsession : P session := hP.updateTransactionStateFromRequestPlans h hupdate
    cases hruns with
    | replayFails => exact hsession
    | forwarded _ hfwd => exact hfwd ▸ hforward hsession
    | @gaveUp _ _ _ fwd _ hfwd =>
      have hfirst : P fwd.session := hfwd ▸ hforward hsession
      rw [Attempt.session, Outcome.after, session_errorResponseAndReady]
      exact hfirst
    | @retried _ _ _ fwd _ _ _ hfwd _ _ _ hfwd' =>
      have hfirst : P fwd.session := hfwd ▸ hforward hsession
      exact hfwd' ▸ hforward hfirst

end

/-! ### The session when its backend is disposed of -/

section

variable {P : VirtualSession → Prop} (hP : VirtualSession.IgnoresTransaction P)
  {cfg : SessionConfig} {st : SessionState} {b : Backend}

include hP

theorem Outcome.Disposes.rule {o : Outcome} (h : o.Disposes st) (hst : P st.session) :
    P o.state.session := by
  rcases h.session with hsession | hsession
  · rw [hsession]
    exact hst
  · rw [hsession]
    exact hP.endTransaction hst

/-- **The rule of the result.** Where the backend is ready, the session is the one
`finish_ready_backend` makes of it. -/
theorem rule_handleForwardResult {result : ForwardResult} {committedWrite : Bool} {env : CycleEnv}
    (h : ∀ status, result = .ready status ∨ result = .clientDisconnectedAfterReady status →
      P (readySession cfg st.session status committedWrite env.probe))
    (hother : (∀ status, result ≠ .ready status ∧ result ≠ .clientDisconnectedAfterReady status) →
      P st.session) :
    P (handleForwardResult cfg st b result committedWrite env).state.session := by
  have hresult : P (resultSession cfg st.session committedWrite env.probe result) := by
    cases result with
    | ready status => exact h status (.inl rfl)
    | clientDisconnectedAfterReady status => exact h status (.inr rfl)
    | _ => exact hother fun _ => ⟨nofun, nofun⟩
  rcases (handleForwardResult_ends cfg st b result committedWrite env).session with
    hsession | hsession
  · rw [hsession]
    exact hresult
  · rw [hsession]
    exact hP.endTransaction hresult

end

theorem session_close (o : Outcome) : o.close.1.session = o.state.session := by
  rw [Outcome.close]
  split <;> rfl

/-- **The rule of a turn without a cycle.** -/
theorem rule_sessionStep (hP : VirtualSession.IgnoresTransaction P) {cfg : SessionConfig}
    {st st' : SessionState} {input : SessionInput} {es : List SessionEvent} (h : P st.session)
    (hinput : ∀ frames env, input ≠ .frames frames env)
    (hstep : sessionStep cfg st input = some (st', es)) : P st'.session := by
  obtain ⟨-, o, hturned, rfl, -⟩ := turned_of_sessionStep hstep
  rw [session_close]
  cases hturned with
  | frames => exact absurd rfl (hinput _ _)
  | finalized | toldIdle => exact (finalizeHeldBackend_ends cfg st _).disposes.rule hP h
  | clientError | backendClosed | backendAsync => exact h

end PgKinetic
