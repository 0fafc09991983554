import PgKinetic.Proxy.ClientSession

/-!
# What becomes of a backend

Every function of the session loop that disposes of a backend releases it, keeps it for the next
cycle, or gives it up. One relation (`Outcome.Ends`) says so, with what the function has looked at
in each case; the `_ends` lemmas below prove it, one for each function, and what is proved later
about releases, held backends and statuses is read off them. The releases of a whole
`handle_forward_result` are listed in `ResultRelease`, and those of the functions it calls in
`ReadyRelease` and `FinalRelease`.
-/

namespace PgKinetic

open SessionState

/-! ### The ends -/

/-- An event that neither releases a backend nor tells the client anything. -/
def SessionEvent.IsQuiet : SessionEvent → Prop
  | .queried .. | .discarded _ => True
  | _ => False

/-- An event between the proxy and its backends that is no part of a client's cycle. -/
def SessionEvent.IsHidden : SessionEvent → Prop
  | .queried .. | .released _ | .discarded _ => True
  | _ => False

/-- **What every end keeps**: the session up to its transaction, and the read buffer. The client
sees nothing of it. -/
structure Outcome.Disposes (st : SessionState) (o : Outcome) : Prop where
  session : o.state.session = st.session ∨ o.state.session = st.session.endTransaction
  backendRead : o.state.backendRead = st.backendRead
  hidden : ∀ e ∈ o.events, e.IsHidden

/-- **The ends of a function that disposes of a backend**, for a session in state `st`: the backend
is released as `R` says, kept as `K` says, or given up, and then the function returns as `D`
says. -/
inductive Outcome.Ends (st : SessionState) (R : Release → Flow → Prop)
    (K : VirtualSession → Option BackendId → Backend → Flow → Prop) (D : Flow → Prop) :
    Outcome → Prop where
  | released {session : VirtualSession} {path : ReleasePath} {b : Backend} {afterReset : Bool}
    {flow : Flow} {events : List SessionEvent} (hevents : ∀ e ∈ events, e.IsQuiet)
    (hsession : session = st.session ∨ session = st.session.endTransaction)
    (hr : R ⟨path, b, session, afterReset⟩ flow) :
    Outcome.Ends st R K D ⟨{ st with session, pinnedBackend := none },
      events ++ [.released ⟨path, b, session, afterReset⟩], flow⟩
  | kept {session : VirtualSession} {pinnedBackend : Option BackendId} {b : Backend} {flow : Flow}
    {events : List SessionEvent} (hevents : ∀ e ∈ events, e.IsQuiet)
    (hsession : session = st.session ∨ session = st.session.endTransaction)
    (hk : K session pinnedBackend b flow) :
    Outcome.Ends st R K D
      ⟨{ st with session, pinnedBackend, heldBackend := some b }, events, flow⟩
  | givenUp {session : VirtualSession} {pinnedBackend : Option BackendId} {flow : Flow}
    {events : List SessionEvent} (hevents : ∀ e ∈ events, e.IsQuiet)
    (hsession : session = st.session ∨ session = st.session.endTransaction) (hd : D flow) :
    Outcome.Ends st R K D ⟨{ st with session, pinnedBackend }, events, flow⟩

variable {st : SessionState} {b b' : Backend} {trigger : RecoveryTrigger} {mode : RecoveryMode}
  {r : Recovered} {session : VirtualSession} {replies : List BatchReply} {status : ReadyStatus}
  {o : Outcome} {events : List SessionEvent} {e : SessionEvent} {onSuccess : VirtualSession}
  {n : Nat} {flow : Flow} {released : Release} {cfg : SessionConfig}

theorem SessionEvent.IsQuiet.isHidden (h : e.IsQuiet) : e.IsHidden := by
  cases e <;> trivial

theorem isQuiet_queried (messages : List FrontendMessage) :
    ∀ e ∈ [SessionEvent.queried b.id messages], e.IsQuiet := by
  simp [SessionEvent.IsQuiet]

section

variable {R : Release → Flow → Prop} {K : VirtualSession → Option BackendId → Backend → Flow → Prop}
  {D : Flow → Prop}

namespace Outcome.Ends

theorem after (h : o.Ends st R K D) (hevents : ∀ e ∈ events, e.IsQuiet) :
    (o.after events).Ends st R K D := by
  cases h with
  | released hquiet hsession hr =>
    rw [Outcome.after, ← List.append_assoc]
    exact .released (List.forall_mem_append.2 ⟨hevents, hquiet⟩) hsession hr
  | kept hquiet hsession hk =>
    exact .kept (List.forall_mem_append.2 ⟨hevents, hquiet⟩) hsession hk
  | givenUp hquiet hsession hd =>
    exact .givenUp (List.forall_mem_append.2 ⟨hevents, hquiet⟩) hsession hd

theorem discard {pinnedBackend : Option BackendId}
    (hsession : session = st.session ∨ session = st.session.endTransaction) (hd : D flow)
    (b : Backend) :
    (SessionState.discard { st with session, pinnedBackend } b flow).Ends st R K D :=
  .givenUp (by simp [SessionEvent.IsQuiet]) hsession hd

/-- A proxy query that must end `Idle`: `next` follows, or the session fails. -/
theorem executeToIdle {t : SessionState} {reply : BatchReply} {next : Backend → Outcome}
    (hnext : (next { b with status := .idle }).Ends st R K D)
    (hfail : (t.discard b .fail).Ends st R K D) (messages : List FrontendMessage) :
    (Outcome.after [.queried b.id messages] (match executeToIdle b reply with
      | .ok b => next b
      | .error _ => t.discard b .fail)).Ends st R K D := by
  refine after ?_ (isQuiet_queried messages)
  cases hreply : PgKinetic.executeToIdle b reply with
  | ok b' => exact executeToIdle_ok hreply ▸ hnext
  | error e => exact hfail

theorem disposes (h : o.Ends st R K D) : o.Disposes st := by
  have hhidden : ∀ {events : List SessionEvent}, (∀ e ∈ events, e.IsQuiet) →
      ∀ e ∈ events, e.IsHidden := fun hevents e he => (hevents e he).isHidden
  cases h with
  | released hevents hsession =>
    exact ⟨hsession, rfl, List.forall_mem_append.2 ⟨hhidden hevents, by
      simp [SessionEvent.IsHidden]⟩⟩
  | kept hevents hsession | givenUp hevents hsession =>
    exact ⟨hsession, rfl, hhidden hevents⟩

theorem release (h : o.Ends st R K D) (hr : .released released ∈ o.events) :
    ∃ flow, R released flow := by
  cases h with
  | released hevents _ hR =>
    rcases List.mem_append.1 hr with hr | hr
    · exact (hevents _ hr).elim
    · cases List.mem_singleton.1 hr
      exact ⟨_, hR⟩
  | kept hevents | givenUp hevents => exact (hevents _ hr).elim

theorem held (h : o.Ends st R K D) (hheld : st.heldBackend = none)
    (hb : o.state.heldBackend = some b) :
    K o.state.session o.state.pinnedBackend b o.flow := by
  cases h with
  | kept _ _ hk => exact Option.some.inj hb ▸ hk
  | released | givenUp => exact absurd (hheld.symm.trans hb) (by simp)

theorem mono {R' : Release → Flow → Prop} (h : o.Ends st R K D)
    (hR : ∀ released flow, R released flow → R' released flow) : o.Ends st R' K D := by
  cases h with
  | released hevents hsession hr => exact .released hevents hsession (hR _ _ hr)
  | kept hevents hsession hk => exact .kept hevents hsession hk
  | givenUp hevents hsession hd => exact .givenUp hevents hsession hd

/-- The way to return, where it is known for every end. -/
theorem returns {F : Flow → Prop} (h : o.Ends st R K D)
    (hR : ∀ released flow, R released flow → F flow)
    (hK : ∀ session pinnedBackend b flow, K session pinnedBackend b flow → F flow)
    (hD : ∀ flow, D flow → F flow) : F o.flow := by
  cases h with
  | released _ _ hr => exact hR _ _ hr
  | kept _ _ hk => exact hK _ _ _ _ hk
  | givenUp _ _ hd => exact hD _ hd

end Outcome.Ends

end

/-! ### Recovery -/

theorem isQuiet_of_mem_recoveryEvents {needsSync : Bool}
    (h : e ∈ recoveryEvents b trigger mode needsSync) : e.IsQuiet := by
  unfold recoveryEvents at h
  split at h
  · cases h
  · obtain rfl := List.mem_singleton.1 h
    trivial

/-- A recovery that says the backend can be reused has left it `Idle`. -/
theorem recoverWith_reuse (hn : n ≠ 0) (h : recoverWith session onSuccess n b replies = .ok r)
    (hr : r.reuse = true) : r.backend = { b with status := .idle } ∧ r.session = onSuccess := by
  induction n generalizing b replies with
  | zero => exact absurd rfl hn
  | succ n ih =>
    cases replies with
    | nil =>
      cases h
      cases hr
    | cons reply replies =>
      simp only [recoverWith] at h
      cases hreply : executeToIdle b reply with
      | error e =>
        cases e with
        | bufferLimit => simp only [hreply, Except.ok.injEq] at h; subst h; cases hr
        | other => simp [hreply] at h
      | ok b' =>
        simp only [hreply] at h
        have hb' := executeToIdle_ok hreply
        subst hb'
        -- the last batch decides about reuse; the ones before it only have to end idle
        cases n with
        | zero => cases h; exact ⟨rfl, rfl⟩
        | succ n => exact ih (b := { b with status := .idle }) (Nat.succ_ne_zero n) h

theorem recoverBackend_reuse (h : recoverBackend trigger mode session b replies = .ok r)
    (hr : r.reuse = true) :
    recoveryAction trigger mode ≠ .discard ∧ r.backend = { b with status := .idle } ∧
      (r.session = session ∨ r.session = session.applySql .rollback) := by
  unfold recoverBackend at h
  cases haction : recoveryAction trigger mode with
  -- no trigger is answered with doing nothing
  | none => cases mode <;> cases trigger <;> cases haction
  | discard =>
    rw [haction] at h
    cases h
    cases hr
  | rollback =>
    rw [haction] at h
    exact ⟨by simp, (recoverWith_reuse Nat.one_ne_zero h hr).imp_right .inr⟩
  | drainAndSync =>
    rw [haction] at h
    exact ⟨by simp, (recoverWith_reuse Nat.one_ne_zero h hr).imp_right .inl⟩
  | rollbackAndDrain =>
    rw [haction] at h
    exact ⟨by simp, (recoverWith_reuse (Nat.succ_ne_zero 1) h hr).imp_right .inr⟩

theorem recoverWith_session (h : recoverWith session onSuccess n b replies = .ok r) :
    r.session = session ∨ r.session = onSuccess := by
  induction n generalizing b replies with
  | zero =>
    cases h
    exact .inr rfl
  | succ n ih =>
    cases replies with
    | nil =>
      cases h
      exact .inl rfl
    | cons reply replies =>
      unfold recoverWith at h
      split at h
      · exact ih h
      · cases h
        exact .inl rfl
      · cases h

/-- A recovery leaves the session as it was, up to its transaction. -/
theorem recoverBackend_session (h : recoverBackend trigger mode session b replies = .ok r) :
    r.session = session ∨ r.session = session.endTransaction := by
  unfold recoverBackend at h
  split at h
  · cases h
    exact .inl rfl
  · exact recoverWith_session h
  · exact .inl ((recoverWith_session h).elim id id)
  · exact recoverWith_session h
  · cases h
    exact .inl rfl

/-- `recoverThenDispose` releases the backend `Idle`, or gives it up, and the session ends. -/
theorem recoverThenDispose_ends (trigger : RecoveryTrigger) (needsSync : Bool) (path : ReleasePath)
    (env : DisposeEnv) :
    (recoverThenDispose cfg st trigger needsSync path b env).Ends st (fun released flow =>
      flow ≠ .continue ∧ recoveryAction trigger cfg.recoveryMode ≠ .discard ∧
        ∃ session, (session = st.session ∨ session = st.session.endTransaction) ∧
          released = ⟨path, { b with status := .idle }, session, false⟩)
      (fun _ _ _ _ => False) (· ≠ .continue) := by
  refine Outcome.Ends.after ?_ fun _ => isQuiet_of_mem_recoveryEvents
  cases hrec : recoverBackend trigger cfg.recoveryMode st.session b env.recovery with
  | error e => exact .discard (.inl rfl) nofun b
  | ok r =>
    dsimp only
    split
    · rename_i hr
      obtain ⟨haction, hb, hs⟩ := recoverBackend_reuse hrec hr
      rw [hb]
      exact .released (List.forall_mem_nil _) hs ⟨nofun, haction, _, hs, rfl⟩
    · exact .discard (recoverBackend_session hrec) nofun _

/-! ### After a cycle -/

/-- A backend is reused after a cycle only from an unpinned session. -/
theorem pinReason_of_cleanupAction {mode : PoolMode}
    (h : cleanupAction session status mode = .reuse ∨
      cleanupAction session status mode = .resetThenReuse) :
    status = .idle ∧ session.pinReason = none := by
  unfold cleanupAction at h
  split at h
  · simp at h
  · cases status <;> cases mode <;> simp only [reduceCtorEq, or_self] at h
    refine ⟨rfl, ?_⟩
    by_contra hpin
    simp [Option.isSome_iff_ne_none.2 hpin] at h

theorem hasReplayableSettings_of_cleanupAction {mode : PoolMode}
    (h : cleanupAction session status mode = .reuse) : session.hasReplayableSettings = false := by
  unfold cleanupAction at h
  split at h
  · cases h
  · cases status <;> cases mode <;> simp only [reduceCtorEq] at h
    grind

/-- A backend is rolled back after a cycle exactly in a failed transaction. -/
theorem status_of_cleanupAction {mode : PoolMode} :
    (cleanupAction session status mode = .rollbackThenReuse →
      status = .failedTransaction ∧ mode = .transaction) ∧
    (cleanupAction session status mode = .rollbackThenKeepPinned →
      status = .failedTransaction ∧ mode = .session) ∧
    (cleanupAction session status mode = .keepPinned → status ≠ .failedTransaction) := by
  unfold cleanupAction
  split
  · simp
  · cases status <;> cases mode <;> (simp; try grind)

theorem unknownProtocolState_of_cleanupAction {mode : PoolMode}
    (h : cleanupAction session status mode = .discard) : session.unknownProtocolState = true := by
  unfold cleanupAction at h
  split at h
  · rename_i hpin
    by_contra hknown
    simp only [VirtualSession.pinReason, hknown] at hpin
    grind
  · cases status <;> cases mode <;> simp only [reduceCtorEq] at h
    grind

/-- Apart from keeping the backend for its named statements, `finish_ready_backend` follows the
cleanup policy. -/
theorem cleanupAction_of_readyAction {cfg : SessionConfig} {action : CleanupAction}
    (h : readyAction cfg st status = action) (hkeep : action ≠ .keepPinned) :
    cleanupAction st.session status cfg.poolMode = action := by
  unfold readyAction at h
  split at h
  · exact absurd h.symm hkeep
  · exact h

theorem status_of_readyAction_keepPinned {cfg : SessionConfig}
    (h : readyAction cfg st status = .keepPinned) : status ≠ .failedTransaction := by
  unfold readyAction at h
  split at h
  · rename_i hidle
    simp [hidle.1]
  · exact status_of_cleanupAction.2.2 h

theorem readySession_unknownProtocolState (cfg : SessionConfig) (session : VirtualSession)
    (status : ReadyStatus) (committedWrite : Bool) (probe : Option PgLsn) :
    (readySession cfg session status committedWrite probe).unknownProtocolState =
      session.unknownProtocolState := by
  unfold readySession
  split <;> rfl

/-- The releases of `finish_ready_backend`, for the session it decides on. -/
inductive ReadyRelease (cfg : SessionConfig) (session : VirtualSession) (b : Backend)
    (status : ReadyStatus) : Release → Prop where
  | reuse (hidle : status = .idle) (hpin : session.pinReason = none)
    (hset : session.hasReplayableSettings = false) :
    ReadyRelease cfg session b status ⟨.reuse, b, session, false⟩
  | reset (hidle : status = .idle) (hpin : session.pinReason = none) :
    ReadyRelease cfg session b status ⟨.resetThenReuse, { b with status := .idle }, session, true⟩
  | rollback (hfailed : status = .failedTransaction) (hmode : cfg.poolMode = .transaction) :
    ReadyRelease cfg session b status
      ⟨.rollbackThenReuse, { b with status := .idle }, session.endTransaction, false⟩

/-- **The ends of `finish_ready_backend`.** It keeps the backend as it is, or rolled back in session
mode. -/
theorem finishReadyBackend_ends {committedWrite : Bool} {probe : Option PgLsn} {env : DisposeEnv} :
    let session := readySession cfg st.session status committedWrite probe
    (finishReadyBackend cfg st b status committedWrite probe env).Ends { st with session }
      (fun released _ => ReadyRelease cfg session b status released)
      (fun session' pinnedBackend b' _ => pinnedBackend = some b'.id ∧
        ((b' = b ∧ status ≠ .failedTransaction ∧ session' = session) ∨
          (b' = { b with status := .idle } ∧ status = .failedTransaction ∧
            cfg.poolMode = .session ∧ session' = session.endTransaction)))
      (fun flow => flow = .fail ∨ session.unknownProtocolState = true) := by
  intro session
  unfold finishReadyBackend
  dsimp only
  -- what is done depends on the action alone; each action says what session it was chosen for
  cases haction : readyAction cfg { st with session } status with
  | reuse =>
    have hclean := cleanupAction_of_readyAction haction (by simp)
    obtain ⟨hidle, hpin⟩ := pinReason_of_cleanupAction (.inl hclean)
    exact .released (List.forall_mem_nil _) (.inl rfl)
      (.reuse hidle hpin (hasReplayableSettings_of_cleanupAction hclean))
  | resetThenReuse =>
    have hclean := cleanupAction_of_readyAction haction (by simp)
    obtain ⟨hidle, hpin⟩ := pinReason_of_cleanupAction (.inr hclean)
    exact .executeToIdle (.released (List.forall_mem_nil _) (.inl rfl) (.reset hidle hpin))
      (.discard (.inl rfl) (.inl rfl) b) _
  | keepPinned =>
    exact .kept (List.forall_mem_nil _) (.inl rfl)
      ⟨rfl, .inl ⟨rfl, status_of_readyAction_keepPinned haction, rfl⟩⟩
  | rollbackThenReuse =>
    have hclean := cleanupAction_of_readyAction haction (by simp)
    obtain ⟨hfailed, hmode⟩ := status_of_cleanupAction.1 hclean
    exact .executeToIdle (.released (List.forall_mem_nil _) (.inr rfl) (.rollback hfailed hmode))
      (.discard (.inl rfl) (.inl rfl) b) _
  | rollbackThenKeepPinned =>
    have hclean := cleanupAction_of_readyAction haction (by simp)
    obtain ⟨hfailed, hmode⟩ := status_of_cleanupAction.2.1 hclean
    exact .executeToIdle
      (.kept (List.forall_mem_nil _) (.inr rfl) ⟨rfl, .inr ⟨rfl, hfailed, hmode, rfl⟩⟩)
      (.discard (.inl rfl) (.inl rfl) b) _
  | discard =>
    have hclean := cleanupAction_of_readyAction haction (by simp)
    exact .discard (.inl rfl) (.inr (unknownProtocolState_of_cleanupAction hclean)) b

/-! ### When the client leaves, and after a timeout -/

/-- The releases of `finalize_backend_on_disconnect`. -/
inductive FinalRelease (cfg : SessionConfig) (session : VirtualSession) (b : Backend) :
    Release → Prop where
  | recovered {session' : VirtualSession} (htx : pinnedByTransaction session = true)
    (hmode : cfg.recoveryMode ≠ .drop)
    (hsession : session' = session ∨ session' = session.endTransaction) :
    FinalRelease cfg session b ⟨.recoveredOnDisconnect, { b with status := .idle }, session', false⟩
  | reset (hpin : session.pinReason = none) :
    FinalRelease cfg session b ⟨.unpinnedOnDisconnect, { b with status := .idle }, session, true⟩
  | unpinned (hpin : session.pinReason = none) (hset : session.hasReplayableSettings = false) :
    FinalRelease cfg session b ⟨.unpinnedOnDisconnect, b, session, false⟩

/-- **The ends of `finalize_held_backend_on_disconnect`**: the session holds nothing then and does
not go on. -/
theorem finalizeHeldBackend_ends (cfg : SessionConfig) (st : SessionState) (env : DisposeEnv) :
    (finalizeHeldBackend cfg st env).Ends { st with heldBackend := none }
      (fun released flow => flow ≠ .continue ∧
        ∃ b, st.heldBackend = some b ∧ FinalRelease cfg st.session b released)
      (fun _ _ _ _ => False) (· ≠ .continue) := by
  unfold finalizeHeldBackend
  split
  · rename_i hnone
    rw [← hnone]
    exact .givenUp (List.forall_mem_nil _) (.inl rfl) nofun
  · rename_i b hb
    unfold finalizeBackendOnDisconnect
    split
    · rename_i htx
      have hends := @recoverThenDispose_ends { st with heldBackend := none } b cfg
        .abandonedTransaction false .recoveredOnDisconnect env
      refine hends.mono ?_
      rintro released flow ⟨hflow, haction, session, hsession, rfl⟩
      refine ⟨hflow, b, hb, .recovered htx (fun hdrop => haction ?_) hsession⟩
      rw [hdrop]
      rfl
    -- no transaction is open: a session with another pin is not worth its backend
    · split
      · exact .discard (.inl rfl) nofun b
      · rename_i hpin
        rw [Option.not_isSome_iff_eq_none] at hpin
        split
        · exact .executeToIdle
            (.released (List.forall_mem_nil _) (.inl rfl) ⟨nofun, b, hb, .reset hpin⟩)
            (.discard (.inl rfl) nofun b) _
        · rename_i hset
          exact .released (List.forall_mem_nil _) (.inl rfl)
            ⟨nofun, b, hb, .unpinned hpin (Bool.eq_false_iff.2 hset)⟩

/-- A session whose client has left holds nothing and does not go on. -/
theorem finalizeHeldBackend_done (cfg : SessionConfig) (st : SessionState) (env : DisposeEnv) :
    (finalizeHeldBackend cfg st env).state.heldBackend = none ∧
      (finalizeHeldBackend cfg st env).flow ≠ .continue := by
  have hends := finalizeHeldBackend_ends cfg st env
  refine ⟨Option.eq_none_iff_forall_ne_some.2 fun b hb => hends.held rfl hb, ?_⟩
  exact hends.returns (fun _ _ h => h.1) (fun _ _ _ _ h => h.elim) fun _ h => h

theorem flow_errorResponseAndReady (st : SessionState) (clientWrite : Bool)
    (status : ReadyStatus) : (errorResponseAndReady st clientWrite status).flow ≠ .continue := by
  cases clientWrite <;> nofun

/-- The releases of `handle_forward_result`, for the session that forwarding has left. -/
inductive ResultRelease (cfg : SessionConfig) (session : VirtualSession) (b : Backend) :
    ForwardResult → Release → Prop where
  | ready {status : ReadyStatus} {committedWrite : Bool} {probe : Option PgLsn} {r : Release}
    (h : ReadyRelease cfg (readySession cfg session status committedWrite probe) b status r) :
    ResultRelease cfg session b (.ready status) r
  | leaving {status : ReadyStatus} {committedWrite : Bool} {probe : Option PgLsn} {r : Release}
    (h : ReadyRelease cfg (readySession cfg session status committedWrite probe) b status r) :
    ResultRelease cfg session b (.clientDisconnectedAfterReady status) r
  | left {status : ReadyStatus} {committedWrite : Bool} {probe : Option PgLsn} {r : Release}
    (hstatus : status ≠ .failedTransaction)
    (h : FinalRelease cfg (readySession cfg session status committedWrite probe) b r) :
    ResultRelease cfg session b (.clientDisconnectedAfterReady status) r
  | leftRolledBack {committedWrite : Bool} {probe : Option PgLsn} {r : Release}
    (h : FinalRelease cfg (readySession cfg session .failedTransaction committedWrite
      probe).endTransaction { b with status := .idle } r) :
    ResultRelease cfg session b (.clientDisconnectedAfterReady .failedTransaction) r
  | abandoned {needsSync : Bool} {session' : VirtualSession} (hmode : cfg.recoveryMode = .recover)
    (hsession : session' = session ∨ session' = session.endTransaction) :
    ResultRelease cfg session b (.abandonedResponse needsSync)
      ⟨.abandonedResponse, { b with status := .idle }, session', false⟩
  | timedOut {responseStarted : Bool} {session' : VirtualSession}
    (haction : recoveryAction (timeoutTrigger session) cfg.recoveryMode ≠ .discard)
    (hmode : cfg.poolMode = .transaction)
    (hsession : session' = session ∨ session' = session.endTransaction) :
    ResultRelease cfg session b (.timedOut responseStarted)
      ⟨.queryTimeout, { b with status := .idle }, session', false⟩

/-- The backends `handle_forward_result` keeps for the next cycle. -/
inductive ResultHeld (cfg : SessionConfig) (b : Backend) : ForwardResult → Backend → Prop where
  | ready {status : ReadyStatus} (hstatus : status ≠ .failedTransaction) :
    ResultHeld cfg b (.ready status) b
  | rolledBack (hmode : cfg.poolMode = .session) :
    ResultHeld cfg b (.ready .failedTransaction) { b with status := .idle }
  | flushed : ResultHeld cfg b .flushed b
  | timedOut {responseStarted : Bool} (hmode : cfg.poolMode = .session) :
    ResultHeld cfg b (.timedOut responseStarted) { b with status := .idle }

theorem ResultHeld.id {cfg : SessionConfig} {b b' : Backend} {result : ForwardResult}
    (h : ResultHeld cfg b result b') : b'.id = b.id := by
  cases h <;> rfl

/-- **The ends of `handle_query_timeout`**, once the client has been told. -/
theorem disposeAfterTimeout_ends (responseStarted : Bool) (env : DisposeEnv) (flow : Flow) :
    (disposeAfterTimeout cfg st b env flow).Ends st
      (fun released flow' =>
        flow' = flow ∧ ResultRelease cfg st.session b (.timedOut responseStarted) released)
      (fun _ _ b' flow' => flow' = flow ∧ ResultHeld cfg b (.timedOut responseStarted) b')
      (· = flow) := by
  refine Outcome.Ends.after ?_ fun _ => isQuiet_of_mem_recoveryEvents
  cases hrec : recoverBackend (timeoutTrigger st.session) cfg.recoveryMode st.session b
      env.recovery with
  | error e => exact .discard (.inl rfl) (by rfl) b
  | ok r =>
    have hsession := recoverBackend_session hrec
    dsimp only
    split
    · exact .discard hsession (by rfl) _
    · rename_i hreuse
      obtain ⟨haction, hb, -⟩ := recoverBackend_reuse hrec (by simpa using hreuse)
      rw [hb]
      -- a recovered backend goes back to the pool, or stays with the session in session mode
      cases hmode : cfg.poolMode with
      | session => exact .kept (List.forall_mem_nil _) hsession ⟨rfl, .timedOut hmode⟩
      | transaction =>
        exact .released (List.forall_mem_nil _) hsession ⟨rfl, .timedOut haction hmode hsession⟩

/-! ### The result of a cycle -/

/-- The session a result is handled with: where the backend is ready, the one
`finish_ready_backend` makes of it. -/
def resultSession (cfg : SessionConfig) (session : VirtualSession) (committedWrite : Bool)
    (probe : Option PgLsn) : ForwardResult → VirtualSession
  | .ready status | .clientDisconnectedAfterReady status =>
    readySession cfg session status committedWrite probe
  | _ => session

/-- **What becomes of a cycle with a result**: what `handle_forward_result` releases and holds, the
results after which a session goes on, and what is kept. The client may be told a status. -/
structure ResultEnds (cfg : SessionConfig) (st : SessionState) (b : Backend)
    (result : ForwardResult) (session : VirtualSession) (o : Outcome) : Prop where
  session : o.state.session = session ∨ o.state.session = session.endTransaction
  backendRead : o.state.backendRead = st.backendRead
  events : ∀ e ∈ o.events, e.IsHidden ∨ ∃ status, e = .sentReady status
  release : st.heldBackend = none → ∀ released, .released released ∈ o.events →
    ResultRelease cfg st.session b result released
  continues : o.flow = .continue →
    ((∃ status, result = .ready status) ∨ result = .flushed ∨ result = .timedOut false) ∧
      (st.heldBackend = none → ∀ b', o.state.heldBackend = some b' → ResultHeld cfg b result b')

namespace ResultEnds

variable {result : ForwardResult}

theorem of_ends {st₁ : SessionState} {R : Release → Flow → Prop}
    {K : VirtualSession → Option BackendId → Backend → Flow → Prop} {D : Flow → Prop}
    (h : o.Ends st₁ R K D) (hsession : st₁.session = session)
    (hread : st₁.backendRead = st.backendRead) (hheld : st₁.heldBackend = st.heldBackend)
    (hR : ∀ released flow, R released flow → ResultRelease cfg st.session b result released)
    (hcontinues : o.flow = .continue →
      ((∃ status, result = .ready status) ∨ result = .flushed ∨ result = .timedOut false) ∧
        ∀ session pinnedBackend b', K session pinnedBackend b' .continue →
          ResultHeld cfg b result b') : ResultEnds cfg st b result session o where
  session := hsession ▸ h.disposes.session
  backendRead := h.disposes.backendRead.trans hread
  events e he := .inl (h.disposes.hidden e he)
  release _ released hr := (h.release hr).elim (hR released)
  continues hflow := by
    refine (hcontinues hflow).imp_right fun hK hnone b' hb => ?_
    have hk := h.held (hheld.trans hnone) hb
    rw [hflow] at hk
    exact hK _ _ _ hk

theorem discard (hflow : flow ≠ .continue) :
    ResultEnds cfg st b result st.session (st.discard b flow) where
  session := .inl rfl
  backendRead := rfl
  events := by simp [SessionState.discard, SessionEvent.IsHidden]
  release := by simp [SessionState.discard]
  continues h := absurd h hflow

/-- The client is told a status before. -/
theorem after (h : ResultEnds cfg st b result session o)
    (hevents : ∀ e ∈ events, ∃ status, e = .sentReady status) :
    ResultEnds cfg st b result session (o.after events) where
  session := h.session
  backendRead := h.backendRead
  events := List.forall_mem_append.2 ⟨fun e he => .inr (hevents e he), h.events⟩
  release hnone released hr := by
    rcases List.mem_append.1 hr with hr | hr
    · cases (hevents _ hr).choose_spec
    · exact h.release hnone released hr
  continues := h.continues

/-- A client that has left once its cycle is answered: the backend may have been kept for it. -/
theorem left {committedWrite : Bool} {probe : Option PgLsn} {env finalize : DisposeEnv} :
    let finished := finishReadyBackend cfg st b status committedWrite probe env
    ResultEnds cfg st b (.clientDisconnectedAfterReady status)
      (readySession cfg st.session status committedWrite probe)
      ((finalizeHeldBackend cfg finished.state finalize).after finished.events) := by
  intro finished
  have hends : finished.Ends _ _ _ _ := finishReadyBackend_ends
  have hfinal := finalizeHeldBackend_ends cfg finished.state finalize
  refine ⟨?_, hfinal.disposes.backendRead.trans hends.disposes.backendRead, ?_, ?_, fun hflow =>
    absurd hflow (finalizeHeldBackend_done cfg finished.state finalize).2⟩
  · rcases hfinal.disposes.session with h | h <;>
      rcases hends.disposes.session with h' | h' <;> rw [Outcome.after, h, h']
    · exact .inl rfl
    · exact .inr rfl
    · exact .inr rfl
    · exact .inr rfl
  · refine List.forall_mem_append.2 ⟨fun e he => .inl ?_, fun e he => .inl ?_⟩
    · exact hends.disposes.hidden e he
    · exact hfinal.disposes.hidden e he
  · intro hnone released hr
    rcases List.mem_append.1 hr with hr | hr
    · obtain ⟨-, hready⟩ := hends.release hr
      exact .leaving hready
    · obtain ⟨-, -, b', hb', hreleased⟩ := hfinal.release hr
      obtain ⟨-, ⟨rfl, hstatus, hsession⟩ | ⟨rfl, rfl, -, hsession⟩⟩ := hends.held hnone hb'
      · rw [hsession] at hreleased
        exact .left hstatus hreleased
      · rw [hsession] at hreleased
        exact .leftRolledBack hreleased

end ResultEnds

/-- **The ends of `handle_forward_result`.** -/
theorem handleForwardResult_ends (cfg : SessionConfig) (st : SessionState) (b : Backend)
    (result : ForwardResult) (committedWrite : Bool) (env : CycleEnv) :
    ResultEnds cfg st b result (resultSession cfg st.session committedWrite env.probe result)
      (handleForwardResult cfg st b result committedWrite env) := by
  unfold handleForwardResult
  cases result with
  | ready status =>
    refine .of_ends finishReadyBackend_ends rfl rfl rfl (fun _ _ => .ready) fun _ =>
      ⟨.inl ⟨_, rfl⟩, ?_⟩
    rintro _ _ _ ⟨-, ⟨rfl, hstatus, -⟩ | ⟨rfl, rfl, hmode, -⟩⟩
    · exact .ready hstatus
    · exact .rolledBack hmode
  | clientDisconnectedAfterReady status =>
    dsimp only
    split
    · rename_i hfail
      refine .of_ends finishReadyBackend_ends rfl rfl rfl (fun _ _ => .leaving) fun hflow => ?_
      cases hfail.symm.trans hflow
    · exact .left
  | flushed =>
    refine ⟨.inl rfl, rfl, by simp [hold], by simp [hold], fun _ => ⟨.inr (.inl rfl), ?_⟩⟩
    rintro - b' hb
    cases hb
    exact .flushed
  | abandonedResponse needsSync =>
    have hends := @recoverThenDispose_ends st b cfg .abandonedResponse needsSync .abandonedResponse
      env.dispose
    refine .of_ends hends rfl rfl rfl ?_ fun hflow => absurd hflow ?_
    · rintro _ _ ⟨-, haction, session, hsession, rfl⟩
      -- only the mode `recover` drains a response that nobody waits for
      refine .abandoned ?_ hsession
      cases hmode : cfg.recoveryMode with
      | recover => rfl
      | rollbackOnly | drop => exact absurd (by rw [hmode]; rfl) haction
    · exact hends.returns (fun _ _ h => h.1) (fun _ _ _ _ h => h.elim) fun _ h => h
  | bufferLimitExceeded | error => exact .discard nofun
  | timedOut responseStarted =>
    dsimp only [handleQueryTimeout]
    split
    · have hends := @disposeAfterTimeout_ends st b cfg responseStarted env.dispose .finish
      refine .of_ends hends rfl rfl rfl (fun _ _ h => h.2) fun hflow => ?_
      have hfinish := hends.returns (F := (· = .finish)) (fun _ _ h => h.1) (fun _ _ _ _ h => h.1)
        fun _ h => h
      cases hfinish.symm.trans hflow
    · rename_i hstarted
      split
      · exact .discard nofun
      · refine .after ?_ (by simp)
        have hends := @disposeAfterTimeout_ends { st with waitForClientActivity := true } b cfg
          responseStarted env.dispose .continue
        refine .of_ends hends rfl rfl rfl (fun _ _ h => h.2) fun _ => ⟨?_, fun _ _ _ h => h.2⟩
        rw [Bool.eq_false_iff.2 hstarted]
        exact .inr (.inr rfl)
  | backendFailure kind responseStarted =>
    dsimp only
    split
    · exact .discard nofun
    · refine .after (.discard (flow_errorResponseAndReady _ _ _)) fun e he => ?_
      cases hwrite : env.clientWrite <;> simp [errorResponseAndReady, hwrite] at he
      exact ⟨_, he⟩

end PgKinetic
