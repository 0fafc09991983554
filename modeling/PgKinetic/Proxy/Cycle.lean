import PgKinetic.Proxy.Dispose

/-!
# Up to the result of a cycle

The first half of a turn of the loop, from the client's frames to the result of forwarding,
releases no backend: whatever ends there ends the session, except the rejection by a guardrail,
which leaves everything as it was. The statuses of the relay: where forwarding ends with a ready
status, that status is the last one the backend has reported and, if the client is still there,
the last one it was sent.
-/

namespace PgKinetic

open RelayState List

/-! ### The statuses of a relay -/

/-- The ready status of a drained read is the last one among the frames to forward. -/
theorem drainWith_ready {σ : Type} (onFrame : σ → BackendFrame → σ)
    (progress : BackendCycleProgress) (acc : σ) (frames : List BackendFrame) :
    (drainWith onFrame progress acc frames).ready =
      ((drainWith onFrame progress acc frames).forwarded.filterMap
        BackendFrame.readyStatus).getLast? := by
  induction frames generalizing progress acc with
  | nil => rfl
  | cons frame frames ih =>
    unfold drainWith
    split
    · exact ih _ _
    · simp only [filterMap_cons, ih]
      cases hstatus : frame.readyStatus with
      | none => simp
      | some status =>
        cases hlast : ((drainWith onFrame (progress.forward frame) (onFrame acc frame)
          frames).forwarded.filterMap BackendFrame.readyStatus).getLast? with
        | none => simp [getLast?_eq_none_iff.1 hlast]
        | some last => simp [getLast?_cons, hlast]

variable {r : RelayState} {d : Drained ForwardCycleState} {shape : FrontendCycleShape}
  {clientWrite : WriteOutcome}

variable {status : ReadyStatus} {progress : BackendCycleProgress} {acc : ForwardCycleState}
  {frames : List BackendFrame} {rest : List Byte} {maxBuffer : Nat}

/-- One read of the relay that ends the cycle with a ready status. -/
theorem RelayState.resultAfterRead_ready
    (h : r.resultAfterRead shape d clientWrite = some (.ready status)) :
    d.ready = some status ∧ (d.forwarded.isEmpty = false → clientWrite = .done) := by
  unfold resultAfterRead at h
  split at h
  · simp at h
  · split at h
    · split at h <;> simp at h
    · split at h
      · rename_i hready
        obtain rfl : _ = status := by simpa using h
        refine ⟨Drained.ready_of_cycleReady hready, fun hne => ?_⟩
        cases clientWrite <;> simp_all
      · split at h <;> simp at h

theorem RelayState.resultAfterRead_disconnected
    (h : r.resultAfterRead shape d clientWrite = some (.clientDisconnectedAfterReady status)) :
    d.ready = some status := by
  unfold resultAfterRead at h
  split at h
  · simp at h
  · split at h
    · split at h
      · rename_i hready
        obtain rfl : _ = status := by simpa using h
        exact Drained.ready_of_cycleReady hready
      · simp at h
    · split at h
      · simp at h
      · split at h <;> simp at h

/-- What is known of the last status `last` a backend has reported and of the statuses sent to
the client by the way forwarding ends. -/
def ReadyEnd (last : ReadyStatus) (sent : List ReadyStatus) : ForwardResult → Prop
  | .ready status => last = status ∧ sent.getLast? = some status
  | .clientDisconnectedAfterReady status => last = status
  | _ => True

theorem readyEnd_afterRead {result : ForwardResult} :
    let d := drainWith (ForwardCycleState.onFrame r.backend.id) progress acc frames
    let r' := r.afterRead d rest clientWrite
    r'.resultAfterRead shape d clientWrite = some result →
      ReadyEnd r'.backend.status r'.sent result := by
  intro d r' h
  cases result with
  | ready status =>
    obtain ⟨hready, hdone⟩ := resultAfterRead_ready h
    have hlast : (d.forwarded.filterMap BackendFrame.readyStatus).getLast? = some status := by
      rw [← hready]; exact (drainWith_ready _ _ _ _).symm
    -- the frames are not empty, as the last of them carries the status
    have hwrite : clientWrite = .done := by
      refine hdone ?_
      by_contra hempty
      simp_all
    refine ⟨by simp [r', afterRead, hready], ?_⟩
    simp [r', afterRead, hwrite, getLast?_append, hlast]
  | clientDisconnectedAfterReady status =>
    have hready := resultAfterRead_disconnected h
    simp [ReadyEnd, r', afterRead, hready]
  | _ => trivial

/-- The results with which a read completes a cycle. -/
def ForwardResult.Completes : ForwardResult → Prop
  | .ready _ | .clientDisconnectedAfterReady _ | .flushed => True
  | _ => False

/-- **The rule of the relay loop.** To show `Q` of the end of a relay, give an invariant `I` of
the states between reads and show that a read keeps it or ends with `Q`, and that `Q` holds
where the relay is broken off. -/
theorem relay_rule {I : RelayState → Prop} {Q : RelayState → ForwardResult → Prop}
    (hread : ∀ r frames rest clientWrite, I r →
      let d := drainWith (ForwardCycleState.onFrame r.backend.id) r.progress r.state frames
      let r' := r.afterRead d rest clientWrite
      (∀ result, r'.resultAfterRead shape d clientWrite = some result → Q r' result) ∧
        (r'.resultAfterRead shape d clientWrite = none → I r'))
    (hbroken : ∀ r buffer result, I r → ¬ result.Completes → Q { r with backendRead := buffer }
      result) (hr : I r) (events : List WireEvent) :
    Q (relay shape maxBuffer r events).1 (relay shape maxBuffer r events).2 := by
  have hbroken' : ∀ r result, I r → ¬ result.Completes → Q r result :=
    fun r result => hbroken r r.backendRead result
  -- the list of events bounds the loop, and where it ends the query timeout strikes
  induction events generalizing r with
  | nil => exact hbroken' r _ hr id
  | cons event events ih =>
    unfold relay
    split
    · exact hbroken' r _ hr id
    · cases event with
      | backendReadError => exact hbroken' r _ hr id
      | clientCopyRead backendWrite =>
        dsimp only
        split
        · exact ih hr
        · cases backendWrite with
          | done => exact ih hr
          | failed | stalled => exact hbroken' r _ hr id
      | clientCopyReadError | clientClosed =>
        dsimp only
        split
        · exact hbroken' r _ hr id
        · exact ih hr
      | backendRead bytes clientWrite =>
        dsimp only
        split
        · exact hbroken' r _ hr id
        · split
          · exact hbroken r _ _ hr id
          · split
            · exact hbroken' r _ hr id
            · rename_i frames rest _
              -- whole frames have been cut off the buffer: the only way to go on reading
              obtain ⟨hend, hnext⟩ := hread r frames rest clientWrite hr
              split
              · rename_i hresult
                exact hend _ hresult
              · rename_i hresult
                exact ih (hnext hresult)

theorem readyEnd_relay (shape : FrontendCycleShape) (maxBuffer : Nat) (r : RelayState)
    (events : List WireEvent) :
    let ended := relay shape maxBuffer r events
    ReadyEnd ended.1.backend.status ended.1.sent ended.2 := by
  refine relay_rule (I := fun _ => True) (Q := fun r result => ReadyEnd r.backend.status r.sent
    result) (fun r frames rest clientWrite _ => ?_) (fun r buffer result _ h => ?_) trivial events
  · exact ⟨fun result => readyEnd_afterRead, fun _ => trivial⟩
  · cases result <;> trivial

/-- A read that ends a cycle without ReadyForQuery has brought no ready status. -/
theorem RelayState.resultAfterRead_flushed
    (h : r.resultAfterRead shape d clientWrite = some .flushed) :
    shape.expectsReady = false ∧ d.cycleReady shape = none := by
  unfold resultAfterRead at h
  split at h
  · simp at h
  · split at h
    · split at h <;> simp at h
    · split at h
      · simp at h
      · split at h
        · simp_all
        · simp at h

theorem RelayState.resultAfterRead_none (h : r.resultAfterRead shape d clientWrite = none) :
    d.cycleReady shape = none := by
  unfold resultAfterRead at h
  split at h
  · simp at h
  · split at h
    · split at h <;> simp at h
    · split at h
      · simp at h
      · assumption

/-- While no ReadyForQuery is expected, a read without one leaves the last status and what the
client was sent alone. -/
theorem RelayState.afterRead_of_not_ready (hshape : shape.expectsReady = false) :
    let d := drainWith (ForwardCycleState.onFrame r.backend.id) progress acc frames
    d.cycleReady shape = none →
      (r.afterRead d rest clientWrite).backend = r.backend ∧
        (r.afterRead d rest clientWrite).sent = r.sent := by
  intro d h
  have hcount : shape.expectedReadyCount = 0 := by
    simpa [FrontendCycleShape.expectsReady] using hshape
  have hready : d.ready = none := by simpa [Drained.cycleReady, hcount] using h
  have hnone : d.forwarded.filterMap BackendFrame.readyStatus = [] := by
    rw [← getLast?_eq_none_iff, ← hready]
    exact (drainWith_ready _ _ _ _).symm
  simp [afterRead, hready, hnone]

/-- A relay that ends with the last reply to a `Flush` cycle has left the last status and what
the client was sent alone. -/
theorem relay_flushed {events : List WireEvent} (h : (relay shape maxBuffer r events).2 = .flushed)
    :
    (relay shape maxBuffer r events).1.backend = r.backend ∧
      (relay shape maxBuffer r events).1.sent = r.sent := by
  refine relay_rule (I := fun r' => shape.expectsReady = false → r'.backend = r.backend ∧
    r'.sent = r.sent) (Q := fun r' result => result = .flushed → r'.backend = r.backend ∧
    r'.sent = r.sent) (fun r' frames rest clientWrite hr' => ⟨?_, ?_⟩) ?_ (fun _ => ⟨rfl, rfl⟩)
    events h
  · rintro result hresult rfl
    obtain ⟨hshape, hready⟩ := resultAfterRead_flushed hresult
    obtain ⟨hb, hs⟩ := afterRead_of_not_ready hshape hready
    exact ⟨hb.trans (hr' hshape).1, hs.trans (hr' hshape).2⟩
  · intro hresult hshape
    obtain ⟨hb, hs⟩ := afterRead_of_not_ready hshape
      (resultAfterRead_none hresult)
    exact ⟨hb.trans (hr' hshape).1, hs.trans (hr' hshape).2⟩
  · rintro r' buffer result - h rfl
    exact (h trivial).elim

theorem relay_backend_id (shape : FrontendCycleShape) (maxBuffer : Nat) (r : RelayState)
    (events : List WireEvent) : (relay shape maxBuffer r events).1.backend.id = r.backend.id := by
  refine relay_rule (I := fun r' => r'.backend.id = r.backend.id) (Q := fun r' _ =>
    r'.backend.id = r.backend.id) (fun r' frames rest clientWrite hr' => ?_)
    (fun r' buffer result hr' _ => hr') rfl events
  exact ⟨fun _ _ => hr', fun _ => hr'⟩

/-- What is known of an attempt to forward a cycle to the backend `b`. **Where it ends with a
ready status, the backend has last reported that status**, and a client that is still there has
last been sent it; where it ends without ReadyForQuery, the last status of the backend is as
before and the client was sent none. -/
structure Forwarded.From (fwd : Forwarded) (b : Backend) : Prop where
  id : fwd.backend.id = b.id
  ready : ReadyEnd fwd.backend.status fwd.sent fwd.result
  flushed : fwd.result = .flushed → fwd.backend = b ∧ fwd.sent = []

theorem forwardMessageCycle_from (maxBuffer : Nat) (session : VirtualSession)
    (prepared : PreparedCatalog) (b : Backend) (backendRead : List Byte)
    (frames : List FrontendMessage) (commands : List SqlCommand) (env : ForwardEnv) :
    (forwardMessageCycle maxBuffer session prepared b backendRead frames commands env).From b := by
  unfold forwardMessageCycle
  split
  · exact ⟨rfl, trivial, fun h => by cases h⟩
  · dsimp only
    split
    · exact ⟨rfl, trivial, fun h => by cases h⟩
    · exact ⟨rfl, trivial, fun h => by cases h⟩
    · split
      · exact ⟨rfl, trivial, fun _ => ⟨rfl, rfl⟩⟩
      · exact ⟨relay_backend_id _ _ _ _, readyEnd_relay _ _ _ _, relay_flushed⟩

/-! ### No release before the result -/

/-- No event of the list hands a backend back. -/
def NoRelease (events : List SessionEvent) : Prop := ∀ r, .released r ∉ events

theorem NoRelease.append {es₁ es₂ : List SessionEvent} (h₁ : NoRelease es₁) (h₂ : NoRelease es₂) :
    NoRelease (es₁ ++ es₂) := by
  intro r hr
  rcases mem_append.1 hr with hr | hr
  · exact h₁ r hr
  · exact h₂ r hr

theorem noRelease_of_isQuiet {events : List SessionEvent} (h : ∀ e ∈ events, e.IsQuiet) :
    NoRelease events := fun _ hr => h _ hr

theorem Forwarded.noRelease_events (fwd : Forwarded) (b : Backend) : NoRelease (fwd.events b) := by
  intro r hr
  simp [Forwarded.events] at hr

theorem noRelease_errorResponseAndReady (st : SessionState) (clientWrite : Bool)
    (status : ReadyStatus) : NoRelease (errorResponseAndReady st clientWrite status).events := by
  cases clientWrite <;> simp [NoRelease, errorResponseAndReady]

/-- What an attempt leads to for a session that holds `held`: a session that is over, or a
result to handle, with no backend held, for a backend that was held or last reported `Idle`. -/
inductive Attempt.Quiet (held : Option Backend) : Attempt → Prop where
  | ended {o : Outcome} (hevents : NoRelease o.events) (hflow : o.flow ≠ .continue) :
    Attempt.Quiet held (.ended o)
  | forwarded {st : SessionState} {fwd : Forwarded} {committedWrite : Bool}
    {events : List SessionEvent} {b : Backend} (hevents : NoRelease events)
    (hheld : st.heldBackend = none) (hfrom : fwd.From b)
    (hstart : b.status = .idle ∨ held = some b) :
    Attempt.Quiet held (.forwarded st fwd committedWrite events)

/-! ### What an attempt comes to -/

/-- How `b` is made ready for a cycle: it is as it was, or `Idle` once the session's settings
have been replayed on it. -/
inductive Prepares (st : SessionState) (b : Backend) : List SessionEvent → Backend → Prop where
  | asIs : Prepares st b [] b
  | replayed (hreplay : shouldReplaySession st.session st.pinnedBackend b.id = true) :
    Prepares st b [.queried b.id (replayFrames st.session)] { b with status := .idle }

section

variable (cfg : SessionConfig) (frames : List FrontendMessage) (env : CycleEnv)

/-- What `runCycle` comes to on the backend `b`: the replay fails, there is a result, or the
backend has failed and the retry fails too or has a result from a replacement. -/
inductive Runs (plans : List RequestPlan) (committedWrite : Bool) (st : SessionState)
    (b : Backend) : Attempt → Prop where
  | replayFails : Runs plans committedWrite st b
      (.ended ((st.discard b .fail).after [.queried b.id (replayFrames st.session)]))
  | forwarded {before : List SessionEvent} {b' : Backend} {fwd : Forwarded}
    (hb : Prepares st b before b') (hfwd : fwd = forwardOnce cfg st b' frames plans env.forward) :
    Runs plans committedWrite st b (.forwarded st fwd committedWrite (before ++ fwd.events b'))
  | gaveUp {before quiet : List SessionEvent} {b' : Backend} {fwd : Forwarded}
    (hb : Prepares st b before b') (hfwd : fwd = forwardOnce cfg st b' frames plans env.forward)
    (hquiet : ∀ e ∈ quiet, e.IsQuiet) :
    Runs plans committedWrite st b
      (.ended ((errorResponseAndReady (st.afterForward fwd) env.clientWrite .idle).after
        (before ++ fwd.events b' ++ .discarded b'.id :: quiet)))
  | retried {before quiet : List SessionEvent} {b' : Backend} {fwd fwd' : Forwarded}
    {id : BackendId} (hb : Prepares st b before b')
    (hfwd : fwd = forwardOnce cfg st b' frames plans env.forward)
    (hretry : retriesOnFailure cfg frames plans fwd = true) (hquiet : ∀ e ∈ quiet, e.IsQuiet)
    (hid : env.reconnect = some id)
    (hfwd' : fwd' = forwardOnce cfg (st.afterForward fwd) ⟨id, .idle⟩ frames plans
      env.retryForward) :
    Runs plans committedWrite st b (.forwarded (st.afterForward fwd) fwd' committedWrite
      (before ++ fwd.events b' ++ .discarded b'.id :: quiet ++ fwd'.events ⟨id, .idle⟩))

/-- **What an attempt comes to**: a guardrail rejects the cycle, the session ends before there is
a backend, or the cycle runs on the held backend or on one that is checked out. -/
inductive Attempted (st : SessionState) : Attempt → Prop where
  | rejected : Attempted st (.ended ⟨st, [.rejectedByGuardrail], .continue⟩)
  | ended {o : Outcome}
    (hsession : o.state.session = st.session ∨ ∃ plans committedWrite,
      updateTransactionStateFromRequestPlans cfg.fullRoutingAnalysis st.session false plans =
        some (o.state.session, committedWrite))
    (hevents : ∀ e ∈ o.events, e = .sentReady .idle) (hflow : o.flow ≠ .continue) :
    Attempted st (.ended o)
  | ran {plans : List RequestPlan} {session : VirtualSession} {committedWrite : Bool}
    {b : Backend} {a : Attempt} (hplans : requestPlansForFrames st.prepared frames = some plans)
    (hupdate : updateTransactionStateFromRequestPlans cfg.fullRoutingAnalysis st.session false
      plans = some (session, committedWrite))
    (hb : st.heldBackend = some b ∨
      st.heldBackend = none ∧ ∃ id, env.checkout = .leased id ∧ b = ⟨id, .idle⟩)
    (hruns : Runs cfg frames env plans committedWrite
      { st with session, heldBackend := none } b a) : Attempted st a

end

section

variable {cfg : SessionConfig} {st : SessionState} {b b' : Backend}
  {frames : List FrontendMessage} {plans : List RequestPlan} {committedWrite : Bool}
  {env : CycleEnv} {before : List SessionEvent}

theorem Prepares.quiet (h : Prepares st b before b') : ∀ e ∈ before, e.IsQuiet := by
  cases h with
  | asIs => simp
  | replayed => exact isQuiet_queried _

theorem Prepares.idle_or_eq (h : Prepares st b before b') : b'.status = .idle ∨ b' = b := by
  cases h with
  | asIs => exact .inr rfl
  | replayed => exact .inl rfl

theorem replayOnReplacement_ok {id : BackendId} {replay : List FrontendMessage} {reply : BatchReply}
    (h : replayOnReplacement ⟨id, .idle⟩ replay reply = .ok b) : b = ⟨id, .idle⟩ := by
  unfold replayOnReplacement at h
  split at h
  · cases h; rfl
  · rw [executeToIdle_ok h]

theorem runs_forwardCycle (hb : Prepares st b before b') :
    Runs cfg frames env plans committedWrite st b
      ((forwardCycle cfg st b' frames plans committedWrite env).after before) := by
  unfold forwardCycle
  generalize hfwd : forwardOnce cfg st b' frames plans env.forward = fwd
  dsimp only
  split
  · rename_i hretry
    unfold retryCycle
    split
    · have hnone : ∀ e ∈ ([] : List SessionEvent), e.IsQuiet := by simp
      simpa [Attempt.after, Outcome.after] using Runs.gaveUp hb hfwd.symm hnone
    · rename_i id hid
      dsimp only
      -- what is replayed on the replacement does not matter, only that it ends idle
      generalize (if cfg.failoverReplaySessionState then _ else []) = replay
      have hquiet : ∀ e ∈ (if replay.isEmpty then [] else [SessionEvent.queried id replay]),
          e.IsQuiet := by
        split <;> simp [SessionEvent.IsQuiet]
      cases hreplayed : replayOnReplacement ⟨id, .idle⟩ replay env.reconnectReplay with
      | error e =>
        have hdiscarded : ∀ e ∈ (if replay.isEmpty then [] else [SessionEvent.queried id replay]) ++
            [.discarded id], e.IsQuiet := by
          intro e he
          rcases mem_append.1 he with he | he
          · exact hquiet e he
          · obtain rfl := mem_singleton.1 he
            trivial
        simpa [Attempt.after, Outcome.after] using Runs.gaveUp hb hfwd.symm hdiscarded
      | ok b₁ =>
        rw [replayOnReplacement_ok hreplayed]
        simpa [Attempt.after] using Runs.retried hb hfwd.symm hretry hquiet hid rfl
  · exact .forwarded hb hfwd.symm

theorem runs_runCycle : Runs cfg frames env plans committedWrite st b
    (runCycle cfg st b frames plans committedWrite env) := by
  unfold runCycle
  split
  · rename_i hreplay
    split
    · exact .replayFails
    · rename_i hreplayed
      rw [executeToIdle_ok hreplayed]
      exact runs_forwardCycle (.replayed hreplay)
  · have hruns := @runs_forwardCycle cfg st b b frames plans committedWrite env [] .asIs
    cases hcycle : forwardCycle cfg st b frames plans committedWrite env <;>
      simpa [hcycle, Attempt.after, Outcome.after] using hruns

theorem attempted_attemptCycle (cfg : SessionConfig) (st : SessionState)
    (frames : List FrontendMessage) (env : CycleEnv) :
    Attempted cfg frames env st (attemptCycle cfg st frames env) := by
  have hfail : Attempted cfg frames env st (.ended ⟨st, [], .fail⟩) :=
    .ended (.inl rfl) (by simp) (by simp)
  unfold attemptCycle
  split
  · exact hfail
  · rename_i plans hplans
    split
    -- a guardrail rejects the cycle, and the client is told so or is gone
    · cases env.clientWrite
      · exact hfail
      · exact .rejected
    · split
      · exact hfail
      · rename_i session committedWrite hupdate
        dsimp only
        split
        · rename_i hheld
          exact .ran hplans hupdate (.inl hheld) runs_runCycle
        · rename_i hheld
          split
          · rename_i id hid
            refine .ran hplans hupdate (.inr ⟨hheld, id, hid, rfl⟩) ?_
            rw [← hheld]
            exact runs_runCycle
          · refine .ended (.inr ⟨plans, committedWrite, ?_⟩) ?_ (flow_errorResponseAndReady _ _ _)
            · cases env.clientWrite <;> exact hupdate
            · cases env.clientWrite <;> simp [errorResponseAndReady]
          · exact .ended (.inr ⟨plans, committedWrite, hupdate⟩) (by simp) (by simp)
          · exact .ended (.inr ⟨plans, committedWrite, hupdate⟩) (by simp) (by simp)

end

/-- **Up to the result of forwarding nothing is released**, and the loop goes on without a
result only where a guardrail has rejected the cycle. -/
theorem attemptCycle_cases (cfg : SessionConfig) (st : SessionState)
    (frames : List FrontendMessage) (env : CycleEnv) :
    attemptCycle cfg st frames env = .ended ⟨st, [.rejectedByGuardrail], .continue⟩ ∨
      (attemptCycle cfg st frames env).Quiet st.heldBackend := by
  have hattempted := attempted_attemptCycle cfg st frames env
  generalize attemptCycle cfg st frames env = a at hattempted
  have hforwarded : ∀ {st before b b' fwd}, Prepares st b before b' →
      NoRelease (before ++ Forwarded.events fwd b') :=
    fun hb => (noRelease_of_isQuiet hb.quiet).append (Forwarded.noRelease_events _ _)
  cases hattempted with
  | rejected => exact .inl rfl
  | ended _ hevents hflow => exact .inr (.ended (fun r hr => by cases hevents _ hr) hflow)
  | @ran _ _ _ b _ _ _ hb hruns =>
    right
    have hstart : b.status = .idle ∨ st.heldBackend = some b := by
      rcases hb with hb | ⟨-, id, -, rfl⟩
      · exact .inr hb
      · exact .inl rfl
    cases hruns with
    | replayFails =>
      exact .ended (by simp [NoRelease, Outcome.after, SessionState.discard])
        (by simp [Outcome.after, SessionState.discard])
    | @forwarded _ b' _ hb' hfwd =>
      subst hfwd
      refine .forwarded (hforwarded hb') rfl (forwardMessageCycle_from ..) ?_
      rcases hb'.idle_or_eq with h | rfl
      · exact .inl h
      · exact hstart
    | gaveUp hb' _ hquiet =>
      refine .ended (((hforwarded hb').append (noRelease_of_isQuiet ?_)).append
        (noRelease_errorResponseAndReady _ _ _)) (flow_errorResponseAndReady _ _ _)
      exact forall_mem_cons.2 ⟨trivial, hquiet⟩
    | retried hb' _ _ hquiet _ hfwd' =>
      subst hfwd'
      refine .forwarded (((hforwarded hb').append (noRelease_of_isQuiet ?_)).append
        (Forwarded.noRelease_events _ _)) rfl (forwardMessageCycle_from ..) (.inl rfl)
      exact forall_mem_cons.2 ⟨trivial, hquiet⟩

end PgKinetic
