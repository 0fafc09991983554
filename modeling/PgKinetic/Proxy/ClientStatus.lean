import PgKinetic.Proxy.KnownState
import PgKinetic.Proxy.NextCycle

/-!
# The status the client was told

A client goes by the last ReadyForQuery it was sent. `ClientView` keeps that status, the backend
the last cycle went to, and forgets a transaction whose backend was lost between two cycles. In
transaction pool mode the view is honoured (`Honoured`): a client that was told `InTransaction`
has its next cycle sent, before anything else, to the backend that reported it, which is still in
that transaction; **a client that was told `FailedTransaction` is out of it**, since the proxy
rolls a failed transaction back at once, and its next cycle runs outside any transaction, as it
does for a client that was told `Idle`.

The `Idle` that goes with a guardrail's rejection is no part of the view: the rejected cycle
reaches no backend, and an open transaction stays open.
-/

namespace PgKinetic

open EventMachine List Option

/-! ### The client's view -/

/-- What a client goes by: the backend its last cycle was sent to, and the status it was told
since, unless that was `InTransaction` and the backend has been lost. -/
structure ClientView where
  backend : Option BackendId := none
  told : Option ReadyStatus := none
  deriving DecidableEq

namespace ClientView

/-- The view after an event. -/
def next (v : ClientView) : SessionEvent → ClientView
  | .forwarded b _ => { v with backend := some b.id }
  | .sentReady status => { v with told := some status }
  | .lost _ => { v with told := none }
  | _ => v

/-- The view after a list of events. -/
def after (v : ClientView) (events : List SessionEvent) : ClientView := events.foldl next v

variable (v : ClientView)

@[simp] theorem after_nil : v.after [] = v := rfl

@[simp] theorem after_cons (e : SessionEvent) (es : List SessionEvent) :
    v.after (e :: es) = (v.next e).after es := rfl

@[simp] theorem after_append (es₁ es₂ : List SessionEvent) :
    v.after (es₁ ++ es₂) = (v.after es₁).after es₂ := foldl_append ..

theorem after_of_isHidden {v : ClientView} {events : List SessionEvent}
    (h : ∀ e ∈ events, e.IsHidden) : v.after events = v := by
  induction events generalizing v with
  | nil => rfl
  | cons e es ih =>
    have hnext : v.next e = v := by
      have hhidden := h e mem_cons_self
      cases e <;> first | rfl | exact hhidden.elim
    rw [after_cons, hnext]
    exact ih fun e' he' => h e' (mem_cons_of_mem e he')

theorem after_map_sentReady (sent : List ReadyStatus) :
    v.after (sent.map .sentReady) = { v with told := sent.getLast?.or v.told } := by
  induction sent generalizing v with
  | nil => rfl
  | cons status sent ih =>
    rw [map_cons, after_cons, ih]
    cases hlast : sent.getLast? with
    | none => simp [getLast?_eq_none_iff.1 hlast, next]
    | some last => simp [getLast?_cons, hlast, next]

/-- What one attempt to forward a cycle tells the client. -/
theorem after_forwarded_events (fwd : Forwarded) (b : Backend) :
    v.after (fwd.events b) = ⟨some b.id, fwd.sent.getLast?.or v.told⟩ := by
  rw [Forwarded.events, after_cons, after_map_sentReady]
  rfl

end ClientView

/-! ### From the frames to the result -/

/-- What is known once the cycle of a session in state `st₀` has been forwarded, of the client's
view `v` before: a ready result has been told; after a result without ReadyForQuery the view is as
before, and the backend is outside a transaction or as it was held. -/
structure Tracked (v : ClientView) (st₀ st : SessionState) (fwd : Forwarded)
    (events : List SessionEvent) : Prop where
  heldBackend : st.heldBackend = none
  pinnedBackend : st.pinnedBackend = st₀.pinnedBackend
  known : fwd.session.Known
  ready : ∀ status, fwd.result = .ready status →
    fwd.backend.status = status ∧ v.after events = ⟨some fwd.backend.id, some status⟩
  flushed : fwd.result = .flushed →
    v.after events = { v with backend := some fwd.backend.id } ∧
      (fwd.backend.status = .idle ∨ st₀.heldBackend = some fwd.backend) ∧
      ∀ b, st₀.heldBackend = some b → st₀.pinnedBackend = some b.id → fwd.backend = b

/-- The attempt has ended the session, or its result is tracked. -/
inductive Attempt.Tracks (v : ClientView) (st₀ : SessionState) : Attempt → Prop where
  | ended {o : Outcome} (hflow : o.flow ≠ .continue) : Attempt.Tracks v st₀ (.ended o)
  | forwarded {st : SessionState} {fwd : Forwarded} {committedWrite : Bool}
    {events : List SessionEvent} (h : Tracked v st₀ st fwd events) :
    Attempt.Tracks v st₀ (.forwarded st fwd committedWrite events)

section

variable {cfg : SessionConfig} {v : ClientView} {st₀ st : SessionState} {b : Backend}
  {frames : List FrontendMessage} {plans : List RequestPlan} {committedWrite : Bool}
  {env : CycleEnv}

/-- A ready result has been told, whatever was done before the backend was reached. -/
theorem ClientView.after_ready {fwd : Forwarded} {status : ReadyStatus}
    (before : List SessionEvent) (hfrom : fwd.From b) (hresult : fwd.result = .ready status) :
    fwd.backend.status = status ∧
      v.after (before ++ fwd.events b) = ⟨some fwd.backend.id, some status⟩ := by
  have hready := hfrom.ready
  rw [hresult] at hready
  rw [after_append, after_forwarded_events, hready.2, hfrom.id]
  exact ⟨hready.1, rfl⟩

variable {maxBuffer : Nat} {session : VirtualSession}

/-- A cycle that expects ReadyForQuery does not end without one. -/
theorem relay_flushed_shape {shape : FrontendCycleShape} {r : RelayState} {events : List WireEvent}
    (h : (relay shape maxBuffer r events).2 = .flushed) : shape.expectsReady = false := by
  refine relay_rule (I := fun _ => True) (Q := fun _ result => result = .flushed →
    shape.expectsReady = false) (fun r' frames rest clientWrite _ => ⟨?_, fun _ => trivial⟩) ?_
    trivial events h
  · rintro result hresult rfl
    exact (RelayState.resultAfterRead_flushed hresult).1
  · rintro r' buffer result - hbroken rfl
    exact (hbroken trivial).elim

theorem forwardMessageCycle_flushed_shape {prepared : PreparedCatalog} {backendRead : List Byte}
    {commands : List SqlCommand} {env : ForwardEnv}
    (h : (forwardMessageCycle maxBuffer session prepared b backendRead frames commands env).result =
      .flushed) : (FrontendCycleShape.fromFrames frames).expectsReady = false := by
  unfold forwardMessageCycle at h
  split at h
  · cases h
  · dsimp only at h
    split at h
    · cases h
    · cases h
    · split at h
      · rename_i hnone
        simp only [FrontendCycleShape.expectsNoResponse, Bool.and_eq_true, beq_iff_eq] at hnone
        simp [FrontendCycleShape.expectsReady, hnone.1]
      · exact relay_flushed_shape h

/-- Only cycles that expect ReadyForQuery are retried. -/
theorem expectsReady_of_safeRequestToReplay {replay : Bool}
    (h : safeRequestToReplay frames plans session replay = true) :
    (FrontendCycleShape.fromFrames frames).expectsReady = true := by
  simp only [safeRequestToReplay, Bool.and_eq_true, Bool.not_eq_true'] at h
  obtain ⟨⟨⟨⟨hne, hall⟩, -⟩, -⟩, -⟩ := h
  cases frames with
  | nil => cases hne
  | cons frame frames =>
    have hquery : (frame.tag == some FrontendTag.query) = true :=
      all_eq_true.1 hall frame mem_cons_self
    have hcount : 0 < (frame :: frames).countP fun frame => frame.tag == some .query :=
      countP_pos_iff.2 ⟨frame, mem_cons_self, hquery⟩
    exact decide_eq_true (Nat.add_pos_left hcount _)

theorem expectsReady_of_retriesOnFailure {fwd : Forwarded}
    (h : retriesOnFailure cfg frames plans fwd = true) :
    (FrontendCycleShape.fromFrames frames).expectsReady = true := by
  simp only [retriesOnFailure, Bool.and_eq_true, Bool.or_eq_true] at h
  rcases h.2 with hsafe | hsafe
  · exact expectsReady_of_safeRequestToReplay hsafe
  · exact expectsReady_of_safeRequestToReplay hsafe.2

/-- **Up to the result of forwarding** the client's view and the backend stay together. -/
theorem attemptCycle_tracks (cfg : SessionConfig) (v : ClientView) (st : SessionState)
    (frames : List FrontendMessage) (env : CycleEnv) (hknown : st.session.Known) :
    attemptCycle cfg st frames env = .ended ⟨st, [.rejectedByGuardrail], .continue⟩ ∨
      (attemptCycle cfg st frames env).Tracks v st := by
  have hattempted := attempted_attemptCycle cfg st frames env
  generalize attemptCycle cfg st frames env = a at hattempted
  cases hattempted with
  | rejected => exact .inl rfl
  | ended _ _ hflow => exact .inr (.ended hflow)
  | @ran _ session _ b _ _ hupdate hb hruns =>
    have hsession : session.Known := known_updateTransactionStateFromRequestPlans hknown hupdate
    right
    cases hruns with
    | replayFails => exact .ended (by simp [Outcome.after, SessionState.discard])
    | gaveUp => exact .ended (flow_errorResponseAndReady _ _ _)
    | @forwarded before b' fwd hb' hfwd =>
      have hfrom : fwd.From b' := by
        rw [hfwd]
        exact forwardMessageCycle_from ..
      have hhidden : ∀ e ∈ before, e.IsHidden := fun e he => (hb'.quiet e he).isHidden
      refine .forwarded ⟨rfl, rfl, hfwd ▸ known_forwardMessageCycle hsession,
        fun status => ClientView.after_ready before hfrom, fun hresult => ?_⟩
      obtain ⟨hback, hsent⟩ := hfrom.flushed hresult
      rw [ClientView.after_append, ClientView.after_of_isHidden hhidden,
        ClientView.after_forwarded_events, hsent, hback]
      refine ⟨rfl, ?_, fun b₀ hb₀ hpinned => ?_⟩
      · rcases hb'.idle_or_eq with h | rfl
        · exact .inl h
        · rcases hb with hb | ⟨-, id, -, rfl⟩
          · exact .inr hb
          · exact .inl rfl
      -- a session pinned to the backend it holds is not replayed
      · rcases hb with hb | ⟨hnone, -⟩
        · obtain rfl := some.inj (hb.symm.trans hb₀)
          cases hb' with
          | asIs => rfl
          | replayed hreplay => simp [shouldReplaySession, hpinned] at hreplay
        · exact absurd (hnone.symm.trans hb₀) (by simp)
    | @retried before quiet b' fwd fwd' id _ hfwd hretry _ _ hfwd' =>
      have hfrom : fwd'.From ⟨id, .idle⟩ := by
        rw [hfwd']
        exact forwardMessageCycle_from ..
      have hknown' : fwd.session.Known := hfwd ▸ known_forwardMessageCycle hsession
      refine .forwarded ⟨rfl, rfl, hfwd' ▸ known_forwardMessageCycle hknown',
        fun status => ClientView.after_ready _ hfrom, fun hresult => ?_⟩
      -- only a cycle that expects ReadyForQuery is retried, and it does not end flushed
      rw [hfwd'] at hresult
      have hexpects := expectsReady_of_retriesOnFailure hretry
      rw [forwardMessageCycle_flushed_shape hresult] at hexpects
      cases hexpects

end

/-! ### The view is honoured -/

/-- **What the client was told is so**: after `InTransaction` the session holds the backend its
last cycle went to, in that transaction and pinned; otherwise it holds none in a transaction. -/
structure Honoured (v : ClientView) (st : SessionState) : Prop where
  known : st.session.Known
  inTransaction : v.told = some .inTransaction →
    ∃ b, st.heldBackend = some b ∧ b.status = .inTransaction ∧ st.pinnedBackend = some b.id ∧
      v.backend = some b.id
  outside : v.told ≠ some .inTransaction → ∀ b, st.heldBackend = some b → b.status = .idle

/-- The outcome honours the view, if the loop goes on. -/
def Outcome.Honours (v : ClientView) (o : Outcome) : Prop :=
  o.flow = .continue → Honoured (v.after o.events) o.state

variable {v : ClientView}

theorem Outcome.Honours.after {o : Outcome} {events : List SessionEvent}
    (h : o.Honours (v.after events)) : (o.after events).Honours v := by
  intro hflow
  rw [Outcome.after, ClientView.after_append]
  exact h hflow

/-- A session that holds nothing honours every view but `InTransaction`. -/
theorem honoured_of_none {st : SessionState} (hknown : st.session.Known)
    (hheld : st.heldBackend = none) (htold : v.told ≠ some .inTransaction) :
    Honoured v st where
  known := hknown
  inTransaction h := absurd h htold
  outside := by simp [hheld]

section

variable {cfg : SessionConfig} {v : ClientView} {st : SessionState} {b : Backend}

variable {env : DisposeEnv}

variable {committedWrite : Bool} {es : List SessionEvent}

section

variable (hmode : cfg.poolMode = .transaction)
include hmode

/-- A backend that has just reported a status is held in that status or given away. -/
theorem finishReadyBackend_honours {status : ReadyStatus} {probe : Option PgLsn}
    (hknown : st.session.Known)
    (hheld : st.heldBackend = none) (hb : b.status = status) (hv : v = ⟨some b.id, some status⟩) :
    (finishReadyBackend cfg st b status committedWrite probe env).Honours v := by
  intro hflow
  have hends := @finishReadyBackend_ends st b status cfg committedWrite probe env
  have hready : (readySession cfg st.session status committedWrite probe).Known :=
    (readySession_unknownProtocolState ..).trans hknown
  have hknown' := hends.disposes.rule VirtualSession.ignoresTransaction_known hready
  rw [ClientView.after_of_isHidden hends.disposes.hidden]
  generalize finishReadyBackend cfg st b status committedWrite probe env = o
    at hends hknown' hflow ⊢
  cases hends with
  | released _ _ hr =>
    refine honoured_of_none hknown' hheld ?_
    cases hr with
    | reuse hidle | reset hidle => simp [hv, hidle]
    | rollback hfailed => simp [hv, hfailed]
  | kept _ _ hk =>
    obtain ⟨rfl, ⟨rfl, hstatus, rfl⟩ | ⟨-, -, hsession, -⟩⟩ := hk
    · refine ⟨hready, fun htold => ⟨_, rfl, ?_, rfl, by rw [hv]⟩, fun htold b' hb' => ?_⟩
      · simpa [hv, hb] using htold
      · obtain rfl := some.inj hb'
        -- a backend is pinned idle or in the transaction that the client was told of
        cases status with
        | idle => exact hb
        | inTransaction => exact absurd (by rw [hv]) htold
        | failedTransaction => exact absurd rfl hstatus
    · cases hmode.symm.trans hsession
  | givenUp _ _ hd =>
    rcases hd with rfl | hunknown
    · cases hflow
    · exact absurd (hready.symm.trans hunknown) (by simp)

/-- After a timeout the client has been told `Idle`, and the backend is given away. -/
theorem disposeAfterTimeout_honours {flow : Flow}
    (hknown : st.session.Known) (hheld : st.heldBackend = none) (hv : v.told = some .idle) :
    (disposeAfterTimeout cfg st b env flow).Honours v := by
  intro _
  have hends := @disposeAfterTimeout_ends st b cfg false env flow
  have hknown' := hends.disposes.rule VirtualSession.ignoresTransaction_known hknown
  rw [ClientView.after_of_isHidden hends.disposes.hidden]
  refine honoured_of_none hknown' ?_ (by simp [hv])
  refine eq_none_iff_forall_ne_some.2 fun b' hb' => ?_
  cases (hends.held hheld hb').2 with
  | timedOut hsession => cases hmode.symm.trans hsession

/-- A tracked result is handled so that the view is honoured. -/
theorem handleForwardResult_honours {v₀ : ClientView} {st₀ : SessionState} {fwd : Forwarded}
    {events : List SessionEvent} {env : CycleEnv}
    (h₀ : Honoured v₀ st₀) (h : Tracked v₀ st₀ st fwd events) :
    (handleForwardResult cfg (st.afterForward fwd) fwd.backend fwd.result committedWrite
      env).Honours (v₀.after events) := by
  have hknown : (st.afterForward fwd).session.Known := h.known
  have hheld : (st.afterForward fwd).heldBackend = none := h.heldBackend
  intro hflow
  rcases ((handleForwardResult_ends ..).continues hflow).1 with
    ⟨status, hresult⟩ | hresult | hresult
  · obtain ⟨hb, hv⟩ := h.ready status hresult
    rw [hresult] at hflow ⊢
    exact finishReadyBackend_honours hmode hknown hheld hb hv hflow
  · -- no status was reported, so the view before the cycle is still the client's
    obtain ⟨hv, hb, hsame⟩ := h.flushed hresult
    rw [hresult, handleForwardResult, SessionState.hold, ClientView.after_nil, hv]
    refine ⟨hknown, fun htold => ?_, fun htold b hb' => ?_⟩
    · obtain ⟨b, hb, htx, hpinned, -⟩ := h₀.inTransaction htold
      obtain rfl := hsame b hb hpinned
      exact ⟨fwd.backend, rfl, htx, h.pinnedBackend.trans hpinned, rfl⟩
    · obtain rfl : fwd.backend = b := some.inj hb'
      rcases hb with hidle | hb
      · exact hidle
      · exact h₀.outside htold _ hb
  · rw [hresult] at hflow ⊢
    dsimp only [handleForwardResult, handleQueryTimeout] at hflow ⊢
    rw [if_neg Bool.false_ne_true] at hflow ⊢
    split at hflow
    · cases hflow
    · rename_i hwrite
      rw [if_neg hwrite]
      refine Outcome.Honours.after (disposeAfterTimeout_honours hmode ?_ ?_ rfl) hflow
      · exact hknown
      · exact hheld

theorem handleFrameCycle_honours {frames : List FrontendMessage} {env : CycleEnv}
    (h : Honoured v st) :
    (handleFrameCycle cfg st frames env).Honours v := by
  unfold handleFrameCycle
  rcases attemptCycle_tracks cfg v st frames env h.known with hattempt | hattempt
  · rw [hattempt]
    exact fun _ => h
  · generalize attemptCycle cfg st frames env = attempt at hattempt
    cases hattempt with
    | ended hflow => exact fun hcontinue => absurd hcontinue hflow
    | forwarded htracked => exact .after (handleForwardResult_honours hmode h htracked)

end

/-- What a turn leaves, if the session is not over. -/
theorem Outcome.Honours.close {o : Outcome} (h : o.Honours v)
    (hopen : o.close.1.finished = false) : Honoured (v.after o.close.2) o.close.1 := by
  unfold Outcome.close at hopen ⊢
  split
  · rename_i hflow
    exact h hflow
  · rename_i hflow
    rw [if_neg hflow] at hopen
    cases hopen

/-- **One turn of the loop keeps the view honoured.** -/
theorem sessionStep_honours {st' : SessionState} {input : SessionInput}
    (hmode : cfg.poolMode = .transaction) (h : Honoured v st)
    (hstep : sessionStep cfg st input = some (st', es)) (hopen : st'.finished = false) :
    Honoured (v.after es) st' := by
  obtain ⟨-, o, hturned, rfl, rfl⟩ := turned_of_sessionStep hstep
  refine Outcome.Honours.close ?_ hopen
  cases hturned with
  | frames =>
    refine handleFrameCycle_honours hmode ?_
    exact ⟨h.known, h.inTransaction, h.outside⟩
  | finalized _ hflow => exact fun hcontinue => absurd hcontinue hflow
  | @toldIdle env =>
    intro _
    exact honoured_of_none
      ((finalizeHeldBackend_ends cfg st env).disposes.rule
        VirtualSession.ignoresTransaction_known h.known)
      (finalizeHeldBackend_done cfg st env).1 (by simp [ClientView.next])
  | clientError => exact fun hflow => nomatch hflow
  | backendClosed => exact fun _ => honoured_of_none h.known rfl (by simp [ClientView.next])
  | backendAsync => exact fun _ => h

/-- **In every run the view is honoured**, as long as the session is not over. -/
theorem run_honoured {sessionId : Nat} {inputs : List SessionInput}
    (hmode : cfg.poolMode = .transaction)
    (hrun : (sessionMachine cfg).run (.initial sessionId) inputs = some (st, es))
    (hopen : st.finished = false) : Honoured (ClientView.after {} es) st := by
  have hinit : Honoured (ClientView.after {} []) (.initial sessionId) :=
    honoured_of_none rfl rfl (by simp)
  refine Machine.history_invariant (sessionMachine cfg) (I := fun h st =>
    st.finished = false → Honoured (ClientView.after {} h) st) ?_ (h := []) (fun _ => hinit) hrun
    hopen
  intro h st input st' es hst hstep hopen
  rw [ClientView.after_append]
  refine sessionStep_honours hmode (hst ?_) hstep hopen
  -- a session that is over takes no input
  by_contra hfinished
  simp [sessionMachine, sessionStep, hfinished] at hstep

end

/-- The backends the client's cycles were sent to. -/
def forwardedBackends (es : List SessionEvent) : List Backend :=
  es.filterMap fun
    | .forwarded b _ => some b
    | _ => none

/-- A client whose transaction has failed. -/
def beginThenFail : List SessionInput :=
  [queryCycle "BEGIN" .inTransaction,
    queryCycle "SELECT 1/0" .failedTransaction { cleanup := .ready .idle }]

end PgKinetic
