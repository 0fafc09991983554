import PgKinetic.Proxy.Cycle

/-!
# What a turn of the loop releases and holds

One turn of the loop hands at most one backend back to the pool, and keeps at most one. Every fact
about released backends is read off `sessionStep_release`, and every fact about held ones off
`sessionStep_held`.
-/

namespace PgKinetic

open EventMachine Option

theorem mem_after_of_noRelease {o : Outcome} {r : Release} {events : List SessionEvent}
    (h : .released r ∈ (o.after events).events) (hevents : NoRelease events) :
    .released r ∈ o.events := by
  rcases List.mem_append.1 h with h | h
  · exact absurd h (hevents r)
  · exact h

/-! ### One turn -/

/-- The inputs after which the loop finalizes the backend it holds. -/
def SessionInput.Finalizes : SessionInput → Prop
  | .terminate _ | .bufferLimitExceeded _ | .idleTimeout _ _ => True
  | _ => False

/-- The input is a cycle, and forwarding it has left the session with the result `fwd`. -/
def SessionInput.Forwards (cfg : SessionConfig) (st : SessionState) (input : SessionInput)
    (fwd : Forwarded) : Prop :=
  ∃ frames env st' committedWrite events, input = .frames frames env ∧
    attemptCycle cfg { st with waitForClientActivity := false } frames env =
      .forwarded st' fwd committedWrite events

section

variable {cfg : SessionConfig} {st st' : SessionState} {input : SessionInput}
  {es : List SessionEvent}

/-- A cycle that has been forwarded went to the held backend or to one with last status `Idle`. -/
theorem SessionInput.Forwards.from {fwd : Forwarded} (h : input.Forwards cfg st fwd) :
    ∃ b, fwd.From b ∧ (b.status = .idle ∨ st.heldBackend = some b) := by
  obtain ⟨frames, env, st₁, committedWrite, events, -, hattempt⟩ := h
  rcases attemptCycle_cases cfg { st with waitForClientActivity := false } frames env with h | h
  · rw [hattempt] at h
    cases h
  · rw [hattempt] at h
    cases h with
    | forwarded _ _ hfrom hstart => exact ⟨_, hfrom, hstart⟩

variable {r : Release} {b : Backend}

variable {o : Outcome} {frames : List FrontendMessage} {env : CycleEnv}

/-- A session that returns has no more backends to release. -/
theorem mem_of_mem_close (h : .released r ∈ o.close.2) : .released r ∈ o.events := by
  unfold Outcome.close at h
  split at h
  · exact h
  · rcases List.mem_append.1 h with h | h
    · exact h
    · simp at h

theorem flow_of_close_held (h : o.close.1.heldBackend = some b) :
    o.flow = .continue ∧ o.state.heldBackend = some b := by
  unfold Outcome.close at h
  split at h
  · rename_i hflow
    exact ⟨hflow, h⟩
  · cases h

theorem handleFrameCycle_release (h : .released r ∈ (handleFrameCycle cfg st frames env).events) :
    ∃ st' fwd committedWrite events,
      attemptCycle cfg st frames env = .forwarded st' fwd committedWrite events ∧
        ResultRelease cfg fwd.session fwd.backend fwd.result r := by
  unfold handleFrameCycle at h
  rcases attemptCycle_cases cfg st frames env with hattempt | hattempt
  · rw [hattempt] at h
    simp at h
  · generalize attemptCycle cfg st frames env = attempt at h hattempt
    cases hattempt with
    | ended hevents _ => exact absurd h (hevents r)
    | @forwarded st' fwd committedWrite events _ hevents hheld _ _ =>
      refine ⟨st', fwd, committedWrite, events, rfl, ?_⟩
      have hafter : (st'.afterForward fwd).heldBackend = none := hheld
      exact (handleForwardResult_ends ..).release hafter r (mem_after_of_noRelease h hevents)

theorem handleFrameCycle_held (hflow : (handleFrameCycle cfg st frames env).flow = .continue)
    (h : (handleFrameCycle cfg st frames env).state.heldBackend = some b) :
    st.heldBackend = some b ∨ ∃ st' fwd committedWrite events,
      attemptCycle cfg st frames env = .forwarded st' fwd committedWrite events ∧
        ResultHeld cfg fwd.backend fwd.result b := by
  unfold handleFrameCycle at h hflow
  rcases attemptCycle_cases cfg st frames env with hattempt | hattempt
  · rw [hattempt] at h
    exact .inl h
  · generalize attemptCycle cfg st frames env = attempt at h hflow hattempt
    cases hattempt with
    | ended _ hended => exact absurd hflow hended
    | @forwarded st' fwd committedWrite events _ _ hheld _ _ =>
      refine .inr ⟨st', fwd, committedWrite, events, rfl, ?_⟩
      have hafter : (st'.afterForward fwd).heldBackend = none := hheld
      exact ((handleForwardResult_ends ..).continues hflow).2 hafter b h

/-- **What a turn comes to**, before a session that returns drops its lease. -/
inductive Turned (cfg : SessionConfig) (st : SessionState) : SessionInput → Outcome → Prop where
  | frames {frames : List FrontendMessage} {env : CycleEnv} :
    Turned cfg st (.frames frames env)
      (handleFrameCycle cfg { st with waitForClientActivity := false } frames env)
  | finalized {input : SessionInput} {env : DisposeEnv} {flow : Flow} (hinput : input.Finalizes)
    (hflow : flow ≠ .continue) : Turned cfg st input { finalizeHeldBackend cfg st env with flow }
  | toldIdle {env : DisposeEnv} :
    Turned cfg st (.idleTimeout env true)
      ⟨{ (finalizeHeldBackend cfg st env).state with waitForClientActivity := true },
        (finalizeHeldBackend cfg st env).events ++ [.sentReady .idle], .continue⟩
  | clientError : Turned cfg st .clientError ⟨st, [], .fail⟩
  | backendClosed {b : Backend} :
    Turned cfg st .backendClosed ⟨{ st with heldBackend := none }, [.lost b.id], .continue⟩
  | backendAsync {clientWrite : Bool} :
    Turned cfg st (.backendAsync clientWrite)
      ⟨st, [], if clientWrite then .continue else .fail⟩

theorem handleIdleTimeout_turned (env : DisposeEnv) (clientWrite : Bool) :
    Turned cfg st (.idleTimeout env clientWrite) (handleIdleTimeout cfg st env clientWrite) := by
  have hflow : (finalizeHeldBackend cfg st env).flow ≠ .continue :=
    (finalizeHeldBackend_done cfg st env).2
  unfold handleIdleTimeout
  dsimp only
  split
  · exact .finalized trivial hflow
  split
  · exact .finalized trivial hflow
  cases clientWrite with
  | false =>
    refine .finalized trivial ?_
    split <;> nofun
  | true => exact .toldIdle

/-- A session that is not over takes a turn. -/
theorem turned_of_sessionStep (h : sessionStep cfg st input = some (st', es)) :
    st.finished = false ∧ ∃ o, Turned cfg st input o ∧ st' = o.close.1 ∧ es = o.close.2 := by
  unfold sessionStep at h
  split at h
  · cases h
  next hgoes =>
  refine ⟨Bool.eq_false_iff.2 hgoes, ?_⟩
  have hclose : ∀ {o : Outcome}, Turned cfg st input o → o.close = (st', es) →
      ∃ o, Turned cfg st input o ∧ st' = o.close.1 ∧ es = o.close.2 := by
    intro o hturned heq
    exact ⟨o, hturned, (congrArg Prod.fst heq).symm, (congrArg Prod.snd heq).symm⟩
  cases input with
  | frames frames env => exact hclose .frames (some.inj h)
  | terminate env | bufferLimitExceeded env =>
    exact hclose (.finalized trivial (finalizeHeldBackend_done cfg st env).2) (some.inj h)
  | idleTimeout env clientWrite =>
    dsimp only at h
    split at h
    · cases h
    · exact hclose (handleIdleTimeout_turned env clientWrite) (some.inj h)
  | clientError => exact hclose .clientError (some.inj h)
  | backendClosed =>
    obtain ⟨b, -, heq⟩ := map_eq_some_iff.1 h
    exact hclose .backendClosed heq
  | backendAsync clientWrite =>
    obtain ⟨b, -, heq⟩ := map_eq_some_iff.1 h
    exact hclose .backendAsync heq

theorem frames_of_sessionStep (h : sessionStep cfg st (.frames frames env) = some (st', es)) :
    let o := handleFrameCycle cfg { st with waitForClientActivity := false } frames env
    st.finished = false ∧ st' = o.close.1 ∧ es = o.close.2 := by
  obtain ⟨hgoes, o, hturned, hclose⟩ := turned_of_sessionStep h
  cases hturned with
  | frames => exact ⟨hgoes, hclose⟩
  | finalized hinput => exact hinput.elim

/-- **The releases of one turn**: by the finalization of the held backend, or once a cycle has
been forwarded. -/
theorem sessionStep_release (h : sessionStep cfg st input = some (st', es)) (hr : .released r ∈ es)
    :
    (input.Finalizes ∧ ∃ b, st.heldBackend = some b ∧ FinalRelease cfg st.session b r) ∨
      ∃ fwd, input.Forwards cfg st fwd ∧
        ResultRelease cfg fwd.session fwd.backend fwd.result r := by
  obtain ⟨-, o, hturned, -, rfl⟩ := turned_of_sessionStep h
  have hr := mem_of_mem_close hr
  cases hturned with
  | @frames frames env =>
    obtain ⟨st₁, fwd, committedWrite, events, hattempt, hrelease⟩ := handleFrameCycle_release hr
    exact .inr ⟨fwd, ⟨frames, env, st₁, committedWrite, events, rfl, hattempt⟩, hrelease⟩
  | @finalized _ env _ hinput =>
    obtain ⟨-, -, hfinal⟩ := (finalizeHeldBackend_ends cfg st env).release hr
    exact .inl ⟨hinput, hfinal⟩
  | @toldIdle env =>
    rcases List.mem_append.1 hr with hr | hr
    · obtain ⟨-, -, hfinal⟩ := (finalizeHeldBackend_ends cfg st env).release hr
      exact .inl ⟨trivial, hfinal⟩
    · simp at hr
  | clientError | backendClosed | backendAsync => simp at hr

/-- **The backend held after a turn** was held before, or has just answered a cycle. -/
theorem sessionStep_held (h : sessionStep cfg st input = some (st', es))
    (hb : st'.heldBackend = some b) :
    st.heldBackend = some b ∨ ∃ fwd, input.Forwards cfg st fwd ∧
      ResultHeld cfg fwd.backend fwd.result b := by
  obtain ⟨-, o, hturned, rfl, -⟩ := turned_of_sessionStep h
  -- a session that is over holds nothing
  obtain ⟨hflow, hheld⟩ := flow_of_close_held hb
  cases hturned with
  | @frames frames env =>
    rcases handleFrameCycle_held hflow hheld with hsame | ⟨st₁, fwd, committedWrite, events,
      hattempt, hresult⟩
    · exact .inl hsame
    · exact .inr ⟨fwd, ⟨frames, env, st₁, committedWrite, events, rfl, hattempt⟩, hresult⟩
  | finalized _ hended => exact absurd hflow hended
  | toldIdle => exact absurd ((finalizeHeldBackend_done _ _ _).1.symm.trans hheld) (by simp)
  | clientError => cases hflow
  | backendClosed => cases hheld
  | backendAsync => exact .inl hheld

end

/-- A cycle of one simple query, on backend 7 unless one is held, answered with ReadyForQuery. -/
def queryCycle (sql : Text) (status : ReadyStatus) (dispose : DisposeEnv := {}) : SessionInput :=
  .frames [.query sql]
    { checkout := .leased 7
      forward := ⟨.done, [.backendRead (readyForQuery status) .done]⟩
      dispose }

end PgKinetic
