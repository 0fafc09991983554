import PgKinetic.Proxy.Turn

/-!
# Where a cycle goes

The events of a turn on a cycle are those of the attempt to forward it, followed by what becomes
of the backend, which the client takes no part in. A cycle is sent to the held backend or to
backends with last status `Idle` (`SendsTo`); a session pinned to the backend it holds sends it
there before anything else (`GoesFirstTo`).
-/

namespace PgKinetic

open List

/-- The events of an attempt. -/
def Attempt.events : Attempt → List SessionEvent
  | .ended outcome => outcome.events
  | .forwarded _ _ _ events => events

@[simp] theorem Attempt.events_after (a : Attempt) (events : List SessionEvent) :
    (a.after events).events = events ++ a.events := by
  cases a <;> rfl

/-- Cycles are sent to no backend but those that satisfy `P`. -/
def SendsTo (P : Backend → Prop) (events : List SessionEvent) : Prop :=
  ∀ b frames, .forwarded b frames ∈ events → P b

theorem SendsTo.append {P : Backend → Prop} {es₁ es₂ : List SessionEvent} (h₁ : SendsTo P es₁)
    (h₂ : SendsTo P es₂) : SendsTo P (es₁ ++ es₂) := by
  intro b frames hb
  rcases mem_append.1 hb with hb | hb
  · exact h₁ b frames hb
  · exact h₂ b frames hb

section

variable {cfg : SessionConfig} {st : SessionState} {b : Backend} {P : Backend → Prop}
  {frames : List FrontendMessage} {plans : List RequestPlan} {committedWrite : Bool}
  {env : CycleEnv}

theorem sendsTo_map_sentReady (sent : List ReadyStatus) : SendsTo P (sent.map .sentReady) := by
  intro b frames hb
  simp at hb

theorem sendsTo_errorResponseAndReady (clientWrite : Bool) (status : ReadyStatus) :
    SendsTo P (errorResponseAndReady st clientWrite status).events := by
  cases clientWrite <;> simp [SendsTo, errorResponseAndReady]

variable {fwd : Forwarded} {es events : List SessionEvent} {st' : SessionState}

theorem Forwarded.sendsTo_events (hb : P b) : SendsTo P (fwd.events b) := by
  intro b' frames hb'
  rcases mem_cons.1 hb' with h | h
  · cases h
    exact hb
  · exact absurd h (by simp)

theorem sendsTo_of_isQuiet (h : ∀ e ∈ events, e.IsQuiet) : SendsTo P events :=
  fun _ _ hb => (h _ hb).elim

/-- A cycle is sent to the held backend, or to one that has been checked out for it. -/
theorem attemptCycle_sendsTo (hreconnect : ∀ id, env.reconnect = some id → P ⟨id, .idle⟩)
    (hleased : st.heldBackend = none → ∀ id, env.checkout = .leased id → P ⟨id, .idle⟩)
    (hheld : ∀ b, st.heldBackend = some b → P b ∧ P { b with status := .idle }) :
    SendsTo P (attemptCycle cfg st frames env).events := by
  have hattempted := attempted_attemptCycle cfg st frames env
  generalize attemptCycle cfg st frames env = a at hattempted
  cases hattempted with
  | rejected => simp [SendsTo, Attempt.events]
  | ended _ hevents => exact fun b frames hb => by cases hevents _ hb
  | @ran _ _ _ b _ _ _ hb hruns =>
    have hP : P b ∧ P { b with status := .idle } := by
      rcases hb with hb | ⟨hnone, id, hid, rfl⟩
      · exact hheld b hb
      · exact ⟨hleased hnone id hid, hleased hnone id hid⟩
    have hforwarded : ∀ {st before b' fwd}, Prepares st b before b' →
        SendsTo P (before ++ Forwarded.events fwd b') := by
      intro st before b' fwd hb'
      refine SendsTo.append (sendsTo_of_isQuiet hb'.quiet) (Forwarded.sendsTo_events ?_)
      cases hb' with
      | asIs => exact hP.1
      | replayed => exact hP.2
    cases hruns with
    | replayFails => simp [SendsTo, Attempt.events, Outcome.after, SessionState.discard]
    | forwarded hb' => exact hforwarded hb'
    | gaveUp hb' _ hquiet =>
      refine ((hforwarded hb').append (sendsTo_of_isQuiet ?_)).append
        (sendsTo_errorResponseAndReady _ _)
      exact forall_mem_cons.2 ⟨trivial, hquiet⟩
    | retried hb' _ _ hquiet hid =>
      refine ((hforwarded hb').append (sendsTo_of_isQuiet ?_)).append
        (Forwarded.sendsTo_events (hreconnect _ hid))
      exact forall_mem_cons.2 ⟨trivial, hquiet⟩

/-- Nothing is sent to a backend on the client's behalf once its cycle has a result. -/
theorem handleForwardResult_sendsTo {result : ForwardResult} :
    SendsTo P (handleForwardResult cfg st b result committedWrite env).events := by
  intro b' frames hmem
  rcases (handleForwardResult_ends cfg st b result committedWrite env).events _ hmem with h | ⟨_, h⟩
  · cases h
  · cases h

/-- The events of a cycle that is sent to `b`, before anything else, and to no other backend
unless `b` has been discarded. -/
def GoesFirstTo (b : Backend) (events : List SessionEvent) : Prop :=
  SendsTo (fun _ => False) events ∨
    ∃ frames rest, events = .forwarded b frames :: rest ∧
      (SendsTo (fun _ => False) rest ∨ .discarded b.id ∈ rest)

/-- A pinned session sends its cycle to the backend it is pinned to, without a replay. -/
theorem attemptCycle_goesFirstTo (hheld : st.heldBackend = some b)
    (hpinned : st.pinnedBackend = some b.id) :
    GoesFirstTo b (attemptCycle cfg st frames env).events := by
  have hattempted := attempted_attemptCycle cfg st frames env
  generalize attemptCycle cfg st frames env = a at hattempted
  cases hattempted with
  | rejected => exact .inl (by simp [SendsTo, Attempt.events])
  | ended _ hevents => exact .inl fun b frames hb => by cases hevents _ hb
  | @ran _ session _ b₀ _ _ _ hb hruns =>
    obtain rfl : b₀ = b := by
      rcases hb with hb | ⟨hnone, -⟩
      · exact Option.some.inj (hb.symm.trans hheld)
      · exact absurd (hnone.symm.trans hheld) (by simp)
    -- settings are replayed only on a backend the session is not pinned to
    have hasIs : ∀ {before b'}, Prepares { st with session, heldBackend := none } b₀ before b' →
        before = [] ∧ b' = b₀ := by
      intro before b' hb'
      cases hb' with
      | asIs => exact ⟨rfl, rfl⟩
      | replayed hreplay => simp [shouldReplaySession, hpinned] at hreplay
    cases hruns with
    | replayFails =>
      exact .inl (by simp [SendsTo, Attempt.events, Outcome.after, SessionState.discard])
    | forwarded hb' =>
      obtain ⟨rfl, rfl⟩ := hasIs hb'
      exact .inr ⟨_, _, rfl, .inl (sendsTo_map_sentReady _)⟩
    -- the retry comes after the failed backend has been discarded
    | gaveUp hb' | retried hb' =>
      obtain ⟨rfl, rfl⟩ := hasIs hb'
      exact .inr ⟨_, _, rfl, .inr (by simp)⟩

theorem Outcome.close_events (o : Outcome) :
    ∃ rest, o.close.2 = o.events ++ rest ∧ ∀ P, SendsTo P rest := by
  unfold Outcome.close
  split
  · exact ⟨[], (append_nil _).symm, by simp [SendsTo]⟩
  · exact ⟨_, rfl, by simp [SendsTo]⟩

/-- The events of a turn on a cycle are those of the attempt and hidden ones. -/
theorem sessionStep_frames_events (h : sessionStep cfg st (.frames frames env) = some (st', es)) :
    ∃ rest, es = (attemptCycle cfg { st with waitForClientActivity := false } frames
      env).events ++ rest ∧ ∀ P, SendsTo P rest := by
  have hcycle : ∃ rest, (handleFrameCycle cfg { st with waitForClientActivity := false } frames
      env).events = (attemptCycle cfg { st with waitForClientActivity := false } frames
        env).events ++ rest ∧ ∀ P, SendsTo P rest := by
    unfold handleFrameCycle
    cases attemptCycle cfg { st with waitForClientActivity := false } frames env with
    | ended o => exact ⟨[], (append_nil _).symm, by simp [SendsTo]⟩
    | forwarded st₁ fwd committedWrite events =>
      exact ⟨_, rfl, fun _ => handleForwardResult_sendsTo⟩
  obtain ⟨rest, hevents, hrest⟩ := hcycle
  obtain ⟨-, -, rfl⟩ := frames_of_sessionStep h
  obtain ⟨closing, hclose, hclosing⟩ := Outcome.close_events (handleFrameCycle cfg
    { st with waitForClientActivity := false } frames env)
  refine ⟨rest ++ closing, ?_, fun P => (hrest P).append (hclosing P)⟩
  rw [hclose, hevents, append_assoc]

theorem GoesFirstTo.append {rest : List SessionEvent} (h : GoesFirstTo b es)
    (hrest : ∀ P, SendsTo P rest) : GoesFirstTo b (es ++ rest) := by
  rcases h with h | ⟨frames, es', rfl, h | h⟩
  · exact .inl (h.append (hrest _))
  · exact .inr ⟨frames, es' ++ rest, rfl, .inl (h.append (hrest _))⟩
  · exact .inr ⟨frames, es' ++ rest, rfl, .inr (mem_append_left _ h)⟩

/-! ### The backend that answers -/

/-- **A cycle with a result** has been planned and tracked, and is answered by a backend it was
sent to. -/
theorem attemptCycle_forwarded
    (h : attemptCycle cfg st frames env = .forwarded st' fwd committedWrite events) :
    (∃ plans session, requestPlansForFrames st.prepared frames = some plans ∧
      updateTransactionStateFromRequestPlans cfg.fullRoutingAnalysis st.session false plans =
        some (session, committedWrite)) ∧
    ∃ b written, fwd.backend.id = b.id ∧ .forwarded b written ∈ events := by
  have hattempted := attempted_attemptCycle cfg st frames env
  rw [h] at hattempted
  cases hattempted with
  | ran hplans hupdate _ hruns =>
    cases hruns with
    | forwarded _ hfwd =>
      refine ⟨⟨_, _, hplans, hupdate⟩, _, _, ?_, mem_append_right _ mem_cons_self⟩
      rw [hfwd]
      exact (forwardMessageCycle_from ..).id
    | retried _ _ _ _ _ hfwd' =>
      refine ⟨⟨_, _, hplans, hupdate⟩, _, _, ?_, mem_append_right _ mem_cons_self⟩
      rw [hfwd']
      exact (forwardMessageCycle_from ..).id

/-- **The backend held after a cycle** is one the cycle was sent to, or was held before a cycle
that was sent nowhere. -/
theorem sessionStep_frames_held (h : sessionStep cfg st (.frames frames env) = some (st', es))
    (hb : st'.heldBackend = some b) :
    (st.heldBackend = some b ∧ SendsTo (fun _ => False) es) ∨
      ∃ b' written, b.id = b'.id ∧ .forwarded b' written ∈ es := by
  obtain ⟨rest, hevents, hrest⟩ := sessionStep_frames_events h
  obtain ⟨-, rfl, -⟩ := frames_of_sessionStep h
  obtain ⟨hflow, hheld⟩ := flow_of_close_held hb
  rw [hevents]
  unfold handleFrameCycle at hflow hheld
  rcases attemptCycle_cases cfg { st with waitForClientActivity := false } frames env with
    hattempt | hattempt
  · rw [hattempt] at hheld ⊢
    exact .inl ⟨hheld, SendsTo.append (by simp [SendsTo, Attempt.events]) (hrest _)⟩
  · cases hresult : attemptCycle cfg { st with waitForClientActivity := false } frames env with
    | ended o =>
      rw [hresult] at hattempt hflow
      cases hattempt with
      | ended _ hended => exact absurd hflow hended
    | forwarded st₁ fwd committedWrite events =>
      rw [hresult] at hattempt hflow hheld
      obtain ⟨-, b', written, hid, hmem⟩ := attemptCycle_forwarded hresult
      have hbid : b.id = fwd.backend.id := by
        cases hattempt with
        | forwarded _ hnone _ _ =>
          have hafter : (st₁.afterForward fwd).heldBackend = none := hnone
          exact (((handleForwardResult_ends ..).continues hflow).2 hafter b hheld).id
      exact .inr ⟨b', written, hbid.trans hid, mem_append_left _ hmem⟩

end

end PgKinetic
