import PgKinetic.Proxy.Cycle
import PgKinetic.Wire.Stream

/-!
# The bytes of a relay

`forward_message_cycle` reads into a buffer that it did not clear: it may begin with the part of a
frame, and it may end with one. What the relay has **received** stands for the reads themselves,
wherever they were cut. Unless the relay fails on the bytes, the frames it has seen are those of
the buffer it began with and of what it has received, and the buffer it leaves is what remains
(`relay_received`).
-/

namespace PgKinetic

open List Option

/-- The bytes that a read from the backend brings. -/
def WireEvent.bytes : WireEvent → List Byte
  | .backendRead bytes _ => bytes
  | _ => []

namespace RelayState

variable (shape : FrontendCycleShape) (maxBuffer : Nat)

/-- One turn of the loop of `forward_message_cycle`: the state after it, and the result if it is
the last. -/
def onEvent (r : RelayState) (event : WireEvent) : RelayState × Option ForwardResult :=
  if maxBuffer ≤ r.backendRead.length then (r, some .bufferLimitExceeded)
  else
    match event with
    | .backendReadError => (r, some (.backendFailure .read r.progress.responseStarted))
    | .clientCopyRead backendWrite =>
      if !r.clientDrivesCopy then (r, none)
      else
        match backendWrite with
        | .done => (r, none)
        | .failed => (r, some (.backendFailure .write r.progress.responseStarted))
        | .stalled => (r, some (.timedOut r.progress.responseStarted))
    | .clientCopyReadError => (r, if r.clientDrivesCopy then some .error else none)
    | .clientClosed =>
      (r, if r.clientDrivesCopy then some (.abandonedResponse shape.needsSync) else none)
    | .backendRead bytes clientWrite =>
      let buffer := r.backendRead ++ bytes
      if bytes.isEmpty then (r, some (.backendFailure .read r.progress.responseStarted))
      else if maxBuffer < buffer.length then
        ({ r with backendRead := buffer }, some .bufferLimitExceeded)
      else
        match parseBackendFrames buffer with
        | .error _ => (r, some .error)
        | .ok (frames, rest) =>
          let drained := drainWith (ForwardCycleState.onFrame r.backend.id) r.progress r.state
            frames
          let r := r.afterRead drained rest clientWrite
          (r, r.resultAfterRead shape drained clientWrite)

/-- The loop, turn by turn. -/
theorem relay_cons (r : RelayState) (event : WireEvent) (events : List WireEvent) :
    relay shape maxBuffer r (event :: events) =
      match r.onEvent shape maxBuffer event with
      | (r, some result) => (r, result)
      | (r, none) => relay shape maxBuffer r events := by
  rw [relay.eq_def, onEvent.eq_def]
  dsimp only
  split
  · rfl
  · cases event with
    | backendReadError => rfl
    | clientCopyRead backendWrite =>
      dsimp only
      split
      · rfl
      · cases backendWrite <;> rfl
    | clientCopyReadError | clientClosed => cases r.clientDrivesCopy <;> rfl
    | backendRead bytes clientWrite =>
      dsimp only
      split
      · rfl
      · split
        · rfl
        · cases parseBackendFrames (r.backendRead ++ bytes) with
          | error e => rfl
          | ok parsed =>
            dsimp only
            split
            · rename_i hresult
              rw [hresult]
            · rename_i hresult
              rw [hresult]

/-- The bytes that one turn of the loop reads. -/
def reads (r : RelayState) (event : WireEvent) : List Byte :=
  if maxBuffer ≤ r.backendRead.length then [] else event.bytes

end RelayState

/-- The bytes a relay reads before it ends. -/
def relayReceived (shape : FrontendCycleShape) (maxBuffer : Nat) :
    RelayState → List WireEvent → List Byte
  | _, [] => []
  | r, event :: events =>
    r.reads maxBuffer event ++
      match r.onEvent shape maxBuffer event with
      | (_, some _) => []
      | (r, none) => relayReceived shape maxBuffer r events

section

variable {shape : FrontendCycleShape} {maxBuffer : Nat}

/-- **What a turn of the loop can do**: read nothing, fail on what it has read, or take the
complete frames off the buffer. -/
theorem RelayState.onEvent_cases (shape : FrontendCycleShape) (maxBuffer : Nat) (r : RelayState)
    (event : WireEvent) :
    (∃ result, r.onEvent shape maxBuffer event = (r, result) ∧ r.reads maxBuffer event = [] ∧
      ∀ kind started, result = some (.backendFailure kind started) →
        r.progress.responseStarted = started) ∨
    (∃ r', r.onEvent shape maxBuffer event = (r', some .error) ∨
      r.onEvent shape maxBuffer event = (r', some .bufferLimitExceeded)) ∨
    ∃ clientWrite frames rest,
      parseBackendFrames (r.backendRead ++ r.reads maxBuffer event) = .ok (frames, rest) ∧
      let drained := drainWith (ForwardCycleState.onFrame r.backend.id) r.progress r.state frames
      let r' := r.afterRead drained rest clientWrite
      r.onEvent shape maxBuffer event = (r', r'.resultAfterRead shape drained clientWrite) := by
  have hfailure : ∀ kind kind' started,
      some (ForwardResult.backendFailure kind r.progress.responseStarted) =
        some (.backendFailure kind' started) → r.progress.responseStarted = started :=
    fun kind kind' started h => (ForwardResult.backendFailure.inj (some.inj h)).2
  unfold onEvent reads
  split
  · exact .inl ⟨_, rfl, rfl, nofun⟩
  · cases event with
    | backendReadError => exact .inl ⟨_, rfl, rfl, hfailure _⟩
    | clientCopyReadError | clientClosed =>
      refine .inl ⟨_, rfl, rfl, ?_⟩
      cases r.clientDrivesCopy <;> nofun
    | clientCopyRead backendWrite =>
      left
      dsimp only
      split
      · exact ⟨_, rfl, rfl, nofun⟩
      · cases backendWrite with
        | done | stalled => exact ⟨_, rfl, rfl, nofun⟩
        | failed => exact ⟨_, rfl, rfl, hfailure _⟩
    | backendRead bytes clientWrite =>
      dsimp only [WireEvent.bytes]
      split
      · rename_i hempty
        exact .inl ⟨_, rfl, isEmpty_iff.1 hempty, hfailure _⟩
      · split
        · exact .inr (.inl ⟨_, .inr rfl⟩)
        · split
          · exact .inr (.inl ⟨_, .inl rfl⟩)
          · rename_i frames rest hparse
            exact .inr (.inr ⟨clientWrite, frames, rest, hparse, rfl⟩)

variable {r : RelayState} {kind : BackendFailureKind} {started : Bool} {σ : Type}
  {progress : BackendCycleProgress}

/-- A read that brings bytes does not end in a failure of the backend. -/
theorem RelayState.resultAfterRead_ne {drained : Drained ForwardCycleState}
    {clientWrite : WriteOutcome} :
    r.resultAfterRead shape drained clientWrite ≠ some (.backendFailure kind started) := by
  unfold resultAfterRead
  repeat' split
  all_goals nofun

/-- A failure of the backend says whether the response has started. -/
theorem relay_failure {events : List WireEvent}
    (h : (relay shape maxBuffer r events).2 = .backendFailure kind started) :
    (relay shape maxBuffer r events).1.progress.responseStarted = started := by
  induction events generalizing r with
  | nil => cases h
  | cons event events ih =>
    rw [RelayState.relay_cons] at h ⊢
    rcases r.onEvent_cases shape maxBuffer event with
      ⟨result, hturn, -, hfailure⟩ | ⟨r', hturn | hturn⟩ | ⟨clientWrite, frames, rest, -, hturn⟩
    · rw [hturn] at h ⊢
      cases result with
      | some result => exact hfailure kind started (congrArg some h)
      | none => exact ih h
    · rw [hturn] at h
      cases h
    · rw [hturn] at h
      cases h
    · rw [hturn] at h ⊢
      generalize hread : RelayState.resultAfterRead _ shape _ clientWrite = result at h ⊢
      cases result with
      | some result => exact absurd (hread.trans (congrArg some h)) RelayState.resultAfterRead_ne
      | none => exact ih h

/-- A response that has started stays so. -/
theorem drainWith_started {onFrame : σ → BackendFrame → σ} {acc : σ}
    (h : progress.responseStarted = true) (frames : List BackendFrame) :
    (drainWith onFrame progress acc frames).progress.responseStarted = true := by
  induction frames generalizing progress acc with
  | nil => exact h
  | cons frame frames ih =>
    rw [drainWith]
    split
    · exact ih h
    · exact ih rfl

/-- A drain that forwards nothing, with nothing to swallow, has seen no frame. -/
theorem eq_nil_of_unstarted {onFrame : σ → BackendFrame → σ} {acc : σ} {frames : List BackendFrame}
    (hinjected : progress.injectedParseCompletes = 0)
    (h : (drainWith onFrame progress acc frames).progress.responseStarted = false) :
    frames = [] := by
  cases frames with
  | nil => rfl
  | cons frame frames =>
    have hkept : progress.swallows frame = false := by
      rw [BackendCycleProgress.swallows, hinjected]
      rfl
    rw [drainWith, if_neg (by rw [hkept]; exact Bool.false_ne_true)] at h
    have hforwarded : (progress.forward frame).responseStarted = true := rfl
    exact absurd ((drainWith_started hforwarded frames).symm.trans h) (by decide)

theorem relay_started (h : r.progress.responseStarted = true) (events : List WireEvent) :
    (relay shape maxBuffer r events).1.progress.responseStarted = true := by
  refine relay_rule (I := fun r => r.progress.responseStarted = true)
    (Q := fun r _ => r.progress.responseStarted = true) (fun r frames rest clientWrite hr => ?_)
    (fun r buffer result hr _ => hr) h events
  exact ⟨fun _ _ => drainWith_started hr frames, fun _ => drainWith_started hr frames⟩

/-- The results with which the relay fails on the bytes themselves. -/
def ForwardResult.RefusesBytes (result : ForwardResult) : Prop :=
  result = .error ∨ result = .bufferLimitExceeded

/-- **What a relay has received.** Its frames are those of the buffer it began with and the bytes
it has read; the buffer it leaves is what remains of them. If nothing was to be swallowed and no
response has started, there is no frame. -/
theorem relay_received (shape : FrontendCycleShape) (maxBuffer : Nat) (r : RelayState)
    (events : List WireEvent)
    (hpending : parseBackendFrames r.backendRead = .ok ([], r.backendRead)) :
    (relay shape maxBuffer r events).2.RefusesBytes ∨
      ∃ frames, parseBackendFrames
          (r.backendRead ++ relayReceived shape maxBuffer r events) =
          .ok (frames, (relay shape maxBuffer r events).1.backendRead) ∧
        (r.progress.injectedParseCompletes = 0 →
          (relay shape maxBuffer r events).1.progress.responseStarted = false → frames = []) := by
  induction events generalizing r with
  | nil => exact .inr ⟨[], by rw [relayReceived, append_nil]; exact hpending, fun _ _ => rfl⟩
  | cons event events ih =>
    rw [RelayState.relay_cons, relayReceived]
    rcases r.onEvent_cases shape maxBuffer event with
      ⟨result, hturn, hreads, -⟩ | ⟨r', hturn | hturn⟩ |
        ⟨clientWrite, frames, rest, hparse, hturn⟩
    · rw [hturn, hreads, nil_append]
      cases result with
      | some result => exact .inr ⟨[], by rw [append_nil]; exact hpending, fun _ _ => rfl⟩
      | none => exact ih r hpending
    · rw [hturn]
      exact .inl (.inl rfl)
    · rw [hturn]
      exact .inl (.inr rfl)
    · -- the frames of this read come first, then those of the reads after it
      rw [hturn]
      set drained := drainWith (ForwardCycleState.onFrame r.backend.id) r.progress r.state frames
      cases (r.afterRead drained rest clientWrite).resultAfterRead shape drained clientWrite with
      | some result =>
        refine .inr ⟨frames, ?_, fun hinjected hstarted => ?_⟩
        · rw [append_nil]
          exact hparse
        · exact eq_nil_of_unstarted hinjected hstarted
      | none =>
        have hrest : parseBackendFrames (r.afterRead drained rest clientWrite).backendRead =
            .ok ([], (r.afterRead drained rest clientWrite).backendRead) :=
          parseBackendFrames_rest hparse
        rcases ih (r.afterRead drained rest clientWrite) hrest with
          hrefuses | ⟨later, hlater, hunstarted⟩
        · exact .inl hrefuses
        · refine .inr ⟨frames ++ later, ?_, fun hinjected hstarted => ?_⟩
          · rw [← append_assoc, parseBackendFrames_append hparse]
            exact congrArg (Except.map _) hlater
          · have hbefore : drained.progress.responseStarted = false := by
              by_contra hstarted'
              have hafter : (r.afterRead drained rest clientWrite).progress.responseStarted =
                  true := eq_true_of_ne_false hstarted'
              exact absurd ((relay_started hafter events).symm.trans hstarted) (by decide)
            have hframes := eq_nil_of_unstarted hinjected hbefore
            have hkept : drained.progress.injectedParseCompletes = 0 := by
              rw [← hinjected]
              simp only [drained, hframes, drainWith]
            rw [hframes, nil_append]
            exact hunstarted hkept hstarted

end

/-! ### One attempt -/

/-- The bytes an attempt to forward a cycle reads from its backend. -/
def forwardReceived (maxBuffer : Nat) (session : VirtualSession) (prepared : PreparedCatalog)
    (backend : Backend) (backendRead : List Byte) (frames : List FrontendMessage)
    (commands : List SqlCommand) (env : ForwardEnv) : List Byte :=
  match planFrontendCycle backend.id session prepared commands frames with
  | none => []
  | some planned =>
    let shape := FrontendCycleShape.fromFrames frames
    if env.backendWrite = .done ∧ !shape.expectsNoResponse then
      relayReceived shape maxBuffer (planned.relayStart backend backendRead) env.events
    else []

variable {session : VirtualSession} {prepared : PreparedCatalog} {commands : List SqlCommand}
  {frames : List FrontendMessage}

/-- No Parse is injected into a cycle of simple queries. -/
theorem injectedParseCompletes_of_queries {backendId : BackendId} {planned : PlannedCycle}
    (hqueries : ∀ frame ∈ frames, frame.tag = some .query)
    (h : planFrontendCycle backendId session prepared commands frames = some planned) :
    planned.injectedParseCompletes = 0 := by
  induction frames generalizing session prepared commands planned with
  | nil =>
    obtain rfl := some.inj h
    rfl
  | cons frame frames ih =>
    obtain ⟨prepared', group, session', commands', rest, hframe, -, hrest, rfl⟩ :=
      planFrontendCycle_cons_eq_some h
    have hgroup : group = [⟨frame, false⟩] := by
      have htag := hqueries frame mem_cons_self
      cases frame with
      | query sql => exact (Prod.mk.inj (some.inj hframe)).2.symm
      | malformed tag =>
        obtain rfl := some.inj htag
        exact (Prod.mk.inj (some.inj hframe)).2.symm
      | other tag => cases htag
      | _ => cases some.inj htag
    have hnone := ih (fun f hf => hqueries f (mem_cons_of_mem _ hf)) hrest
    rw [PlannedCycle.injectedParseCompletes] at hnone ⊢
    rw [hgroup, countP_append, hnone]
    rfl

/-- **What an attempt has received.** -/
theorem forward_received {maxBuffer : Nat} {b : Backend} {backendRead : List Byte}
    {env : ForwardEnv} (hpending : parseBackendFrames backendRead = .ok ([], backendRead)) :
    let fwd := forwardMessageCycle maxBuffer session prepared b backendRead frames commands env
    let received := forwardReceived maxBuffer session prepared b backendRead frames commands env
    fwd.result.RefusesBytes ∨
      ∃ seen, parseBackendFrames (backendRead ++ received) = .ok (seen, fwd.backendRead) ∧
        ((∀ frame ∈ frames, frame.tag = some .query) →
          ∀ kind, fwd.result = .backendFailure kind false → seen = []) := by
  unfold forwardMessageCycle forwardReceived
  have hunread : parseBackendFrames (backendRead ++ []) = .ok ([], backendRead) := by
    rw [append_nil]
    exact hpending
  cases hplan : planFrontendCycle b.id session prepared commands frames with
  | none => exact .inl (.inl rfl)
  | some planned =>
    cases hwrite : env.backendWrite with
    | failed | stalled => exact .inr ⟨[], hunread, fun _ _ _ => rfl⟩
    | done =>
      dsimp only
      cases hshape : (FrontendCycleShape.fromFrames frames).expectsNoResponse with
      | true => exact .inr ⟨[], hunread, fun _ _ _ => rfl⟩
      | false =>
        rcases relay_received (FrontendCycleShape.fromFrames frames) maxBuffer
          (planned.relayStart b backendRead) env.events hpending with
          hrefuses | ⟨seen, hseen, hunstarted⟩
        · exact .inl hrefuses
        · refine .inr ⟨seen, hseen, fun hqueries kind hfailure => ?_⟩
          exact hunstarted (injectedParseCompletes_of_queries hqueries hplan)
            (relay_failure hfailure)

end PgKinetic
