import PgKinetic.Proxy.RelayBytes

/-!
# Where a relay ends

The relay of a cycle goes on until the counters of the drain say that the answer is complete
(`completedBy`). They are looked at after each read, with all the frames it has completed, so where
the relay ends depends on how the answer is cut into reads; it does not, and the relay takes exactly
the answer, if the counters are complete **after its last frame and not before** it
(`EndsAt`, `relay_of_waitsFor`).
-/

namespace PgKinetic

open List BackendCycleProgress FrontendCycleShape RelayState

/-! ### The counters of the drain -/

namespace BackendCycleProgress

/-- The counters after one frame of the drain, swallowed or forwarded. -/
def absorb (progress : BackendCycleProgress) (frame : BackendFrame) : BackendCycleProgress :=
  if progress.swallows frame then
    { progress with injectedParseCompletes := progress.injectedParseCompletes - 1 }
  else progress.forward frame

/-- A frame that is swallowed is no ReadyForQuery. -/
theorem readyStatus_of_swallows {progress : BackendCycleProgress} {frame : BackendFrame}
    (h : progress.swallows frame = true) : frame.readyStatus = none := by
  have htag : frame.hasTag .parseComplete = true := (Bool.and_eq_true_iff.1 h).2
  rw [BackendFrame.readyStatus, BackendFrame.hasTag_eq_false htag .readyForQuery (by decide)]
  rfl

theorem readyCount_absorb (progress : BackendCycleProgress) (frame : BackendFrame) :
    (progress.absorb frame).readyCount = progress.readyCount + frame.readyStatus.isSome.toNat := by
  unfold absorb
  split
  · rename_i hswallows
    rw [readyStatus_of_swallows hswallows]
    rfl
  · rfl

theorem readyCount_foldl (progress : BackendCycleProgress) (frames : List BackendFrame) :
    (frames.foldl absorb progress).readyCount =
      progress.readyCount + frames.countP (·.readyStatus.isSome) := by
  induction frames generalizing progress with
  | nil => rfl
  | cons frame frames ih =>
    rw [foldl_cons, ih, readyCount_absorb, countP_cons, Nat.add_assoc]
    cases frame.readyStatus.isSome <;> simp [Nat.add_comm]

end BackendCycleProgress

section

variable {σ : Type} (onFrame : σ → BackendFrame → σ)

theorem drainWith_progress (progress : BackendCycleProgress) (acc : σ)
    (frames : List BackendFrame) :
    (drainWith onFrame progress acc frames).progress = frames.foldl absorb progress := by
  induction frames generalizing progress acc with
  | nil => rfl
  | cons frame frames ih =>
    rw [drainWith, foldl_cons, absorb]
    split
    · exact ih _ _
    · exact ih _ _

/-- A drain has met a ReadyForQuery if there is one among the frames. -/
theorem drainWith_ready_eq_none_iff (progress : BackendCycleProgress) (acc : σ)
    (frames : List BackendFrame) :
    (drainWith onFrame progress acc frames).ready = none ↔
      ∀ frame ∈ frames, frame.readyStatus = none := by
  induction frames generalizing progress acc with
  | nil => exact ⟨fun _ => forall_mem_nil _, fun _ => rfl⟩
  | cons frame frames ih =>
    rw [drainWith, forall_mem_cons]
    split
    · rename_i hswallows
      rw [ih]
      exact ⟨fun h => ⟨readyStatus_of_swallows hswallows, h⟩, And.right⟩
    · dsimp only
      rw [← ih (progress.forward frame) (onFrame acc frame)]
      cases (drainWith onFrame (progress.forward frame) (onFrame acc frame) frames).ready with
      | none => exact ⟨fun h => ⟨h, rfl⟩, And.left⟩
      | some status =>
        refine ⟨fun h => ?_, fun h => ?_⟩
        · cases h
        · cases h.2

end

/-! ### Complete counters -/

namespace FrontendCycleShape

variable (shape : FrontendCycleShape)

/-- The counters say that the answer to the cycle is complete. -/
def completedBy (progress : BackendCycleProgress) : Bool :=
  if shape.expectsReady then shape.expectedReadyCount ≤ progress.readyCount
  else progress.flushCycleComplete shape

/-- The counters are complete in front of none of the frames. -/
def WaitsFor : BackendCycleProgress → List BackendFrame → Prop
  | _, [] => True
  | progress, frame :: frames =>
    shape.completedBy progress = false ∧ WaitsFor (progress.absorb frame) frames

/-- **The counters are complete after the last frame**, and not before. -/
def EndsAt (progress : BackendCycleProgress) (frames : List BackendFrame) : Prop :=
  shape.WaitsFor progress frames ∧
    shape.completedBy (frames.foldl absorb progress) = true

variable {shape}

variable {progress : BackendCycleProgress} {first later : List BackendFrame}

theorem waitsFor_append :
    shape.WaitsFor progress (first ++ later) ↔ shape.WaitsFor progress first ∧
      shape.WaitsFor (first.foldl absorb progress) later := by
  induction first generalizing progress with
  | nil => exact ⟨fun h => ⟨trivial, h⟩, And.right⟩
  | cons frame first ih => rw [cons_append, WaitsFor, WaitsFor, ih, and_assoc, foldl_cons]

theorem endsAt_append :
    shape.EndsAt progress (first ++ later) ↔ shape.WaitsFor progress first ∧
      shape.EndsAt (first.foldl absorb progress) later := by
  rw [EndsAt, EndsAt, waitsFor_append, foldl_append, and_assoc]

/-- Frames are waited for if no part of them in front of the last frame is complete. -/
theorem waitsFor_iff {frames : List BackendFrame} :
    shape.WaitsFor progress frames ↔ ∀ first later, frames = first ++ later → later ≠ [] →
      shape.completedBy (first.foldl absorb progress) = false := by
  constructor
  · rintro h first later rfl hlater
    obtain ⟨frame, later, rfl⟩ := exists_cons_of_ne_nil hlater
    exact (waitsFor_append.1 h).2.1
  · intro h
    induction frames generalizing progress with
    | nil => trivial
    | cons frame frames ih =>
      refine ⟨h [] _ rfl (cons_ne_nil _ _), ih fun first later hframes hlater => ?_⟩
      exact h (frame :: first) later (by rw [hframes, cons_append]) hlater

end FrontendCycleShape

/-! ### One read -/

variable {shape : FrontendCycleShape} {maxBuffer : Nat}

variable {r : RelayState} {frames : List BackendFrame} {rest : List Byte} {event : WireEvent}

/-- A read that goes well ends the relay exactly if the counters are complete after it. A cycle
without ReadyForQuery must not get one. -/
theorem RelayState.resultAfterRead_done (hbefore : shape.completedBy r.progress = false)
    (hready : shape.expectsReady = false → ∀ frame ∈ frames, frame.readyStatus = none) :
    let drained := drainWith (ForwardCycleState.onFrame r.backend.id) r.progress r.state frames
    let r' := r.afterRead drained rest .done
    r'.progress = frames.foldl absorb r.progress ∧
      (shape.completedBy r'.progress = false ∧ r'.resultAfterRead shape drained .done = none ∨
        shape.completedBy r'.progress = true ∧
          ∃ result, r'.resultAfterRead shape drained .done = some result ∧ result.Completes) := by
  intro drained r'
  have hprogress : r'.progress = frames.foldl absorb r.progress := drainWith_progress _ _ _ _
  have hnone : drained.ready = none ↔ ∀ frame ∈ frames, frame.readyStatus = none :=
    drainWith_ready_eq_none_iff _ _ _ _
  refine ⟨hprogress, ?_⟩
  have hsame : drained.progress = r'.progress := rfl
  have hended : ∀ status, drained.cycleReady shape = some status →
      r'.resultAfterRead shape drained .done = some (.ready status) := by
    intro status hstatus
    rw [resultAfterRead, if_neg (by simp), if_neg (by simp), hstatus]
  have hflush : drained.cycleReady shape = none → r'.resultAfterRead shape drained .done =
      if !shape.expectsReady && r'.progress.flushCycleComplete shape then some .flushed
      else none := by
    intro hstatus
    rw [resultAfterRead, if_neg (by simp), if_neg (by simp), hstatus]
  cases hexpects : shape.expectsReady with
  | false =>
    rw [hflush (by rw [Drained.cycleReady, hnone.2 (hready hexpects), ite_self]), hexpects,
      completedBy, hexpects, if_neg Bool.false_ne_true]
    cases r'.progress.flushCycleComplete shape with
    | false => exact .inl ⟨rfl, rfl⟩
    | true => exact .inr ⟨rfl, _, rfl, trivial⟩
  | true =>
    rw [completedBy, hexpects, if_pos rfl] at hbefore ⊢
    have hbefore : ¬shape.expectedReadyCount ≤ r.progress.readyCount := of_decide_eq_false hbefore
    by_cases hafter : shape.expectedReadyCount ≤ r'.progress.readyCount
    · -- The count was not reached before, so there is a ReadyForQuery among the frames.
      have hsome : drained.ready ≠ none := by
        intro hready
        have hzero : frames.countP (·.readyStatus.isSome) = 0 := by
          rw [countP_eq_zero]
          intro frame hframe
          rw [hnone.1 hready frame hframe]
          exact Bool.false_ne_true
        rw [hprogress, readyCount_foldl, hzero] at hafter
        exact hbefore hafter
      obtain ⟨status, hstatus⟩ := Option.ne_none_iff_exists'.1 hsome
      have hcycle : drained.cycleReady shape = some status := by
        rw [Drained.cycleReady, hsame, if_pos hafter, hstatus]
      exact .inr ⟨decide_eq_true hafter, _, hended status hcycle, trivial⟩
    · have hcycle : drained.cycleReady shape = none := by
        rw [Drained.cycleReady, hsame, if_neg hafter]
      rw [hflush hcycle, hexpects]
      exact .inl ⟨decide_eq_false hafter, rfl⟩

/-! ### A whole relay -/

/-- A read that goes well: bytes of the backend that are written to the client, or bytes of the
client that are written to the backend during a copy. -/
def WireEvent.Succeeds : WireEvent → Prop
  | .backendRead bytes clientWrite => bytes ≠ [] ∧ clientWrite = .done
  | .clientCopyRead backendWrite => backendWrite = .done
  | _ => False

/-- The bytes that the reads bring from the backend. -/
def receivedBytes (events : List WireEvent) : List Byte := events.flatMap WireEvent.bytes

/-- The loop is still waiting, or the buffer is full. -/
def ForwardResult.Waits (result : ForwardResult) : Prop :=
  (∃ started, result = .timedOut started) ∨ result = .bufferLimitExceeded

/-- **What a turn of the loop does with a read that goes well**: stop at a full buffer, or take the
complete frames off it and go on exactly if the counters are not complete. -/
theorem RelayState.onEvent_succeeds {more : List Byte} (hevent : event.Succeeds)
    (hpending : parseBackendFrames r.backendRead = .ok ([], r.backendRead))
    (hbefore : shape.completedBy r.progress = false)
    (hparse : parseBackendFrames (r.backendRead ++ (event.bytes ++ more)) = .ok (frames, rest))
    (hready : shape.expectsReady = false → ∀ frame ∈ frames, frame.readyStatus = none) :
    (r.onEvent shape maxBuffer event).2 = some .bufferLimitExceeded ∨
      ∃ r' first later, frames = first ++ later ∧
        r'.progress = first.foldl absorb r.progress ∧
        parseBackendFrames r'.backendRead = .ok ([], r'.backendRead) ∧
        parseBackendFrames (r'.backendRead ++ more) = .ok (later, rest) ∧
        (shape.completedBy r'.progress = false ∧ r.onEvent shape maxBuffer event = (r', none) ∨
          shape.completedBy r'.progress = true ∧
            ∃ result, r.onEvent shape maxBuffer event = (r', some result) ∧ result.Completes) := by
  unfold onEvent
  split
  · exact .inl rfl
  cases event with
  | backendReadError | clientCopyReadError | clientClosed => exact hevent.elim
  | clientCopyRead backendWrite =>
    obtain rfl : backendWrite = .done := hevent
    refine .inr ⟨r, [], frames, rfl, rfl, hpending, hparse, .inl ⟨hbefore, ?_⟩⟩
    dsimp only
    split <;> rfl
  | backendRead bytes clientWrite =>
    obtain ⟨hne, rfl⟩ : bytes ≠ [] ∧ clientWrite = .done := hevent
    dsimp only
    rw [if_neg (by simpa using hne)]
    split
    · exact .inl rfl
    rw [WireEvent.bytes, ← append_assoc] at hparse
    obtain ⟨first, left, later, hfirst, hlater, rfl⟩ := parseBackendFrames_split hparse
    rw [hfirst]
    dsimp only
    obtain ⟨hprogress, hresult⟩ := @RelayState.resultAfterRead_done shape r first left hbefore
      fun h frame hframe => hready h frame (mem_append_left _ hframe)
    refine .inr ⟨_, first, later, rfl, hprogress, parseBackendFrames_rest hfirst, hlater, ?_⟩
    rcases hresult with ⟨hnot, hnone⟩ | ⟨hcompleted, result, hsome, hcompletes⟩
    · exact .inl ⟨hnot, by rw [hnone]⟩
    · exact .inr ⟨hcompleted, result, by rw [hsome], hcompletes⟩

theorem relay_of_limit (events : List WireEvent)
    (h : (r.onEvent shape maxBuffer event).2 = some .bufferLimitExceeded) :
    (relay shape maxBuffer r (event :: events)).2 = .bufferLimitExceeded := by
  rw [relay_cons]
  split
  · rename_i hturn
    rw [hturn] at h
    exact Option.some.inj h
  · rename_i hturn
    rw [hturn] at h
    cases h

section

variable {events : List WireEvent}

/-- **Where the relay ends**, if the counters are complete in front of none of the frames it gets:
it waits as long as they are not complete after them, and has taken all of them if they are. -/
theorem relay_of_waitsFor (hevents : ∀ event ∈ events, event.Succeeds)
    (hpending : parseBackendFrames r.backendRead = .ok ([], r.backendRead))
    (hparse : parseBackendFrames (r.backendRead ++ receivedBytes events) = .ok (frames, rest))
    (hready : shape.expectsReady = false → ∀ frame ∈ frames, frame.readyStatus = none)
    (hbefore : shape.completedBy r.progress = false) (hwaits : shape.WaitsFor r.progress frames) :
    let ended := relay shape maxBuffer r events
    let completed := shape.completedBy (frames.foldl absorb r.progress)
    (completed = false → ended.2.Waits) ∧
      (completed = true → rest = [] → ended.2 = .bufferLimitExceeded ∨
        ended.2.Completes ∧ ended.1.backendRead = []) := by
  induction events generalizing r frames with
  | nil =>
    rw [receivedBytes, flatMap_nil, append_nil, hpending] at hparse
    cases hparse
    exact ⟨fun _ => .inl ⟨_, rfl⟩, fun h => absurd (h.symm.trans hbefore) (by decide)⟩
  | cons event events ih =>
    rcases @RelayState.onEvent_succeeds shape maxBuffer r frames _ event _
      (hevents _ mem_cons_self) hpending hbefore hparse hready with
      hlimit | ⟨r', first, later, rfl, hprogress, hpending', hlater, hturn⟩
    · have hended := relay_of_limit events hlimit
      exact ⟨fun _ => .inr hended, fun _ _ => .inl hended⟩
    · rw [waitsFor_append, ← hprogress] at hwaits
      rw [foldl_append, ← hprogress]
      rcases hturn with ⟨hnot, hturn⟩ | ⟨hcompleted, result, hturn, hcompletes⟩
      · rw [relay_cons, hturn]
        exact ih (fun e he => hevents e (mem_cons_of_mem _ he)) hpending' hlater
          (fun h frame hframe => hready h frame (mem_append_right _ hframe)) hnot hwaits.2
      · -- Complete counters in front of the last frame, or after it.
        cases later with
        | nil =>
          refine ⟨fun h => absurd (hcompleted.symm.trans h) (by decide), fun _ hrest => .inr ?_⟩
          have hnil := hrest ▸ eq_of_parse_nil hlater
          rw [relay_cons, hturn]
          exact ⟨hcompletes, (append_eq_nil_iff.1 hnil.symm).1⟩
        | cons frame later => exact absurd (hcompleted.symm.trans hwaits.2.1) (by decide)

end

end PgKinetic
