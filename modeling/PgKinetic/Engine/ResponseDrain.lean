import PgKinetic.Wire.Frame

/-!
# Cycle shapes and the response drain

A frontend cycle is a run of frames that the proxy forwards together. Its **shape** says how
many ReadyForQuery frames answer it, or, for a cycle delimited by `Flush`, how many terminating
replies. `BackendResponseDrain` goes through the frames the backend sends: it swallows replies
to Parse messages the proxy injected, counts, and forwards the rest.

The drain is kept as the counters that survive between reads (`BackendCycleProgress`); one call
of `drain_with` on the frames of one read is `drainWith`, with the callback `on_frame` folded
over the frames that are not swallowed.
-/

namespace PgKinetic

/-! ### Shapes -/

/-- `FrontendCycleShape`. -/
structure FrontendCycleShape where
  expectedReadyCount : Nat
  expectedCompletionCount : Nat
  needsSync : Bool
  deriving DecidableEq, Repr

/-- `expects_backend_completion`. -/
def expectsBackendCompletion (frame : FrontendMessage) : Bool :=
  match frame.tag with
  | some .parse | some .bind | some .describe | some .execute | some .close => true
  | _ => false

namespace FrontendCycleShape

/-- `FrontendCycleShape::from_frames`. -/
def fromFrames (frames : List FrontendMessage) : FrontendCycleShape :=
  let queryCount := frames.countP fun frame => frame.tag == some .query
  let endsWithSync := frames.getLast?.any fun frame => frame.tag == some .sync
  let expectedReadyCount := queryCount + endsWithSync.toNat
  { expectedReadyCount
    expectedCompletionCount :=
      if expectedReadyCount = 0 then frames.countP expectsBackendCompletion else 0
    needsSync := frames.any fun frame => frame.tag != some .query }

/-- `expects_ready`. -/
def expectsReady (shape : FrontendCycleShape) : Bool := 0 < shape.expectedReadyCount

/-- `expects_no_response`. -/
def expectsNoResponse (shape : FrontendCycleShape) : Bool :=
  shape.expectedReadyCount == 0 && shape.expectedCompletionCount == 0

end FrontendCycleShape

/-! ### The drain -/

/-- `is_backend_cycle_completion`. -/
def isBackendCycleCompletion (frame : BackendFrame) : Bool :=
  frame.hasTag .parseComplete || frame.hasTag .bindComplete || frame.hasTag .closeComplete ||
    frame.hasTag .rowDescription || frame.hasTag .noData || frame.hasTag .commandComplete ||
    frame.hasTag .emptyQueryResponse || frame.hasTag .portalSuspended

/-- `BackendCycleProgress`. -/
structure BackendCycleProgress where
  readyCount : Nat := 0
  injectedParseCompletes : Nat := 0
  completionCount : Nat := 0
  sawError : Bool := false
  responseStarted : Bool := false
  deriving DecidableEq, Repr

namespace BackendCycleProgress

/-- `flush_cycle_complete`. -/
def flushCycleComplete (progress : BackendCycleProgress) (shape : FrontendCycleShape) : Bool :=
  progress.sawError || shape.expectedCompletionCount ≤ progress.completionCount

/-- Whether the drain swallows the frame as the reply to an injected Parse. -/
def swallows (progress : BackendCycleProgress) (frame : BackendFrame) : Bool :=
  0 < progress.injectedParseCompletes && frame.hasTag .parseComplete

/-- The counters after a frame that is forwarded. -/
def forward (progress : BackendCycleProgress) (frame : BackendFrame) : BackendCycleProgress :=
  { progress with
    readyCount := progress.readyCount + frame.readyStatus.isSome.toNat
    completionCount := progress.completionCount + (isBackendCycleCompletion frame).toNat
    sawError := progress.sawError || frame.hasTag .errorResponse
    responseStarted := true }

end BackendCycleProgress

/-- What one call of `drain_with` leaves: the counters, the state of the callback, the frames to
forward, and the last ready status among them. -/
structure Drained (σ : Type) where
  progress : BackendCycleProgress
  acc : σ
  forwarded : List BackendFrame
  ready : Option ReadyStatus

/-- `BackendResponseDrain::drain_with` on the complete frames of the buffer. -/
def drainWith {σ : Type} (onFrame : σ → BackendFrame → σ) :
    BackendCycleProgress → σ → List BackendFrame → Drained σ
  | progress, acc, [] => ⟨progress, acc, [], none⟩
  | progress, acc, frame :: frames =>
    -- told by its tag and the count alone, not by the Parse it answers
    if progress.swallows frame then
      drainWith onFrame
        { progress with injectedParseCompletes := progress.injectedParseCompletes - 1 } acc frames
    else
      let rest := drainWith onFrame (progress.forward frame) (onFrame acc frame) frames
      { rest with
        forwarded := frame :: rest.forwarded
        ready := rest.ready <|> frame.readyStatus }

/-- The status with which a drained read ends the cycle: `ResponseDrainEvent::Frames` with
`ready` set. -/
def Drained.cycleReady {σ : Type} (drained : Drained σ) (shape : FrontendCycleShape) :
    Option ReadyStatus :=
  if shape.expectedReadyCount ≤ drained.progress.readyCount then drained.ready else none

theorem Drained.ready_of_cycleReady {σ : Type} {d : Drained σ} {shape : FrontendCycleShape}
    {status : ReadyStatus} (h : d.cycleReady shape = some status) : d.ready = some status := by
  unfold Drained.cycleReady at h
  split at h
  · exact h
  · cases h

end PgKinetic
