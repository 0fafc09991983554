import PgKinetic.Proxy.CycleEnd
import PgKinetic.Security.Scram

/-!
# The two drivers of the response drain

An answer is drained in two ways. The io_uring runtime keeps **one `BackendResponseDrain`** for the
cycle and hands it each read (`drain_backend_response_bytes`); the default path has a
`BackendCycleProgress` instead, and at each read resumes a **fresh drain** from it, whose counters
it stores back (`classify_backend_frames`). One flag of the record is kept elsewhere, in
`QueryProgress`, and put in before the drain is resumed.

`Agree` relates the two and is kept by every read (`Agree.read`). What either of them has done after
some reads is a function of the frames these reads complete (`Follows`): the counters, the bytes
that were forwarded, and whether completion has been reported. So the report comes with the read
that brings **one and the same frame**, the first after which the counters are complete.
-/

namespace PgKinetic

open List Option BackendCycleProgress

namespace DrainDrivers

open Scram

/-! ### The drain -/

/-- `BackendResponseDrain`. -/
structure BackendResponseDrain where
  injectedParseCompletes : Nat
  readyCount : Nat
  expectedReadyCount : Nat
  completionCount : Nat
  expectedCompletionCount : Nat
  sawError : Bool
  responseStarted : Bool
  deriving DecidableEq, Repr

namespace BackendResponseDrain

/-- `BackendResponseDrain::for_cycle`. -/
def forCycle (shape : FrontendCycleShape) (injectedParseCompletes : Nat) :
    BackendResponseDrain where
  injectedParseCompletes
  readyCount := 0
  expectedReadyCount := shape.expectedReadyCount
  completionCount := 0
  expectedCompletionCount := shape.expectedCompletionCount
  sawError := false
  responseStarted := false

/-- `BackendResponseDrain::resume`. -/
def resume (shape : FrontendCycleShape) (progress : BackendCycleProgress) :
    BackendResponseDrain where
  injectedParseCompletes := progress.injectedParseCompletes
  readyCount := progress.readyCount
  expectedReadyCount := shape.expectedReadyCount
  completionCount := progress.completionCount
  expectedCompletionCount := shape.expectedCompletionCount
  sawError := progress.sawError
  responseStarted := progress.responseStarted

/-- `BackendResponseDrain::progress`. -/
def progress (drain : BackendResponseDrain) : BackendCycleProgress where
  readyCount := drain.readyCount
  injectedParseCompletes := drain.injectedParseCompletes
  completionCount := drain.completionCount
  sawError := drain.sawError
  responseStarted := drain.responseStarted

@[simp]
theorem progress_resume (shape : FrontendCycleShape) (progress : BackendCycleProgress) :
    (resume shape progress).progress = progress := rfl

/-- `BackendResponseDrain::expects_ready`. -/
def expectsReady (drain : BackendResponseDrain) : Bool := 0 < drain.expectedReadyCount

/-- `BackendResponseDrain::flush_cycle_complete`. -/
def flushCycleComplete (drain : BackendResponseDrain) : Bool :=
  drain.sawError || drain.expectedCompletionCount ≤ drain.completionCount

end BackendResponseDrain

/-- A frame as it is forwarded: header and payload. -/
abbrev WireFrame := List Byte × List Byte

/-- The header that the drain writes for a frame, and its payload. -/
def wireFrame (frame : BackendFrame) : WireFrame :=
  (frame.tag :: i32ToBytes (frame.payload.length + 4), frame.payload)

/-- The bytes of forwarded frames. -/
def bytesOf (forwarded : List WireFrame) : List Byte :=
  forwarded.flatMap fun frame => frame.1 ++ frame.2

theorem bytesOf_append (first later : List WireFrame) :
    bytesOf (first ++ later) = bytesOf first ++ bytesOf later :=
  flatMap_append

/-- The variables of the loop of `drain_with`, with what the callback changes. -/
structure DrainLoop (σ : Type) where
  drain : BackendResponseDrain
  acc : σ
  forwarded : List WireFrame := []
  ready : Option ReadyStatus := none

/-- One turn of the loop of `drain_with`. -/
def DrainLoop.onFrame {σ : Type} (callback : σ → BackendFrame → σ) (loop : DrainLoop σ)
    (frame : BackendFrame) : DrainLoop σ :=
  if 0 < loop.drain.injectedParseCompletes && frame.hasTag .parseComplete then
    { loop with
      drain := { loop.drain with
        injectedParseCompletes := loop.drain.injectedParseCompletes - 1 } }
  else
    { drain := { loop.drain with
        responseStarted := true
        readyCount := loop.drain.readyCount + frame.readyStatus.isSome.toNat
        completionCount := loop.drain.completionCount + (isBackendCycleCompletion frame).toNat
        sawError := loop.drain.sawError || frame.hasTag .errorResponse }
      acc := callback loop.acc frame
      forwarded := loop.forwarded ++ [wireFrame frame]
      ready := frame.readyStatus <|> loop.ready }

/-- `ResponseDrainEvent`. -/
inductive ResponseDrainEvent where
  | frames (ready : Option ReadyStatus) (responseStarted : Bool)
  | bufferLimitExceeded
  | needMoreBytes
  deriving DecidableEq, Repr

/-- The event that `drain_with` returns after its loop. -/
def DrainLoop.event {σ : Type} (loop : DrainLoop σ) : ResponseDrainEvent :=
  if loop.ready.isSome && loop.drain.expectedReadyCount ≤ loop.drain.readyCount then
    .frames loop.ready loop.drain.responseStarted
  else if loop.forwarded.isEmpty then .needMoreBytes
  else .frames none loop.drain.responseStarted

namespace BackendResponseDrain

/-- `BackendResponseDrain::drain_with`: its event, its variables and what stays in the buffer. -/
def drainWith {σ : Type} (callback : σ → BackendFrame → σ) (drain : BackendResponseDrain) (acc : σ)
    (buffer : List Byte) : Except WireError (ResponseDrainEvent × DrainLoop σ × List Byte) :=
  (parseBackendFrames buffer).map fun parsed =>
    let loop := parsed.1.foldl (DrainLoop.onFrame callback) { drain, acc }
    (loop.event, loop, parsed.2)

/-- `BackendResponseDrain::drain_with_limit`. -/
def drainWithLimit (drain : BackendResponseDrain) (buffer : List Byte)
    (maxBackendBufferBytes : Nat) :
    Except WireError (ResponseDrainEvent × DrainLoop Unit × List Byte) :=
  if maxBackendBufferBytes < buffer.length then
    .ok (.bufferLimitExceeded, { drain, acc := () }, buffer)
  else drain.drainWith (fun acc _ => acc) () buffer

end BackendResponseDrain

/-- `BackendBytesDrainEvent`. -/
inductive BackendBytesDrainEvent where
  | bytes (bytes : List Byte) (ready : Option ReadyStatus)
  | bufferLimitExceeded
  | needMoreBytes
  deriving DecidableEq, Repr

/-- `drain_backend_response_bytes`: its event, the drain after it, and what stays in the buffer. -/
def drainBackendResponseBytes (buffer : List Byte) (drain : BackendResponseDrain)
    (maxBackendBufferBytes : Nat) :
    Except WireError (BackendBytesDrainEvent × BackendResponseDrain × List Byte) :=
  (drain.drainWithLimit buffer maxBackendBufferBytes).map fun (event, loop, rest) =>
    match event with
    | .frames ready _ => (.bytes (bytesOf loop.forwarded) ready, loop.drain, rest)
    | .bufferLimitExceeded => (.bufferLimitExceeded, loop.drain, rest)
    | .needMoreBytes => (.needMoreBytes, loop.drain, rest)

/-- `QueryProgress`. -/
structure QueryProgress where
  responseStarted : Bool := false
  rows : Nat := 0
  error : Bool := false
  deriving DecidableEq, Repr

/-- What the callback of `classify_backend_frames` does to the progress of the query. -/
def QueryProgress.onFrame (queries : QueryProgress) (frame : BackendFrame) : QueryProgress where
  responseStarted := true
  rows := if frame.hasTag .dataRow then min (queries.rows + 1) (2 ^ 64 - 1) else queries.rows
  error := queries.error || frame.hasTag .errorResponse

/-- What `classify_backend_frames` carries from read to read. -/
structure FreshDriver where
  progress : BackendCycleProgress
  queries : QueryProgress
  state : ForwardCycleState

/-- The callback of `classify_backend_frames`. -/
def classifyFrame (backendId : BackendId) (acc : QueryProgress × ForwardCycleState)
    (frame : BackendFrame) : QueryProgress × ForwardCycleState :=
  (acc.1.onFrame frame, acc.2.onFrame backendId frame)

/-- `classify_backend_frames`: its result, the frames to forward, what it carries on, and what stays
in the buffer. -/
def classifyBackendFrames (backendId : BackendId) (driver : FreshDriver) (buffer : List Byte)
    (shape : FrontendCycleShape) :
    Except WireError (Option ReadyStatus × List WireFrame × FreshDriver × List Byte) :=
  let progress := { driver.progress with responseStarted := driver.queries.responseStarted }
  ((BackendResponseDrain.resume shape progress).drainWith (classifyFrame backendId)
    (driver.queries, driver.state) buffer).map fun (event, loop, rest) =>
      let ready :=
        match event with
        | .frames ready _ => ready
        | .bufferLimitExceeded | .needMoreBytes => none
      (ready, loop.forwarded, ⟨loop.drain.progress, loop.acc.1, loop.acc.2⟩, rest)

/-! ### The drivers -/

/-- What the end of a cycle is reported as. -/
inductive Completion where
  | ready (status : ReadyStatus)
  | flushed
  deriving DecidableEq, Repr

/-- Why an answer is not drained to its end. -/
inductive DrainStop where
  | bufferLimitExceeded
  | failed (error : WireError)
  deriving DecidableEq, Repr

/-- What has become of an answer after some reads. -/
structure Drainage (δ : Type) where
  driver : δ
  buffer : List Byte := []
  /-- The bytes written to the client. -/
  forwarded : List Byte := []
  reads : Nat := 0
  /-- After how many reads completion was reported first, and how. -/
  completion : Option (Nat × Completion) := none

/-- The answer after one more read, which forwards bytes and may report completion. -/
def Drainage.afterRead {δ : Type} (s : Drainage δ) (driver : δ) (rest forwarded : List Byte)
    (report : Option Completion) : Drainage δ where
  driver
  buffer := rest
  forwarded := s.forwarded ++ forwarded
  reads := s.reads + 1
  completion := s.completion <|> report.map fun completion => (s.reads + 1, completion)

variable {rest : List Byte} {progress : BackendCycleProgress} {frames : List BackendFrame}
  {reads : List (List Byte)}

theorem Drainage.completion_afterRead_eq_none {δ : Type} {s : Drainage δ} {driver : δ}
    {forwarded : List Byte} {report : Option Completion} :
    (s.afterRead driver rest forwarded report).completion = none ↔
      s.completion = none ∧ report = none := by
  unfold Drainage.afterRead
  cases s.completion with
  | none => exact map_eq_none_iff.trans (and_iff_right rfl).symm
  | some completion => exact ⟨nofun, fun h => nomatch h.1⟩

/-- `forward_runtime_backend_until_cycle_complete` before its loop: a cycle that is not answered is
complete. -/
def persistentStart (shape : FrontendCycleShape) (injectedParseCompletes : Nat) :
    Drainage BackendResponseDrain :=
  let drain := BackendResponseDrain.forCycle shape injectedParseCompletes
  { driver := drain
    completion :=
      if !drain.expectsReady && drain.flushCycleComplete then some (0, .flushed) else none }

/-- One turn of the loop of `forward_runtime_backend_until_cycle_complete`. -/
def persistentRead (max : Nat) (s : Drainage BackendResponseDrain) (bytes : List Byte) :
    Except DrainStop (Drainage BackendResponseDrain) :=
  match drainBackendResponseBytes (s.buffer ++ bytes) s.driver max with
  | .error e => .error (.failed e)
  | .ok (.bufferLimitExceeded, _, _) => .error .bufferLimitExceeded
  | .ok (.needMoreBytes, drain, rest) => .ok (s.afterRead drain rest [] none)
  | .ok (.bytes bytes ready, drain, rest) =>
    .ok (s.afterRead drain rest bytes
      (match ready with
      | some status => some (.ready status)
      | none => if !drain.expectsReady && drain.flushCycleComplete then some .flushed else none))

/-- `forward_message_cycle` before its loop. -/
def freshStart (shape : FrontendCycleShape) (injectedParseCompletes : Nat)
    (state : ForwardCycleState) : Drainage FreshDriver where
  driver := ⟨{ injectedParseCompletes }, {}, state⟩
  completion := if shape.expectsNoResponse then some (0, .flushed) else none

/-- One turn of the loop of `forward_message_cycle`: the limit is checked before the read, which
brings bytes, and after it. -/
def freshRead (max : Nat) (backendId : BackendId) (shape : FrontendCycleShape)
    (s : Drainage FreshDriver) (bytes : List Byte) : Except DrainStop (Drainage FreshDriver) :=
  if max ≤ s.buffer.length ∧ bytes ≠ [] then .error .bufferLimitExceeded
  else if max < (s.buffer ++ bytes).length then .error .bufferLimitExceeded
  else
    match classifyBackendFrames backendId s.driver (s.buffer ++ bytes) shape with
    | .error e => .error (.failed e)
    | .ok (ready, forwarded, driver, rest) =>
      .ok (s.afterRead driver rest (bytesOf forwarded)
        (match ready.filter fun _ => shape.expectedReadyCount ≤ driver.progress.readyCount with
        | some status => some (.ready status)
        | none =>
          if !shape.expectsReady && driver.progress.flushCycleComplete shape then some .flushed
          else none))

/-- An answer drained with one drain. -/
def persistentRun (max : Nat) (shape : FrontendCycleShape) (injectedParseCompletes : Nat)
    (reads : List (List Byte)) : Except DrainStop (Drainage BackendResponseDrain) :=
  reads.foldlM (persistentRead max) (persistentStart shape injectedParseCompletes)

/-- An answer drained with a fresh drain at every read. -/
def freshRun (max : Nat) (backendId : BackendId) (shape : FrontendCycleShape)
    (injectedParseCompletes : Nat) (state : ForwardCycleState) (reads : List (List Byte)) :
    Except DrainStop (Drainage FreshDriver) :=
  reads.foldlM (freshRead max backendId shape) (freshStart shape injectedParseCompletes state)

/-! ### The loop of the drain on frames -/

/-- The frames that are not swallowed. -/
def passed : BackendCycleProgress → List BackendFrame → List BackendFrame
  | _, [] => []
  | progress, frame :: frames =>
    if progress.swallows frame then passed (progress.absorb frame) frames
    else frame :: passed (progress.absorb frame) frames

theorem passed_append (progress : BackendCycleProgress) (first later : List BackendFrame) :
    passed progress (first ++ later) =
      passed progress first ++ passed (first.foldl absorb progress) later := by
  induction first generalizing progress with
  | nil => rfl
  | cons frame first ih =>
    rw [cons_append, passed, passed, foldl_cons, ih]
    split
    · rfl
    · rfl

/-- The status of the last ReadyForQuery among the frames. -/
def lastReady (frames : List BackendFrame) : Option ReadyStatus :=
  frames.foldl (fun ready frame => frame.readyStatus <|> ready) none

theorem isSome_lastReady (frames : List BackendFrame) :
    (lastReady frames).isSome = frames.any (·.readyStatus.isSome) := by
  have hfold : ∀ ready : Option ReadyStatus,
      (frames.foldl (fun ready frame => frame.readyStatus <|> ready) ready).isSome =
        (frames.any (·.readyStatus.isSome) || ready.isSome) := by
    induction frames with
    | nil => exact fun ready => rfl
    | cons frame frames ih =>
      intro ready
      rw [foldl_cons, ih, any_cons]
      cases frame.readyStatus <;> cases frames.any (·.readyStatus.isSome) <;> rfl
  exact (hfold none).trans (Bool.or_false _)

section Loop

variable {σ : Type} (callback : σ → BackendFrame → σ) (shape : FrontendCycleShape)

variable {frame : BackendFrame}

/-- A frame that is swallowed changes a counter of the drain. -/
theorem onFrame_swallowed {progress : BackendCycleProgress} (h : progress.swallows frame = true)
    (acc : σ) (forwarded : List WireFrame) (ready : Option ReadyStatus) :
    DrainLoop.onFrame callback ⟨.resume shape progress, acc, forwarded, ready⟩ frame =
      ⟨.resume shape (progress.absorb frame), acc, forwarded, ready⟩ := by
  rw [absorb, if_pos h]
  exact if_pos h

/-- A frame that is not swallowed is counted and forwarded. -/
theorem onFrame_passed {progress : BackendCycleProgress} (h : ¬progress.swallows frame = true)
    (acc : σ) (forwarded : List WireFrame) (ready : Option ReadyStatus) :
    DrainLoop.onFrame callback ⟨.resume shape progress, acc, forwarded, ready⟩ frame =
      ⟨.resume shape (progress.absorb frame), callback acc frame, forwarded ++ [wireFrame frame],
        frame.readyStatus <|> ready⟩ := by
  rw [absorb, if_neg h]
  exact if_neg h

/-- **The loop of the drain**: what a callback does has no part in its other variables. -/
theorem foldl_onFrame (progress : BackendCycleProgress) (acc : σ) (frames : List BackendFrame)
    (forwarded : List WireFrame) (ready : Option ReadyStatus) :
    frames.foldl (DrainLoop.onFrame callback) ⟨.resume shape progress, acc, forwarded, ready⟩ =
      ⟨.resume shape (frames.foldl absorb progress),
        (passed progress frames).foldl callback acc,
        forwarded ++ (passed progress frames).map wireFrame,
        frames.foldl (fun ready frame => frame.readyStatus <|> ready) ready⟩ := by
  induction frames generalizing progress acc forwarded ready with
  | nil => simp only [foldl_nil, passed, map_nil, append_nil]
  | cons frame frames ih =>
    rw [foldl_cons, foldl_cons, foldl_cons, passed]
    by_cases hswallows : progress.swallows frame = true
    · rw [onFrame_swallowed callback shape hswallows, ih, if_pos hswallows,
        readyStatus_of_swallows hswallows]
      rfl
    · rw [onFrame_passed callback shape hswallows, ih, if_neg hswallows, foldl_cons,
        map_cons, append_assoc, singleton_append]

end Loop

/-- Only a frame that is forwarded starts a response. -/
theorem responseStarted_foldl (progress : BackendCycleProgress) (queries : QueryProgress)
    (frames : List BackendFrame) (h : queries.responseStarted = progress.responseStarted) :
    ((passed progress frames).foldl QueryProgress.onFrame queries).responseStarted =
      (frames.foldl absorb progress).responseStarted := by
  induction frames generalizing progress queries with
  | nil => exact h
  | cons frame frames ih =>
    rw [passed, foldl_cons]
    by_cases hswallows : progress.swallows frame = true
    · rw [if_pos hswallows]
      refine ih _ _ (h.trans ?_)
      rw [absorb, if_pos hswallows]
    · rw [if_neg hswallows, foldl_cons]
      refine ih _ _ ?_
      rw [absorb, if_neg hswallows]
      rfl

/-! ### Complete counters -/

/-- The counters say that the cycle is complete: enough ReadyForQuery frames, or, where none is
expected, a complete Flush cycle. -/
def done (shape : FrontendCycleShape) (progress : BackendCycleProgress) : Bool :=
  (0 < progress.readyCount && shape.expectedReadyCount ≤ progress.readyCount) ||
    (!shape.expectsReady && progress.flushCycleComplete shape)

variable {shape : FrontendCycleShape}

theorem done_iff :
    done shape progress = true ↔
      0 < progress.readyCount ∧ shape.expectedReadyCount ≤ progress.readyCount ∨
      shape.expectsReady = false ∧ (progress.sawError = true ∨
        shape.expectedCompletionCount ≤ progress.completionCount) := by
  simp only [done, flushCycleComplete, Bool.or_eq_true, Bool.and_eq_true,
    Bool.not_eq_true', decide_eq_true_eq]

/-- A frame takes nothing back. -/
theorem done_absorb (h : done shape progress = true) (frame : BackendFrame) :
    done shape (progress.absorb frame) = true := by
  by_cases hswallows : progress.swallows frame = true
  · rw [absorb, if_pos hswallows]
    exact h
  · rw [absorb, if_neg hswallows, done_iff]
    rcases done_iff.1 h with ⟨hpos, hready⟩ | ⟨hflush, herror | hcount⟩
    · exact .inl ⟨Nat.lt_add_right _ hpos, hready.trans (Nat.le_add_right _ _)⟩
    · refine .inr ⟨hflush, .inl ?_⟩
      rw [forward, herror]
      rfl
    · exact .inr ⟨hflush, .inr (hcount.trans (Nat.le_add_right _ _))⟩

theorem done_foldl (h : done shape progress = true) (frames : List BackendFrame) :
    done shape (frames.foldl absorb progress) = true := by
  induction frames generalizing progress with
  | nil => exact h
  | cons frame frames ih => exact ih (done_absorb h frame)

/-- Frames that are all swallowed complete nothing. -/
theorem done_of_passed_nil (h : passed progress frames = []) :
    done shape (frames.foldl absorb progress) = done shape progress := by
  induction frames generalizing progress with
  | nil => rfl
  | cons frame frames ih =>
    rw [passed] at h
    by_cases hswallows : progress.swallows frame = true
    · rw [if_pos hswallows] at h
      rw [foldl_cons, ih h, absorb, if_pos hswallows]
      rfl
    · rw [if_neg hswallows] at h
      cases h

/-- What is reported after a read, as the counters and the frames of the read have it. -/
def report (shape : FrontendCycleShape) (progress : BackendCycleProgress)
    (frames : List BackendFrame) : Option Completion :=
  match lastReady frames with
  | some status =>
    if shape.expectedReadyCount ≤ progress.readyCount then some (.ready status)
    else if !shape.expectsReady && progress.flushCycleComplete shape then some .flushed else none
  | none => if !shape.expectsReady && progress.flushCycleComplete shape then some .flushed else none

/-- Enough ReadyForQuery frames, the last of them just now. -/
theorem report_of_ready {status : ReadyStatus} (hstatus : lastReady frames = some status)
    (henough : shape.expectedReadyCount ≤ progress.readyCount) :
    report shape progress frames = some (.ready status) := by
  rw [report, hstatus]
  exact if_pos henough

/-- Otherwise only a Flush cycle can be complete. -/
theorem report_of_not_ready (h : ¬((lastReady frames).isSome &&
      decide (shape.expectedReadyCount ≤ progress.readyCount)) = true) :
    report shape progress frames =
      if !shape.expectsReady && progress.flushCycleComplete shape then some .flushed else none := by
  rw [report]
  cases hstatus : lastReady frames with
  | none => rfl
  | some status =>
    rw [hstatus] at h
    exact if_neg fun henough => h (decide_eq_true henough)

/-- **A report says that the counters are complete**, where they were not before the read. -/
theorem isSome_report (h : done shape progress = false) :
    (report shape (frames.foldl absorb progress) frames).isSome =
      done shape (frames.foldl absorb progress) := by
  have hcount := readyCount_foldl progress frames
  have hlast := isSome_lastReady frames
  rw [done, Bool.or_eq_false_iff, Bool.and_eq_false_iff, decide_eq_false_iff_not,
    decide_eq_false_iff_not] at h
  obtain ⟨hready, -⟩ := h
  generalize frames.foldl absorb progress = after at hcount ⊢
  rw [report, done]
  cases hstatus : lastReady frames with
  | none =>
    rw [hstatus] at hlast
    have hzero : frames.countP (·.readyStatus.isSome) = 0 := by
      rw [countP_eq_zero]
      exact any_eq_false.1 hlast.symm
    have hsame : after.readyCount = progress.readyCount := by omega
    have hnot : (decide (0 < after.readyCount) &&
        decide (shape.expectedReadyCount ≤ after.readyCount)) = false := by
      rw [hsame, Bool.and_eq_false_iff, decide_eq_false_iff_not, decide_eq_false_iff_not]
      exact hready
    rw [hnot, Bool.false_or]
    cases !shape.expectsReady && after.flushCycleComplete shape <;> rfl
  | some status =>
    rw [hstatus] at hlast
    have hpos : 0 < frames.countP (·.readyStatus.isSome) := by
      rw [countP_pos_iff]
      exact any_eq_true.1 hlast.symm
    rw [decide_eq_true (by omega : 0 < after.readyCount), Bool.true_and]
    dsimp only
    by_cases henough : shape.expectedReadyCount ≤ after.readyCount
    · rw [if_pos henough, decide_eq_true henough]
      rfl
    · rw [if_neg henough, decide_eq_false henough, Bool.false_or]
      cases !shape.expectsReady && after.flushCycleComplete shape <;> rfl

/-! ### One read of either driver -/

section Read

variable {max : Nat} {frames : List BackendFrame} {rest : List Byte}

/-- The event of a drain after its loop. -/
theorem event_resume {σ : Type} (progress : BackendCycleProgress) (acc : σ)
    (forwarded : List WireFrame) (ready : Option ReadyStatus) :
    (DrainLoop.mk (.resume shape progress) acc forwarded ready).event =
      if ready.isSome && shape.expectedReadyCount ≤ progress.readyCount then
        .frames ready progress.responseStarted
      else if forwarded.isEmpty then .needMoreBytes else .frames none progress.responseStarted :=
  rfl

variable {bytes : List Byte}

/-- **A read of the persistent drain**, where the counters were not complete before it. -/
theorem persistentRead_eq {s : Drainage BackendResponseDrain} {progress : BackendCycleProgress}
    (hdriver : s.driver = .resume shape progress) (hlimit : ¬max < (s.buffer ++ bytes).length)
    (hparse : parseBackendFrames (s.buffer ++ bytes) = .ok (frames, rest)) :
    ∃ after, persistentRead max s bytes = .ok (s.afterRead
        (.resume shape (frames.foldl absorb progress)) rest
        (bytesOf ((passed progress frames).map wireFrame)) after) ∧
      (done shape progress = false →
        after = report shape (frames.foldl absorb progress) frames) := by
  unfold persistentRead drainBackendResponseBytes BackendResponseDrain.drainWithLimit
    BackendResponseDrain.drainWith
  rw [if_neg hlimit, hparse, hdriver]
  dsimp only [Except.map]
  rw [foldl_onFrame, event_resume, nil_append]
  have hready : frames.foldl (fun ready frame => frame.readyStatus <|> ready) none =
      lastReady frames := rfl
  have hsome := @isSome_report progress frames shape
  have hnil := @done_of_passed_nil progress frames shape
  rw [hready]
  generalize frames.foldl absorb progress = after at hsome hnil ⊢
  by_cases hcomplete : ((lastReady frames).isSome &&
      decide (shape.expectedReadyCount ≤ after.readyCount)) = true
  · obtain ⟨hlast, henough⟩ := Bool.and_eq_true_iff.1 hcomplete
    obtain ⟨status, hstatus⟩ := isSome_iff_exists.1 hlast
    rw [if_pos hcomplete, hstatus]
    exact ⟨_, rfl, fun _ => (report_of_ready hstatus (of_decide_eq_true henough)).symm⟩
  · rw [if_neg hcomplete]
    cases hpassed : passed progress frames with
    | nil =>
      -- nothing is forwarded, and the loop reads on without a look at the counters
      refine ⟨_, rfl, fun hopen => ?_⟩
      have hnone := hsome hopen
      rw [hnil hpassed, hopen] at hnone
      exact (not_isSome_iff_eq_none.1 (Bool.eq_false_iff.1 hnone)).symm
    | cons frame others => exact ⟨_, rfl, fun _ => (report_of_not_ready hcomplete).symm⟩

variable {s : Drainage FreshDriver} {backendId : BackendId}

theorem freshRead_of_limit (hlimit : max < (s.buffer ++ bytes).length) :
    freshRead max backendId shape s bytes = .error .bufferLimitExceeded := by
  unfold freshRead
  rw [if_pos hlimit, ite_self]

/-- The check before the read finds nothing that the check after it would not find. -/
theorem not_full_of_not_limit (hlimit : ¬max < (s.buffer ++ bytes).length) :
    ¬(max ≤ s.buffer.length ∧ bytes ≠ []) := by
  rintro ⟨hfull, hne⟩
  have := length_pos_iff.2 hne
  rw [length_append] at hlimit
  omega

/-- **A read of the fresh drain.** -/
theorem freshRead_eq
    (hstarted : s.driver.queries.responseStarted = s.driver.progress.responseStarted)
    (hlimit : ¬max < (s.buffer ++ bytes).length)
    (hparse : parseBackendFrames (s.buffer ++ bytes) = .ok (frames, rest)) :
    ∃ driver, driver.progress =
        frames.foldl absorb s.driver.progress ∧
      driver.queries.responseStarted = driver.progress.responseStarted ∧
      freshRead max backendId shape s bytes = .ok (s.afterRead driver rest
        (bytesOf ((passed s.driver.progress frames).map wireFrame))
        (report shape (frames.foldl absorb s.driver.progress) frames)) := by
  have hresume : { s.driver.progress with responseStarted := s.driver.queries.responseStarted } =
      s.driver.progress := by rw [hstarted]
  unfold freshRead classifyBackendFrames BackendResponseDrain.drainWith
  rw [if_neg (not_full_of_not_limit hlimit), if_neg hlimit, hparse, hresume]
  dsimp only [Except.map]
  rw [foldl_onFrame, event_resume, nil_append]
  have hready : frames.foldl (fun ready frame => frame.readyStatus <|> ready) none =
      lastReady frames := rfl
  have hqueries := responseStarted_foldl _ _ frames hstarted
  have hacc : ((passed s.driver.progress frames).foldl (classifyFrame backendId)
        (s.driver.queries, s.driver.state)).1 =
      (passed s.driver.progress frames).foldl QueryProgress.onFrame s.driver.queries :=
    (foldl_hom Prod.fst fun _ _ => rfl).symm
  rw [hready]
  rw [← hacc] at hqueries
  generalize frames.foldl absorb s.driver.progress = after at hqueries ⊢
  generalize (passed s.driver.progress frames).foldl (classifyFrame backendId)
    (s.driver.queries, s.driver.state) = acc at hqueries ⊢
  refine ⟨⟨after, acc.1, acc.2⟩, rfl, hqueries, ?_⟩
  by_cases hcomplete : ((lastReady frames).isSome &&
      decide (shape.expectedReadyCount ≤ after.readyCount)) = true
  · obtain ⟨hlast, henough⟩ := Bool.and_eq_true_iff.1 hcomplete
    obtain ⟨status, hstatus⟩ := isSome_iff_exists.1 hlast
    rw [if_pos hcomplete, report_of_ready hstatus (of_decide_eq_true henough), hstatus]
    rw [BackendResponseDrain.progress_resume, filter_some, if_pos henough]
  · rw [if_neg hcomplete, report_of_not_ready hcomplete]
    cases passed s.driver.progress frames <;> rfl

/-- A read that goes well is within the limit and of well-formed frames. -/
theorem exists_of_freshRead {t : Drainage FreshDriver}
    (h : freshRead max backendId shape s bytes = .ok t) :
    ¬max < (s.buffer ++ bytes).length ∧
      ∃ frames rest, parseBackendFrames (s.buffer ++ bytes) = .ok (frames, rest) := by
  have hlimit : ¬max < (s.buffer ++ bytes).length := by
    intro hlimit
    rw [freshRead_of_limit hlimit] at h
    cases h
  refine ⟨hlimit, ?_⟩
  cases hparse : parseBackendFrames (s.buffer ++ bytes) with
  | error e =>
    unfold freshRead classifyBackendFrames BackendResponseDrain.drainWith at h
    rw [if_neg (not_full_of_not_limit hlimit), if_neg hlimit, hparse] at h
    cases h
  | ok parsed => exact ⟨parsed.1, parsed.2, rfl⟩

end Read

/-! ### The drivers agree -/

/-- The drain of the one driver is what the other would resume. -/
structure Agree (shape : FrontendCycleShape) (s : Drainage BackendResponseDrain)
    (t : Drainage FreshDriver) : Prop where
  driver : s.driver = .resume shape t.driver.progress
  /-- The flag that is kept elsewhere is the one of the record. -/
  started : t.driver.queries.responseStarted = t.driver.progress.responseStarted
  buffer : s.buffer = t.buffer
  forwarded : s.forwarded = t.forwarded
  reads : s.reads = t.reads
  completion : s.completion = t.completion
  waits : t.completion = none → done shape t.driver.progress = false

section

variable {max : Nat} {backendId : BackendId} {s : Drainage BackendResponseDrain}
  {t : Drainage FreshDriver}

/-- A cycle whose counters are complete before the first read is one that is not answered. -/
theorem done_start (injectedParseCompletes : Nat) :
    done shape { injectedParseCompletes } = shape.expectsNoResponse := by
  have hready : shape.expectsReady = decide (0 < shape.expectedReadyCount) := rfl
  simp only [done, flushCycleComplete, hready,
    FrontendCycleShape.expectsNoResponse, Nat.lt_irrefl, decide_false, Bool.false_and,
    Bool.false_or, Nat.le_zero]
  cases shape.expectedReadyCount <;> rfl

theorem agree_start (injectedParseCompletes : Nat) (state : ForwardCycleState) :
    Agree shape (persistentStart shape injectedParseCompletes)
      (freshStart shape injectedParseCompletes state) where
  driver := rfl
  started := rfl
  buffer := rfl
  forwarded := rfl
  reads := rfl
  completion := by
    have hstart := @done_start shape injectedParseCompletes
    have hcomplete : (!(BackendResponseDrain.forCycle shape injectedParseCompletes).expectsReady &&
        (BackendResponseDrain.forCycle shape injectedParseCompletes).flushCycleComplete) =
          shape.expectsNoResponse := hstart
    unfold persistentStart freshStart
    dsimp only
    rw [hcomplete]
  waits := by
    intro hnone
    refine (done_start injectedParseCompletes).trans ?_
    unfold freshStart at hnone
    split at hnone
    · cases hnone
    · next hresponse => exact Bool.eq_false_iff.2 hresponse

/-- **One read of both drivers.** -/
theorem Agree.read (h : Agree shape s t) (bytes : List Byte) :
    (∃ e, persistentRead max s bytes = .error e ∧
      freshRead max backendId shape t bytes = .error e) ∨
    ∃ s' t', persistentRead max s bytes = .ok s' ∧
      freshRead max backendId shape t bytes = .ok t' ∧ Agree shape s' t' := by
  by_cases hlimit : max < (t.buffer ++ bytes).length
  · refine .inl ⟨.bufferLimitExceeded, ?_, freshRead_of_limit hlimit⟩
    unfold persistentRead drainBackendResponseBytes BackendResponseDrain.drainWithLimit
    rw [h.buffer, if_pos hlimit]
    rfl
  cases hparse : parseBackendFrames (t.buffer ++ bytes) with
  | error e =>
    refine .inl ⟨.failed e, ?_, ?_⟩
    · unfold persistentRead drainBackendResponseBytes BackendResponseDrain.drainWithLimit
        BackendResponseDrain.drainWith
      rw [h.buffer, if_neg hlimit, hparse]
      rfl
    · unfold freshRead classifyBackendFrames BackendResponseDrain.drainWith
      rw [if_neg (not_full_of_not_limit hlimit), if_neg hlimit, hparse]
      rfl
  | ok parsed =>
    obtain ⟨frames, rest⟩ := parsed
    obtain ⟨driver, hprogress, hstarted, hfresh⟩ :=
      @freshRead_eq shape max frames rest bytes t backendId h.started hlimit hparse
    rw [← h.buffer] at hlimit hparse
    obtain ⟨after, hpersistent, hafter⟩ := persistentRead_eq h.driver hlimit hparse
    refine .inr ⟨_, _, hpersistent, hfresh, ?_⟩
    refine ⟨?_, hstarted, rfl, ?_, ?_, ?_, ?_⟩
    · exact congrArg (BackendResponseDrain.resume shape) hprogress.symm
    · exact congrArg (· ++ _) h.forwarded
    · exact congrArg (· + 1) h.reads
    · -- completion has been reported before, or the counters were not complete
      unfold Drainage.afterRead
      rw [h.completion, h.reads]
      cases hcompletion : t.completion with
      | some completion => rfl
      | none => rw [hafter (h.waits hcompletion)]
    · intro hnone
      obtain ⟨hbefore, hreport⟩ := Drainage.completion_afterRead_eq_none.1 hnone
      have hsome := @isSome_report _ frames shape (h.waits hbefore)
      rw [hreport, ← hprogress] at hsome
      exact hsome.symm

/-- **Whole answers of both drivers.** -/
theorem Agree.run (h : Agree shape s t) (reads : List (List Byte)) :
    (∃ e, reads.foldlM (persistentRead max) s = .error e ∧
      reads.foldlM (freshRead max backendId shape) t = .error e) ∨
    ∃ s' t', reads.foldlM (persistentRead max) s = .ok s' ∧
      reads.foldlM (freshRead max backendId shape) t = .ok t' ∧ Agree shape s' t' := by
  induction reads generalizing s t with
  | nil => exact .inr ⟨s, t, rfl, rfl, h⟩
  | cons bytes reads ih =>
    rw [foldlM_cons, foldlM_cons]
    rcases @Agree.read shape max backendId s t h bytes with
      ⟨e, hs, ht⟩ | ⟨s', t', hs, ht, hagree⟩
    · rw [hs, ht]
      exact .inl ⟨e, rfl, rfl⟩
    · rw [hs, ht]
      exact ih hagree

end

/-! ### The frames decide -/

/-- The frames that the reads complete. -/
def received (reads : List (List Byte)) : List BackendFrame :=
  match parseBackendFrames reads.flatten with
  | .ok (frames, _) => frames
  | .error _ => []

theorem received_of_parse (h : parseBackendFrames reads.flatten = .ok (frames, rest)) :
    received reads = frames := by
  rw [received, h]

/-- The frames of some reads come first among the frames of more. -/
theorem received_take (h : parseBackendFrames reads.flatten = .ok (frames, rest)) (i : Nat) :
    received (reads.take i) <+: frames := by
  rw [← take_append_drop i reads, flatten_append] at h
  obtain ⟨first, left, later, hfirst, -, rfl⟩ := parseBackendFrames_split h
  rw [received_of_parse hfirst]
  exact prefix_append first later

/-- Whether the counters are complete after the reads. -/
def doneAfter (shape : FrontendCycleShape) (start : BackendCycleProgress)
    (reads : List (List Byte)) : Bool :=
  done shape ((received reads).foldl absorb start)

/-- **What has become of an answer after some reads** is said by the frames they complete, and, for
the first report, by the reads it comes after. -/
structure Follows (shape : FrontendCycleShape) (start : BackendCycleProgress)
    (reads : List (List Byte)) (t : Drainage FreshDriver) : Prop where
  started : t.driver.queries.responseStarted = t.driver.progress.responseStarted
  parse : parseBackendFrames reads.flatten = .ok (received reads, t.buffer)
  progress : t.driver.progress = (received reads).foldl absorb start
  forwarded : t.forwarded = bytesOf ((passed start (received reads)).map wireFrame)
  count : t.reads = reads.length
  waits : t.completion = none → doneAfter shape start reads = false
  reported : ∀ i completion, t.completion = some (i, completion) → i ≤ reads.length ∧
    doneAfter shape start (reads.take i) = true ∧
      ∀ j, j < i → doneAfter shape start (reads.take j) = false

section

variable {max : Nat} {backendId : BackendId} {start : BackendCycleProgress}
  {reads : List (List Byte)} {t t' : Drainage FreshDriver} {bytes : List Byte}

/-- Counters that are not complete after some reads were not complete before. -/
theorem doneAfter_take {rest : List Byte}
    (h : parseBackendFrames reads.flatten = .ok (received reads, rest))
    (hopen : doneAfter shape start reads = false) (j : Nat) :
    doneAfter shape start (reads.take j) = false := by
  obtain ⟨later, hlater⟩ := received_take h j
  rw [doneAfter, ← hlater, foldl_append] at hopen
  rw [← Bool.not_eq_true] at hopen ⊢
  exact fun hdone => hopen (done_foldl hdone later)

theorem follows_start (injectedParseCompletes : Nat) (state : ForwardCycleState) :
    Follows shape { injectedParseCompletes } []
      (freshStart shape injectedParseCompletes state) where
  started := rfl
  parse := rfl
  progress := rfl
  forwarded := rfl
  count := rfl
  waits := (agree_start injectedParseCompletes state).waits
  reported i completion h := by
    unfold freshStart at h
    split at h
    · next hresponse =>
      cases h
      exact ⟨le_rfl, (done_start injectedParseCompletes).trans hresponse, fun j hj => absurd hj
        (Nat.not_lt_zero j)⟩
    · cases h

/-- **One more read.** -/
theorem Follows.read (h : Follows shape start reads t)
    (hread : freshRead max backendId shape t bytes = .ok t') :
    Follows shape start (reads ++ [bytes]) t' := by
  obtain ⟨hlimit, frames, rest, hparse⟩ := exists_of_freshRead hread
  obtain ⟨driver, hprogress, hstarted, hfresh⟩ :=
    @freshRead_eq shape max frames rest bytes t backendId h.started hlimit hparse
  obtain rfl := Except.ok.inj (hfresh.symm.trans hread)
  have hwhole : parseBackendFrames (reads ++ [bytes]).flatten =
      .ok (received reads ++ frames, rest) := by
    rw [flatten_append, flatten_singleton, parseBackendFrames_append h.parse, hparse]
    rfl
  have hreceived := received_of_parse hwhole
  rw [h.progress] at hprogress
  have hafter : driver.progress = (received (reads ++ [bytes])).foldl absorb start := by
    rw [hprogress, hreceived, foldl_append]
  have hsome : t.completion = none →
      (report shape (frames.foldl absorb t.driver.progress) frames).isSome =
        doneAfter shape start (reads ++ [bytes]) := by
    intro hnone
    have hopen := h.waits hnone
    rw [doneAfter, ← h.progress] at hopen
    rw [isSome_report hopen, doneAfter, hreceived, foldl_append, h.progress]
  refine ⟨hstarted, hreceived ▸ hwhole, hafter, ?_, ?_, ?_, ?_⟩
  · rw [hreceived, passed_append, map_append, bytesOf_append, ← h.forwarded, ← h.progress]
    rfl
  · rw [length_append, ← h.count]
    rfl
  · intro hnone
    obtain ⟨hbefore, hreport⟩ := Drainage.completion_afterRead_eq_none.1 hnone
    rw [← hsome hbefore, hreport]
    rfl
  · intro i completion hcompletion
    unfold Drainage.afterRead at hcompletion
    cases hbefore : t.completion with
    | some earlier =>
      -- reported before this read
      rw [hbefore] at hcompletion
      obtain rfl := some.inj hcompletion
      obtain ⟨hle, hdone, hfirst⟩ := h.reported i completion hbefore
      rw [length_append]
      refine ⟨Nat.le_add_right_of_le hle, ?_, fun j hj => ?_⟩
      · rwa [take_append_of_le_length hle]
      · rw [take_append_of_le_length (hj.le.trans hle)]
        exact hfirst j hj
    | none =>
      rw [hbefore] at hcompletion
      obtain ⟨reported, hreport, hpair⟩ := map_eq_some_iff.1 hcompletion
      obtain ⟨rfl, rfl⟩ := Prod.mk.inj hpair
      have hdone := hsome hbefore
      rw [hreport] at hdone
      have hlength : (reads ++ [bytes]).length = t.reads + 1 := by
        rw [length_append, h.count]
        rfl
      refine ⟨hlength.ge, ?_, fun j hj => ?_⟩
      · rw [take_of_length_le hlength.le]
        exact hdone.symm
      · have hle : j ≤ reads.length := by
          rw [← h.count]
          omega
        rw [take_append_of_le_length hle]
        exact doneAfter_take h.parse (h.waits hbefore) j

/-- **All the reads** of a stream of frames: the limit is exceeded, or they are drained. -/
theorem follows_run (injectedParseCompletes : Nat) (state : ForwardCycleState)
    (reads : List (List Byte)) {frames : List BackendFrame} {rest : List Byte}
    (hparse : parseBackendFrames reads.flatten = .ok (frames, rest)) :
    freshRun max backendId shape injectedParseCompletes state reads =
        .error .bufferLimitExceeded ∨
      ∃ t, freshRun max backendId shape injectedParseCompletes state reads = .ok t ∧
        Follows shape { injectedParseCompletes } reads t := by
  induction reads using reverseRecOn generalizing frames rest with
  | nil => exact .inr ⟨_, rfl, follows_start injectedParseCompletes state⟩
  | append_singleton reads bytes ih =>
    rw [flatten_append, flatten_singleton] at hparse
    obtain ⟨first, left, later, hfirst, hlater, rfl⟩ := parseBackendFrames_split hparse
    unfold freshRun at ih ⊢
    rw [foldlM_append]
    rcases ih hfirst with hlimit | ⟨t, hrun, hfollows⟩
    · rw [hlimit]
      exact .inl rfl
    · rw [hrun]
      have hbuffer : left = t.buffer :=
        (Prod.mk.inj (Except.ok.inj (hfirst.symm.trans hfollows.parse))).2
      rw [hbuffer] at hlater
      by_cases hlimit : max < (t.buffer ++ bytes).length
      · refine .inl ?_
        have hread : freshRead max backendId shape t bytes = .error .bufferLimitExceeded :=
          freshRead_of_limit hlimit
        change (freshRead max backendId shape t bytes >>= pure) = _
        rw [hread]
        rfl
      · obtain ⟨driver, -, -, hread⟩ :=
          @freshRead_eq shape max later rest bytes t backendId hfollows.started hlimit hlater
        refine .inr ⟨_, ?_, hfollows.read hread⟩
        change (freshRead max backendId shape t bytes >>= pure) = _
        rw [hread]
        rfl

end

/-! ### Every split and both drivers -/

/-- After how many of the frames the counters are complete. -/
def completesAfter (shape : FrontendCycleShape) (start : BackendCycleProgress)
    (frames : List BackendFrame) : Option Nat :=
  (range (frames.length + 1)).find? fun n => done shape ((frames.take n).foldl absorb start)

section

variable {start : BackendCycleProgress} {frames first : List BackendFrame}

/-- The counters are complete after a first part of the frames exactly if it goes to the frame that
completes them. -/
theorem done_iff_of_completesAfter {n : Nat} (h : completesAfter shape start frames = some n)
    (hfirst : first <+: frames) :
    done shape (first.foldl absorb start) = true ↔ n ≤ first.length := by
  obtain ⟨hdone, -, hbefore⟩ := find?_range_eq_some.1 h
  have htake := prefix_iff_eq_take.1 hfirst
  constructor
  · intro hcomplete
    refine Nat.le_of_not_lt fun hlt => ?_
    have hnot := hbefore _ hlt
    rw [← htake, hcomplete] at hnot
    cases hnot
  · intro hle
    obtain ⟨later, hlater⟩ : frames.take n <+: first := by
      rw [htake]
      exact take_prefix_take_left hle
    rw [← hlater, foldl_append]
    exact done_foldl hdone later

theorem done_eq_false_of_completesAfter (h : completesAfter shape start frames = none)
    (hfirst : first <+: frames) :
    done shape (first.foldl absorb start) = false := by
  have hnot := find?_range_eq_none.1 h first.length
    (Nat.lt_succ_of_le hfirst.length_le)
  rw [← prefix_iff_eq_take.1 hfirst] at hnot
  exact (Bool.not_eq_true' _).mp hnot

end

/-- What a driver has come to: the counters, the bytes that wait for the rest of their frame, those
that were forwarded, and the first report. -/
structure Outcome where
  progress : BackendCycleProgress
  buffer : List Byte
  forwarded : List Byte
  completion : Option (Nat × Completion)
  deriving DecidableEq, Repr

def Drainage.outcome {δ : Type} (progress : δ → BackendCycleProgress) (s : Drainage δ) : Outcome :=
  ⟨progress s.driver, s.buffer, s.forwarded, s.completion⟩

variable {t : Drainage FreshDriver}

theorem Agree.outcome_eq {s : Drainage BackendResponseDrain} (h : Agree shape s t) :
    s.outcome BackendResponseDrain.progress = t.outcome FreshDriver.progress := by
  rw [Drainage.outcome, Drainage.outcome, h.driver, BackendResponseDrain.progress_resume, h.buffer,
    h.forwarded, h.completion]

/-- On the same reads the two drivers come to the same. -/
theorem persistentRun_eq_freshRun (max : Nat) (injectedParseCompletes : Nat)
    (backendId : BackendId) (state : ForwardCycleState) (reads : List (List Byte)) :
    (persistentRun max shape injectedParseCompletes reads).map
        (·.outcome BackendResponseDrain.progress) =
      (freshRun max backendId shape injectedParseCompletes state reads).map
        (·.outcome FreshDriver.progress) := by
  unfold persistentRun freshRun
  rcases @Agree.run shape max backendId _ _ (agree_start injectedParseCompletes state) reads with
    ⟨e, hs, ht⟩ | ⟨s, t, hs, ht, hagree⟩
  · rw [hs, ht]
    rfl
  · rw [hs, ht]
    exact congrArg Except.ok hagree.outcome_eq

/-- **The first report** comes with the read that brings the frame after which the counters are
complete. -/
theorem Follows.completion {start : BackendCycleProgress} (h : Follows shape start reads t) :
    match completesAfter shape start (received reads) with
    | none => t.completion = none
    | some n => ∃ i status, t.completion = some (i, status) ∧
        n ≤ (received (reads.take i)).length ∧
          ∀ j, j < i → (received (reads.take j)).length < n := by
  have hfirst := received_take h.parse
  cases hcompletes : completesAfter shape start (received reads) with
  | none =>
    rcases hcompletion : t.completion with _ | ⟨i, status⟩
    · rfl
    · have hdone := (h.reported i status hcompletion).2.1
      rw [doneAfter, done_eq_false_of_completesAfter hcompletes (hfirst i)] at hdone
      cases hdone
  | some n =>
    have hiff := fun i => done_iff_of_completesAfter hcompletes (hfirst i)
    rcases hcompletion : t.completion with _ | ⟨i, status⟩
    · -- all the frames complete the counters
      have hopen := doneAfter_take h.parse (h.waits hcompletion) reads.length
      obtain ⟨-, hmem, -⟩ := find?_range_eq_some.1 hcompletes
      have hdone := (hiff reads.length).2 (by
        rw [take_length]
        exact Nat.le_of_lt_succ (mem_range.1 hmem))
      rw [doneAfter, hdone] at hopen
      cases hopen
    · obtain ⟨-, hdone, hbefore⟩ := h.reported i status hcompletion
      refine ⟨i, status, rfl, (hiff i).1 hdone, fun j hj => Nat.lt_of_not_le fun hle => ?_⟩
      have hopen := hbefore j hj
      rw [doneAfter, (hiff j).2 hle] at hopen
      cases hopen

/-- **The drain does not depend on the driver or on how the answer is divided into reads.** On the
same reads the two drivers come to the same: the same bytes are forwarded, the counters are the
same, and completion is reported first after the same read, or both fail in the same way. Whatever
the reads that a stream of frames comes in, the counters and the bytes are those of its frames, and
completion is reported first with the read that brings the frame after which the counters are
complete. -/
theorem drain_independent :
    (∀ (max : Nat) (shape : FrontendCycleShape) (injectedParseCompletes : Nat)
      (backendId : BackendId) (state : ForwardCycleState) (reads : List (List Byte)),
      (persistentRun max shape injectedParseCompletes reads).map
          (·.outcome BackendResponseDrain.progress) =
        (freshRun max backendId shape injectedParseCompletes state reads).map
          (·.outcome FreshDriver.progress)) ∧
    ∀ (shape : FrontendCycleShape) (injectedParseCompletes : Nat) (stream rest : List Byte)
      (frames : List BackendFrame), parseBackendFrames stream = .ok (frames, rest) →
      ∀ (max : Nat) (reads : List (List Byte)), reads.flatten = stream →
        persistentRun max shape injectedParseCompletes reads ≠ .error .bufferLimitExceeded →
        ∃ completion,
          (persistentRun max shape injectedParseCompletes reads).map
              (·.outcome BackendResponseDrain.progress) =
            .ok ⟨frames.foldl absorb { injectedParseCompletes }, rest,
              bytesOf ((passed { injectedParseCompletes } frames).map wireFrame), completion⟩ ∧
          match completesAfter shape { injectedParseCompletes } frames with
          | none => completion = none
          | some n => ∃ i status, completion = some (i, status) ∧
              n ≤ (received (reads.take i)).length ∧
                ∀ j, j < i → (received (reads.take j)).length < n := by
  refine ⟨fun max shape => persistentRun_eq_freshRun max, ?_⟩
  rintro shape injectedParseCompletes stream rest frames hparse max reads rfl hlimit
  have hagree := @persistentRun_eq_freshRun shape max injectedParseCompletes 0
    ⟨{}, { sessionId := 0 }⟩ reads
  rcases follows_run injectedParseCompletes ⟨{}, { sessionId := 0 }⟩ reads hparse with
    hexceeded | ⟨t, hrun, hfollows⟩
  · rw [hexceeded] at hagree
    cases hpersistent : persistentRun max shape injectedParseCompletes reads with
    | error e =>
      rw [hpersistent] at hagree hlimit
      exact absurd (congrArg Except.error (Except.error.inj hagree)) hlimit
    | ok s =>
      rw [hpersistent] at hagree
      cases hagree
  · have hreceived := received_of_parse hparse
    have hbuffer := (Prod.mk.inj (Except.ok.inj (hparse.symm.trans hfollows.parse))).2
    refine ⟨t.completion, ?_, hreceived ▸ hfollows.completion⟩
    rw [hagree, hrun]
    refine congrArg Except.ok ?_
    change t.outcome FreshDriver.progress = _
    rw [Drainage.outcome, hfollows.progress, hfollows.forwarded, hreceived, ← hbuffer]

/-- The reply to an injected Parse and a ReadyForQuery, which the first read ends in the middle
of. -/
theorem drain_independent_splitReady :
    ∃ i status,
      (persistentRun 64 ⟨1, 0, true⟩ 1 [[49, 0, 0, 0, 4, 90, 0], [0, 0, 5, 73]]).map
          (·.outcome BackendResponseDrain.progress) =
        .ok ⟨{ readyCount := 1, responseStarted := true }, [], [90, 0, 0, 0, 5, 73],
          some (i, status)⟩ := by
  have hcompletes : completesAfter ⟨1, 0, true⟩ { injectedParseCompletes := 1 }
      [⟨49, []⟩, ⟨90, [73]⟩] = some 2 := by decide +kernel
  have hok : (persistentRun 64 ⟨1, 0, true⟩ 1
      [[49, 0, 0, 0, 4, 90, 0], [0, 0, 5, 73]]).toOption.isSome = true := by decide +kernel
  obtain ⟨completion, hrun, hreport⟩ := drain_independent.2 ⟨1, 0, true⟩ 1
    [49, 0, 0, 0, 4, 90, 0, 0, 0, 5, 73] [] [⟨49, []⟩, ⟨90, [73]⟩] (by decide +kernel) 64
    [[49, 0, 0, 0, 4, 90, 0], [0, 0, 5, 73]] rfl (fun hexceeded => by
      rw [hexceeded] at hok
      cases hok)
  obtain ⟨i, status, rfl, -⟩ := hreport
  exact ⟨i, status, hrun⟩

end DrainDrivers

end PgKinetic
