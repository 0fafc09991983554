import PgKinetic.Proxy.ClientSession

/-!
# The shared session loop

With the io_uring runtime a client is served by `handle_client_session`, a second session loop
beside that of `PgKinetic.Proxy.ClientSession`. It plans cycles with the same functions, but
relays answers on its own (`forward_runtime_cycle`), and decides about backends in its own way:
after a cycle by `pin_reason` alone, and on every way out by `cleanup_held_shared_backend`, which
releases whatever is held.

The loop is an event machine from the end of the client's startup on. The choice between primary
and replicas is an input, as far as it can end the session.
-/

namespace PgKinetic

open EventMachine

/-! ### Relaying a cycle -/

/-- How `forward_runtime_cycle`, run under the query timeout, ends. -/
inductive RuntimeResult where
  | ready (status : ReadyStatus)
  | flushed
  | backendFailure (kind : BackendFailureKind) (responseStarted : Bool)
  | error
  | timedOut
  deriving DecidableEq, Repr

/-- The state of the relay between two reads. -/
structure RuntimeRelay where
  backend : Backend
  progress : BackendCycleProgress
  buffer : List Byte

/-- The relay after a read has been drained; no callback looks at the frames. -/
def RuntimeRelay.afterRead (r : RuntimeRelay) (drained : Drained Unit) (rest : List Byte) :
    RuntimeRelay where
  backend := { r.backend with status := drained.ready.getD r.backend.status }
  progress := drained.progress
  buffer := rest

/-- How a drained read ends the relay, if it does. A read that completes no frame ends nothing. -/
def RuntimeRelay.resultAfterRead (r : RuntimeRelay) (shape : FrontendCycleShape)
    (drained : Drained Unit) (clientWrite : WriteOutcome) : Option RuntimeResult :=
  if drained.forwarded.isEmpty then none
  else
    match clientWrite with
    | .failed => some .error
    | .stalled => some .timedOut
    | .done =>
      match drained.cycleReady shape with
      | some status => some (.ready status)
      | none =>
        if !shape.expectsReady && r.progress.flushCycleComplete shape then some .flushed else none

/-- The loop of `forward_runtime_backend_until_cycle_complete`; the client is not read from. -/
def runtimeRelay (shape : FrontendCycleShape) (maxBuffer : Nat) :
    RuntimeRelay → List WireEvent → RuntimeRelay × RuntimeResult
  | r, [] => (r, .timedOut)
  | r, event :: events =>
    match event with
    | .backendReadError =>
      (r, .backendFailure .read (r.progress.responseStarted || !r.buffer.isEmpty))
    | .backendRead bytes clientWrite =>
      if bytes.isEmpty then
        (r, .backendFailure .read (r.progress.responseStarted || !r.buffer.isEmpty))
      else if maxBuffer < (r.buffer ++ bytes).length then (r, .error)
      else
        match parseBackendFrames (r.buffer ++ bytes) with
        | .error _ => (r, .error)
        | .ok (frames, rest) =>
          let drained := drainWith (fun acc _ => acc) r.progress () frames
          let r := r.afterRead drained rest
          match r.resultAfterRead shape drained clientWrite with
          | some result => (r, result)
          | none => runtimeRelay shape maxBuffer r events
    | .clientCopyRead _ | .clientCopyReadError | .clientClosed =>
      runtimeRelay shape maxBuffer r events

/-- `forward_runtime_cycle`. -/
def forwardRuntimeCycle (maxBuffer : Nat) (backend : Backend) (shape : FrontendCycleShape)
    (injectedParseCompletes : Nat) (buffer : List Byte) (env : ForwardEnv) :
    RuntimeRelay × RuntimeResult :=
  let start : RuntimeRelay := ⟨backend, { injectedParseCompletes }, buffer⟩
  match env.backendWrite with
  | .failed => (start, .backendFailure .write false)
  | .stalled => (start, .timedOut)
  | .done =>
    if !shape.expectsReady && start.progress.flushCycleComplete shape then (start, .flushed)
    else runtimeRelay shape maxBuffer start env.events

/-! ### State and events -/

/-- The variables of the loop. -/
structure SharedState where
  session : VirtualSession := {}
  previousBackendId : Option BackendId := none
  prepared : PreparedCatalog
  heldBackend : Option Backend := none
  backendBuffer : List Byte := []
  waitForClientActivity : Bool := false
  finished : Bool := false

/-- Where in the source a backend is handed back: after a cycle, or by
`cleanup_held_shared_backend`. -/
inductive SharedReleasePath where
  | afterCycle
  | heldCleanup
  deriving DecidableEq, Repr

/-- A backend handed back to the pool, with the status it last reported and the session. -/
structure SharedRelease where
  path : SharedReleasePath
  backend : Backend
  session : VirtualSession

/-- What a session does; the queries of replays and probes are not recorded. -/
inductive SharedEvent where
  | sentReady (status : ReadyStatus)
  | forwarded (backend : Backend) (frames : List PlannedFrame)
  | released (release : SharedRelease)
  | discarded (backend : BackendId)

/-- What a function of the loop leaves. -/
structure SharedOutcome where
  state : SharedState
  events : List SharedEvent
  flow : Flow

namespace SharedOutcome

/-- Puts events before those of the outcome. -/
def after (events : List SharedEvent) (outcome : SharedOutcome) : SharedOutcome :=
  { outcome with events := events ++ outcome.events }

/-- A session that returns drops the lease it still holds. -/
def close (outcome : SharedOutcome) : SharedState × List SharedEvent :=
  if outcome.flow = .continue then (outcome.state, outcome.events)
  else
    ({ outcome.state with heldBackend := none, finished := true },
      outcome.events ++ (outcome.state.heldBackend.map fun b => .discarded b.id).toList)

end SharedOutcome

namespace SharedState

/-- `cleanup_held_shared_backend`, and the return that follows it. -/
def cleanupHeld (st : SharedState) (flow : Flow) : SharedOutcome :=
  ⟨{ st with heldBackend := none },
    (st.heldBackend.map fun b => .released ⟨.heldCleanup, b, st.session⟩).toList, flow⟩

/-- `discard_backend_with_cancel_unbind`, and the return that follows it. -/
def discard (st : SharedState) (backend : Backend) (flow : Flow) : SharedOutcome :=
  ⟨st, [.discarded backend.id], flow⟩

/-- `write_shared_error_response`: the client is told, with the status `Idle`. -/
def tellError (st : SharedState) (clientWrite : Bool) : SharedOutcome :=
  if clientWrite then ⟨st, [.sentReady .idle], .continue⟩ else ⟨st, [], .fail⟩

end SharedState

/-! ### One cycle -/

/-- Everything the peers answer during one cycle. -/
structure SharedCycleEnv where
  clientWrite : Bool := true
  /-- Whether the target chosen for the cycle is one the loop supports. -/
  targetSupported : Bool := true
  checkout : CheckoutOutcome := .fatal
  /-- Whether the startup of the backend, if it needs one, goes through. -/
  startup : Bool := true
  replay : ForwardEnv := ⟨.done, []⟩
  forward : ForwardEnv := ⟨.done, []⟩
  /-- The checkout of a replacement for a backend that failed, started and replayed in time. -/
  reconnect : Option BackendId := none
  retryForward : ForwardEnv := ⟨.done, []⟩
  probe : Option PgLsn := none
  deriving DecidableEq

/-- What the loop makes of the frames of a cycle before it touches a backend. -/
inductive SharedDecision where
  /-- No frames: the loop goes on reading. -/
  | skip
  /-- A guardrail rejects the cycle. -/
  | reject
  /-- An error ends the session, which then has this state. -/
  | exit (session : VirtualSession)
  /-- The cycle goes to the held backend. -/
  | reuse (session : VirtualSession) (plans : List RequestPlan) (committedWrite : Bool)
    (backend : Backend)
  /-- The held backend, if any, is handed back and another one checked out. -/
  | checkout (session : VirtualSession) (plans : List RequestPlan) (committedWrite : Bool)

/-- `should_reuse_held_backend`. -/
def shouldReuseHeldBackend (session : VirtualSession) (held : Option Backend) : Bool :=
  session.pinReason.isSome && held.isSome

/-- `handle_client_session` from the frames of a cycle to the choice of a backend. -/
def sharedDecision (cfg : SessionConfig) (st : SharedState) (frames : List FrontendMessage)
    (env : SharedCycleEnv) : SharedDecision :=
  if frames.isEmpty then .skip
  else
    match requestPlansForFrames st.prepared frames with
    | none => .exit st.session
    | some plans =>
      if plans.any fun plan => cfg.guardrailDenies plan.sql then .reject
      else
        match updateTransactionStateFromRequestPlans cfg.fullRoutingAnalysis st.session false
            plans with
        | none => .exit st.session
        | some (session, committedWrite) =>
          if !env.targetSupported then .exit session
          else
            match st.heldBackend with
            | some backend =>
              if shouldReuseHeldBackend session (some backend) then
                .reuse session plans committedWrite backend
              else .checkout session plans committedWrite
            | none => .checkout session plans committedWrite

/-- `should_replay_shared_session`. -/
def shouldReplaySharedSession (session : VirtualSession) (previousBackendId : Option BackendId)
    (backendId : BackendId) : Bool :=
  session.hasReplayableSettings && previousBackendId != some backendId

/-- The replay of the session's settings, if it is due: any end of its relay will do. It is under
no timeout; a backend that does not answer it is taken for one that fails. -/
def replayShared (cfg : SessionConfig) (st : SharedState) (backend : Backend) (env : ForwardEnv) :
    Except Unit Backend :=
  if !shouldReplaySharedSession st.session st.previousBackendId backend.id then .ok backend
  else
    let frames := replayFrames st.session
    let relayed := forwardRuntimeCycle cfg.maxBackendBufferBytes backend
      (.fromFrames frames) 0 [] env
    match relayed.2 with
    | .ready _ | .flushed => .ok relayed.1.backend
    | _ => .error ()

/-- `handle_client_session` up to the result of forwarding a cycle. -/
inductive SharedAttempt where
  | ended (outcome : SharedOutcome)
  | forwarded (st : SharedState) (backend : Backend) (result : RuntimeResult)
    (events : List SharedEvent)

/-- Whether a failed attempt is retried on another backend. -/
def retriesShared (cfg : SessionConfig) (frames : List FrontendMessage) (plans : List RequestPlan)
    (session : VirtualSession) (result : RuntimeResult) : Bool :=
  result == .backendFailure .read false &&
    (safeRequestToReplay frames plans session false ||
      (cfg.failoverEnabled && safeRequestToReplay frames plans session
        cfg.failoverReplaySessionState))

/-- The planned cycle is relayed, and once more, as planned, on a replacement for a backend that
failed before it answered. -/
def forwardShared (cfg : SessionConfig) (st : SharedState) (backend : Backend)
    (frames : List FrontendMessage) (plans : List RequestPlan) (planned : PlannedCycle)
    (env : SharedCycleEnv) : SharedAttempt :=
  let shape := FrontendCycleShape.fromFrames frames
  let relayed := forwardRuntimeCycle cfg.maxBackendBufferBytes backend shape
    planned.injectedParseCompletes st.backendBuffer env.forward
  let st := { st with backendBuffer := relayed.1.buffer }
  let events := [.forwarded backend planned.frames]
  if retriesShared cfg frames plans st.session relayed.2 then
    let events := events ++ [.discarded backend.id]
    match env.reconnect with
    | none => .ended ((st.tellError env.clientWrite).after events)
    | some id =>
      -- the bytes planned for the failed backend are sent to its replacement as they are
      let retried := forwardRuntimeCycle cfg.maxBackendBufferBytes ⟨id, .idle⟩ shape
        planned.injectedParseCompletes st.backendBuffer env.retryForward
      .forwarded { st with previousBackendId := some id, backendBuffer := retried.1.buffer }
        retried.1.backend retried.2 (events ++ [.forwarded ⟨id, .idle⟩ planned.frames])
  else .forwarded st relayed.1.backend relayed.2 events

/-- `handle_client_session` from the moment it has a backend to the result of forwarding. -/
def attemptShared (cfg : SessionConfig) (st : SharedState) (backend : Backend)
    (frames : List FrontendMessage) (plans : List RequestPlan) (env : SharedCycleEnv) :
    SharedAttempt :=
  if !env.startup then .ended (st.discard backend .fail)
  else
    match replayShared cfg st backend env.replay with
    | .error _ => .ended (st.discard backend .fail)
    | .ok backend =>
      let st := { st with previousBackendId := some backend.id }
      match planFrontendCycle backend.id st.session st.prepared
          ((plans.filter (·.updatesSessionState)).map (·.command)) frames with
      | none => .ended (st.discard backend .fail)
      | some planned =>
        forwardShared cfg { st with session := planned.session, prepared := planned.prepared }
          backend frames plans planned env

/-- The session after the probe for read-after-write consistency; a copy is not marked as over. -/
def sharedReadySession (cfg : SessionConfig) (session : VirtualSession) (status : ReadyStatus)
    (committedWrite : Bool) (probe : Option PgLsn) : VirtualSession :=
  if committedWrite && cfg.readAfterWriteProtection && status == .idle then
    { session with readAfterWrite := (probe.map .required).getD .unknown }
  else session

/-- What the loop does with the result of a cycle. -/
def handleSharedResult (cfg : SessionConfig) (st : SharedState) (backend : Backend)
    (committedWrite : Bool) (env : SharedCycleEnv) : RuntimeResult → SharedOutcome
  | .ready status =>
    let session := sharedReadySession cfg st.session status committedWrite env.probe
    let st := { st with session }
    -- the pin alone decides, whatever status the backend has reported
    if session.pinReason.isSome then ⟨{ st with heldBackend := some backend }, [], .continue⟩
    else ⟨st, [.released ⟨.afterCycle, backend, session⟩], .continue⟩
  | .flushed => ⟨{ st with heldBackend := some backend }, [], .continue⟩
  | .backendFailure _ _ | .error => st.discard backend .fail
  | .timedOut =>
    (SharedState.tellError { st with session := st.session.markUnknownProtocolState }
      env.clientWrite).after [.discarded backend.id]

/-- A cycle from the moment the loop has a backend. -/
def runShared (cfg : SessionConfig) (st : SharedState) (backend : Backend)
    (frames : List FrontendMessage) (plans : List RequestPlan) (committedWrite : Bool)
    (env : SharedCycleEnv) : SharedOutcome :=
  match attemptShared cfg st backend frames plans env with
  | .ended outcome => outcome
  | .forwarded st backend result events =>
    (handleSharedResult cfg st backend committedWrite env result).after events

/-- The branch for a complete cycle. -/
def handleSharedCycle (cfg : SessionConfig) (st : SharedState) (frames : List FrontendMessage)
    (env : SharedCycleEnv) : SharedOutcome :=
  match sharedDecision cfg st frames env with
  | .skip => ⟨st, [], .continue⟩
  | .reject => st.tellError env.clientWrite
  | .exit session => SharedState.cleanupHeld { st with session } .fail
  | .reuse session plans committedWrite backend =>
    runShared cfg { st with session, heldBackend := none } backend frames plans committedWrite env
  | .checkout session plans committedWrite =>
    let cleaned := SharedState.cleanupHeld { st with session } .continue
    let st := { st with session, heldBackend := none }
    SharedOutcome.after cleaned.events <|
      match env.checkout with
      | .leased id => runShared cfg st ⟨id, .idle⟩ frames plans committedWrite env
      | .refused => st.tellError env.clientWrite
      | .close => ⟨st, [], .finish⟩
      | .fatal => ⟨st, [], .fail⟩

/-! ### The loop -/

/-- What ends a wait of the loop. -/
inductive SharedInput where
  | frames (frames : List FrontendMessage) (env : SharedCycleEnv)
  /-- Bytes that are no frontend cycle. -/
  | malformed
  | terminate
  | bufferLimitExceeded
  /-- The client closing its connection. -/
  | clientClosed
  | readError
  | idleTimeout (clientWrite : Bool)

/-- The branch for an idle timeout: a pinned session loses its backend and ends. -/
def handleSharedIdleTimeout (st : SharedState) (clientWrite : Bool) : SharedOutcome :=
  if st.session.pinReason.isSome then
    ⟨{ st with heldBackend := none },
      (st.heldBackend.map fun b => .discarded b.id).toList, if clientWrite then .finish else .fail⟩
  else
    let cleaned := st.cleanupHeld .continue
    (SharedState.tellError { cleaned.state with waitForClientActivity := true } clientWrite).after
      cleaned.events

/-- One turn of the loop of `handle_client_session`. -/
def sharedStep (cfg : SessionConfig) (st : SharedState) (input : SharedInput) :
    Option (SharedState × List SharedEvent) :=
  if st.finished then none
  else
    match input with
    | .frames frames env =>
      some (handleSharedCycle cfg { st with waitForClientActivity := false } frames env).close
    | .malformed | .bufferLimitExceeded | .readError => some (st.cleanupHeld .fail).close
    | .terminate | .clientClosed => some (st.cleanupHeld .finish).close
    | .idleTimeout clientWrite =>
      if st.waitForClientActivity then none
      else some (handleSharedIdleTimeout st clientWrite).close

/-- The shared session loop as a machine. -/
def sharedMachine (cfg : SessionConfig) : Machine SharedState SharedInput SharedEvent where
  step := sharedStep cfg

/-- The loop's variables when the client's startup is complete, on `backend` if there was one. -/
def SharedState.initial (sessionId : Nat) (backend : Option BackendId) : SharedState where
  previousBackendId := backend
  prepared := .new sessionId

end PgKinetic
