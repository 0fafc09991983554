import PgKinetic.Lib.Machine
import PgKinetic.Proxy.Recovery

/-!
# The client session loop

`handle_client` serves one client after startup: it waits for a frontend cycle, checks a backend
out unless it holds one, forwards the cycle, and decides what becomes of the backend. This
module is that loop on the default (tokio) path, as an event machine: an **input** is what ends
the wait (a cycle, the client leaving, a timeout, the held backend going away) together with
everything the peers answer until the loop waits again; the **events** are what the session
does to backends and to its client.

An error returned with `?` ends the session; a backend lease that goes out of scope is
discarded. A backend comes from the pool with last status `Idle`: it has either just completed
startup, which ends with that status, or been released by a session, and `Idle` at release is
what is proved of every session in `PgKinetic.Proxy.ReleaseStatus`.

Left out: cancel keys, mirroring, metrics and snapshots, the choice between primary and
replicas, and the application name, none of which decides about a held or released backend.
-/

namespace PgKinetic

open EventMachine

/-- The settings the loop reads. -/
structure SessionConfig where
  poolMode : PoolMode := .transaction
  recoveryMode : RecoveryMode := .recover
  /-- `route_read_routing_mode != ReadRoutingMode::Off`. -/
  fullRoutingAnalysis : Bool := false
  readAfterWriteProtection : Bool := false
  failoverEnabled : Bool := false
  failoverReplaySessionState : Bool := false
  maxBackendBufferBytes : Nat := 1048576
  resetQuery : Text := "DISCARD ALL"
  /-- `guardrail_denial`, on the text of a request plan. -/
  guardrailDenies : Text → Bool := fun _ => false

/-- The variables of the loop. -/
structure SessionState where
  session : VirtualSession := {}
  pinnedBackend : Option BackendId := none
  prepared : PreparedCatalog
  heldBackend : Option Backend := none
  /-- The read buffer kept between cycles. -/
  backendRead : List Byte := []
  waitForClientActivity : Bool := false
  finished : Bool := false

/-- Where in the source a backend is handed back to the pool. -/
inductive ReleasePath where
  | reuse
  | resetThenReuse
  | rollbackThenReuse
  | recoveredOnDisconnect
  | unpinnedOnDisconnect
  | queryTimeout
  | abandonedResponse
  deriving DecidableEq, Repr

/-- A backend handed back to the pool: with the status it last reported, the session that had
it, and whether the reset query has just been run on it. -/
structure Release where
  path : ReleasePath
  backend : Backend
  session : VirtualSession
  afterReset : Bool

/-- What a session does. -/
inductive SessionEvent where
  /-- The client is sent ReadyForQuery. -/
  | sentReady (status : ReadyStatus)
  /-- A guardrail rejects the cycle: the client is sent an error and ReadyForQuery (Idle). -/
  | rejectedByGuardrail
  /-- The client's cycle is written to a backend. -/
  | forwarded (backend : Backend) (frames : List PlannedFrame)
  /-- The proxy's own messages are written to a backend. -/
  | queried (backend : BackendId) (messages : List FrontendMessage)
  | released (release : Release)
  | discarded (backend : BackendId)
  /-- The held backend has gone away between two cycles, and its lease is discarded. -/
  | lost (backend : BackendId)

/-- How a function of the loop returns: `FrameCycleOutcome` or an error. -/
inductive Flow where
  | continue
  | finish
  | fail
  deriving DecidableEq, Repr

/-- What a function of the loop leaves. -/
structure Outcome where
  state : SessionState
  events : List SessionEvent
  flow : Flow

namespace SessionState

/-- `clear_pinned_backend` and `release`. -/
def release (st : SessionState) (path : ReleasePath) (backend : Backend) (afterReset : Bool)
    (flow : Flow) : Outcome :=
  ⟨{ st with pinnedBackend := none }, [.released ⟨path, backend, st.session, afterReset⟩], flow⟩

/-- `clear_pinned_backend` and `discard`. -/
def discard (st : SessionState) (backend : Backend) (flow : Flow) : Outcome :=
  ⟨{ st with pinnedBackend := none }, [.discarded backend.id], flow⟩

/-- The session keeps the backend for its next cycle. -/
def hold (st : SessionState) (backend : Backend) : Outcome :=
  ⟨{ st with heldBackend := some backend }, [], .continue⟩

/-- The session keeps the backend and is pinned to it. -/
def pin (st : SessionState) (backend : Backend) : Outcome :=
  ⟨{ st with pinnedBackend := some backend.id, heldBackend := some backend }, [], .continue⟩

end SessionState

namespace Outcome

/-- Puts events before those of the outcome. -/
def after (events : List SessionEvent) (outcome : Outcome) : Outcome :=
  { outcome with events := events ++ outcome.events }

/-- The same with another way to return. -/
def returning (outcome : Outcome) (flow : Flow) : Outcome :=
  { outcome with flow := if outcome.flow = .fail then .fail else flow }

end Outcome

/-! ### Backends after a cycle -/

/-- What the peers answer while the loop disposes of a backend: to the reset query or rollback
that has no timeout, and to the batches of a recovery. -/
structure DisposeEnv where
  cleanup : BatchReply := .failed
  recovery : List BatchReply := []
  deriving DecidableEq

/-- The session when `finish_ready_backend` decides: after the freshness probe of a committed
write, a `SELECT` outside a transaction that leaves the backend `Idle`, and
`mark_ready_after_copy`. -/
def readySession (cfg : SessionConfig) (session : VirtualSession) (status : ReadyStatus)
    (committedWrite : Bool) (probe : Option PgLsn) : VirtualSession :=
  let session :=
    if committedWrite && cfg.readAfterWriteProtection && status == .idle then
      { session with readAfterWrite := (probe.map .required).getD .unknown }
    else session
  session.markReadyAfterCopy

/-- The decision of `finish_ready_backend`. -/
def readyAction (cfg : SessionConfig) (st : SessionState) (status : ReadyStatus) : CleanupAction :=
  if status = .idle ∧ st.prepared.hasNamedStatements then .keepPinned
  else cleanupAction st.session status cfg.poolMode

/-- What `finish_ready_backend` does then; `fail` is an error. -/
def performCleanup (cfg : SessionConfig) (st : SessionState) (backend : Backend)
    (env : DisposeEnv) : CleanupAction → Outcome
  | .reuse => st.release .reuse backend false .continue
  | .resetThenReuse =>
    Outcome.after [.queried backend.id [.query cfg.resetQuery]] <|
      match executeToIdle backend env.cleanup with
      | .ok backend => st.release .resetThenReuse backend true .continue
      | .error _ => st.discard backend .fail
  | .keepPinned => st.pin backend
  | .rollbackThenReuse =>
    Outcome.after [.queried backend.id [.query "ROLLBACK"]] <|
      match executeToIdle backend env.cleanup with
      | .ok backend =>
        SessionState.release { st with session := st.session.applySql .rollback }
          .rollbackThenReuse backend false .continue
      | .error _ => st.discard backend .fail
  | .rollbackThenKeepPinned =>
    Outcome.after [.queried backend.id [.query "ROLLBACK"]] <|
      match executeToIdle backend env.cleanup with
      | .ok backend => SessionState.pin { st with session := st.session.applySql .rollback } backend
      | .error _ => st.discard backend .fail
  -- the session goes on, on another backend
  | .discard => st.discard backend .continue

/-- `finish_ready_backend`. -/
def finishReadyBackend (cfg : SessionConfig) (st : SessionState) (backend : Backend)
    (status : ReadyStatus) (committedWrite : Bool) (probe : Option PgLsn) (env : DisposeEnv) :
    Outcome :=
  let st := { st with session := readySession cfg st.session status committedWrite probe }
  performCleanup cfg st backend env (readyAction cfg st status)

/-- The proxy's own messages of a recovery, as an event if there are any. -/
def recoveryEvents (backend : Backend) (trigger : RecoveryTrigger) (mode : RecoveryMode)
    (needsSync : Bool) : List SessionEvent :=
  match recoveryMessages trigger mode needsSync with
  | [] => []
  | messages => [.queried backend.id messages]

/-- Recovery of a backend and the decision to release or discard it that follows. -/
def recoverThenDispose (cfg : SessionConfig) (st : SessionState) (trigger : RecoveryTrigger)
    (needsSync : Bool) (path : ReleasePath) (backend : Backend) (env : DisposeEnv) : Outcome :=
  Outcome.after (recoveryEvents backend trigger cfg.recoveryMode needsSync) <|
    match recoverBackend trigger cfg.recoveryMode st.session backend env.recovery with
    | .ok recovered =>
      let st := { st with session := recovered.session }
      if recovered.reuse then st.release path recovered.backend false .finish
      else st.discard recovered.backend .finish
    | .error _ => st.discard backend .fail

/-- Whether the session is pinned by a transaction it tracks. -/
def pinnedByTransaction (session : VirtualSession) : Bool :=
  session.pinReason == some .openTransaction || session.pinReason == some .failedTransaction

/-- `finalize_backend_on_disconnect`. -/
def finalizeBackendOnDisconnect (cfg : SessionConfig) (st : SessionState) (backend : Backend)
    (env : DisposeEnv) : Outcome :=
  if pinnedByTransaction st.session then
    recoverThenDispose cfg st .abandonedTransaction false .recoveredOnDisconnect backend env
  else if st.session.pinReason.isSome then st.discard backend .finish
  else if st.session.hasReplayableSettings then
    Outcome.after [.queried backend.id [.query cfg.resetQuery]] <|
      match executeToIdle backend env.cleanup with
      | .ok backend => st.release .unpinnedOnDisconnect backend true .finish
      | .error _ => st.discard backend .fail
  else st.release .unpinnedOnDisconnect backend false .finish

/-- `finalize_held_backend_on_disconnect`. -/
def finalizeHeldBackend (cfg : SessionConfig) (st : SessionState) (env : DisposeEnv) : Outcome :=
  match st.heldBackend with
  | none => ⟨st, [], .finish⟩
  | some backend => finalizeBackendOnDisconnect cfg { st with heldBackend := none } backend env

/-- The trigger `handle_query_timeout` recovers with. -/
def timeoutTrigger (session : VirtualSession) : RecoveryTrigger :=
  if pinnedByTransaction session then .abandonedTransaction else .abandonedResponse

/-- What `handle_query_timeout` does with the backend; a failed recovery is not an error. -/
def disposeAfterTimeout (cfg : SessionConfig) (st : SessionState) (backend : Backend)
    (env : DisposeEnv) (flow : Flow) : Outcome :=
  let trigger := timeoutTrigger st.session
  Outcome.after (recoveryEvents backend trigger cfg.recoveryMode false) <|
    match recoverBackend trigger cfg.recoveryMode st.session backend env.recovery with
    | .ok recovered =>
      let st := { st with session := recovered.session, pinnedBackend := none }
      -- the session is no longer pinned, whatever becomes of the backend
      if !recovered.reuse then st.discard recovered.backend flow
      else if cfg.poolMode = .session then (st.hold recovered.backend).returning flow
      else st.release .queryTimeout recovered.backend false flow
    | .error _ => st.discard backend flow

/-- `handle_query_timeout`; `clientWrite` is whether the client can be told. -/
def handleQueryTimeout (cfg : SessionConfig) (st : SessionState) (backend : Backend)
    (responseStarted clientWrite : Bool) (env : DisposeEnv) : Outcome :=
  if responseStarted then disposeAfterTimeout cfg st backend env .finish
  else if !clientWrite then st.discard backend .fail
  else
    Outcome.after [.sentReady .idle] <|
      disposeAfterTimeout cfg { st with waitForClientActivity := true } backend env .continue

/-- `failover_ready_status`. -/
def failoverReadyStatus : PinReason → ReadyStatus
  | .openTransaction | .failedTransaction => .failedTransaction
  | _ => .idle

/-! ### One cycle -/

/-- How a checkout ends. -/
inductive CheckoutOutcome where
  | leased (backend : BackendId)
  /-- `CheckoutFailure::Overload` and `CheckoutFailure::Postgres`: the client is told. -/
  | refused
  | close
  | fatal
  deriving DecidableEq, Repr

/-- Everything the peers answer during one cycle. -/
structure CycleEnv where
  /-- Whether an error made by the proxy can be written to the client. -/
  clientWrite : Bool := true
  checkout : CheckoutOutcome := .fatal
  replay : BatchReply := .failed
  forward : ForwardEnv := ⟨.done, []⟩
  /-- The checkout of a replacement for a backend that failed, in time. -/
  reconnect : Option BackendId := none
  reconnectReplay : BatchReply := .failed
  retryForward : ForwardEnv := ⟨.done, []⟩
  probe : Option PgLsn := none
  dispose : DisposeEnv := {}
  /-- For a client that has left once its cycle is answered. -/
  finalize : DisposeEnv := {}
  deriving DecidableEq

/-- An error made by the proxy, with ReadyForQuery, and the return that follows it. -/
def errorResponseAndReady (st : SessionState) (clientWrite : Bool) (status : ReadyStatus) :
    Outcome :=
  if clientWrite then ⟨st, [.sentReady status], .finish⟩ else ⟨st, [], .fail⟩

/-- `handle_forward_result`; `st` has the session and the catalog as forwarding left them. -/
def handleForwardResult (cfg : SessionConfig) (st : SessionState) (backend : Backend)
    (result : ForwardResult) (committedWrite : Bool) (env : CycleEnv) : Outcome :=
  match result with
  | .ready status => finishReadyBackend cfg st backend status committedWrite env.probe env.dispose
  | .clientDisconnectedAfterReady status =>
    let finished := finishReadyBackend cfg st backend status committedWrite env.probe env.dispose
    -- the backend may have been kept for a client that is gone
    if finished.flow = .fail then finished
    else (finalizeHeldBackend cfg finished.state env.finalize).after finished.events
  | .flushed => st.hold backend
  | .abandonedResponse needsSync =>
    recoverThenDispose cfg st .abandonedResponse needsSync .abandonedResponse backend env.dispose
  | .bufferLimitExceeded => st.discard backend .finish
  | .backendFailure _ responseStarted =>
    if responseStarted then st.discard backend .finish
    else
      let told := errorResponseAndReady st env.clientWrite
        ((st.session.pinReason.map failoverReadyStatus).getD .idle)
      (st.discard backend told.flow).after told.events
  | .error => st.discard backend .fail
  | .timedOut responseStarted =>
    handleQueryTimeout cfg st backend responseStarted env.clientWrite env.dispose

/-- Whether a failed attempt is retried on another backend. -/
def retriesOnFailure (cfg : SessionConfig) (frames : List FrontendMessage)
    (plans : List RequestPlan) (forwarded : Forwarded) : Bool :=
  forwarded.result == .backendFailure .read false &&
    (safeRequestToReplay frames plans forwarded.session false ||
      (cfg.failoverEnabled &&
        safeRequestToReplay frames plans forwarded.session cfg.failoverReplaySessionState))

/-- The events of one attempt to forward a cycle to a backend. -/
def Forwarded.events (forwarded : Forwarded) (backend : Backend) : List SessionEvent :=
  .forwarded backend forwarded.written :: forwarded.sent.map .sentReady

/-- The loop state after an attempt. -/
def SessionState.afterForward (st : SessionState) (forwarded : Forwarded) : SessionState :=
  { st with
    session := forwarded.session
    prepared := forwarded.prepared
    backendRead := forwarded.backendRead }

/-- `replay_frames`. -/
def replayFrames (session : VirtualSession) : List FrontendMessage := session.replaySql.map .query

/-- `handle_frame_cycle` up to the result of forwarding: it has returned before, or there is a
result to handle. -/
inductive Attempt where
  | ended (outcome : Outcome)
  | forwarded (st : SessionState) (forwarded : Forwarded) (committedWrite : Bool)
    (events : List SessionEvent)

namespace Attempt

/-- Puts events before those of the attempt. -/
def after (events : List SessionEvent) : Attempt → Attempt
  | .ended outcome => .ended (outcome.after events)
  | .forwarded st fwd committedWrite events' => .forwarded st fwd committedWrite (events ++ events')

end Attempt

/-- One attempt to forward a cycle to a backend. -/
def forwardOnce (cfg : SessionConfig) (st : SessionState) (backend : Backend)
    (frames : List FrontendMessage) (plans : List RequestPlan) (env : ForwardEnv) : Forwarded :=
  forwardMessageCycle cfg.maxBackendBufferBytes st.session st.prepared backend st.backendRead
    frames ((plans.filter (·.updatesSessionState)).map (·.command)) env

/-- The replay of a session on a replacement backend, if there is anything to replay. -/
def replayOnReplacement (backend : Backend) (replay : List FrontendMessage) (reply : BatchReply) :
    Except BatchError Backend :=
  if replay.isEmpty then .ok backend else executeToIdle backend reply

/-- The one retry of `handle_frame_cycle`: a replacement is checked out and brought to the
session's settings; if that fails the client is told and the session ends. -/
def retryCycle (cfg : SessionConfig) (st : SessionState) (frames : List FrontendMessage)
    (plans : List RequestPlan) (committedWrite : Bool) (env : CycleEnv) : Attempt :=
  match env.reconnect with
  | none => .ended (errorResponseAndReady st env.clientWrite .idle)
  | some id =>
    let replay := if cfg.failoverReplaySessionState then replayFrames st.session else []
    Attempt.after (if replay.isEmpty then [] else [.queried id replay]) <|
      match replayOnReplacement ⟨id, .idle⟩ replay env.reconnectReplay with
      | .error _ => .ended ((errorResponseAndReady st env.clientWrite .idle).after [.discarded id])
      | .ok backend =>
        let fwd := forwardOnce cfg st backend frames plans env.retryForward
        .forwarded st fwd committedWrite (fwd.events backend)

/-- The retry loop of `handle_frame_cycle`. -/
def forwardCycle (cfg : SessionConfig) (st : SessionState) (backend : Backend)
    (frames : List FrontendMessage) (plans : List RequestPlan) (committedWrite : Bool)
    (env : CycleEnv) : Attempt :=
  let fwd := forwardOnce cfg st backend frames plans env.forward
  if retriesOnFailure cfg frames plans fwd then
    (retryCycle cfg (st.afterForward fwd) frames plans committedWrite env).after
      (fwd.events backend ++ [.discarded backend.id])
  else .forwarded st fwd committedWrite (fwd.events backend)

/-- `should_replay_session`. -/
def shouldReplaySession (session : VirtualSession) (pinnedBackend : Option BackendId)
    (backend : BackendId) : Bool :=
  session.hasReplayableSettings && pinnedBackend != some backend

/-- `handle_frame_cycle` from the moment it has a backend to the result of forwarding. -/
def runCycle (cfg : SessionConfig) (st : SessionState) (backend : Backend)
    (frames : List FrontendMessage) (plans : List RequestPlan) (committedWrite : Bool)
    (env : CycleEnv) : Attempt :=
  if shouldReplaySession st.session st.pinnedBackend backend.id then
    Attempt.after [.queried backend.id (replayFrames st.session)] <|
      match executeToIdle backend env.replay with
      | .error _ => .ended (st.discard backend .fail)
      | .ok backend => forwardCycle cfg st backend frames plans committedWrite env
  else forwardCycle cfg st backend frames plans committedWrite env

/-- `handle_frame_cycle` up to the result of forwarding. -/
def attemptCycle (cfg : SessionConfig) (st : SessionState) (frames : List FrontendMessage)
    (env : CycleEnv) : Attempt :=
  match requestPlansForFrames st.prepared frames with
  | none => .ended ⟨st, [], .fail⟩
  | some plans =>
    if plans.any fun plan => cfg.guardrailDenies plan.sql then
      .ended (if env.clientWrite then ⟨st, [.rejectedByGuardrail], .continue⟩ else ⟨st, [], .fail⟩)
    else
      match updateTransactionStateFromRequestPlans cfg.fullRoutingAnalysis st.session false
          plans with
      | none => .ended ⟨st, [], .fail⟩
      | some (session, committedWrite) =>
        -- from here on the tracked session is the one after the cycle, sent or not
        let st := { st with session }
        match st.heldBackend with
        | some backend =>
          runCycle cfg { st with heldBackend := none } backend frames plans committedWrite env
        | none =>
          match env.checkout with
          | .leased id => runCycle cfg st ⟨id, .idle⟩ frames plans committedWrite env
          | .refused => .ended (errorResponseAndReady st env.clientWrite .idle)
          | .close => .ended ⟨st, [], .finish⟩
          | .fatal => .ended ⟨st, [], .fail⟩

/-- `handle_frame_cycle`. -/
def handleFrameCycle (cfg : SessionConfig) (st : SessionState) (frames : List FrontendMessage)
    (env : CycleEnv) : Outcome :=
  match attemptCycle cfg st frames env with
  | .ended outcome => outcome
  | .forwarded st fwd committedWrite events =>
    (handleForwardResult cfg (st.afterForward fwd) fwd.backend fwd.result committedWrite
      env).after events

/-! ### The loop -/

/-- What ends a wait of the loop. -/
inductive SessionInput where
  | frames (frames : List FrontendMessage) (env : CycleEnv)
  /-- Terminate, or the client closing its connection. -/
  | terminate (env : DisposeEnv)
  | idleTimeout (env : DisposeEnv) (clientWrite : Bool)
  | bufferLimitExceeded (env : DisposeEnv)
  /-- A read error or bytes that are no frame. -/
  | clientError
  /-- The held backend closes its connection, or reading from it fails. -/
  | backendClosed
  /-- Asynchronous messages of the held backend, none of them ReadyForQuery. -/
  | backendAsync (clientWrite : Bool)

/-- A session that returns drops the lease it still holds. -/
def Outcome.close (outcome : Outcome) : SessionState × List SessionEvent :=
  if outcome.flow = .continue then (outcome.state, outcome.events)
  else
    ({ outcome.state with heldBackend := none, finished := true },
      outcome.events ++ (outcome.state.heldBackend.map fun b => .discarded b.id).toList)

/-- `ClientCycle::IdleTimeout`, and the error sent afterwards: a client in a transaction is only
told, an idle one may go on. -/
def handleIdleTimeout (cfg : SessionConfig) (st : SessionState) (env : DisposeEnv)
    (clientWrite : Bool) : Outcome :=
  let finalized := finalizeHeldBackend cfg st env
  if finalized.flow = .fail then finalized
  else if pinnedByTransaction st.session then finalized
  else if !clientWrite then finalized.returning .fail
  else
    ⟨{ finalized.state with waitForClientActivity := true },
      finalized.events ++ [.sentReady .idle], .continue⟩

/-- One turn of the loop of `handle_client`. -/
def sessionStep (cfg : SessionConfig) (st : SessionState) (input : SessionInput) :
    Option (SessionState × List SessionEvent) :=
  if st.finished then none
  else
    match input with
    | .frames frames env =>
      some (handleFrameCycle cfg { st with waitForClientActivity := false } frames env).close
    | .terminate env => some (finalizeHeldBackend cfg st env).close
    | .bufferLimitExceeded env => some (finalizeHeldBackend cfg st env).close
    | .idleTimeout env clientWrite =>
      if st.waitForClientActivity then none
      else some (handleIdleTimeout cfg st env clientWrite).close
    | .clientError => some (Outcome.close ⟨st, [], .fail⟩)
    | .backendClosed =>
      st.heldBackend.map fun backend => ({ st with heldBackend := none }, [.lost backend.id])
    | .backendAsync clientWrite =>
      st.heldBackend.map fun _ => Outcome.close ⟨st, [], if clientWrite then .continue else .fail⟩

/-- The session loop as a machine. -/
def sessionMachine (cfg : SessionConfig) : Machine SessionState SessionInput SessionEvent where
  step := sessionStep cfg

/-- The loop's variables when the client's startup is complete. -/
def SessionState.initial (sessionId : Nat) : SessionState := { prepared := .new sessionId }

end PgKinetic
