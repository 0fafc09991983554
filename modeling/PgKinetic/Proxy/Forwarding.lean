import PgKinetic.Engine.ResponseDrain
import PgKinetic.Protocol.Prepare
import PgKinetic.Protocol.VirtualSession

/-!
# Planning and forwarding one frontend cycle

Before a cycle is sent, `request_plans_for_frames` lists the statements in it and the session
tracks their transaction control (`update_transaction_state_from_request_plans`);
`plan_frontend_cycle` rewrites each frame for the backend, injecting a Parse where the catalog
says the backend lacks the statement, and tracks the session state of simple queries.
`forward_message_cycle` then relays what the backend answers until the shape of the cycle says
the answer is complete.

What the peers do during the relay is a list of `WireEvent`s; where the list ends, the query
timeout does. Frames on their way to the backend are tagged with whether the proxy **injected**
them. Metrics, snapshots, phase timers and the application name of the route are not modelled.
-/

namespace PgKinetic

/-! ### Request plans -/

/-- `RequestPlan`. Its analysis is a function of `sql`, and the plan cache returns what
`Sql.classify` does. -/
structure RequestPlan where
  sql : Text
  command : SqlCommand
  updatesTransactionState : Bool
  updatesSessionState : Bool
  deriving DecidableEq

namespace RequestPlan

/-- `RequestPlan::new`; `none` where `classify` panics. -/
def new (sql : Text) (updatesTransactionState updatesSessionState : Bool) : Option RequestPlan :=
  (Sql.classify sql).map fun command =>
    { sql, command, updatesTransactionState, updatesSessionState }

/-- `RequestPlan::from_prepared`. The command was computed when the statement was recorded. -/
def fromPrepared (statement : PreparedStatement) : RequestPlan where
  sql := statement.query
  command := (Sql.classify statement.query).getD .query
  updatesTransactionState := false
  updatesSessionState := false

end RequestPlan

/-- The plan of one frame, if it has one: the outer `none` is an error or a panic. -/
def requestPlanForFrame (prepared : PreparedCatalog) :
    FrontendMessage → Option (Option RequestPlan)
  | .query sql => (RequestPlan.new sql true true).map some
  | .parse _ query _ => (RequestPlan.new query true false).map some
  | .malformed .query | .malformed .parse => none
  | .bind name | .describe (.statement name) =>
    some ((prepared.getForCurrentRouteMap name).map .fromPrepared)
  | _ => some none

/-- `request_plans_for_frames`. -/
def requestPlansForFrames (prepared : PreparedCatalog) :
    List FrontendMessage → Option (List RequestPlan)
  | [] => some []
  | frame :: frames =>
    match requestPlanForFrame prepared frame, requestPlansForFrames prepared frames with
    | some plan, some plans => some (plan.toList ++ plans)
    | _, _ => none

/-- `update_transaction_state_from_request_plan`. -/
def updateTransactionStateFromRequestPlan (session : VirtualSession) (plan : RequestPlan)
    (track : Bool) : Option (VirtualSession × Bool) :=
  match session.applyTransactionSqlWithRouting plan.sql track with
  | none => none
  | some (session, committedWrite) =>
    some (if track then session.updateTransactionShardState plan.sql else session, committedWrite)

/-- `update_transaction_state_from_request_plans`; the flag is
`committed_write_transaction`. -/
def updateTransactionStateFromRequestPlans (track : Bool) :
    VirtualSession → Bool → List RequestPlan → Option (VirtualSession × Bool)
  | session, committedWrite, [] => some (session, committedWrite)
  | session, committedWrite, plan :: plans =>
    if plan.updatesTransactionState then
      match updateTransactionStateFromRequestPlan session plan track with
      | none => none
      | some (session, committed) =>
        updateTransactionStateFromRequestPlans track session (committedWrite || committed) plans
    else updateTransactionStateFromRequestPlans track session committedWrite plans

/-- `safe_request_to_replay`. -/
def safeRequestToReplay (frames : List FrontendMessage) (plans : List RequestPlan)
    (session : VirtualSession) (replaySessionState : Bool) : Bool :=
  !frames.isEmpty && frames.all (fun frame => frame.tag == some .query) &&
    (match plans with
      | [plan] => (SqlClassify.classifySql plan.sql).routesToReplica
      | _ => false) &&
    session.pinReason.isNone && (replaySessionState || !session.hasReplayableSettings)

/-! ### Planning the frames -/

/-- A frame on its way to the backend. -/
structure PlannedFrame where
  message : FrontendMessage
  injected : Bool
  deriving DecidableEq

/-- The Bind and Describe branches of `prepare_frame_for_backend`, for a statement the catalog
knows: the Parse to inject, if any, the frame under its backend name, and the catalog after. -/
def prepareStatementUse (backendId : BackendId) (prepared : PreparedCatalog)
    (statement : PreparedStatement) (frame : FrontendMessage) :
    PreparedCatalog × List PlannedFrame :=
  if prepared.isMaterialized backendId statement then (prepared, [⟨frame, false⟩])
  else
    (prepared.markMaterialized backendId statement,
      [⟨.parse statement.backendName statement.query statement.parameterTypeOids, true⟩,
        ⟨frame, false⟩])

/-- `prepare_frame_for_backend`: `none` where the frame does not parse. -/
def prepareFrameForBackend (backendId : BackendId) (prepared : PreparedCatalog)
    (frame : FrontendMessage) : Option (PreparedCatalog × List PlannedFrame) :=
  match frame with
  | .parse name query oids =>
    let statement := prepared.newStatement name query oids
    -- marked while it is planned, before the backend has seen it
    some ((prepared.upsert name query oids).markMaterialized backendId statement,
      [⟨.parse statement.backendName query oids, false⟩])
  | .bind name =>
    match prepared.getForCurrentRouteMap name with
    | some statement =>
      some (prepareStatementUse backendId prepared statement (.bind statement.backendName))
    | none => some (prepared, [⟨frame, false⟩])
  | .describe (.statement name) =>
    match prepared.getForCurrentRouteMap name with
    | some statement =>
      some (prepareStatementUse backendId prepared statement
        (.describe (.statement statement.backendName)))
    | none => some (prepared, [⟨frame, false⟩])
  | .close (.statement name) =>
    match prepared.remove name with
    | some (statement, prepared) =>
      some (prepared, [⟨.close (.statement statement.backendName), false⟩])
    | none => some (prepared, [⟨frame, false⟩])
  | .malformed .parse | .malformed .bind | .malformed .describe | .malformed .close => none
  | _ => some (prepared, [⟨frame, false⟩])

/-- `update_virtual_session_from_frame`: transaction control has been tracked already. -/
def updateVirtualSessionFromFrame (session : VirtualSession) (command : SqlCommand) :
    VirtualSession :=
  match command with
  | .begin _ | .commit | .rollback | .setTransaction _ => session
  | _ => session.applySql command

/-- What planning a cycle leaves. -/
structure PlannedCycle where
  session : VirtualSession
  prepared : PreparedCatalog
  frames : List PlannedFrame
  deriving DecidableEq

/-- `injected_parse_completes`. -/
def PlannedCycle.injectedParseCompletes (planned : PlannedCycle) : Nat :=
  planned.frames.countP (·.injected)

/-- `plan_frontend_cycle`; `commands` are those of the simple queries still to come. -/
def planFrontendCycle (backendId : BackendId) :
    VirtualSession → PreparedCatalog → List SqlCommand → List FrontendMessage →
      Option PlannedCycle
  | session, prepared, _, [] => some ⟨session, prepared, []⟩
  | session, prepared, commands, frame :: frames =>
    match prepareFrameForBackend backendId prepared frame with
    | none => none
    | some (prepared, planned) =>
      let rest :=
        if frame.tag = some .query then
          match commands with
          | [] => none
          | command :: commands =>
            planFrontendCycle backendId (updateVirtualSessionFromFrame session command) prepared
              commands frames
        else planFrontendCycle backendId session prepared commands frames
      rest.map fun rest => { rest with frames := planned ++ rest.frames }

/-- A planned cycle of `frame :: frames` is the plan of `frame` followed by that of `frames`. -/
theorem planFrontendCycle_cons_eq_some {backendId : BackendId} {session : VirtualSession}
    {prepared : PreparedCatalog} {commands : List SqlCommand} {frame : FrontendMessage}
    {frames : List FrontendMessage} {planned : PlannedCycle}
    (h : planFrontendCycle backendId session prepared commands (frame :: frames) = some planned) :
    ∃ prepared' group session' commands' rest,
      prepareFrameForBackend backendId prepared frame = some (prepared', group) ∧
      (session' = session ∨ ∃ command, session' = updateVirtualSessionFromFrame session command) ∧
      planFrontendCycle backendId session' prepared' commands' frames = some rest ∧
      planned = { rest with frames := group ++ rest.frames } := by
  simp only [planFrontendCycle] at h
  split at h
  · cases h
  · rename_i prepared' group hframe
    obtain ⟨rest, hrest, rfl⟩ := Option.map_eq_some_iff.1 h
    split at hrest
    · split at hrest
      · cases hrest
      · exact ⟨_, _, _, _, _, hframe, .inr ⟨_, rfl⟩, hrest, rfl⟩
    · exact ⟨_, _, _, _, _, hframe, .inl rfl, hrest, rfl⟩

/-! ### Relaying the answer -/

/-- A backend connection leased to the session, with the last transaction status it has
reported to the proxy. -/
structure Backend where
  id : BackendId
  status : ReadyStatus
  deriving DecidableEq, Repr

/-- How a write to a peer goes; a stalled one is still pending when the timeout strikes. -/
inductive WriteOutcome where
  | done
  | failed
  | stalled
  deriving DecidableEq, Repr

/-- What the peers do while the proxy relays an answer. -/
inductive WireEvent where
  /-- A read from the backend, of no bytes where the backend has closed the connection, and how
  the frames it completes are written to the client. -/
  | backendRead (bytes : List Byte) (clientWrite : WriteOutcome)
  | backendReadError
  /-- A read from the client during `COPY ... FROM STDIN`, and how it is written to the
  backend. -/
  | clientCopyRead (backendWrite : WriteOutcome)
  | clientCopyReadError
  | clientClosed
  deriving DecidableEq, Repr

/-- `BackendFailureKind`. -/
inductive BackendFailureKind where
  | read
  | write
  deriving DecidableEq, Repr

/-- How `forward_message_cycle`, run under the query timeout, ends: its `ForwardOutcome`, a
`BackendFailure`, another error, or the timeout. -/
inductive ForwardResult where
  | ready (status : ReadyStatus)
  | clientDisconnectedAfterReady (status : ReadyStatus)
  | flushed
  | abandonedResponse (needsSync : Bool)
  | bufferLimitExceeded
  | backendFailure (kind : BackendFailureKind) (responseStarted : Bool)
  | error
  | timedOut (responseStarted : Bool)
  deriving DecidableEq, Repr

/-- What the callback of `classify_backend_frames` changes. -/
structure ForwardCycleState where
  session : VirtualSession
  prepared : PreparedCatalog
  deriving DecidableEq

/-- The callback of `classify_backend_frames`. -/
def ForwardCycleState.onFrame (backendId : BackendId) (state : ForwardCycleState)
    (frame : BackendFrame) : ForwardCycleState where
  prepared :=
    match frame.sqlstate with
    | some sqlstate => (state.prepared.invalidateForSqlstate sqlstate backendId).1
    | none => state.prepared
  session :=
    if frame.hasTag .errorResponse ∧ state.session.pinReason = some .openTransaction then
      state.session.markFailedTransaction
    else state.session

/-- The state of the relay loop between two reads. -/
structure RelayState where
  state : ForwardCycleState
  backend : Backend
  progress : BackendCycleProgress
  /-- `backend_read`, the bytes of a frame that is not complete yet. -/
  backendRead : List Byte
  clientDrivesCopy : Bool
  /-- The ready statuses written to the client so far. -/
  sent : List ReadyStatus

/-- `is_copy_from_client_request`. -/
def isCopyFromClientRequest (frame : BackendFrame) : Bool :=
  frame.hasTag .copyInResponse || frame.hasTag .copyBothResponse

/-- The relay state after a read has been drained and its frames written to the client. -/
def RelayState.afterRead (relay : RelayState) (drained : Drained ForwardCycleState)
    (rest : List Byte) (clientWrite : WriteOutcome) : RelayState where
  state := drained.acc
  backend := { relay.backend with status := drained.ready.getD relay.backend.status }
  progress := drained.progress
  backendRead := rest
  clientDrivesCopy := relay.clientDrivesCopy || drained.forwarded.any isCopyFromClientRequest
  sent := if clientWrite = .done then
      relay.sent ++ drained.forwarded.filterMap BackendFrame.readyStatus
    else relay.sent

/-- How a drained read ends the cycle, if it does: by a client that is gone or does not read, by
the last ReadyForQuery it expects, or by the last reply to a cycle that ends with `Flush`. -/
def RelayState.resultAfterRead (relay : RelayState) (shape : FrontendCycleShape)
    (drained : Drained ForwardCycleState) (clientWrite : WriteOutcome) : Option ForwardResult :=
  if !drained.forwarded.isEmpty && clientWrite = .stalled then
    some (.timedOut relay.progress.responseStarted)
  else if !drained.forwarded.isEmpty && clientWrite = .failed then
    match drained.cycleReady shape with
    | some status => some (.clientDisconnectedAfterReady status)
    | none => some (.abandonedResponse shape.needsSync)
  else
    match drained.cycleReady shape with
    | some status => some (.ready status)
    | none =>
      if !shape.expectsReady && relay.progress.flushCycleComplete shape then some .flushed
      else none

/-- The loop of `forward_message_cycle`. A client event while the client does not drive a copy
is not looked at: the client is not read from then. -/
def relay (shape : FrontendCycleShape) (maxBuffer : Nat) :
    RelayState → List WireEvent → RelayState × ForwardResult
  | r, [] => (r, .timedOut r.progress.responseStarted)
  | r, event :: events =>
    -- the limit is checked before a read, and after it below
    if maxBuffer ≤ r.backendRead.length then (r, .bufferLimitExceeded)
    else
      match event with
      | .backendReadError => (r, .backendFailure .read r.progress.responseStarted)
      | .clientCopyRead backendWrite =>
        if !r.clientDrivesCopy then relay shape maxBuffer r events
        else
          match backendWrite with
          | .done => relay shape maxBuffer r events
          | .failed => (r, .backendFailure .write r.progress.responseStarted)
          | .stalled => (r, .timedOut r.progress.responseStarted)
      | .clientCopyReadError =>
        if r.clientDrivesCopy then (r, .error) else relay shape maxBuffer r events
      | .clientClosed =>
        if r.clientDrivesCopy then (r, .abandonedResponse shape.needsSync)
        else relay shape maxBuffer r events
      | .backendRead bytes clientWrite =>
        let buffer := r.backendRead ++ bytes
        -- a read of no bytes: the backend has closed the connection
        if bytes.isEmpty then (r, .backendFailure .read r.progress.responseStarted)
        else if maxBuffer < buffer.length then
          ({ r with backendRead := buffer }, .bufferLimitExceeded)
        else
          match parseBackendFrames buffer with
          | .error _ => (r, .error)
          | .ok (frames, rest) =>
            let drained := drainWith (ForwardCycleState.onFrame r.backend.id) r.progress r.state
              frames
            let r := r.afterRead drained rest clientWrite
            match r.resultAfterRead shape drained clientWrite with
            | some result => (r, result)
            | none => relay shape maxBuffer r events

/-- The environment of one attempt to forward a cycle: how the cycle is written to the backend,
and what the peers do then. -/
structure ForwardEnv where
  backendWrite : WriteOutcome := .done
  events : List WireEvent
  deriving DecidableEq

/-- What one attempt to forward a cycle leaves. -/
structure Forwarded where
  session : VirtualSession
  prepared : PreparedCatalog
  backend : Backend
  backendRead : List Byte
  sent : List ReadyStatus
  /-- The frames written to the backend. -/
  written : List PlannedFrame
  result : ForwardResult

/-- The relay of a planned cycle before the first read. -/
def PlannedCycle.relayStart (planned : PlannedCycle) (backend : Backend)
    (backendRead : List Byte) : RelayState where
  state := ⟨planned.session, planned.prepared⟩
  backend
  progress := { injectedParseCompletes := planned.injectedParseCompletes }
  backendRead
  clientDrivesCopy := false
  sent := []

/-- A planned cycle whose relay has ended. -/
def PlannedCycle.forwarded (planned : PlannedCycle) (r : RelayState) (result : ForwardResult) :
    Forwarded :=
  ⟨r.state.session, r.state.prepared, r.backend, r.backendRead, r.sent, planned.frames, result⟩

/-- `forward_message_cycle` under the query timeout. -/
def forwardMessageCycle (maxBuffer : Nat) (session : VirtualSession) (prepared : PreparedCatalog)
    (backend : Backend) (backendRead : List Byte) (frames : List FrontendMessage)
    (commands : List SqlCommand) (env : ForwardEnv) : Forwarded :=
  match planFrontendCycle backend.id session prepared commands frames with
  | none => ⟨session, prepared, backend, backendRead, [], [], .error⟩
  | some planned =>
    let start := planned.relayStart backend backendRead
    match env.backendWrite with
    | .failed => planned.forwarded start (.backendFailure .write false)
    | .stalled => planned.forwarded start (.timedOut false)
    | .done =>
      let shape := FrontendCycleShape.fromFrames frames
      if shape.expectsNoResponse then planned.forwarded start .flushed
      else
        let ended := relay shape maxBuffer start env.events
        planned.forwarded ended.1 ended.2

end PgKinetic
