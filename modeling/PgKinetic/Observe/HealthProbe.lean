import PgKinetic.Cluster.Lsn
import PgKinetic.Lib.Machine
import PgKinetic.Observe.ReplayTimestamp
import PgKinetic.Wire.Stream

/-!
# The health probe of an endpoint

`EndpointHealthProbe::run_probe` opens a connection, sends a startup packet and asks up to three
questions, each with a call of `execute_probe_query` that reads, into a buffer of its own, up to
the first ReadyForQuery and returns the first row before it. `probe_once` publishes what came of
it.

The other side of the connection is a **conforming endpoint**: it answers the startup packet and
every question with whole frames that end in a ReadyForQuery, and it answers a question only once
it has been asked. A run of the probe is a list of reads, each of which takes some of the bytes
that the endpoint has sent by then; that covers every split of the bytes and every order of
arrival.

Nothing reads the answer to the startup packet but the call for the first question. That call ends
at the ReadyForQuery of the startup, so it never sees its own answer, and what the last of its
reads has not taken of that answer is what the call for the second question reads first.
-/

namespace PgKinetic

open Framing EventMachine List

/-! ### Rows -/

/-- A row of a response: a text for every column, `none` for NULL. -/
abbrev ProbeRow := List (Option Text)

/-- The loop of `parse_probe_row` over the columns. -/
def parseProbeColumns : Nat → ProbeRow → List Byte → Except Text (Option ProbeRow)
  | 0, values, _ => .ok (some values)
  | n + 1, values, b₀ :: b₁ :: b₂ :: b₃ :: payload =>
    let length := i32FromBytes b₀ b₁ b₂ b₃
    if length < 0 then parseProbeColumns n (values ++ [none]) payload
    else if payload.length < length.toNat then .ok none
    else
      match decodeUtf8 (payload.take length.toNat) with
      | none => .error "probe row is not utf8"
      | some value => parseProbeColumns n (values ++ [some value]) (payload.drop length.toNat)
  | _ + 1, _, _ => .ok none

/-- `parse_probe_row`. -/
def parseProbeRow : List Byte → Except Text (Option ProbeRow)
  | b₀ :: b₁ :: payload =>
    let columns := i16FromBytes b₀ b₁
    if columns ≤ 0 then .ok none else parseProbeColumns columns.toNat [] payload
  | _ => .ok none

/-! ### Questions and their rows -/

/-- The questions of a probe, in order. -/
inductive ProbeQuery where
  /-- `SELECT 1`. -/
  | one
  /-- `SELECT pg_is_in_recovery()`. -/
  | role
  /-- `SELECT pg_last_wal_replay_lsn(), pg_last_xact_replay_timestamp()`. -/
  | replay
  deriving DecidableEq, Repr

/-- `execute_probe_query` on one frame: the row so far, or how the call ends. -/
def probeFrame (row : Option ProbeRow) (frame : BackendFrame) :
    Option ProbeRow ⊕ Except Text (Option ProbeRow) :=
  if frame.hasTag .dataRow && row.isNone then
    match parseProbeRow frame.payload with
    | .ok row => .inl row
    | .error e => .inr (.error e)
  else if frame.hasTag .errorResponse then .inr (.error "endpoint returned error during probe")
  else if frame.hasTag .readyForQuery then .inr (.ok row)
  else .inl row

/-! ### What a probe observes -/

/-- `ReplicaLagState`. -/
inductive ReplicaLagState where
  | unknown
  | fresh
  | lagging
  deriving DecidableEq, Repr

/-- `ProbeObservation`. -/
structure ProbeObservation where
  observedRole : BackendRole
  replayLsn : Option PgLsn
  replayTimestamp : Option SystemTime
  /-- In nanoseconds. -/
  lagDuration : Option Nat
  lagState : ReplicaLagState
  lastSuccessfulProbeAt : SystemTime
  deriving DecidableEq

/-- `ProbeObservation::primary`. -/
def ProbeObservation.primary (observedRole : BackendRole) (now : SystemTime) : ProbeObservation :=
  ⟨observedRole, none, none, none, .unknown, now⟩

/-- What `run_probe` makes of the row for `pg_is_in_recovery()`. -/
def observedRole (row : Option ProbeRow) : Except Text BackendRole :=
  match row.bind fun row => row.head?.join with
  | some value =>
    if value = "t" ∨ value = "true" ∨ value = "1" then .ok .replica
    else if value = "f" ∨ value = "false" ∨ value = "0" then .ok .primary
    else .error (("unexpected pg_is_in_recovery() result: " : Text) ++ value)
  | none => .error "pg_is_in_recovery() returned no rows"

/-- `parse_replay_lsn`. -/
def parseReplayLsn (value : Text) : Except Text PgLsn :=
  (PgLsn.fromStr value.trim).mapError fun _ => "parse replay lsn"

/-- A column that is parsed unless it is NULL or missing. -/
def parseColumn {α : Type} (parse : Text → Except Text α) : Option Text → Except Text (Option α)
  | none => .ok none
  | some value => (parse value).map some

/-- `SystemTime::duration_since`, where an earlier time gives nothing. -/
def durationSince (now earlier : SystemTime) : Option Nat :=
  if earlier ≤ now then some (now - earlier).toNat else none

/-- What `run_probe` makes of the row for the replay query. -/
def replayObservation (maxReplicaLagMs : Nat) (probeTime : SystemTime) (row : Option ProbeRow) :
    Except Text ProbeObservation := do
  let replayLsn ← parseColumn parseReplayLsn (row.bind fun row => row.head?.join)
  let replayTimestamp ← parseColumn parseReplayTimestamp (row.bind fun row => row[1]?.join)
  let lagDuration := replayTimestamp.bind (durationSince probeTime)
  let lagState :=
    match lagDuration with
    | some duration => if maxReplicaLagMs < duration / 1000000 then .lagging else .fresh
    | none => .unknown
  pure ⟨.replica, replayLsn, replayTimestamp, lagDuration, lagState, probeTime⟩

/-! ### What is published of a probe -/

/-- `EndpointHealth`. -/
inductive EndpointHealth where
  | healthy
  | degraded
  | unhealthy
  | unavailable
  deriving DecidableEq, Repr

/-- `HealthProbeOutcome`. -/
structure HealthProbeOutcome where
  state : EndpointHealth
  recovered : Bool
  consecutiveFailures : Nat
  deriving DecidableEq, Repr

/-- `EndpointRoleState`. -/
inductive EndpointRoleState where
  | primary
  | replica
  | warning
  | unknown
  deriving DecidableEq, Repr

/-- `RoleProbeOutcome`, with the expected and the observed role of a `SplitBrainWarning`. -/
structure RoleProbeOutcome where
  state : EndpointRoleState
  warning : Option (BackendRole × BackendRole)
  deriving DecidableEq, Repr

/-- `role_outcome`. -/
def roleOutcome (expectedRole observedRole : BackendRole) : RoleProbeOutcome :=
  if expectedRole = observedRole then
    match observedRole with
    | .primary => ⟨.primary, none⟩
    | .replica => ⟨.replica, none⟩
    | .unknown => ⟨.unknown, none⟩
  else ⟨.warning, some (expectedRole, observedRole)⟩

/-- `EndpointHealthSnapshot`, as far as a probe changes it. -/
structure EndpointHealthSnapshot where
  health : HealthProbeOutcome := ⟨.unhealthy, false, 0⟩
  role : RoleProbeOutcome := ⟨.unknown, none⟩
  replayLsn : Option PgLsn := none
  replayTimestamp : Option SystemTime := none
  lagDuration : Option Nat := none
  lagState : ReplicaLagState := .unknown
  lastSuccessfulProbeAt : Option SystemTime := none
  lastError : Option Text := none
  deriving DecidableEq

/-- How `run_probe` ends under its timeout. -/
inductive ProbeOutcome where
  | observed (observation : ProbeObservation)
  | failed (error : Text)
  | timedOut
  deriving DecidableEq

/-- The snapshot of a probe that did not succeed: `health` for fewer failures than
`UNAVAILABLE_FAILURE_THRESHOLD`. -/
def EndpointHealthSnapshot.failing (previous : EndpointHealthSnapshot) (health : EndpointHealth)
    (error : Text) : EndpointHealthSnapshot :=
  let failureCount := min (previous.health.consecutiveFailures + 1) (2 ^ 32 - 1)
  { health := ⟨if 3 ≤ failureCount then .unavailable else health, false, failureCount⟩
    role := ⟨.unknown, none⟩
    lastSuccessfulProbeAt := previous.lastSuccessfulProbeAt
    lastError := some error }

/-- `probe_once`. -/
def probeOnce (expectedRole : BackendRole) (previous : EndpointHealthSnapshot) :
    ProbeOutcome → EndpointHealthSnapshot
  | .observed observation =>
    { health := ⟨.healthy, previous.health.state != .healthy, 0⟩
      role := roleOutcome expectedRole observation.observedRole
      replayLsn := observation.replayLsn
      replayTimestamp := observation.replayTimestamp
      lagDuration := observation.lagDuration
      lagState := observation.lagState
      lastSuccessfulProbeAt := some observation.lastSuccessfulProbeAt
      lastError := none }
  | .failed error => previous.failing .unhealthy error
  | .timedOut => previous.failing .degraded "probe timed out"

/-! ### Conforming endpoints -/

/-- The row a DataRow frame carries. -/
def BackendFrame.row (frame : BackendFrame) : Option ProbeRow :=
  match parseProbeRow frame.payload with
  | .ok row => row
  | .error _ => none

/-- The rows of the DataRow frames. -/
def frameRows (frames : List BackendFrame) : List ProbeRow :=
  (frames.filter (·.hasTag .dataRow)).filterMap BackendFrame.row

/-- A response: whole frames up to a ReadyForQuery, whose DataRow frames carry rows. -/
structure ProbeResponse where
  bytes : List Byte
  frames : List BackendFrame
  ready : BackendFrame
  parses : parseBackendFrames bytes = .ok (frames ++ [ready], [])
  ready_tag : ready.hasTag .readyForQuery = true
  not_ready : ∀ frame ∈ frames, frame.hasTag .readyForQuery = false
  row_isSome : ∀ frame ∈ frames, frame.hasTag .dataRow = true → frame.row.isSome = true

namespace ProbeResponse

/-- Whether the response refuses what it answers. -/
def refuses (r : ProbeResponse) : Bool := r.frames.any (·.hasTag .errorResponse)

/-- The rows of the response. -/
def rows (r : ProbeResponse) : List ProbeRow := frameRows r.frames

end ProbeResponse

/-- A conforming endpoint: its startup exchange ends with a ReadyForQuery of its own, and each
question is answered, if it is not refused, with the row it asks for. -/
structure ProbeEndpoint where
  startup : ProbeResponse
  answer : ProbeQuery → ProbeResponse
  /-- The value of `pg_is_in_recovery()`. -/
  inRecovery : Bool
  /-- The value of `pg_last_wal_replay_lsn()`. -/
  replayLsn : Option Text
  /-- The value of `pg_last_xact_replay_timestamp()`. -/
  replayTimestamp : Option Text
  startup_accepts : startup.refuses = false
  startup_rows : startup.rows = []
  one_rows : (answer .one).refuses = false → (answer .one).rows = [[some ("1" : Text)]]
  role_rows : (answer .role).refuses = false →
    (answer .role).rows = [[some (if inRecovery then ("t" : Text) else "f")]]
  replay_rows : (answer .replay).refuses = false →
    (answer .replay).rows = [[replayLsn, replayTimestamp]]

namespace ProbeEndpoint

variable (E : ProbeEndpoint)

/-- The first row of the response to a question; `none` if it is refused. -/
def firstRow (q : ProbeQuery) : Option ProbeRow :=
  if (E.answer q).refuses then none else (E.answer q).rows.head?

/-- The role an endpoint has. -/
def role : BackendRole := if E.inRecovery then .replica else .primary

end ProbeEndpoint

/-! ### Runs of the probe -/

/-- A call of `execute_probe_query` that is reading. -/
structure ProbeCall where
  query : ProbeQuery
  buffer : List Byte := []
  row : Option ProbeRow := none
  deriving DecidableEq

/-- The probe and what the endpoint has sent that has not been read. -/
structure ProbeState where
  pending : List Byte
  /-- The call `run_probe` is in; `none` once it has returned. -/
  call : Option ProbeCall
  /-- `probe_time`, from the moment the replay query is asked. -/
  probeTime : SystemTime := 0
  deriving DecidableEq

/-- What happens next: a read takes some of the bytes sent, or finds the connection closed, or an
operation on the connection fails, or the time is up. -/
inductive ProbeInput where
  | read (count : Nat) (now : SystemTime)
  | closed
  | connectionError (error : Text)
  | timedOut
  deriving DecidableEq

/-- What is seen of a run. -/
inductive ProbeEvent where
  /-- A question is asked while these bytes of earlier responses have not been read. -/
  | asked (query : ProbeQuery) (unread : List Byte)
  /-- The call for the question returns. -/
  | returned (query : ProbeQuery) (row : Option ProbeRow)
  | ended (outcome : ProbeOutcome)
  deriving DecidableEq

/-- `run_probe` returns. -/
def ProbeState.finish (st : ProbeState) (outcome : ProbeOutcome) : ProbeState × List ProbeEvent :=
  ({ st with call := none }, [.ended outcome])

/-- `run_probe` asks its next question; the endpoint sends the answer behind what it has sent
already. -/
def ProbeState.ask (E : ProbeEndpoint) (st : ProbeState) (query : ProbeQuery) :
    ProbeState × List ProbeEvent :=
  ({ st with
      pending := st.pending ++ (E.answer query).bytes
      call := some { query } },
    [.asked query st.pending])

/-- `run_probe` after a call has returned. -/
def ProbeState.continueWith (E : ProbeEndpoint) (maxReplicaLagMs : Nat) (st : ProbeState)
    (now : SystemTime) (query : ProbeQuery) (row : Option ProbeRow) :
    ProbeState × List ProbeEvent :=
  match query with
  -- the row of the first question is not looked at
  | .one => st.ask E .role
  | .role =>
    match observedRole row with
    | .error e => st.finish (.failed e)
    | .ok .replica => ({ st with probeTime := now } : ProbeState).ask E .replay
    | .ok role => st.finish (.observed (.primary role now))
  | .replay =>
    match replayObservation maxReplicaLagMs st.probeTime row with
    | .error e => st.finish (.failed e)
    | .ok observation => st.finish (.observed observation)

/-- `WireError`, displayed. -/
def WireError.text : WireError → Text
  | .invalidBackendFrameLength length =>
    ("backend frame length is invalid: " : Text) ++ (toString length).toList
  | .incompleteFrame => "frontend frame is incomplete"
  | .invalidUtf8 => "startup packet contains invalid utf-8"

/-- The frames of a read in a call; the bytes behind the frame that ends it go with its buffer. -/
def ProbeState.receive (E : ProbeEndpoint) (maxReplicaLagMs : Nat) (st : ProbeState)
    (call : ProbeCall) (count : Nat) (now : SystemTime) : ProbeState × List ProbeEvent :=
  let after := { st with pending := st.pending.drop count }
  match backendCutter.scan probeFrame call.row (call.buffer ++ st.pending.take count) with
  | .failed e => after.finish (.failed e.text)
  | .waiting row buffer => ({ after with call := some { call with row, buffer } }, [])
  | .done (.error e) _ => after.finish (.failed e)
  | .done (.ok row) _ =>
    let next := after.continueWith E maxReplicaLagMs now call.query row
    (next.1, .returned call.query row :: next.2)

/-- One step of the probe. -/
def ProbeState.step (E : ProbeEndpoint) (maxReplicaLagMs : Nat) (st : ProbeState) :
    ProbeInput → Option (ProbeState × List ProbeEvent)
  | .read count now =>
    match st.call with
    | none => none
    | some call =>
      if 0 < count ∧ count ≤ st.pending.length then
        some (st.receive E maxReplicaLagMs call count now)
      else none
  | .closed => st.call.map fun _ => st.finish (.failed "endpoint disconnected during probe")
  | .connectionError e => st.call.map fun _ => st.finish (.failed e)
  | .timedOut => st.call.map fun _ => st.finish .timedOut

/-- The probe of an endpoint. -/
def probeMachine (E : ProbeEndpoint) (maxReplicaLagMs : Nat) :
    Machine ProbeState ProbeInput ProbeEvent where
  step := ProbeState.step E maxReplicaLagMs

/-- The probe once it has sent its startup packet and, at once, its first question. -/
def ProbeState.start (E : ProbeEndpoint) : ProbeState where
  pending := E.startup.bytes ++ (E.answer .one).bytes
  call := some { query := .one }

/-! ### What a call makes of a response -/

/-- The frames of a response that is no refusal lead a call to its ReadyForQuery. -/
theorem foldUntil_rows {frames : List BackendFrame} {ready : BackendFrame}
    (hready : ready.hasTag .readyForQuery = true)
    (hnot : ∀ frame ∈ frames, frame.hasTag .readyForQuery = false)
    (hrow : ∀ frame ∈ frames, frame.hasTag .dataRow = true → frame.row.isSome = true)
    (herror : frames.any (·.hasTag .errorResponse) = false) (row : Option ProbeRow) :
    foldUntil probeFrame row (frames ++ [ready]) =
      .inr (.ok (row <|> (frameRows frames).head?), []) := by
  induction frames generalizing row with
  | nil =>
    have hdata := BackendFrame.hasTag_eq_false hready .dataRow (by decide)
    have herr := BackendFrame.hasTag_eq_false hready .errorResponse (by decide)
    have hframe : probeFrame row ready = .inr (.ok row) := by simp [probeFrame, hdata, herr, hready]
    rw [nil_append, foldUntil, hframe]
    cases row <;> rfl
  | cons frame frames ih =>
    have ih := ih (fun f hf => hnot f (mem_cons_of_mem _ hf))
      (fun f hf => hrow f (mem_cons_of_mem _ hf))
    obtain ⟨herr, herrs⟩ := Bool.or_eq_false_iff.1 herror
    have hnotReady := hnot frame mem_cons_self
    rw [cons_append, foldUntil]
    cases hdata : frame.hasTag .dataRow with
    | false =>
      have hframe : probeFrame row frame = .inl row := by simp [probeFrame, hdata, herr, hnotReady]
      have hrows : frameRows (frame :: frames) = frameRows frames := by simp [frameRows, hdata]
      rw [hframe, hrows]
      exact ih herrs row
    | true =>
      obtain ⟨first, hfirst⟩ := Option.isSome_iff_exists.1 (hrow frame mem_cons_self hdata)
      have hrows : frameRows (frame :: frames) = first :: frameRows frames := by
        simp [frameRows, hdata, hfirst]
      rw [hrows]
      cases row with
      | some seen =>
        have hframe : probeFrame (some seen) frame = .inl (some seen) := by
          simp [probeFrame, herr, hnotReady]
        rw [hframe]
        exact ih herrs (some seen)
      | none =>
        have hframe : probeFrame none frame = .inl (some first) := by
          unfold BackendFrame.row at hfirst
          split at hfirst
          · rename_i hparse
            simp [probeFrame, hdata, hparse, hfirst]
          · cases hfirst
        rw [hframe]
        exact ih herrs (some first)

/-- Before its ReadyForQuery, a call goes on with the next frame, unless there is an error. -/
theorem probeFrame_cases {frame : BackendFrame} (hnot : frame.hasTag .readyForQuery = false)
    (row : Option ProbeRow) :
    (∃ row', probeFrame row frame = .inl row' ∧ frame.hasTag .errorResponse = false) ∨
      ∃ e, probeFrame row frame = .inr (.error e) := by
  unfold probeFrame
  split
  · rename_i hdata
    have herr := BackendFrame.hasTag_eq_false (Bool.and_eq_true_iff.1 hdata).1 .errorResponse
      (by decide)
    cases parseProbeRow frame.payload with
    | ok row => exact .inl ⟨row, rfl, herr⟩
    | error e => exact .inr ⟨e, rfl⟩
  · split
    · exact .inr ⟨_, rfl⟩
    · rename_i herr
      rw [hnot]
      exact .inl ⟨row, rfl, Bool.eq_false_iff.2 herr⟩

/-- A refusal ends the call with an error. -/
theorem foldUntil_refused {frames : List BackendFrame} (later : List BackendFrame)
    (hnot : ∀ frame ∈ frames, frame.hasTag .readyForQuery = false)
    (herror : frames.any (·.hasTag .errorResponse) = true) (row : Option ProbeRow) :
    ∃ e behind, foldUntil probeFrame row (frames ++ later) = .inr (.error e, behind) := by
  induction frames generalizing row with
  | nil => cases herror
  | cons frame frames ih =>
    rw [cons_append, foldUntil]
    rcases probeFrame_cases (hnot frame mem_cons_self) row with
      ⟨row', hframe, hnone⟩ | ⟨e, hframe⟩
    · rw [hframe]
      rw [any_cons, hnone, Bool.false_or] at herror
      exact ih (fun f hf => hnot f (mem_cons_of_mem _ hf)) herror row'
    · rw [hframe]
      exact ⟨e, _, rfl⟩

namespace ProbeResponse

variable (r : ProbeResponse)

/-- **A call that reads a response**, and nothing before it, ends with its first row and leaves
nothing of it. -/
theorem scan_of_accepts (h : r.refuses = false) :
    backendCutter.scan probeFrame none r.bytes = .done (.ok r.rows.head?) [] := by
  have hframes := foldUntil_rows r.ready_tag r.not_ready r.row_isSome h none
  obtain ⟨behind, hscan, hbehind⟩ := scan_of_foldUntil_inr probeFrame r.parses hframes
  rw [hscan, ← eq_of_parse_nil hbehind]
  rfl

theorem scan_of_refuses (h : r.refuses = true) :
    ∃ e behind, backendCutter.scan probeFrame none r.bytes = .done (.error e) behind := by
  obtain ⟨e, later, hframes⟩ := foldUntil_refused [r.ready] r.not_ready h none
  obtain ⟨behind, hscan, -⟩ := scan_of_foldUntil_inr probeFrame r.parses hframes
  exact ⟨e, behind, hscan⟩

end ProbeResponse

end PgKinetic
