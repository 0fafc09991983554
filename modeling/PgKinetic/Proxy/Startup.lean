import PgKinetic.Wire.Frame

/-!
# The startup of a client and of its backend

`proxy_startup_streams` completes the startup of a client on a leased backend. On a backend that
requires a startup it sends the client's startup packet and relays: authentication requests go
to the client and its answers to the backend, or are answered with the proxy's own credentials,
if it has any. On a backend that has been started already there is nothing to relay, and the
proxy makes the answer up.

A run of it is a **transcript**, the list of what is read from and written to either side, in
order. What the two sides send is given as two lists of reads, in which a missing read is one
that fails or never comes; writes succeed.
-/

namespace PgKinetic

/-- One read: the bytes, or an error. -/
abbrev StartupRead := Option (List Byte)

/-- What happens on the wire during a startup. -/
inductive StartupWire where
  | fromBackend (frame : BackendFrame)
  | toClient (frame : BackendFrame)
  | fromClient (bytes : List Byte)
  | toBackend (bytes : List Byte)
  deriving DecidableEq, Repr

/-- What `proxy_startup_streams` is given. -/
structure StartupRequest where
  startupPacket : List Byte
  maxClientBufferBytes : Nat := 1048576
  maxBackendBufferBytes : Nat := 1048576
  /-- `forward_backend_auth_requests_to_client`. -/
  forwardAuthRequests : Bool
  /-- `emit_auth_ok_when_backend_requires_no_startup`. -/
  emitAuthOk : Bool
  /-- `BackendAuthSession::respond`, on all the authentication payloads so far. -/
  credentials : Option (List (List Byte) → Except Unit (Option (List Byte))) := none
  /-- The payload of the BackendKeyData frame made for the client. -/
  clientKey : List Byte := [0, 0, 0, 1, 0, 0, 0, 2]

namespace StartupRequest

variable (req : StartupRequest)

/-- `encode_backend_key_data`. -/
def keyData : BackendFrame := ⟨BackendTag.backendKeyData.byte, req.clientKey⟩

end StartupRequest

/-- `auth_request_code`. -/
def authRequestCode : List Byte → Option Int
  | b₀ :: b₁ :: b₂ :: b₃ :: _ => some (i32FromBytes b₀ b₁ b₂ b₃)
  | _ => none

/-- `auth_request_expects_client_response`, on the code. -/
def authRequestExpectsClientResponse (code : Int) : Bool := code ∈ [3, 5, 6, 7, 8, 9, 10, 11]

/-- The AuthenticationOk frame. -/
def authenticationOk : BackendFrame := ⟨BackendTag.authentication.byte, [0, 0, 0, 0]⟩

/-- A frame that tells the client it is authenticated. -/
def BackendFrame.isAuthenticationOk (frame : BackendFrame) : Bool :=
  frame.hasTag .authentication && authRequestCode frame.payload == some 0

/-- The ReadyForQuery frame with status `Idle`. -/
def readyForQueryIdle : BackendFrame := ⟨BackendTag.readyForQuery.byte, [ReadyStatus.idle.byte]⟩

/-- `synthetic_startup_ready`, with the backend's ParameterStatus frames. -/
def syntheticStartupReady (req : StartupRequest) (parameterStatus : List BackendFrame) :
    List BackendFrame :=
  (if req.emitAuthOk then [authenticationOk] else []) ++ parameterStatus ++
    [req.keyData, readyForQueryIdle]

/-! ### The relay -/

/-- The variables of the relay. -/
structure StartupState where
  buffer : List Byte := []
  sentBackendKeyData : Bool := false
  /-- The requests answered with the proxy's own credentials. -/
  authPayloads : List (List Byte) := []

/-- How handling a frame ends: with the next frame, with the startup complete, or with an error. -/
inductive StartupFlow where
  | next
  | complete
  | fail
  deriving DecidableEq, Repr

/-- What handling frames leaves: the variables, the client's reads to come, the transcript. -/
structure StartupStep where
  state : StartupState
  clientReads : List StartupRead
  wire : List StartupWire
  flow : StartupFlow

/-- An authentication request goes to the client, and its answer to the backend. -/
def forwardAuthRequest (req : StartupRequest) (st : StartupState) (reads : List StartupRead)
    (frame : BackendFrame) (code : Int) : StartupStep :=
  let wire := [.fromBackend frame, .toClient frame]
  if !authRequestExpectsClientResponse code then ⟨st, reads, wire, .next⟩
  else if req.maxClientBufferBytes = 0 then ⟨st, reads, wire, .fail⟩
  else
    match reads with
    | some bytes :: reads =>
      if bytes.isEmpty then ⟨st, reads, wire, .fail⟩
      else if req.maxClientBufferBytes < bytes.length then
        ⟨st, reads, wire ++ [.fromClient bytes], .fail⟩
      else ⟨st, reads, wire ++ [.fromClient bytes, .toBackend bytes], .next⟩
    | none :: reads => ⟨st, reads, wire, .fail⟩
    | [] => ⟨st, [], wire, .fail⟩

/-- The branch of the relay for Authentication frames. -/
def handleAuthentication (req : StartupRequest) (st : StartupState) (reads : List StartupRead)
    (frame : BackendFrame) : StartupStep :=
  match authRequestCode frame.payload with
  | none => ⟨st, reads, [.fromBackend frame], .fail⟩
  | some code =>
    match req.credentials with
    | some respond =>
      let st := { st with authPayloads := st.authPayloads ++ [frame.payload] }
      match respond st.authPayloads with
      | .error _ => ⟨st, reads, [.fromBackend frame], .fail⟩
      | .ok none => ⟨st, reads, [.fromBackend frame], .next⟩
      | .ok (some response) => ⟨st, reads, [.fromBackend frame, .toBackend response], .next⟩
    | none =>
      if code = 0 then
        ⟨st, reads, .fromBackend frame ::
          (if req.forwardAuthRequests then [.toClient frame] else []), .next⟩
      else if req.forwardAuthRequests then forwardAuthRequest req st reads frame code
      else ⟨st, reads, [.fromBackend frame], .fail⟩

/-- The branch for all other frames: the client gets a key of the proxy's own in place of the
backend's, before ReadyForQuery at the latest. -/
def handleOtherFrame (req : StartupRequest) (st : StartupState) (reads : List StartupRead)
    (frame : BackendFrame) : StartupStep :=
  if frame.hasTag .backendKeyData then
    ⟨{ st with sentBackendKeyData := true }, reads, [.fromBackend frame, .toClient req.keyData],
      .next⟩
  else
    -- a backend need not send a key, but the client is to have one
    let needsKey := frame.readyStatus.isSome && !st.sentBackendKeyData
    ⟨{ st with sentBackendKeyData := st.sentBackendKeyData || needsKey }, reads,
      .fromBackend frame ::
        ((if needsKey then [.toClient req.keyData] else []) ++ [.toClient frame]),
      if frame.readyStatus = some .idle then .complete else .next⟩

/-- The body of the loop over the frames of a read. -/
def handleStartupFrame (req : StartupRequest) (st : StartupState) (reads : List StartupRead)
    (frame : BackendFrame) : StartupStep :=
  if frame.hasTag .authentication then handleAuthentication req st reads frame
  else handleOtherFrame req st reads frame

/-- The loop over the frames of a read. -/
def handleStartupFrames (req : StartupRequest) :
    StartupState → List StartupRead → List BackendFrame → StartupStep
  | st, reads, [] => ⟨st, reads, [], .next⟩
  | st, reads, frame :: frames =>
    let step := handleStartupFrame req st reads frame
    match step.flow with
    | .next =>
      let rest := handleStartupFrames req step.state step.clientReads frames
      { rest with wire := step.wire ++ rest.wire }
    | _ => step

/-- The complete frames at the head of a buffer, and the bytes after them unless these begin a
frame that cannot be one. -/
def framesBeforeError (buffer : List Byte) : List BackendFrame × Option (List Byte) :=
  go buffer.length buffer
where
  go : Nat → List Byte → List BackendFrame × Option (List Byte)
    | 0, buffer => ([], some buffer)
    | n + 1, buffer =>
      match parseBackendFrame buffer with
      | .error _ => ([], none)
      | .ok none => ([], some buffer)
      | .ok (some (frame, rest)) =>
        let (frames, rest) := go n rest
        (frame :: frames, rest)

/-- The loop of the relay over the reads from the backend, and whether the startup completes. -/
def relayStartup (req : StartupRequest) :
    StartupState → List StartupRead → List StartupRead → List StartupWire × Bool
  | _, _, [] => ([], false)
  | _, _, none :: _ => ([], false)
  | st, clientReads, some bytes :: reads =>
    let buffer := st.buffer ++ bytes
    if req.maxBackendBufferBytes ≤ st.buffer.length ∨ req.maxBackendBufferBytes < buffer.length then
      ([], false)
    else
      let (frames, rest) := framesBeforeError buffer
      let step := handleStartupFrames req st clientReads frames
      match step.flow, rest with
      | .complete, _ => (step.wire, true)
      | .next, some rest =>
        let relayed := relayStartup req { step.state with buffer := rest } step.clientReads reads
        (step.wire ++ relayed.1, relayed.2)
      | _, _ => (step.wire, false)

/-- `proxy_startup_streams`: the transcript, and whether it ends well. -/
def proxyStartupStreams (req : StartupRequest) (requiresStartup : Bool)
    (parameterStatus : List BackendFrame) (clientReads backendReads : List StartupRead) :
    List StartupWire × Bool :=
  if !requiresStartup then ((syntheticStartupReady req parameterStatus).map .toClient, true)
  else
    let relayed := relayStartup req {} clientReads backendReads
    (.toBackend req.startupPacket :: relayed.1, relayed.2)

/-! ### Genuine transcripts -/

/-- After `seen`, the event is no news of the proxy's making: what tells the client that it is
authenticated has come from the backend, and what is sent to the backend has come from the
client. -/
def StartupWire.Genuine (packet : List Byte) (seen : List StartupWire) : StartupWire → Prop
  | .toClient frame => frame.isAuthenticationOk = true → .fromBackend frame ∈ seen
  | .toBackend bytes => bytes = packet ∨ .fromClient bytes ∈ seen
  | .fromBackend _ | .fromClient _ => True

/-- **An exchange with the client's own messages**: every event is genuine after those before
it. -/
def GenuineTranscript (packet : List Byte) : List StartupWire → List StartupWire → Prop
  | _, [] => True
  | seen, e :: es => e.Genuine packet seen ∧ GenuineTranscript packet (seen ++ [e]) es

variable (packet : List Byte)

theorem genuineTranscript_append {packet : List Byte} {seen es es' : List StartupWire} :
    GenuineTranscript packet seen (es ++ es') ↔
      GenuineTranscript packet seen es ∧ GenuineTranscript packet (seen ++ es) es' := by
  induction es generalizing seen with
  | nil => simp [GenuineTranscript]
  | cons e es ih =>
    rw [List.cons_append, GenuineTranscript, GenuineTranscript, ih, and_assoc,
      List.append_assoc, List.singleton_append]

theorem StartupRequest.keyData_genuine (req : StartupRequest) (seen : List StartupWire) :
    (StartupWire.toClient req.keyData).Genuine packet seen := by
  intro h
  simp [BackendFrame.isAuthenticationOk, BackendFrame.hasTag, StartupRequest.keyData,
    BackendTag.byte] at h
  exact absurd h.1 (by decide)

/-- In pass-through mode, the relay of an authentication request is genuine. -/
theorem forwardAuthRequest_genuine (req : StartupRequest) (st : StartupState)
    (reads : List StartupRead) (frame : BackendFrame) (code : Int) (seen : List StartupWire) :
    GenuineTranscript packet seen (forwardAuthRequest req st reads frame code).wire := by
  have hrequest : GenuineTranscript packet seen [.fromBackend frame, .toClient frame] :=
    ⟨trivial, fun _ => by simp, trivial⟩
  unfold forwardAuthRequest
  split
  · exact hrequest
  · split
    · exact hrequest
    · split
      · split
        · exact hrequest
        · split
          · exact genuineTranscript_append.2 ⟨hrequest, trivial, trivial⟩
          -- the client's response, as it was read
          · exact genuineTranscript_append.2 ⟨hrequest, trivial, .inr (by simp), trivial⟩
      · exact hrequest
      · exact hrequest

variable {req : StartupRequest}

section

variable (hcredentials : req.credentials = none)
include hcredentials

theorem handleStartupFrame_genuine (st : StartupState)
    (reads : List StartupRead) (frame : BackendFrame) (seen : List StartupWire) :
    GenuineTranscript packet seen (handleStartupFrame req st reads frame).wire := by
  unfold handleStartupFrame
  split
  · unfold handleAuthentication
    rw [hcredentials]
    dsimp only
    split
    · exact ⟨trivial, trivial⟩
    -- AuthenticationOk is passed on only once it has come from the backend
    · split
      · split
        · exact ⟨trivial, fun _ => by simp, trivial⟩
        · exact ⟨trivial, trivial⟩
      · split
        · exact forwardAuthRequest_genuine packet req st reads frame _ seen
        · exact ⟨trivial, trivial⟩
  · unfold handleOtherFrame
    split
    · exact ⟨trivial, req.keyData_genuine packet _, trivial⟩
    -- the proxy puts its own key data in front of ReadyForQuery, and that says nothing of the kind
    · refine ⟨trivial, genuineTranscript_append.2 ⟨?_, fun _ => by simp, trivial⟩⟩
      split
      · exact ⟨req.keyData_genuine packet _, trivial⟩
      · trivial

theorem handleStartupFrames_genuine (st : StartupState)
    (reads : List StartupRead) (frames : List BackendFrame) (seen : List StartupWire) :
    GenuineTranscript packet seen (handleStartupFrames req st reads frames).wire := by
  induction frames generalizing st reads seen with
  | nil => trivial
  | cons frame frames ih =>
    have hframe := handleStartupFrame_genuine packet hcredentials st reads frame
    unfold handleStartupFrames
    dsimp only
    split
    · exact genuineTranscript_append.2 ⟨hframe seen, ih _ _ _⟩
    · exact hframe seen

theorem relayStartup_genuine (st : StartupState)
    (clientReads backendReads : List StartupRead) (seen : List StartupWire) :
    GenuineTranscript packet seen (relayStartup req st clientReads backendReads).1 := by
  induction backendReads generalizing st clientReads seen with
  | nil => trivial
  | cons read reads ih =>
    cases read with
    | none => trivial
    | some bytes =>
      have hframes := handleStartupFrames_genuine packet hcredentials
      unfold relayStartup
      dsimp only
      split
      · trivial
      · split
        · exact hframes _ _ _ seen
        · exact genuineTranscript_append.2 ⟨hframes _ _ _ seen, ih _ _ _⟩
        · exact hframes _ _ _ seen

/-- **On a backend that requires a startup, a client that authenticates itself is told so by the
backend.** -/
theorem proxyStartupStreams_genuine
    (parameterStatus : List BackendFrame) (clientReads backendReads : List StartupRead) :
    GenuineTranscript req.startupPacket []
      (proxyStartupStreams req true parameterStatus clientReads backendReads).1 :=
  ⟨.inl rfl, relayStartup_genuine req.startupPacket hcredentials _ _ _ _⟩

end

end PgKinetic
