import PgKinetic.Proxy.Startup
import PgKinetic.Wire.Reader

/-!
# The reads of a startup

`proxy_startup_streams` and `bootstrap_backend_streams` read from the backend until a ReadyForQuery
with status `Idle` has come, and look at the bytes alone: neither asks how many bytes a read has
brought. At the end of the stream a read brings none, so a loop that still waits goes on reading
for ever. A backend that refuses the startup sends an ErrorResponse and closes, and the
ErrorResponse ends no loop.

`startup_returns_iff` says exactly when the two return: when something that has come before the end
of the stream ends them.
-/

namespace PgKinetic

open Framing List BackendFrame

/-! ### Loops over the reads of a startup -/

section Loop

variable {σ ω : Type*}

/-- What a loop returns that makes an error, `none`, of all but what its body says. -/
@[simp]
def ReadEnd.result : ReadEnd (Option ω) → Option ω
  | .limit => none
  | .wire _ => none
  | .done result => result

/-- One turn of a loop that ends on a read error, at the limit, on bytes that are no frames, and as
its body says. -/
def startupTurn (limit : Option Nat) (step : σ → BackendFrame → σ ⊕ Option ω) (s : Reading σ) :
    StartupRead → Reading σ ⊕ Option ω
  | none => .inr none
  | some bytes => (readTurn limit step s bytes).map id ReadEnd.result

/-- The loop returns on the reads and the end of the stream behind them, where every read brings
nothing. What it reads from the client is given beforehand, and a read from the client that never
comes counts as one that fails. -/
def Returns {α β : Type*} (loop : List StartupRead → α ⊕ β) (chunks : List (List Byte)) : Prop :=
  ∃ n result, loop (chunks.map some ++ replicate n (some [])) = .inr result

variable {limit : Option Nat} {step : σ → BackendFrame → σ ⊕ Option ω} {s s' : Reading σ}
  {chunks : List (List Byte)}

/-- A loop whose reads bring bytes. -/
theorem foldUntil_startupTurn (limit : Option Nat) (step : σ → BackendFrame → σ ⊕ Option ω)
    (s : Reading σ) (chunks : List (List Byte)) :
    foldUntil (startupTurn limit step) s (chunks.map some) =
      (foldUntil (readTurn limit step) s chunks).map id
        fun stopped => (stopped.1.result, stopped.2.map some) := by
  induction chunks generalizing s with
  | nil => rfl
  | cons chunk chunks ih =>
    rw [map_cons, foldUntil, foldUntil, startupTurn]
    cases readTurn limit step s chunk with
    | inl s₁ => exact ih s₁
    | inr result => rfl

theorem foldUntil_startupTurn_iff :
    foldUntil (startupTurn limit step) s (chunks.map some) = .inl s' ↔
      foldUntil (readTurn limit step) s chunks = .inl s' := by
  rw [foldUntil_startupTurn]
  cases foldUntil (readTurn limit step) s chunks with
  | inl s₁ => simp
  | inr stopped => simp

theorem ReadEnd.result_eq_some {e : ReadEnd (Option ω)} {result : ω}
    (h : e.result = some result) : e = .done (some result) := by
  cases e with
  | limit => cases h
  | wire error => cases h
  | done result' => exact congrArg ReadEnd.done h

/-- **A loop returns exactly if it does not go through what comes before the end of the stream.** -/
theorem returns_iff_not_waits (hs : s.Stands limit) :
    Returns (foldUntil (startupTurn limit step) s) chunks ↔
      ¬ ∃ s', foldUntil (readTurn limit step) s chunks = .inl s' := by
  constructor
  · rintro ⟨n, result, hreturns⟩ ⟨s', hwaits⟩
    have hend : foldUntil (readTurn limit step) s (chunks ++ replicate n []) = .inl s' := by
      rw [foldUntil_append, hwaits]
      exact foldUntil_readTurn_replicate (hs.of_foldUntil hwaits) n
    have hloop := foldUntil_startupTurn_iff.2 hend
    rw [map_append, map_replicate, hreturns] at hloop
    cases hloop
  · intro hnot
    cases hloop : foldUntil (startupTurn limit step) s (chunks.map some) with
    | inl s' => exact absurd ⟨s', foldUntil_startupTurn_iff.1 hloop⟩ hnot
    | inr result =>
      refine ⟨0, result, ?_⟩
      rw [replicate_zero, append_nil]
      exact hloop

end Loop

/-! ### The loop of the relay -/

/-- What the body of the relay has done. -/
structure StartupProgress where
  state : StartupState := {}
  clientReads : List StartupRead
  wire : List StartupWire := []

/-- The body of the relay on one frame: it goes on, or returns the transcript of a startup that is
complete, or an error. -/
def startupFrame (req : StartupRequest) (p : StartupProgress) (frame : BackendFrame) :
    StartupProgress ⊕ Option (List StartupWire) :=
  let step := handleStartupFrame req p.state p.clientReads frame
  match step.flow with
  | .next => .inl ⟨step.state, step.clientReads, p.wire ++ step.wire⟩
  | .complete => .inr (some (p.wire ++ step.wire))
  | .fail => .inr none

/-- The loop of `proxy_startup_streams` on the reads to come. -/
def relayReads (req : StartupRequest) (clientReads reads : List StartupRead) :
    Reading StartupProgress ⊕ (Option (List StartupWire) × List StartupRead) :=
  if req.maxBackendBufferBytes = 0 then .inr (none, reads)
  else
    foldUntil (startupTurn (some req.maxBackendBufferBytes) (startupFrame req))
      ⟨{ clientReads }, []⟩ reads

/-! ### The same relay -/

section Link

variable {req : StartupRequest}

/-- A scan ends as a loop over the frames before an error does. -/
def ScanAgrees {σ ρ : Type*} (scanned : Scanned Byte σ ρ WireError) :
    σ ⊕ (ρ × List BackendFrame) → Option (List Byte) → Prop
  | .inl acc, some rest => scanned = .waiting acc rest
  | .inl _, none => ∃ e, scanned = .failed e
  | .inr (result, _), _ => ∃ rest, scanned = .done result rest

theorem scanAgrees_framesBeforeError {σ ρ : Type*} (step : σ → BackendFrame → σ ⊕ ρ) (n : Nat)
    (acc : σ) (buffer : List Byte) :
    ScanAgrees (backendCutter.scanFrom step n acc buffer)
      (foldUntil step acc (framesBeforeError.go n buffer).1) (framesBeforeError.go n buffer).2 := by
  induction n generalizing acc buffer with
  | zero => rfl
  | succ n ih =>
    rw [framesBeforeError.go, Cutter.scanFrom, backendCutter_cut]
    cases parseBackendFrame buffer with
    | error e => exact ⟨e, rfl⟩
    | ok first =>
      cases first with
      | none => rfl
      | some first =>
        obtain ⟨frame, behind⟩ := first
        dsimp only
        rw [foldUntil]
        cases hstep : step acc frame with
        | inl acc₁ => exact ih acc₁ behind
        | inr result => exact ⟨behind, rfl⟩

/-- The body of the relay does not look at the buffer. -/
theorem handleStartupFrame_buffer (st : StartupState) (buffer : List Byte)
    (reads : List StartupRead) (frame : BackendFrame) :
    handleStartupFrame req { st with buffer } reads frame =
      { handleStartupFrame req st reads frame with
        state := { (handleStartupFrame req st reads frame).state with buffer } } := by
  unfold handleStartupFrame
  split
  · unfold handleAuthentication
    split
    · rfl
    · split
      · dsimp only
        split <;> rfl
      · split
        · rfl
        · split
          · unfold forwardAuthRequest
            dsimp only
            split
            · rfl
            · split
              · rfl
              · split
                · split
                  · rfl
                  · split <;> rfl
                · rfl
                · rfl
          · rfl
  · unfold handleOtherFrame
    split <;> rfl

/-- The loop over the frames of a read, as a loop that stops. -/
theorem foldUntil_startupFrame (req : StartupRequest) (p : StartupProgress) (buffer : List Byte)
    (frames : List BackendFrame) :
    let step := handleStartupFrames req { p.state with buffer } p.clientReads frames
    match foldUntil (startupFrame req) p frames with
    | .inl p' => step.flow = .next ∧ step.state = { p'.state with buffer } ∧
        step.clientReads = p'.clientReads ∧ p'.wire = p.wire ++ step.wire
    | .inr (some wire, _) => step.flow = .complete ∧ wire = p.wire ++ step.wire
    | .inr (none, _) => step.flow = .fail := by
  induction frames generalizing p with
  | nil => exact ⟨rfl, rfl, rfl, (append_nil _).symm⟩
  | cons frame frames ih =>
    dsimp only
    rw [foldUntil, startupFrame, handleStartupFrames,
      handleStartupFrame_buffer p.state buffer p.clientReads frame]
    generalize handleStartupFrame req p.state p.clientReads frame = step
    obtain ⟨st, reads, wire, flow⟩ := step
    cases flow with
    | complete => exact ⟨rfl, rfl⟩
    | fail => rfl
    | next =>
      have hlater := ih ⟨st, reads, p.wire ++ wire⟩
      dsimp only at hlater ⊢
      split
      · rename_i hloop
        rw [hloop] at hlater
        obtain ⟨hflow, hstate, hreads, hwire⟩ := hlater
        exact ⟨hflow, hstate, hreads, by rw [hwire, append_assoc]⟩
      · rename_i hloop
        rw [hloop] at hlater
        obtain ⟨hflow, hwire⟩ := hlater
        exact ⟨hflow, by rw [hwire, append_assoc]⟩
      · rename_i hloop
        rw [hloop] at hlater
        exact hlater

/-- A relay whose buffer is full does not complete. -/
theorem relayStartup_of_full {st : StartupState} {clientReads reads : List StartupRead}
    (h : req.maxBackendBufferBytes ≤ st.buffer.length) :
    relayStartup req st clientReads reads = ([], false) := by
  match reads with
  | [] => rfl
  | none :: reads => rfl
  | some bytes :: reads =>
    rw [relayStartup]
    dsimp only
    rw [if_pos (.inl h)]

/-- The relay from where the loop stands. -/
def resumeRelay (req : StartupRequest) (s : Reading StartupProgress) (reads : List StartupRead) :
    List StartupWire × Bool :=
  relayStartup req { s.acc.state with buffer := s.buffer } s.acc.clientReads reads

/-- What the relay makes of a read, and the turn that the loop takes on it. -/
def TurnAgrees (req : StartupRequest) (s : Reading StartupProgress) (reads : List StartupRead)
    (relayed : List StartupWire × Bool) : Reading StartupProgress ⊕ Option (List StartupWire) → Prop
  | .inl s' => s'.Stands (some req.maxBackendBufferBytes) ∧
      ∃ sent, s'.acc.wire = s.acc.wire ++ sent ∧
        relayed = (sent ++ (resumeRelay req s' reads).1, (resumeRelay req s' reads).2)
  | .inr (some wire) => ∃ sent, wire = s.acc.wire ++ sent ∧ relayed = (sent, true)
  | .inr none => relayed.2 = false

theorem turnAgrees {s : Reading StartupProgress} (hs : s.Stands (some req.maxBackendBufferBytes))
    (bytes : List Byte) (reads : List StartupRead) :
    TurnAgrees req s reads (resumeRelay req s (some bytes :: reads))
      (startupTurn (some req.maxBackendBufferBytes) (startupFrame req) s (some bytes)) := by
  have hroom := hs.room
  simp only [atLimit, decide_eq_false_iff_not, Nat.not_le] at hroom
  have hscan : ScanAgrees (backendCutter.scan (startupFrame req) s.acc (s.buffer ++ bytes))
      (foldUntil (startupFrame req) s.acc (framesBeforeError (s.buffer ++ bytes)).1)
      (framesBeforeError (s.buffer ++ bytes)).2 :=
    scanAgrees_framesBeforeError (startupFrame req) _ s.acc _
  have hframes := foldUntil_startupFrame req s.acc s.buffer
    (framesBeforeError (s.buffer ++ bytes)).1
  rw [resumeRelay, relayStartup, startupTurn, readTurn]
  dsimp only at hframes ⊢
  generalize framesBeforeError (s.buffer ++ bytes) = cut at hscan hframes ⊢
  obtain ⟨frames, rest⟩ := cut
  dsimp only at hscan hframes ⊢
  by_cases hover : req.maxBackendBufferBytes < (s.buffer ++ bytes).length
  · have hfull : overLimit (some req.maxBackendBufferBytes) (s.buffer ++ bytes) = true :=
      decide_eq_true hover
    rw [if_pos (.inr hover), if_pos hfull]
    rfl
  · have hunder : ¬ overLimit (some req.maxBackendBufferBytes) (s.buffer ++ bytes) = true :=
      fun h => hover (of_decide_eq_true h)
    rw [if_neg (not_or.2 ⟨Nat.not_le.2 hroom, hover⟩), if_neg hunder]
    generalize handleStartupFrames req { s.acc.state with buffer := s.buffer }
      s.acc.clientReads frames = step at hframes ⊢
    obtain ⟨state, clientReads, sent, flow⟩ := step
    cases hloop : foldUntil (startupFrame req) s.acc frames with
    | inl p =>
      rw [hloop] at hscan hframes
      obtain ⟨rfl, rfl, rfl, hwire⟩ := hframes
      cases rest with
      | none =>
        obtain ⟨e, hscan⟩ := hscan
        rw [hscan]
        rfl
      | some rest =>
        replace hscan : backendCutter.scan _ _ _ = .waiting p rest := hscan
        rw [hscan]
        dsimp only
        by_cases hfull : req.maxBackendBufferBytes ≤ rest.length
        · have hat : atLimit (some req.maxBackendBufferBytes) rest = true := decide_eq_true hfull
          rw [if_pos hat, relayStartup_of_full hfull]
          rfl
        · have hat : ¬ atLimit (some req.maxBackendBufferBytes) rest = true :=
            fun h => hfull (of_decide_eq_true h)
          obtain ⟨_, hparse, -⟩ := foldUntil_of_scan_waiting _ hscan
          rw [if_neg hat]
          exact ⟨⟨parseBackendFrames_rest hparse, Bool.of_not_eq_true hat⟩, sent, hwire, rfl⟩
    | inr stopped =>
      obtain ⟨result, later⟩ := stopped
      rw [hloop] at hscan hframes
      obtain ⟨behind, hscan⟩ := hscan
      rw [hscan]
      cases result with
      | none =>
        obtain rfl : flow = .fail := hframes
        rfl
      | some done =>
        obtain ⟨rfl, rfl⟩ := hframes
        exact ⟨sent, rfl, rfl⟩

/-- A relay that starts where the loop stands completes with the same transcript. -/
theorem relayStartup_of_stands {s : Reading StartupProgress}
    (hs : s.Stands (some req.maxBackendBufferBytes)) (reads : List StartupRead)
    (wire : List StartupWire) :
    (∃ unread, foldUntil (startupTurn (some req.maxBackendBufferBytes) (startupFrame req)) s reads =
        .inr (some wire, unread)) ↔
      ∃ sent, resumeRelay req s reads = (sent, true) ∧ wire = s.acc.wire ++ sent := by
  induction reads generalizing s with
  | nil => simp [foldUntil, resumeRelay, relayStartup]
  | cons read reads ih =>
    cases read with
    | none => simp [foldUntil, startupTurn, resumeRelay, relayStartup]
    | some bytes =>
      have hturn := turnAgrees hs bytes reads
      rw [foldUntil]
      generalize startupTurn _ _ s (some bytes) = turn at hturn ⊢
      generalize resumeRelay req s (some bytes :: reads) = relayed at hturn ⊢
      cases turn with
      | inl s' =>
        obtain ⟨hs', sent, hwire, rfl⟩ := hturn
        dsimp only
        rw [ih hs', hwire]
        obtain ⟨later, complete⟩ := resumeRelay req s' reads
        simp
      | inr result =>
        cases result with
        | none =>
          obtain ⟨sent, complete⟩ := relayed
          obtain rfl : complete = false := hturn
          simp
        | some done =>
          obtain ⟨sent, rfl, rfl⟩ := hturn
          simp [eq_comm]

/-- **The relay and its loop.** A startup is complete in the one exactly if it is in the other, with
the same transcript. -/
theorem relayStartup_eq_iff {clientReads reads : List StartupRead} {wire : List StartupWire} :
    relayStartup req {} clientReads reads = (wire, true) ↔
      ∃ unread, relayReads req clientReads reads = .inr (some wire, unread) := by
  by_cases hzero : req.maxBackendBufferBytes = 0
  · rw [relayStartup_of_full (by rw [hzero]; exact Nat.zero_le _), relayReads, if_pos hzero]
    simp
  · have hstands : (Reading.mk { clientReads } [] : Reading StartupProgress).Stands
        (some req.maxBackendBufferBytes) :=
      ⟨rfl, decide_eq_false (by rw [length_nil]; omega)⟩
    rw [relayReads, if_neg hzero, relayStartup_of_stands hstands]
    exact ⟨fun h => ⟨wire, h, rfl⟩, fun ⟨sent, h, heq⟩ => heq ▸ h⟩

end Link

/-! ### The loop of a bootstrap -/

/-- `BackendAuthSession::respond`, on all the authentication payloads so far. -/
abbrev Credentials := List (List Byte) → Except Unit (Option (List Byte))

/-- What a bootstrap has done. -/
structure BootstrapProgress where
  /-- The requests answered with the proxy's own credentials. -/
  authPayloads : List (List Byte) := []
  wire : List StartupWire := []

/-- The body of `bootstrap_backend_streams` on one frame. -/
def bootstrapFrame (credentials : Option Credentials) (p : BootstrapProgress)
    (frame : BackendFrame) : BootstrapProgress ⊕ Option (List StartupWire) :=
  let wire := p.wire ++ [.fromBackend frame]
  if frame.hasTag .authentication then
    match authRequestCode frame.payload with
    | none => .inr none
    | some code =>
      match credentials with
      | some respond =>
        let authPayloads := p.authPayloads ++ [frame.payload]
        match respond authPayloads with
        | .error _ => .inr none
        | .ok none => .inl ⟨authPayloads, wire⟩
        | .ok (some response) => .inl ⟨authPayloads, wire ++ [.toBackend response]⟩
      | none =>
        if code ≠ 0 ∧ authRequestExpectsClientResponse code then .inr none
        else .inl { p with wire }
  else if frame.readyStatus = some .idle then .inr (some wire)
  else .inl { p with wire }

/-- `bootstrap_backend_streams` on the reads to come; it has no buffer limit. -/
def bootstrapReads (credentials : Option Credentials) (startupPacket : List Byte)
    (reads : List StartupRead) :
    Reading BootstrapProgress ⊕ (Option (List StartupWire) × List StartupRead) :=
  foldUntil (startupTurn none (bootstrapFrame credentials))
    ⟨{ wire := [.toBackend startupPacket] }, []⟩ reads

/-! ### What ends a startup -/

/-- The payloads of the authentication requests among frames. -/
def authPayloadsOf (frames : List BackendFrame) : List (List Byte) :=
  (frames.filter (·.hasTag .authentication)).map payload

/-- A request that the client is to answer. -/
def BackendFrame.awaitsClient (frame : BackendFrame) : Bool :=
  frame.hasTag .authentication &&
    (authRequestCode frame.payload).any authRequestExpectsClientResponse

/-- The client's read of that number is an answer the relay passes on. -/
def ClientAnswers (req : StartupRequest) (clientReads : List StartupRead) (k : Nat) : Prop :=
  ∃ bytes, clientReads[k]? = some (some bytes) ∧ bytes ≠ [] ∧
    bytes.length ≤ req.maxClientBufferBytes

/-- The credentials have no answer to the requests. -/
def Credentials.Fails (respond : Credentials) (payloads : List (List Byte)) : Prop :=
  ∃ e, respond payloads = .error e

/-- A frame that ends the relay after the ones before it: a request without a code, one that cannot
be answered, or ReadyForQuery with `Idle`. -/
def EndsRelay (req : StartupRequest) (clientReads : List StartupRead) (seen : List BackendFrame)
    (frame : BackendFrame) : Prop :=
  if frame.hasTag .authentication then
    match authRequestCode frame.payload, req.credentials with
    | none, _ => True
    | some _, some respond => Credentials.Fails respond (authPayloadsOf (seen ++ [frame]))
    | some code, none => code ≠ 0 ∧ (req.forwardAuthRequests = true →
        authRequestExpectsClientResponse code = true ∧
          ¬ ClientAnswers req clientReads (seen.countP awaitsClient))
  else frame.readyStatus = some .idle

/-- A frame that ends a bootstrap after the ones before it. -/
def EndsBootstrap (credentials : Option Credentials) (seen : List BackendFrame)
    (frame : BackendFrame) : Prop :=
  if frame.hasTag .authentication then
    match authRequestCode frame.payload, credentials with
    | none, _ => True
    | some _, some respond => Credentials.Fails respond (authPayloadsOf (seen ++ [frame]))
    | some code, none => authRequestExpectsClientResponse code = true
  else frame.readyStatus = some .idle

/-- Some complete frame of the stream ends the loop, or the stream is no stream of frames. -/
def StreamEnds (ends : List BackendFrame → BackendFrame → Prop) (stream : List Byte) : Prop :=
  ∀ frames rest, parseBackendFrames stream = .ok (frames, rest) →
    ∃ before frame after, frames = before ++ frame :: after ∧ ends before frame

/-- What comes before the end of the stream ends the relay. -/
def RelayEnds (req : StartupRequest) (clientReads : List StartupRead) (chunks : List (List Byte)) :
    Prop :=
  req.maxBackendBufferBytes = 0 ∨ ¬ Within (some req.maxBackendBufferBytes) [] chunks ∨
    StreamEnds (EndsRelay req clientReads) chunks.flatten

variable {limit : Option Nat} {p : BootstrapProgress} {credentials : Option Credentials}
  {st : StartupState} {wire : List StartupWire}

/-- The loop goes through the stream exactly if it is within the limit and nothing in it ends the
loop. -/
theorem returns_iff_of_stops {σ ω : Type*} {step : σ → BackendFrame → σ ⊕ Option ω}
    (After : List BackendFrame → σ → Prop) (Stops : List BackendFrame → BackendFrame → Prop)
    (hstep : ∀ seen acc frame, After seen acc →
      (Stops seen frame ∧ ∃ result, step acc frame = .inr result) ∨
      (¬ Stops seen frame ∧ ∃ acc', step acc frame = .inl acc' ∧ After (seen ++ [frame]) acc'))
    {acc : σ} (hacc : After [] acc) (hlimit : atLimit limit [] = false) (chunks : List (List Byte))
    :
    Returns (foldUntil (startupTurn limit step) ⟨acc, []⟩) chunks ↔
      ¬ Within limit [] chunks ∨ StreamEnds Stops chunks.flatten := by
  rw [returns_iff_not_waits ⟨rfl, hlimit⟩]
  constructor
  · intro hnot
    by_contra hor
    obtain ⟨hwithin, hstream⟩ := not_or.1 hor
    refine hnot ?_
    rw [StreamEnds] at hstream
    push Not at hstream hwithin
    obtain ⟨frames, rest, hparse, hnone⟩ := hstream
    obtain ⟨acc', hframes⟩ := (foldUntil_inl_iff_forall step hstep hacc).2 hnone
    exact ⟨⟨acc', rest⟩, (foldUntil_readTurn_iff rfl).2 ⟨hwithin, frames, hparse, hframes⟩⟩
  · rintro hor ⟨s', hwaits⟩
    obtain ⟨hwithin, frames, hparse, hframes⟩ := (foldUntil_readTurn_iff rfl).1 hwaits
    rcases hor with hnot | hstream
    · exact hnot hwithin
    · obtain ⟨before, frame, after, hsplit, hstops⟩ := hstream frames _ hparse
      exact (foldUntil_inl_iff_forall step hstep hacc).1 ⟨_, hframes⟩ before frame after hsplit
        hstops

variable {frame : BackendFrame} {reads : List StartupRead} {req : StartupRequest}

theorem readyStatus_eq_none_of_hasTag {tag : BackendTag} (h : frame.hasTag tag = true)
    (hne : tag.byte ≠ BackendTag.readyForQuery.byte) : frame.readyStatus = none := by
  have hready := hasTag_eq_false h .readyForQuery hne
  unfold readyStatus
  rw [hready]
  rfl

theorem authPayloadsOf_append (seen later : List BackendFrame) :
    authPayloadsOf (seen ++ later) = authPayloadsOf seen ++ authPayloadsOf later := by
  rw [authPayloadsOf, filter_append, map_append]
  rfl

theorem authPayloadsOf_singleton (h : frame.hasTag .authentication = true) :
    authPayloadsOf [frame] = [frame.payload] := by
  simp [authPayloadsOf, h]

theorem authPayloadsOf_other (h : frame.hasTag .authentication = false) :
    authPayloadsOf [frame] = [] := by
  simp [authPayloadsOf, h]

/-! ### The relay, frame by frame -/

section Relay

variable {req : StartupRequest} {clientReads : List StartupRead} {seen : List BackendFrame}
  {p : StartupProgress} {frame : BackendFrame}

/-- What the relay knows after frames: the answers it has used up, or the requests it has
answered. -/
structure StartupProgress.After (req : StartupRequest) (clientReads : List StartupRead)
    (seen : List BackendFrame) (p : StartupProgress) : Prop where
  reads : req.credentials = none →
    p.clientReads = clientReads.drop (seen.countP awaitsClient)
  payloads : p.state.authPayloads = if req.credentials.isSome then authPayloadsOf seen else []

variable {k : Nat}

/-- The client's answer is the read behind those that have been used up. -/
theorem ClientAnswers.drop_eq (h : ClientAnswers req clientReads k) :
    ∃ bytes, clientReads.drop k = some bytes :: clientReads.drop (k + 1) ∧ bytes ≠ [] ∧
      bytes.length ≤ req.maxClientBufferBytes := by
  obtain ⟨bytes, hget, hne, hle⟩ := h
  obtain ⟨hlt, hget⟩ := List.getElem?_eq_some_iff.1 hget
  refine ⟨bytes, ?_, hne, hle⟩
  rw [drop_eq_getElem_cons hlt, hget]

variable {st : StartupState} {code : Int} {reads : List StartupRead}

/-- An answer of the client is passed on. -/
theorem forwardAuthRequest_of_answer {bytes : List Byte}
    (hcode : authRequestExpectsClientResponse code = true) (hne : bytes ≠ [])
    (hle : bytes.length ≤ req.maxClientBufferBytes) :
    forwardAuthRequest req st (some bytes :: reads) frame code =
      ⟨st, reads, [.fromBackend frame, .toClient frame, .fromClient bytes, .toBackend bytes],
        .next⟩ := by
  have hpos := length_pos_of_ne_nil hne
  have hmax : req.maxClientBufferBytes ≠ 0 := by omega
  simp only [forwardAuthRequest, hcode, Bool.not_true, Bool.false_eq_true, if_false, if_neg hmax,
    List.isEmpty_iff, if_neg hne, if_neg (Nat.not_lt.2 hle), cons_append, nil_append]

/-- Without an answer of the client the relay fails. -/
theorem forwardAuthRequest_of_no_answer (hcode : authRequestExpectsClientResponse code = true)
    (hnone : ¬ ClientAnswers req clientReads k) :
    (forwardAuthRequest req st (clientReads.drop k) frame code).flow = .fail := by
  unfold forwardAuthRequest
  rw [hcode]
  rw [if_neg (by decide)]
  split
  · rfl
  · split
    · rename_i bytes reads hreads
      split
      · rfl
      · rename_i hne
        split
        · rfl
        · rename_i hle
          have hget : (clientReads.drop k)[0]? = some (some bytes) := by
            rw [hreads]
            rfl
          rw [getElem?_drop, Nat.add_zero] at hget
          rw [List.isEmpty_iff] at hne
          exact absurd ⟨bytes, hget, hne, Nat.le_of_not_lt hle⟩ hnone
    · rfl
    · rfl

/-- AuthenticationOk goes to the client if requests do. -/
theorem handleStartupFrame_ok (hauth : frame.hasTag .authentication = true)
    (hcode : authRequestCode frame.payload = some 0) (hcred : req.credentials = none) :
    handleStartupFrame req st reads frame =
      ⟨st, reads, .fromBackend frame ::
        (if req.forwardAuthRequests then [.toClient frame] else []), .next⟩ := by
  rw [handleStartupFrame, if_pos hauth, handleAuthentication, hcode, hcred]
  rfl

/-- Any other request goes to the client. -/
theorem handleStartupFrame_request (hauth : frame.hasTag .authentication = true)
    (hcode : authRequestCode frame.payload = some code) (hcred : req.credentials = none)
    (hzero : code ≠ 0) (hforward : req.forwardAuthRequests = true) :
    handleStartupFrame req st reads frame = forwardAuthRequest req st reads frame code := by
  rw [handleStartupFrame, if_pos hauth, handleAuthentication, hcode, hcred]
  dsimp only
  rw [if_neg hzero, if_pos hforward]

theorem startupFrame_next {wire : List StartupWire}
    (h : handleStartupFrame req p.state p.clientReads frame = ⟨st, reads, wire, .next⟩) :
    startupFrame req p frame = .inl ⟨st, reads, p.wire ++ wire⟩ := by
  rw [startupFrame, h]

theorem startupFrame_fail (h : (handleStartupFrame req p.state p.clientReads frame).flow = .fail) :
    startupFrame req p frame = .inr none := by
  rw [startupFrame, h]

theorem countP_awaitsClient_concat (h : frame.awaitsClient = false) :
    (seen ++ [frame]).countP awaitsClient = seen.countP awaitsClient := by
  rw [countP_append, countP_singleton, h]
  rfl

/-- The proxy's own credentials answer a request, or end the relay. -/
theorem startupFrame_cases_credentials {respond : Credentials} (hp : p.After req clientReads seen)
    (hauth : frame.hasTag .authentication = true)
    (hcode : authRequestCode frame.payload = some code) (hcred : req.credentials = some respond) :
    (Credentials.Fails respond (authPayloadsOf (seen ++ [frame])) ∧
      ∃ result, startupFrame req p frame = .inr result) ∨
    (¬ Credentials.Fails respond (authPayloadsOf (seen ++ [frame])) ∧
      ∃ p', startupFrame req p frame = .inl p' ∧ p'.After req clientReads (seen ++ [frame])) := by
  have hpayloads := hp.payloads
  rw [hcred] at hpayloads
  have hnow : p.state.authPayloads ++ [frame.payload] = authPayloadsOf (seen ++ [frame]) := by
    rw [authPayloadsOf_append, authPayloadsOf_singleton hauth, hpayloads]
    rfl
  have hafter : ∀ wire, StartupProgress.After req clientReads (seen ++ [frame])
      ⟨{ p.state with authPayloads := authPayloadsOf (seen ++ [frame]) }, p.clientReads, wire⟩ :=
    fun wire => ⟨fun hnone => absurd (hcred.symm.trans hnone) nofun, by rw [hcred]; rfl⟩
  unfold startupFrame handleStartupFrame handleAuthentication
  rw [hauth, hcode, hcred]
  dsimp only [if_true]
  rw [hnow]
  cases hrespond : respond (authPayloadsOf (seen ++ [frame])) with
  | error e => exact .inl ⟨⟨e, hrespond⟩, none, rfl⟩
  | ok response =>
    have hanswers : ¬ Credentials.Fails respond (authPayloadsOf (seen ++ [frame])) := by
      rintro ⟨e, he⟩
      rw [hrespond] at he
      cases he
    cases response with
    | none | some response => exact .inr ⟨hanswers, _, rfl, hafter _⟩

/-- A request of the backend, without credentials. -/
theorem startupFrame_cases_request (hp : p.After req clientReads seen)
    (hauth : frame.hasTag .authentication = true)
    (hcode : authRequestCode frame.payload = some code) (hcred : req.credentials = none) :
    ((code ≠ 0 ∧ (req.forwardAuthRequests = true →
        authRequestExpectsClientResponse code = true ∧
          ¬ ClientAnswers req clientReads (seen.countP awaitsClient))) ∧
      ∃ result, startupFrame req p frame = .inr result) ∨
    (¬ (code ≠ 0 ∧ (req.forwardAuthRequests = true →
        authRequestExpectsClientResponse code = true ∧
          ¬ ClientAnswers req clientReads (seen.countP awaitsClient))) ∧
      ∃ p', startupFrame req p frame = .inl p' ∧ p'.After req clientReads (seen ++ [frame])) := by
  have hawaits : frame.awaitsClient = authRequestExpectsClientResponse code := by
    rw [awaitsClient, hauth, hcode]
    rfl
  have hreads := hp.reads hcred
  have hpayloads := hp.payloads
  rw [hcred] at hpayloads
  -- the relay leaves its variables alone, and the answers if the request asks for none
  have hquiet : ∀ wire, frame.awaitsClient = false →
      StartupProgress.After req clientReads (seen ++ [frame]) ⟨p.state, p.clientReads, wire⟩ := by
    intro wire hnot
    refine ⟨fun _ => ?_, by rw [hcred]; exact hpayloads⟩
    rw [countP_awaitsClient_concat hnot]
    exact hreads
  by_cases hzero : code = 0
  · refine .inr ⟨fun h => h.1 hzero, _, startupFrame_next (handleStartupFrame_ok hauth
      (hzero ▸ hcode) hcred), hquiet _ ?_⟩
    rw [hawaits, hzero]
    rfl
  · cases hforward : req.forwardAuthRequests with
    | false =>
      refine .inl ⟨⟨hzero, nofun⟩, none, startupFrame_fail ?_⟩
      rw [handleStartupFrame, if_pos hauth, handleAuthentication, hcode, hcred]
      dsimp only
      rw [if_neg hzero, hforward]
      rfl
    | true =>
      have hhandle : ∀ reads, handleStartupFrame req p.state reads frame =
          forwardAuthRequest req p.state reads frame code :=
        fun reads => handleStartupFrame_request hauth hcode hcred hzero hforward
      cases hexpects : authRequestExpectsClientResponse code with
      | false =>
        rw [hexpects] at hawaits
        have hnext : forwardAuthRequest req p.state p.clientReads frame code =
            ⟨p.state, p.clientReads, [.fromBackend frame, .toClient frame], .next⟩ := by
          unfold forwardAuthRequest
          rw [hexpects]
          rfl
        exact .inr ⟨fun h => absurd (h.2 rfl).1 nofun, _,
          startupFrame_next ((hhandle _).trans hnext), hquiet _ hawaits⟩
      | true =>
        rw [hexpects] at hawaits
        by_cases hanswers : ClientAnswers req clientReads (seen.countP awaitsClient)
        · obtain ⟨bytes, hdrop, hne, hle⟩ := hanswers.drop_eq
          have hnext := hhandle p.clientReads
          rw [hreads, hdrop, forwardAuthRequest_of_answer hexpects hne hle, ← hdrop, ← hreads]
            at hnext
          refine .inr ⟨fun h => (h.2 rfl).2 hanswers, _, startupFrame_next hnext, fun _ => ?_, ?_⟩
          · rw [countP_append, countP_singleton, hawaits]
            rfl
          · rw [hcred]
            exact hpayloads
        · refine .inl ⟨⟨hzero, fun _ => ⟨rfl, hanswers⟩⟩, none, startupFrame_fail ?_⟩
          rw [hreads, hhandle]
          exact forwardAuthRequest_of_no_answer hexpects hanswers

/-- **The relay on one frame.** -/
theorem startupFrame_cases (hp : p.After req clientReads seen) :
    (EndsRelay req clientReads seen frame ∧ ∃ result, startupFrame req p frame = .inr result) ∨
    (¬ EndsRelay req clientReads seen frame ∧ ∃ p', startupFrame req p frame = .inl p' ∧
      p'.After req clientReads (seen ++ [frame])) := by
  unfold EndsRelay
  cases hauth : frame.hasTag .authentication with
  | true =>
    cases hcode : authRequestCode frame.payload with
    | none =>
      refine .inl ⟨trivial, none, ?_⟩
      unfold startupFrame handleStartupFrame handleAuthentication
      rw [hauth, hcode]
      rfl
    | some code =>
      cases hcred : req.credentials with
      | some respond => exact startupFrame_cases_credentials hp hauth hcode hcred
      | none => exact startupFrame_cases_request hp hauth hcode hcred
  | false =>
    have hafter : ∀ sent wire, StartupProgress.After req clientReads (seen ++ [frame])
        ⟨{ p.state with sentBackendKeyData := sent }, p.clientReads, wire⟩ := by
      intro sent wire
      refine ⟨fun hcred => ?_, ?_⟩
      · rw [countP_awaitsClient_concat (by rw [awaitsClient, hauth]; rfl)]
        exact hp.reads hcred
      · rw [authPayloadsOf_append, authPayloadsOf_other hauth, append_nil]
        exact hp.payloads
    unfold startupFrame handleStartupFrame handleOtherFrame
    rw [hauth]
    cases hkey : frame.hasTag .backendKeyData with
    | true =>
      have hnone := readyStatus_eq_none_of_hasTag hkey (by decide)
      refine .inr ⟨fun h => ?_, _, rfl, hafter _ _⟩
      rw [hnone] at h
      cases h
    | false =>
      by_cases hidle : frame.readyStatus = some .idle
      · refine .inl ⟨hidle, ?_⟩
        rw [if_pos hidle]
        exact ⟨_, rfl⟩
      · refine .inr ⟨hidle, ?_⟩
        rw [if_neg hidle]
        exact ⟨_, rfl, hafter _ _⟩

end Relay

/-! ### A bootstrap, frame by frame -/

/-- What a bootstrap knows after frames. -/
def BootstrapProgress.After (credentials : Option Credentials) (seen : List BackendFrame)
    (p : BootstrapProgress) : Prop :=
  credentials.isSome = true → p.authPayloads = authPayloadsOf seen

/-- **A bootstrap on one frame.** -/
theorem bootstrapFrame_cases {seen : List BackendFrame} (hp : p.After credentials seen) :
    (EndsBootstrap credentials seen frame ∧
      ∃ result, bootstrapFrame credentials p frame = .inr result) ∨
    (¬ EndsBootstrap credentials seen frame ∧ ∃ p', bootstrapFrame credentials p frame = .inl p' ∧
      p'.After credentials (seen ++ [frame])) := by
  unfold EndsBootstrap bootstrapFrame
  cases hauth : frame.hasTag .authentication with
  | true =>
    cases hcode : authRequestCode frame.payload with
    | none => exact .inl ⟨trivial, none, rfl⟩
    | some code =>
      cases credentials with
      | some respond =>
        have hnow : p.authPayloads ++ [frame.payload] = authPayloadsOf (seen ++ [frame]) := by
          rw [authPayloadsOf_append, authPayloadsOf_singleton hauth, hp rfl]
        dsimp only [if_true]
        rw [hnow]
        cases hrespond : respond (authPayloadsOf (seen ++ [frame])) with
        | error e => exact .inl ⟨⟨e, hrespond⟩, none, rfl⟩
        | ok response =>
          have hanswers : ¬ Credentials.Fails respond (authPayloadsOf (seen ++ [frame])) :=
            fun ⟨e, he⟩ => absurd (hrespond.symm.trans he) nofun
          cases response with
          | none | some response => exact .inr ⟨hanswers, _, rfl, fun _ => rfl⟩
      | none =>
        dsimp only
        rw [if_pos rfl, if_pos rfl]
        by_cases hexpects : authRequestExpectsClientResponse code = true
        · have hzero : code ≠ 0 := by
            rintro rfl
            cases hexpects
          rw [if_pos ⟨hzero, hexpects⟩]
          exact .inl ⟨hexpects, none, rfl⟩
        · rw [if_neg fun h => hexpects h.2]
          exact .inr ⟨hexpects, _, rfl, nofun⟩
  | false =>
    by_cases hidle : frame.readyStatus = some .idle
    · refine .inl ⟨hidle, ?_⟩
      rw [if_neg (by decide), if_pos hidle]
      exact ⟨_, rfl⟩
    · refine .inr ⟨hidle, ?_⟩
      rw [if_neg (by decide), if_neg hidle]
      refine ⟨_, rfl, fun hsome => ?_⟩
      rw [authPayloadsOf_append, authPayloadsOf_other hauth, append_nil]
      exact hp hsome

/-! ### Startups that return -/

/-- A loop that returns the transcript of a complete startup has it from its body, which has kept
what it keeps up to then. The loop may look at a read before it takes the turn. -/
theorem exists_of_startup_complete {σ ω : Type*} {step : σ → BackendFrame → σ ⊕ Option ω}
    {turn : Reading σ → StartupRead → Reading σ ⊕ Option ω}
    (hturn : ∀ s read, turn s read = startupTurn limit step s read ∨ turn s read = .inr none)
    {I : σ → Prop} (hI : ∀ acc frame acc', I acc → step acc frame = .inl acc' → I acc')
    {s : Reading σ} {unread : List StartupRead} {result : ω} (hs : I s.acc)
    (h : foldUntil turn s reads = .inr (some result, unread)) :
    ∃ acc frame, I acc ∧ step acc frame = .inr (some result) := by
  have hkeep : ∀ (s : Reading σ) read s', I s.acc → turn s read = .inl s' → I s'.acc := by
    intro s read s' hs hone
    rcases hturn s read with heq | heq
    · rw [heq] at hone
      cases read with
      | none => cases hone
      | some bytes =>
        rw [startupTurn] at hone
        cases hread : readTurn limit step s bytes with
        | inr e =>
          rw [hread] at hone
          cases hone
        | inl s₁ =>
          rw [hread] at hone
          obtain rfl := Sum.inl.inj hone
          obtain ⟨-, hscan, -⟩ := readTurn_eq_inl_iff.1 hread
          exact backendCutter.invariant_of_waiting step hI hs hscan
    · rw [heq] at hone
      cases hone
  obtain ⟨before, read, s', -, hbefore, hlast⟩ := foldUntil_eq_inr _ h
  have hs' : I s'.acc := foldUntil_invariant turn (I := fun s => I s.acc) hkeep hs hbefore
  rcases hturn s' read with heq | heq
  · rw [heq] at hlast
    cases read with
    | none => cases hlast
    | some bytes =>
      rw [startupTurn] at hlast
      cases hread : readTurn limit step s' bytes with
      | inl s₁ =>
        rw [hread] at hlast
        cases hlast
      | inr e =>
        rw [hread] at hlast
        obtain rfl := ReadEnd.result_eq_some (Sum.inr.inj hlast)
        obtain ⟨rest, hscan⟩ := scan_of_readTurn_done hread
        exact backendCutter.exists_of_scan_done step hI hs' hscan
  · rw [heq] at hlast
    cases hlast

theorem forwardAuthRequest_flow_ne_complete {code : Int} :
    (forwardAuthRequest req st reads frame code).flow ≠ .complete := by
  unfold forwardAuthRequest
  split
  · nofun
  · split
    · nofun
    · split
      · split
        · nofun
        · split <;> nofun
      · nofun
      · nofun

theorem handleAuthentication_flow_ne_complete :
    (handleAuthentication req st reads frame).flow ≠ .complete := by
  unfold handleAuthentication
  split
  · nofun
  · split
    · dsimp only
      split <;> nofun
    · split
      · nofun
      · split
        · exact forwardAuthRequest_flow_ne_complete
        · nofun

/-- The relay is complete only with ReadyForQuery and status `Idle`. -/
theorem ready_of_startupFrame {p : StartupProgress}
    (h : startupFrame req p frame = .inr (some wire)) :
    .fromBackend frame ∈ wire ∧ frame.readyStatus = some .idle := by
  unfold startupFrame at h
  dsimp only at h
  split at h
  · cases h
  · rename_i hcomplete
    obtain rfl := Option.some.inj (Sum.inr.inj h)
    unfold handleStartupFrame at hcomplete ⊢
    split at hcomplete
    · exact absurd hcomplete handleAuthentication_flow_ne_complete
    · rename_i hother
      rw [if_neg hother]
      unfold handleOtherFrame at hcomplete ⊢
      split at hcomplete
      · cases hcomplete
      · rename_i hkey
        rw [if_neg hkey]
        split at hcomplete
        · rename_i hidle
          exact ⟨mem_append_right _ mem_cons_self, hidle⟩
        · cases hcomplete
  · cases h

/-- A bootstrap is complete only with ReadyForQuery and status `Idle`. -/
theorem ready_of_bootstrapFrame (h : bootstrapFrame credentials p frame = .inr (some wire)) :
    .fromBackend frame ∈ wire ∧ frame.readyStatus = some .idle := by
  unfold bootstrapFrame at h
  dsimp only at h
  split at h
  · split at h
    · cases h
    · split at h
      · split at h <;> cases h
      · split at h <;> cases h
  · split at h
    · rename_i hidle
      obtain rfl := Option.some.inj (Sum.inr.inj h)
      exact ⟨mem_append_right _ (mem_singleton_self _), hidle⟩
    · cases h

/-- **When a startup returns.** Whatever the backend sends before the end of its stream and however
that is divided into reads: the relay and the bootstrap return exactly if something in it ends them,
be it a frame, bytes that are no frame, or the buffer limit; the end of the stream never does. They
return successfully only after ReadyForQuery with status `Idle`. -/
theorem startup_returns_iff (req : StartupRequest) (clientReads : List StartupRead)
    (credentials : Option Credentials) (startupPacket : List Byte) (chunks : List (List Byte)) :
    (Returns (relayReads req clientReads) chunks ↔ RelayEnds req clientReads chunks) ∧
    (Returns (bootstrapReads credentials startupPacket) chunks ↔
      StreamEnds (EndsBootstrap credentials) chunks.flatten) ∧
    (∀ reads wire unread, relayReads req clientReads reads = .inr (some wire, unread) →
      ∃ frame, .fromBackend frame ∈ wire ∧ frame.readyStatus = some .idle) ∧
    (∀ reads wire unread,
      bootstrapReads credentials startupPacket reads = .inr (some wire, unread) →
      ∃ frame, .fromBackend frame ∈ wire ∧ frame.readyStatus = some .idle) := by
  refine ⟨?_, ?_, fun reads wire unread h => ?_, fun reads wire unread h => ?_⟩
  · by_cases hzero : req.maxBackendBufferBytes = 0
    · refine iff_of_true ⟨0, (none, chunks.map some), ?_⟩ (.inl hzero)
      rw [relayReads, if_pos hzero, replicate_zero, append_nil]
    · have hloop : relayReads req clientReads = foldUntil _ _ :=
        funext fun reads => if_neg hzero
      have hroom : atLimit (some req.maxBackendBufferBytes) [] = false := by
        simp only [atLimit, length_nil, decide_eq_false_iff_not]
        omega
      have hstart : StartupProgress.After req clientReads [] { clientReads } :=
        ⟨fun _ => rfl, (ite_self []).symm⟩
      rw [hloop, RelayEnds, or_iff_right hzero]
      exact returns_iff_of_stops (StartupProgress.After req clientReads) (EndsRelay req clientReads)
        (fun _ _ _ => startupFrame_cases) hstart hroom chunks
  · refine (returns_iff_of_stops (BootstrapProgress.After credentials) (EndsBootstrap credentials)
      (fun _ _ _ => bootstrapFrame_cases) (fun _ => rfl) rfl chunks).trans ?_
    exact or_iff_right (not_not.2 (within_none _ _))
  · unfold relayReads at h
    split at h
    · cases h
    · obtain ⟨acc, frame, -, hframe⟩ := exists_of_startup_complete (fun _ _ => .inl rfl)
        (fun _ _ _ _ _ => trivial) trivial h
      exact ⟨frame, ready_of_startupFrame hframe⟩
  · obtain ⟨acc, frame, -, hframe⟩ := exists_of_startup_complete (fun _ _ => .inl rfl)
      (fun _ _ _ _ _ => trivial) trivial h
    exact ⟨frame, ready_of_bootstrapFrame hframe⟩

/-- A pass-through startup. -/
def passThroughRequest : StartupRequest where
  startupPacket := []
  forwardAuthRequests := true
  emitAuthOk := true

/-- **A refused startup never returns.** The backend answers with an ErrorResponse and closes: both
loops read nothing for ever. -/
theorem refused_startup_never_returns :
    ¬ Returns (relayReads passThroughRequest []) [[69, 0, 0, 0, 5, 0]] ∧
    ¬ Returns (bootstrapReads none []) [[69, 0, 0, 0, 5, 0]] := by
  constructor
  · have hloop : relayReads passThroughRequest [] = foldUntil _ _ :=
      funext fun reads => if_neg (by decide)
    rw [hloop, returns_iff_not_waits ⟨rfl, by decide⟩, not_not]
    exact ⟨_, rfl⟩
  · unfold bootstrapReads
    rw [returns_iff_not_waits ⟨rfl, rfl⟩, not_not]
    exact ⟨_, rfl⟩

end PgKinetic
