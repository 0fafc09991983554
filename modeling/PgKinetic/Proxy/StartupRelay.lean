import PgKinetic.Proxy.StartupReads

/-!
# The relay of an authentication exchange

In pass-through mode the relay stands between a backend that asks and a client that answers. The
two keep to the protocol: the backend sends its next request only when it has the whole answer to
the last, and the client answers only what it has been asked. How the bytes of either side are
divided into reads is left open.

The relay passes on one read for each request, whatever that read holds. So an exchange is relayed
exactly if every answer of the client comes in one read within the client limit, and the backend's
frames keep within theirs (`startup_relayed_iff`). An answer in two reads is passed on in part, and
then both sides wait: the backend for the rest of the answer, and the relay for the backend.
-/

namespace PgKinetic

open Framing List StartupRequest BackendFrame

/-! ### Exchanges -/

/-- A frame that is passed on as it is and asks for nothing. -/
def BackendFrame.Passes (frame : BackendFrame) : Prop :=
  if frame.hasTag .authentication then
    ∃ code, authRequestCode frame.payload = some code ∧
      authRequestExpectsClientResponse code = false
  else frame.hasTag .backendKeyData = false ∧ frame.readyStatus = none

/-- A request of the backend, with what comes before it, and the client's answer. -/
structure AuthRound where
  others : List BackendFrame
  request : BackendFrame
  /-- The reads in which the frames arrive. -/
  backendReads : List (List Byte)
  /-- The reads in which the answer arrives. -/
  clientReads : List (List Byte)
  parses : parseBackendFrames backendReads.flatten = .ok (others ++ [request], [])
  others_pass : ∀ frame ∈ others, frame.Passes
  request_awaits : request.awaitsClient = true
  answered : clientReads ≠ []
  client_nonempty : ∀ read ∈ clientReads, read ≠ []

/-- The client's message. -/
def AuthRound.answer (round : AuthRound) : List Byte := round.clientReads.flatten

/-- An exchange: requests and answers, and then what ends in ReadyForQuery, with at most one
BackendKeyData before it. -/
structure AuthExchange where
  rounds : List AuthRound
  closing : List BackendFrame
  ready : BackendFrame
  closingReads : List (List Byte)
  parses : parseBackendFrames closingReads.flatten = .ok (closing ++ [ready], [])
  closing_pass : ∀ frame ∈ closing, frame.Passes ∨ frame.hasTag .backendKeyData = true
  one_key : closing.countP (·.hasTag .backendKeyData) ≤ 1
  ready_idle : ready.readyStatus = some .idle
  closing_nonempty : ∀ read ∈ closingReads, read ≠ []

/-- The frames of rounds. -/
def roundsFrames (rounds : List AuthRound) : List BackendFrame :=
  rounds.flatMap fun round => round.others ++ [round.request]

/-- The frames the backend sends in an exchange. -/
def AuthExchange.frames (x : AuthExchange) : List BackendFrame :=
  roundsFrames x.rounds ++ x.closing ++ [x.ready]

/-- The bytes sent to the backend. -/
def sentToBackend (wire : List StartupWire) : List Byte :=
  wire.flatMap fun
    | .toBackend bytes => bytes
    | _ => []

/-- The frames sent to the client. -/
def sentToClient (wire : List StartupWire) : List BackendFrame :=
  wire.filterMap fun
    | .toClient frame => some frame
    | _ => none

/-! ### The run of an exchange -/

/-- One turn of the relay. -/
abbrev relayTurn (req : StartupRequest) :
    Reading StartupProgress → StartupRead → Reading StartupProgress ⊕ Option (List StartupWire) :=
  startupTurn (some req.maxBackendBufferBytes) (startupFrame req)

/-- The client's answer is on its way. -/
def Reading.withAnswer (s : Reading StartupProgress) (round : AuthRound) :
    Reading StartupProgress :=
  { s with acc := { s.acc with clientReads := s.acc.clientReads ++ round.clientReads.map some } }

/-- The relay against the two sides of an exchange: the transcript, if the startup completes. The
frames behind a request come only when the backend has got the whole answer. -/
def relayFrom (req : StartupRequest) (x : AuthExchange) :
    Reading StartupProgress → List AuthRound → Option (List StartupWire)
  | s, [] =>
    match foldUntil (relayTurn req) s (x.closingReads.map some) with
    | .inr (result, _) => result
    | .inl _ => none
  | s, round :: rounds =>
    match foldUntil (relayTurn req) (s.withAnswer round) (round.backendReads.map some) with
    | .inl s' =>
      if sentToBackend s'.acc.wire = sentToBackend s.acc.wire ++ round.answer then
        relayFrom req x s' rounds
      else none
    | .inr _ => none

/-- `proxy_startup_streams` on an exchange. -/
def relayExchange (req : StartupRequest) (x : AuthExchange) : Option (List StartupWire) :=
  if req.maxBackendBufferBytes = 0 then none
  else relayFrom req x ⟨{ clientReads := [] }, []⟩ x.rounds

/-- The frame the client gets: the backend's key is replaced. -/
def StartupRequest.replaceKey (req : StartupRequest) (frame : BackendFrame) : BackendFrame :=
  if frame.hasTag .backendKeyData then req.keyData else frame

/-- The exchange has been relayed: to the backend exactly the client's answers, to the client the
backend's frames in order with one BackendKeyData, made of the client's key, in the place of the
backend's or before the ReadyForQuery. -/
structure StartupRelayed (req : StartupRequest) (x : AuthExchange) (wire : List StartupWire) :
    Prop where
  answers : sentToBackend wire = x.rounds.flatMap AuthRound.answer
  frames : (sentToClient wire).filter (!·.hasTag .backendKeyData) =
    x.frames.filter (!·.hasTag .backendKeyData)
  replaced : x.closing.any (·.hasTag .backendKeyData) = true →
    sentToClient wire = x.frames.map req.replaceKey
  key : (sentToClient wire).filter (·.hasTag .backendKeyData) = [req.keyData]
  key_first : ∃ before, sentToClient wire = before ++ [x.ready] ∧ req.keyData ∈ before ∧
    ∀ frame ∈ before, frame.readyStatus = none

/-! ### The relay on the frames of an exchange -/

/-- The transcript of a frame that goes to the client, its key replaced. -/
def relayedFrame (req : StartupRequest) (frame : BackendFrame) : List StartupWire :=
  [.fromBackend frame, .toClient (req.replaceKey frame)]

/-- The transcript of a round. -/
def roundWire (req : StartupRequest) (round : AuthRound) (answer : List Byte) : List StartupWire :=
  (round.others ++ [round.request]).flatMap (relayedFrame req) ++
    [.fromClient answer, .toBackend answer]

/-- The transcript of the end of an exchange. -/
def closingWire (req : StartupRequest) (x : AuthExchange) : List StartupWire :=
  x.closing.flatMap (relayedFrame req) ++
    .fromBackend x.ready ::
      ((if x.closing.any (·.hasTag .backendKeyData) then [] else [.toClient req.keyData]) ++
        [.toClient x.ready])

section Relay

variable {req : StartupRequest} {p : StartupProgress} {frame : BackendFrame}

theorem BackendFrame.Passes.hasTag_backendKeyData (h : frame.Passes) :
    frame.hasTag .backendKeyData = false := by
  unfold Passes at h
  split at h
  · rename_i hauth
    exact hasTag_eq_false hauth .backendKeyData (by decide)
  · exact h.1

theorem BackendFrame.Passes.readyStatus (h : frame.Passes) : frame.readyStatus = none := by
  unfold Passes at h
  split at h
  · rename_i hauth
    exact readyStatus_eq_none_of_hasTag hauth (by decide)
  · exact h.2

/-- The ReadyForQuery of an exchange has no other tag. -/
theorem AuthExchange.ready_hasTag (x : AuthExchange) (tag : BackendTag)
    (hne : tag.byte ≠ BackendTag.readyForQuery.byte) : x.ready.hasTag tag = false := by
  by_contra hnot
  have hnone := readyStatus_eq_none_of_hasTag (Bool.of_not_eq_false hnot) hne
  exact absurd (hnone.symm.trans x.ready_idle) nofun

/-- A frame that passes goes to the client. -/
theorem startupFrame_of_passes (hcred : req.credentials = none)
    (hforward : req.forwardAuthRequests = true) (hpass : frame.Passes) :
    startupFrame req p frame = .inl { p with wire := p.wire ++ relayedFrame req frame } := by
  have hkey := hpass.hasTag_backendKeyData
  have hready := hpass.readyStatus
  have hwire : relayedFrame req frame = [.fromBackend frame, .toClient frame] := by
    rw [relayedFrame, replaceKey, hkey]
    rfl
  rw [hwire]
  refine startupFrame_next ?_
  unfold Passes at hpass
  split at hpass
  · rename_i hauth
    obtain ⟨code, hcode, hexpects⟩ := hpass
    by_cases hzero : code = 0
    · rw [handleStartupFrame_ok hauth (hzero ▸ hcode) hcred, hforward]
      rfl
    · rw [handleStartupFrame_request hauth hcode hcred hzero hforward]
      unfold forwardAuthRequest
      rw [hexpects]
      rfl
  · rename_i hother
    rw [handleStartupFrame, if_neg hother, handleOtherFrame, hkey, hready]
    simp

/-- The backend's key is replaced. -/
theorem startupFrame_of_key (hkey : frame.hasTag .backendKeyData = true) :
    startupFrame req p frame =
      .inl { p with
        state := { p.state with sentBackendKeyData := true }
        wire := p.wire ++ relayedFrame req frame } := by
  have hauth := hasTag_eq_false hkey .authentication (by decide)
  refine startupFrame_next ?_
  rw [handleStartupFrame, hauth, handleOtherFrame, relayedFrame, replaceKey, hkey]
  rfl

/-- **Frames that pass or are the backend's key.** -/
theorem foldUntil_startupFrame_of_pass (hcred : req.credentials = none)
    (hforward : req.forwardAuthRequests = true) {frames : List BackendFrame}
    (hpass : ∀ frame ∈ frames, frame.Passes ∨ frame.hasTag .backendKeyData = true) :
    foldUntil (startupFrame req) p frames =
      .inl { p with
        state := { p.state with sentBackendKeyData :=
          p.state.sentBackendKeyData || frames.any (·.hasTag .backendKeyData) }
        wire := p.wire ++ frames.flatMap (relayedFrame req) } := by
  induction frames generalizing p with
  | nil => simp [foldUntil]
  | cons frame frames ih =>
    obtain ⟨hframe, hframes⟩ := forall_mem_cons.1 hpass
    rw [foldUntil]
    rcases hframe with hpasses | hkey
    · rw [startupFrame_of_passes hcred hforward hpasses]
      dsimp only
      rw [ih hframes]
      simp [hpasses.hasTag_backendKeyData]
    · rw [startupFrame_of_key hkey]
      dsimp only
      rw [ih hframes]
      simp [hkey]

theorem BackendFrame.exists_code_of_awaitsClient (h : frame.awaitsClient = true) :
    frame.hasTag .authentication = true ∧ ∃ code, authRequestCode frame.payload = some code ∧
      authRequestExpectsClientResponse code = true := by
  obtain ⟨hauth, hany⟩ := Bool.and_eq_true_iff.1 h
  cases hcode : authRequestCode frame.payload with
  | none =>
    rw [hcode] at hany
    cases hany
  | some code =>
    rw [hcode] at hany
    exact ⟨hauth, code, rfl, hany⟩

variable {answer : List Byte} {reads : List StartupRead} {rounds : List AuthRound}

/-- A request of a round is answered with the next read, if that is within the limit. -/
theorem startupFrame_of_request (hcred : req.credentials = none)
    (hforward : req.forwardAuthRequests = true) (hawaits : frame.awaitsClient = true)
    (hreads : p.clientReads = some answer :: reads) (hne : answer ≠ []) :
    startupFrame req p frame =
      if answer.length ≤ req.maxClientBufferBytes then
        .inl { p with
          clientReads := reads
          wire := p.wire ++ (relayedFrame req frame ++ [.fromClient answer, .toBackend answer]) }
      else .inr none := by
  obtain ⟨hauth, code, hcode, hexpects⟩ := exists_code_of_awaitsClient hawaits
  have hzero : code ≠ 0 := by
    rintro rfl
    cases hexpects
  have hhandle : handleStartupFrame req p.state p.clientReads frame = _ :=
    handleStartupFrame_request hauth hcode hcred hzero hforward
  split
  · rename_i hle
    rw [hreads, forwardAuthRequest_of_answer hexpects hne hle, ← hreads] at hhandle
    rw [startupFrame_next hhandle, relayedFrame, replaceKey,
      hasTag_eq_false hauth .backendKeyData (by decide)]
    rfl
  · rename_i hlong
    refine startupFrame_fail ?_
    rw [hhandle]
    have hnone : ¬ ClientAnswers req p.clientReads 0 := by
      rintro ⟨bytes, hget, -, hle⟩
      rw [hreads] at hget
      obtain rfl := Option.some.inj (Option.some.inj hget)
      exact hlong hle
    exact forwardAuthRequest_of_no_answer hexpects hnone

/-- **The frames of a round.** -/
theorem foldUntil_startupFrame_round (hcred : req.credentials = none)
    (hforward : req.forwardAuthRequests = true) (round : AuthRound)
    (hreads : p.clientReads = some answer :: reads) (hne : answer ≠ []) :
    foldUntil (startupFrame req) p (round.others ++ [round.request]) =
      if answer.length ≤ req.maxClientBufferBytes then
        .inl { p with clientReads := reads, wire := p.wire ++ roundWire req round answer }
      else .inr (none, []) := by
  have hnokey : round.others.any (·.hasTag .backendKeyData) = false := by
    rw [any_eq_false]
    intro frame hframe
    rw [(round.others_pass frame hframe).hasTag_backendKeyData]
    decide
  rw [foldUntil_append, foldUntil_startupFrame_of_pass hcred hforward
    fun frame hframe => .inl (round.others_pass frame hframe), hnokey, Bool.or_false]
  dsimp only
  have hrequest := startupFrame_of_request
    (p := { p with wire := p.wire ++ round.others.flatMap (relayedFrame req) }) hcred hforward
    round.request_awaits hreads hne
  rw [foldUntil, hrequest]
  by_cases hle : answer.length ≤ req.maxClientBufferBytes
  · rw [if_pos hle, if_pos hle, roundWire, flatMap_append, flatMap_singleton]
    simp only [foldUntil, append_assoc]
  · rw [if_neg hle, if_neg hle]

/-- **The end of an exchange.** -/
theorem foldUntil_startupFrame_closing (hcred : req.credentials = none)
    (hforward : req.forwardAuthRequests = true) (x : AuthExchange)
    (hsent : p.state.sentBackendKeyData = false) :
    foldUntil (startupFrame req) p (x.closing ++ [x.ready]) =
      .inr (some (p.wire ++ closingWire req x), []) := by
  rw [foldUntil_append, foldUntil_startupFrame_of_pass hcred hforward x.closing_pass, hsent,
    Bool.false_or]
  dsimp only
  rw [foldUntil, closingWire, startupFrame, handleStartupFrame,
    x.ready_hasTag .authentication (by decide), handleOtherFrame,
    x.ready_hasTag .backendKeyData (by decide), x.ready_idle]
  cases x.closing.any (·.hasTag .backendKeyData) <;> simp

theorem sentToBackend_append (wire more : List StartupWire) :
    sentToBackend (wire ++ more) = sentToBackend wire ++ sentToBackend more :=
  flatMap_append

theorem sentToBackend_relayedFrame (req : StartupRequest) (frames : List BackendFrame) :
    sentToBackend (frames.flatMap (relayedFrame req)) = [] := by
  induction frames with
  | nil => rfl
  | cons frame frames ih =>
    rw [flatMap_cons, sentToBackend_append, ih]
    rfl

theorem sentToBackend_roundWire (round : AuthRound) (answer : List Byte) :
    sentToBackend (roundWire req round answer) = answer := by
  rw [roundWire, sentToBackend_append, sentToBackend_relayedFrame]
  exact append_nil answer

/-! ### Whole exchanges -/

variable {x : AuthExchange} {wire : List StartupWire}

/-- The round is relayed as a whole: the answer comes in one read within the client limit, and the
frames keep within the backend limit. -/
def AuthRound.InOneRead (req : StartupRequest) (round : AuthRound) (answer : List Byte) : Prop :=
  round.clientReads = [answer] ∧ answer.length ≤ req.maxClientBufferBytes ∧
    Within (some req.maxBackendBufferBytes) [] round.backendReads

/-- **One round of an exchange.** -/
theorem relayFrom_cons_iff (hcred : req.credentials = none)
    (hforward : req.forwardAuthRequests = true) (hreads : p.clientReads = []) {round : AuthRound} :
    relayFrom req x ⟨p, []⟩ (round :: rounds) = some wire ↔
      ∃ answer, round.InOneRead req answer ∧
        relayFrom req x ⟨{ p with wire := p.wire ++ roundWire req round answer }, []⟩ rounds =
          some wire := by
  obtain ⟨answer, more, hclient⟩ := exists_cons_of_ne_nil round.answered
  have hnonempty := round.client_nonempty
  rw [hclient] at hnonempty
  obtain ⟨hne, hmore⟩ := forall_mem_cons.1 hnonempty
  have hstart : (Reading.mk p []).withAnswer round =
      ⟨{ p with clientReads := some answer :: more.map some }, []⟩ := by
    rw [Reading.withAnswer, hclient]
    rw [hreads]
    rfl
  have hround := foldUntil_startupFrame_round
    (p := { p with clientReads := some answer :: more.map some }) hcred hforward round rfl hne
  -- the reads of the round are gone through with the first read of the answer, or not at all
  have hloop : ∀ s', foldUntil (relayTurn req)
      ⟨{ p with clientReads := some answer :: more.map some }, []⟩ (round.backendReads.map some) =
        .inl s' ↔
      answer.length ≤ req.maxClientBufferBytes ∧
        Within (some req.maxBackendBufferBytes) [] round.backendReads ∧
        s' = ⟨{ p with
          clientReads := more.map some, wire := p.wire ++ roundWire req round answer }, []⟩ := by
    intro s'
    rw [foldUntil_startupTurn_iff, foldUntil_readTurn_iff rfl]
    constructor
    · rintro ⟨hwithin, frames, hparse, hframes⟩
      obtain ⟨rfl, hrest⟩ := Prod.mk.inj (Except.ok.inj (round.parses.symm.trans hparse))
      rw [hround] at hframes
      split at hframes
      · rename_i hle
        refine ⟨hle, hwithin, ?_⟩
        obtain ⟨acc, buffer⟩ := s'
        obtain rfl : [] = buffer := hrest
        rw [Sum.inl.inj hframes]
      · cases hframes
    · rintro ⟨hle, hwithin, rfl⟩
      refine ⟨hwithin, _, round.parses, ?_⟩
      rw [hround, if_pos hle]
  have hanswer : round.answer = answer ++ more.flatten := by
    rw [AuthRound.answer, hclient, flatten_cons]
  have hsent : sentToBackend (p.wire ++ roundWire req round answer) =
      sentToBackend p.wire ++ answer := by
    rw [sentToBackend_append, sentToBackend_roundWire]
  rw [relayFrom, hstart]
  constructor
  · intro h
    split at h
    · rename_i s' hfold
      obtain ⟨hle, hwithin, rfl⟩ := (hloop s').1 hfold
      split at h
      · rename_i hgot
        have hall := hsent.symm.trans hgot
        rw [hanswer, append_cancel_left_eq, self_eq_append_right] at hall
        obtain rfl : more = [] := eq_nil_iff_forall_not_mem.2 fun read hread =>
          hmore read hread (flatten_eq_nil_iff.1 hall read hread)
        refine ⟨answer, ⟨hclient, hle, hwithin⟩, ?_⟩
        rw [hreads]
        exact h
      · cases h
    · cases h
  · rintro ⟨answer', ⟨hone, hle, hwithin⟩, hrest⟩
    rw [hclient] at hone
    obtain ⟨rfl, rfl⟩ := cons.inj hone
    rw [(hloop _).2 ⟨hle, hwithin, rfl⟩]
    dsimp only
    rw [if_pos (by rw [hsent, hanswer, flatten_nil, append_nil])]
    rw [hreads] at hrest
    exact hrest

/-- **The end of an exchange.** -/
theorem relayFrom_nil_iff (hcred : req.credentials = none)
    (hforward : req.forwardAuthRequests = true) (hpos : 0 < req.maxBackendBufferBytes)
    (hsent : p.state.sentBackendKeyData = false) :
    relayFrom req x ⟨p, []⟩ [] = some wire ↔
      Within (some req.maxBackendBufferBytes) [] x.closingReads ∧
        p.wire ++ closingWire req x = wire := by
  have hroom : atLimit (some req.maxBackendBufferBytes) [] = false :=
    decide_eq_false (Nat.not_le.2 hpos)
  have hdone : (∃ unread, foldUntil (readTurn (some req.maxBackendBufferBytes) (startupFrame req))
      ⟨p, []⟩ x.closingReads = .inr (.done (some wire), unread)) ↔ _ :=
    foldUntil_readTurn_done_iff x.closing_nonempty hroom rfl x.parses
      (foldUntil_startupFrame_closing hcred hforward x hsent)
  rw [Option.some.injEq] at hdone
  rw [← hdone, relayFrom, foldUntil_startupTurn]
  cases foldUntil (readTurn (some req.maxBackendBufferBytes) (startupFrame req)) ⟨p, []⟩
      x.closingReads with
  | inl s => simp
  | inr stopped =>
    obtain ⟨e, unread⟩ := stopped
    refine ⟨fun h => ⟨unread, ?_⟩, fun h => ?_⟩
    · obtain rfl := ReadEnd.result_eq_some (e := e) h
      rfl
    · obtain ⟨_, h⟩ := h
      obtain ⟨rfl, -⟩ := Prod.mk.inj (Sum.inr.inj h)
      rfl

/-- The transcript of the rounds, each answered in one read. -/
def roundsWire (req : StartupRequest) (rounds : List AuthRound) : List StartupWire :=
  rounds.flatMap fun round => roundWire req round round.answer

theorem roundsWire_cons (req : StartupRequest) (round : AuthRound) (rounds : List AuthRound) :
    roundsWire req (round :: rounds) = roundWire req round round.answer ++ roundsWire req rounds :=
  flatMap_cons

/-- **A whole exchange.** -/
theorem relayFrom_iff (hcred : req.credentials = none) (hforward : req.forwardAuthRequests = true)
    (hpos : 0 < req.maxBackendBufferBytes) (hsent : p.state.sentBackendKeyData = false)
    (hreads : p.clientReads = []) :
    relayFrom req x ⟨p, []⟩ rounds = some wire ↔
      (∀ round ∈ rounds, ∃ answer, round.InOneRead req answer) ∧
        Within (some req.maxBackendBufferBytes) [] x.closingReads ∧
        p.wire ++ roundsWire req rounds ++ closingWire req x = wire := by
  induction rounds generalizing p with
  | nil =>
    rw [relayFrom_nil_iff hcred hforward hpos hsent, roundsWire, flatMap_nil, append_nil]
    exact ⟨fun h => ⟨nofun, h⟩, And.right⟩
  | cons round rounds ih =>
    have hanswer : ∀ answer, round.InOneRead req answer → round.answer = answer := by
      rintro answer ⟨hone, -⟩
      rw [AuthRound.answer, hone, flatten_singleton]
    have hwires : ∀ answer, round.InOneRead req answer →
        roundsWire req (round :: rounds) = roundWire req round answer ++ roundsWire req rounds := by
      intro answer hround
      rw [roundsWire_cons, hanswer answer hround]
    have hrest := fun answer =>
      ih (p := { p with wire := p.wire ++ roundWire req round answer }) hsent hreads
    rw [relayFrom_cons_iff hcred hforward hreads, forall_mem_cons]
    constructor
    · rintro ⟨answer, hround, hlater⟩
      obtain ⟨hrounds, hwithin, hwire⟩ := (hrest answer).1 hlater
      refine ⟨⟨⟨answer, hround⟩, hrounds⟩, hwithin, ?_⟩
      rw [← hwire, hwires answer hround]
      simp only [append_assoc]
    · rintro ⟨⟨⟨answer, hround⟩, hrounds⟩, hwithin, hwire⟩
      refine ⟨answer, hround, (hrest answer).2 ⟨hrounds, hwithin, ?_⟩⟩
      rw [← hwire, hwires answer hround]
      simp only [append_assoc]

/-! ### What the client gets -/

theorem sentToClient_append (wire more : List StartupWire) :
    sentToClient (wire ++ more) = sentToClient wire ++ sentToClient more :=
  filterMap_append

theorem sentToClient_relayedFrame (req : StartupRequest) (frames : List BackendFrame) :
    sentToClient (frames.flatMap (relayedFrame req)) = frames.map req.replaceKey := by
  induction frames with
  | nil => rfl
  | cons frame frames ih =>
    rw [flatMap_cons, sentToClient_append, ih]
    rfl

theorem sentToClient_roundsWire (req : StartupRequest) (rounds : List AuthRound) :
    sentToClient (roundsWire req rounds) = (roundsFrames rounds).map req.replaceKey := by
  induction rounds with
  | nil => rfl
  | cons round rounds ih =>
    have hframes : roundsFrames (round :: rounds) =
        round.others ++ [round.request] ++ roundsFrames rounds := flatMap_cons
    have hnone : sentToClient [.fromClient round.answer, .toBackend round.answer] = [] := rfl
    rw [roundsWire_cons, sentToClient_append, ih, roundWire, sentToClient_append,
      sentToClient_relayedFrame, hframes, hnone, append_nil, ← map_append]

theorem sentToBackend_roundsWire (req : StartupRequest) (rounds : List AuthRound) :
    sentToBackend (roundsWire req rounds) = rounds.flatMap AuthRound.answer := by
  induction rounds with
  | nil => rfl
  | cons round rounds ih =>
    rw [roundsWire_cons, sentToBackend_append, ih, sentToBackend_roundWire, flatMap_cons]

theorem replaceKey_of_false (h : frame.hasTag .backendKeyData = false) :
    req.replaceKey frame = frame := by
  rw [replaceKey, h]
  rfl

theorem keyData_hasTag (req : StartupRequest) : req.keyData.hasTag .backendKeyData = true :=
  beq_self_eq_true _

/-- Replacing the keys changes none of the other frames. -/
theorem filter_not_key_map_replaceKey (req : StartupRequest) (frames : List BackendFrame) :
    (frames.map req.replaceKey).filter (!·.hasTag .backendKeyData) =
      frames.filter (!·.hasTag .backendKeyData) := by
  induction frames with
  | nil => rfl
  | cons frame frames ih =>
    cases hkey : frame.hasTag .backendKeyData with
    | true => simp [replaceKey, hkey, keyData_hasTag, ih]
    | false => simp [replaceKey, hkey, ih]

/-- The keys the client gets in place of the backend's. -/
theorem filter_key_map_replaceKey (req : StartupRequest) (frames : List BackendFrame) :
    (frames.map req.replaceKey).filter (·.hasTag .backendKeyData) =
      replicate (frames.countP (·.hasTag .backendKeyData)) req.keyData := by
  induction frames with
  | nil => rfl
  | cons frame frames ih =>
    cases hkey : frame.hasTag .backendKeyData with
    | true => simp [replaceKey, hkey, keyData_hasTag, ih, replicate_succ]
    | false => simp [replaceKey, hkey, ih]

theorem roundsFrames_not_key (rounds : List AuthRound) :
    ∀ frame ∈ roundsFrames rounds,
      frame.hasTag .backendKeyData = false ∧ frame.readyStatus = none := by
  intro frame hframe
  obtain ⟨round, -, hmem⟩ := mem_flatMap.1 hframe
  rcases mem_append.1 hmem with hother | hrequest
  · have hpass := round.others_pass frame hother
    exact ⟨hpass.hasTag_backendKeyData, hpass.readyStatus⟩
  · obtain rfl := mem_singleton.1 hrequest
    obtain ⟨hauth, -⟩ := exists_code_of_awaitsClient round.request_awaits
    exact ⟨hasTag_eq_false hauth _ (by decide),
      readyStatus_eq_none_of_hasTag hauth (by decide)⟩

/-- The key that is made up for a backend that has sent none. -/
def AuthExchange.injectedKey (req : StartupRequest) (x : AuthExchange) : List BackendFrame :=
  if x.closing.any (·.hasTag .backendKeyData) then [] else [req.keyData]

/-- **What the client gets.** -/
theorem sentToClient_exchange (req : StartupRequest) (x : AuthExchange) :
    sentToClient (roundsWire req x.rounds ++ closingWire req x) =
      (roundsFrames x.rounds ++ x.closing).map req.replaceKey ++ x.injectedKey req ++
        [x.ready] := by
  have hend : sentToClient (closingWire req x) =
      x.closing.map req.replaceKey ++ x.injectedKey req ++ [x.ready] := by
    rw [closingWire, sentToClient_append, sentToClient_relayedFrame, AuthExchange.injectedKey,
      append_assoc]
    split <;> rfl
  rw [sentToClient_append, sentToClient_roundsWire, hend, map_append]
  simp only [append_assoc]

theorem sentToBackend_exchange (req : StartupRequest) (x : AuthExchange) :
    sentToBackend (roundsWire req x.rounds ++ closingWire req x) =
      x.rounds.flatMap AuthRound.answer := by
  have hend : sentToBackend (closingWire req x) = [] := by
    rw [closingWire, sentToBackend_append, sentToBackend_relayedFrame]
    split <;> rfl
  rw [sentToBackend_append, sentToBackend_roundsWire, hend, append_nil]

theorem injectedKey_of_any (h : x.closing.any (·.hasTag .backendKeyData) = true) :
    x.injectedKey req = [] :=
  if_pos h

theorem injectedKey_of_not_any (h : x.closing.any (·.hasTag .backendKeyData) = false) :
    x.injectedKey req = [req.keyData] := by
  rw [AuthExchange.injectedKey, h]
  rfl

/-- The number of keys of the backend. -/
theorem countP_key_exchange (x : AuthExchange) :
    (roundsFrames x.rounds ++ x.closing).countP (·.hasTag .backendKeyData) =
      if x.closing.any (·.hasTag .backendKeyData) then 1 else 0 := by
  have hrounds : (roundsFrames x.rounds).countP (·.hasTag .backendKeyData) = 0 := by
    refine countP_eq_zero.2 fun frame hframe => ?_
    rw [(roundsFrames_not_key x.rounds frame hframe).1]
    decide
  have hone := x.one_key
  rw [countP_append, hrounds, Nat.zero_add]
  split
  · rename_i hany
    have hpos : 0 < x.closing.countP (·.hasTag .backendKeyData) :=
      countP_pos_iff.2 (any_eq_true.1 hany)
    omega
  · rename_i hnone
    refine countP_eq_zero.2 fun frame hframe hkey => hnone ?_
    exact any_eq_true.2 ⟨frame, hframe, hkey⟩

/-- No frame before the ReadyForQuery is one. -/
theorem readyStatus_replaceKey {f : BackendFrame} (hf : f ∈ roundsFrames x.rounds ++ x.closing) :
    (req.replaceKey f).readyStatus = none := by
  cases hkey : f.hasTag .backendKeyData with
  | true =>
    rw [replaceKey, hkey]
    exact readyStatus_eq_none_of_hasTag (keyData_hasTag req) (by decide)
  | false =>
    rw [replaceKey_of_false hkey]
    rcases mem_append.1 hf with hround | hclosing
    · exact (roundsFrames_not_key x.rounds f hround).2
    · rcases x.closing_pass f hclosing with hpass | hkey'
      · exact hpass.readyStatus
      · exact absurd (hkey.symm.trans hkey') nofun

/-- The transcript of an exchange that is gone through is as it should be. -/
theorem relayed_exchange (req : StartupRequest) (x : AuthExchange) :
    StartupRelayed req x (roundsWire req x.rounds ++ closingWire req x) := by
  have hready := x.ready_hasTag .backendKeyData (by decide)
  have hkey := keyData_hasTag req
  refine ⟨sentToBackend_exchange req x, ?_, fun hany => ?_, ?_, ?_⟩
  · rw [sentToClient_exchange, AuthExchange.frames, filter_append, filter_append,
      filter_not_key_map_replaceKey, filter_append (roundsFrames x.rounds ++ x.closing)]
    congr 1
    cases hany : x.closing.any (·.hasTag .backendKeyData) with
    | true => rw [injectedKey_of_any hany, filter_nil, append_nil]
    | false => simp [injectedKey_of_not_any hany, hkey]
  · have hsame : [x.ready].map req.replaceKey = [x.ready] :=
      congrArg (fun frame => [frame]) (replaceKey_of_false hready)
    rw [sentToClient_exchange, AuthExchange.frames, injectedKey_of_any hany, append_nil,
      map_append, map_append, map_append, hsame]
  · rw [sentToClient_exchange, filter_append, filter_append, filter_key_map_replaceKey,
      countP_key_exchange]
    cases hany : x.closing.any (·.hasTag .backendKeyData) with
    | true => simp [injectedKey_of_any hany, hready]
    | false => simp [injectedKey_of_not_any hany, hready, hkey]
  · refine ⟨_, sentToClient_exchange req x, ?_, fun frame hframe => ?_⟩
    · cases hany : x.closing.any (·.hasTag .backendKeyData) with
      | true =>
        obtain ⟨frame, hframe, htag⟩ := any_eq_true.1 hany
        refine mem_append_left _ (mem_map.2 ⟨frame, mem_append_right _ hframe, ?_⟩)
        rw [replaceKey, if_pos htag]
      | false =>
        rw [injectedKey_of_not_any hany]
        exact mem_append_right _ (mem_singleton_self _)
    · rcases mem_append.1 hframe with hmap | hinjected
      · obtain ⟨f, hf, rfl⟩ := mem_map.1 hmap
        exact readyStatus_replaceKey hf
      · cases hany : x.closing.any (·.hasTag .backendKeyData) with
        | true =>
          rw [injectedKey_of_any hany] at hinjected
          cases hinjected
        | false =>
          rw [injectedKey_of_not_any hany] at hinjected
          obtain rfl := mem_singleton.1 hinjected
          exact readyStatus_eq_none_of_hasTag hkey (by decide)

end Relay

/-- The run of an exchange, once there is room for a read. -/
theorem relayExchange_iff {req : StartupRequest} (hcred : req.credentials = none)
    (hforward : req.forwardAuthRequests = true) (hpos : 0 < req.maxBackendBufferBytes)
    {x : AuthExchange} {wire : List StartupWire} :
    relayExchange req x = some wire ↔
      (∀ round ∈ x.rounds, ∃ answer, round.InOneRead req answer) ∧
        Within (some req.maxBackendBufferBytes) [] x.closingReads ∧
        roundsWire req x.rounds ++ closingWire req x = wire := by
  rw [relayExchange, if_neg (Nat.ne_of_gt hpos)]
  exact relayFrom_iff hcred hforward hpos rfl rfl

/-- **When an exchange is relayed.** In pass-through mode, whatever the exchange and however the
bytes of the two sides are divided into reads: the client's answers reach the backend whole and in
order, and the client gets the backend's frames with its own key, exactly if every answer comes in
one read within the client limit and the reads of the backend are within theirs. -/
theorem startup_relayed_iff {req : StartupRequest} (hcred : req.credentials = none)
    (hforward : req.forwardAuthRequests = true) (x : AuthExchange) :
    (∃ wire, relayExchange req x = some wire ∧ StartupRelayed req x wire) ↔
      0 < req.maxBackendBufferBytes ∧
        (∀ round ∈ x.rounds, ∃ answer, round.InOneRead req answer) ∧
        Within (some req.maxBackendBufferBytes) [] x.closingReads := by
  constructor
  · rintro ⟨wire, hwire, -⟩
    have hpos : 0 < req.maxBackendBufferBytes := by
      refine Nat.pos_of_ne_zero fun hzero => ?_
      rw [relayExchange, if_pos hzero] at hwire
      cases hwire
    obtain ⟨hrounds, hclosing, -⟩ := (relayExchange_iff hcred hforward hpos).1 hwire
    exact ⟨hpos, hrounds, hclosing⟩
  · rintro ⟨hpos, hrounds, hclosing⟩
    refine ⟨_, ?_, relayed_exchange req x⟩
    exact (relayExchange_iff hcred hforward hpos).2 ⟨hrounds, hclosing, rfl⟩

/-- A request for a cleartext password. -/
def passwordRequest : List Byte := [82, 0, 0, 0, 8, 0, 0, 0, 3]

theorem passwordRequest_parses :
    parseBackendFrames [passwordRequest].flatten = .ok ([] ++ [⟨82, [0, 0, 0, 3]⟩], []) := by
  decide +kernel

/-- AuthenticationOk, BackendKeyData and ReadyForQuery. -/
def authenticated : List Byte :=
  [82, 0, 0, 0, 8, 0, 0, 0, 0] ++ [75, 0, 0, 0, 12, 0, 0, 0, 9, 0, 0, 0, 9] ++ readyForQuery .idle

/-- A round in which the client sends the password `x` in the reads given. -/
def passwordRound (reads : List (List Byte)) (answered : reads ≠ [])
    (nonempty : ∀ read ∈ reads, read ≠ []) : AuthRound where
  others := []
  request := ⟨82, [0, 0, 0, 3]⟩
  backendReads := [passwordRequest]
  clientReads := reads
  parses := passwordRequest_parses
  others_pass := nofun
  request_awaits := by decide
  answered := answered
  client_nonempty := nonempty

/-- An exchange with that round. -/
def passwordExchange (round : AuthRound) : AuthExchange where
  rounds := [round]
  closing := [⟨82, [0, 0, 0, 0]⟩, ⟨75, [0, 0, 0, 9, 0, 0, 0, 9]⟩]
  ready := ⟨90, [73]⟩
  closingReads := [authenticated]
  parses := by decide +kernel
  closing_pass := forall_mem_cons.2
    ⟨.inl ⟨0, by decide, by decide⟩, forall_mem_singleton.2 (.inr (by decide))⟩
  one_key := by decide
  ready_idle := readyStatus_idle
  closing_nonempty := forall_mem_singleton.2 (by decide)

/-- The password in one read. -/
def wholePassword : AuthRound := passwordRound [[112, 0, 0, 0, 6, 120, 0]] (by decide) (by decide)

/-- The password in two reads. -/
def splitPassword : AuthRound := passwordRound [[112, 0, 0], [0, 6, 120, 0]] (by decide) (by decide)

theorem startup_relayed_password :
    ∃ wire, relayExchange passThroughRequest (passwordExchange wholePassword) = some wire ∧
      StartupRelayed passThroughRequest (passwordExchange wholePassword) wire := by
  have hround : ∃ answer, wholePassword.InOneRead passThroughRequest answer :=
    ⟨_, rfl, by decide, within_singleton _ wholePassword.parses (by decide) (by decide)⟩
  have hclosing : Within (some passThroughRequest.maxBackendBufferBytes) []
      (passwordExchange wholePassword).closingReads :=
    within_singleton _ (passwordExchange wholePassword).parses (by decide +kernel) (by decide)
  exact (startup_relayed_iff rfl rfl (passwordExchange wholePassword)).2
    ⟨by decide, forall_mem_singleton.2 hround, hclosing⟩

/-- **An answer in two reads.** The first three bytes of the password go to the backend, the rest
stays with the client's connection, and the startup does not complete. -/
theorem password_relayed_in_part :
    splitPassword.answer = wholePassword.answer ∧
    (∃ s, foldUntil (relayTurn passThroughRequest)
        ((Reading.mk { clientReads := [] } []).withAnswer splitPassword)
        [some passwordRequest] = .inl s ∧
      sentToBackend s.acc.wire = [112, 0, 0] ∧ s.acc.clientReads = [some [0, 6, 120, 0]]) ∧
    relayExchange passThroughRequest (passwordExchange splitPassword) = none := by
  refine ⟨by decide, ⟨_, rfl, by decide +kernel, by decide +kernel⟩, ?_⟩
  decide +kernel

end PgKinetic
