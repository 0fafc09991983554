import PgKinetic.Security.BackendAuth
import PgKinetic.Security.ClientScram

/-!
# The two halves of SCRAM against each other

A `BackendAuthSession` talks to `authenticate_scram`, over a connection that delivers the session's
messages in reads of any size. The two sides build the text they sign from different parses and
derive keys with different implementations of PBKDF2.

* `Setting.succeeds_iff`: a run succeeds exactly if the session's proof holds and the signature of
  the server is the one the session expects.
* So it succeeds if both sides have the same password, and, unless hashes collide, exactly if
  `verify_password` accepts the password of the session.

All this is for messages that fit: `read_authentication_frame` refuses a message that is longer than
the buffer of a client, and the user name is part of one.
-/

namespace PgKinetic

open Fallible Scram List Option

namespace ClientAuth

/-! ### The run -/

/-- The payload of an authentication message; a failure is an ErrorResponse. -/
def ServerMessage.payload : ServerMessage → Option (List Byte)
  | .saslRequest => some ([0, 0, 0, 10] ++ utf8 scramMechanism ++ [0, 0])
  | .saslContinue text => some ([0, 0, 0, 11] ++ utf8 text)
  | .saslFinal text => some ([0, 0, 0, 12] ++ utf8 text)
  | .ok => some [0, 0, 0, 0]
  | .failure _ => none

/-- The request that a session gets of a message. -/
def ServerMessage.receive (message : ServerMessage) : Except Text (List Byte) := do
  let payload ← orError "backend refused authentication" message.payload
  match parseBackendFrame (buildAuthMessage payload) with
  | .ok (some (frame, _)) => pure frame.payload
  | _ => .error "backend authentication message is no frame"

/-- Who talks to whom: the session with its password and its nonce, and the server with the password
that its verifier was derived from. -/
structure Setting where
  username : Text
  password : Text
  stored : Text
  salt : List Byte
  iterations : Nat
  clientNonce : Text
  serverNonce : Text
  backendIsTls : Bool
  positive : 0 < iterations
  inRange : iterations < 2 ^ 32
  clientPlain : ',' ∉ clientNonce
  serverPlain : ',' ∉ serverNonce

namespace Setting

variable (P : Primitives) (link : Link) (x : Setting)

/-- The verifier of the stored password. -/
def verifier : ScramVerifier where
  iterations := x.iterations
  salt := x.salt
  storedKey := deriveScramStoredKey P (utf8 x.stored) x.salt x.iterations
  serverKey := P.serverKey (P.pbkdf2HmacSha256 (utf8 x.stored) x.salt x.iterations)
  positive := x.positive
  inRange := x.inRange

/-- The session before it has answered anything. -/
def session : BackendAuthSession := .withNonce x.username x.password x.clientNonce

/-- The session answers a message of the server. -/
def answer (s : BackendAuthSession) (message : ServerMessage) :
    Except Text (BackendAuthSession × Option (List Byte)) := do
  let request ← message.receive
  s.respond P request x.backendIsTls

/-- The session hears a message that it does not answer. -/
def listen (s : BackendAuthSession) (message : ServerMessage) : Except Text BackendAuthSession := do
  let (s, _) ← x.answer P s message
  pure s

/-- **A run.** Each side goes on when it has the other's message; what the server sends between the
two messages of the session is what the first half of `authenticate_scram` has made of the first. -/
def run : Except Text (BackendAuthSession × ClientAuthOutcome) := do
  let (s, initial) ← x.answer P x.session .saslRequest
  let initial ← orError "no client-first" initial
  let (frame, _) ← readAuthenticationFrame link.maxClientBufferBytes [] (link.division initial)
  let first ← readClientFirst x.username frame
  let (s, final) ←
    x.answer P s (.saslContinue (serverFirstText P (x.verifier P) first.nonce x.serverNonce))
  let final ← orError "no client-final" final
  let (outcome, sent) ← authenticateScram P link.maxClientBufferBytes x.username
    (.ok (some (.scramSha256 (x.verifier P)))) x.serverNonce
    (link.division initial ++ link.division final)
  let s ← (sent.drop 2).foldlM (x.listen P) s
  pure (s, outcome)

/-- Both sides are content: the server has authenticated the session, and the session has answered
all its messages and waits for no signature any more. -/
def Succeeds : Prop :=
  ∃ s, x.run P link = .ok (s, .authenticated) ∧ s.expectedServerSignature = none

/-- The client that the session is. -/
def client : Client where
  password := x.password
  name := x.username
  nonce := x.clientNonce
  bindingSupported := false
  firstExtensions := []
  finalExtensions := []
  plain := x.clientPlain
  firstKeys := firstKeys_nil
  finalKeys := finalKeys_nil

/-- The text that both sides sign. -/
def authMessage : Text := x.client.authMessage P (x.verifier P) x.serverNonce []

/-- The text of server-final. -/
def serverFinalText : Text :=
  "v=" ++ P.base64Encode (scramServerSignature P (x.verifier P) (x.authMessage P)).toList

/-- **The messages fit**: their lengths into an `i32`, and those of the session into the buffer of a
client. -/
structure Fits : Prop where
  frames : x.client.Fits P (x.verifier P) x.serverNonce
  buffered : x.client.Buffered P (x.verifier P) x.serverNonce link
  serverFirst : (utf8 (serverFirstText P (x.verifier P) x.clientNonce x.serverNonce)).length + 8 <
    2 ^ 31
  serverFinal : (utf8 (x.serverFinalText P)).length + 8 < 2 ^ 31

variable {P link x}

/-! ### The messages of the session -/

/-- A message that fits is received. -/
theorem receive_eq {message : ServerMessage} {payload : List Byte}
    (hpayload : message.payload = some payload) (h : payload.length + 4 < 2 ^ 31) :
    message.receive = .ok payload := by
  refine bind_eq_ok_iff.2 ⟨payload, orError_eq_ok_iff.2 hpayload, ?_⟩
  rw [buildAuthMessage, parseBackendFrame_message h]
  rfl

/-- The session after its first answer. -/
def offered (x : Setting) : BackendAuthSession :=
  { x.session with clientFirstBare := some x.session.clientFirst }

theorem clientFirst_session : x.session.clientFirst = x.client.firstBare := by
  simp [BackendAuthSession.clientFirst, session, BackendAuthSession.withNonce, client,
    Client.firstBare, extensionsText]

/-- Its first answer is client-first. -/
theorem answer_saslRequest :
    x.answer P x.session .saslRequest =
      .ok (x.offered, some (passwordMessage x.client.initial.payload)) := by
  have hrequest : ServerMessage.receive .saslRequest =
      .ok ([0, 0, 0, 10] ++ utf8 scramMechanism ++ [0, 0]) :=
    receive_eq rfl (by decide +kernel)
  have hinitial : x.session.scramInitialResponse ([0, 0, 0, 10] ++ utf8 scramMechanism ++ [0, 0]) =
      .ok (x.offered, passwordMessage x.client.initial.payload) := by
    have hmechanisms : decodeUtf8 (([0, 0, 0, 10] ++ utf8 scramMechanism ++ [0, 0]).drop 4) =
        some (scramMechanism ++ ['\x00', '\x00']) := by decide +kernel
    refine bind_eq_ok_iff.2 ⟨_, orError_eq_ok_iff.2 hmechanisms, ?_⟩
    refine bind_eq_ok_iff.2 ⟨(), ensure_eq_ok_iff.2 (by decide +kernel), ?_⟩
    rw [clientFirst_session, offered, clientFirst_session]
    rfl
  refine bind_eq_ok_iff.2 ⟨_, hrequest, BackendAuthSession.respond_initial ?_ hinitial⟩
  decide +kernel

/-- Server-first is the list of its attributes. -/
theorem splitOn_serverFirstText (hP : P.IsBase64) :
    (serverFirstText P (x.verifier P) x.clientNonce x.serverNonce).splitOn ',' =
      [attr 'r' (x.clientNonce ++ x.serverNonce), attr 's' (P.base64Encode x.salt),
        attr 'i' (Nat.repr x.iterations).toList] := by
  have hnonce : ',' ∉ attr 'r' (x.clientNonce ++ x.serverNonce) := by
    refine comma_not_mem_attr (by decide) ?_
    rw [mem_append, not_or]
    exact ⟨x.clientPlain, x.serverPlain⟩
  have hpieces : ∀ piece ∈ [attr 's' (P.base64Encode x.salt),
      attr 'i' (Nat.repr x.iterations).toList], ',' ∉ piece := by
    intro piece hpiece
    rcases mem_pair.1 hpiece with rfl | rfl
    · exact comma_not_mem_attr (by decide) (hP.comma_not_mem _)
    · refine comma_not_mem_attr (by decide) fun hmem => ?_
      exact absurd (Text.isDigit_of_mem_repr hmem) (by decide)
  have htext : serverFirstText P (x.verifier P) x.clientNonce x.serverNonce =
      "r=" ++ x.clientNonce ++ x.serverNonce ++ ",s=" ++ P.base64Encode x.salt ++ ",i=" ++
        (Nat.repr x.iterations).toList := rfl
  rw [htext, ← Text.splitOn_flatMap hnonce hpieces]
  simp [attr]

/-- What the session makes of server-first. -/
def parsedFirst (x : Setting) (P : Primitives) : BackendAuthSession.ServerFirst where
  text := serverFirstText P (x.verifier P) x.clientNonce x.serverNonce
  nonce := x.clientNonce ++ x.serverNonce
  salt := x.salt
  iterations := x.iterations

theorem serverFirst_eq (hP : P.IsBase64) :
    x.offered.serverFirst P ([0, 0, 0, 11] ++
      utf8 (serverFirstText P (x.verifier P) x.clientNonce x.serverNonce)) =
      .ok (x.parsedFirst P) := by
  have hsplit := splitOn_serverFirstText (x := x) hP
  refine bind_eq_ok_iff.2 ⟨_, orError_eq_ok_iff.2 (decodeUtf8_utf8 _), ?_⟩
  refine bind_eq_ok_iff.2 ⟨x.clientNonce ++ x.serverNonce, ?_, ?_⟩
  · rw [scramAttribute, hsplit]
    simp [stripLeading_attr, orError]
  refine bind_eq_ok_iff.2 ⟨(), ensure_eq_ok_iff.2 ?_, ?_⟩
  · exact isPrefixOf_iff_prefix.2 (prefix_append _ _)
  refine bind_eq_ok_iff.2 ⟨P.base64Encode x.salt, ?_, ?_⟩
  · rw [scramAttribute, hsplit]
    simp [stripLeading_attr, orError]
  refine bind_eq_ok_iff.2 ⟨x.salt, orError_eq_ok_iff.2 (hP.decode_encode _), ?_⟩
  refine bind_eq_ok_iff.2 ⟨(Nat.repr x.iterations).toList, ?_, ?_⟩
  · rw [scramAttribute, hsplit]
    simp [stripLeading_attr, orError]
  refine bind_eq_ok_iff.2 ⟨_, orError_eq_ok_iff.2 (Text.parseUnsigned_repr x.inRange), ?_⟩
  exact bind_eq_ok_iff.2 ⟨(), ensure_eq_ok_iff.2 (decide_eq_true x.positive), rfl⟩

/-- The salted password of the session. -/
def salted (x : Setting) (P : Primitives) : Digest := P.pbkdf2 (utf8 x.password) x.salt x.iterations

/-- Client-final without its proof is the same text on both sides. -/
theorem finalWithoutProof_parsedFirst (hP : P.IsBase64) :
    (x.parsedFirst P).finalWithoutProof = x.client.withoutProof P x.serverNonce [] := by
  have hheader : P.base64Encode (utf8 x.client.header) = "biws" := Client.encode_header hP rfl
  rw [Client.withoutProof, hheader]
  exact (append_nil _).symm

/-- **Both sides sign the same text.** -/
theorem authMessage_parsedFirst (hP : P.IsBase64) :
    (x.parsedFirst P).authMessage x.session.clientFirst = x.authMessage P := by
  rw [BackendAuthSession.ServerFirst.authMessage, clientFirst_session,
    finalWithoutProof_parsedFirst hP]
  rfl

/-- The signature that the session expects after its second answer. -/
def expected (x : Setting) (P : Primitives) : Digest :=
  P.hmacSha256 (P.serverKey (x.salted P)).toList (utf8 (x.authMessage P))

/-- The session after its second answer. -/
def continued (x : Setting) (P : Primitives) : BackendAuthSession :=
  { x.offered with expectedServerSignature := some (x.expected P) }

/-- Its second answer is client-final. -/
theorem answer_saslContinue (hP : P.IsBase64) (hfits : x.Fits P link) :
    x.answer P x.offered
      (.saslContinue (serverFirstText P (x.verifier P) x.clientNonce x.serverNonce)) =
      .ok (x.continued P,
        some (passwordMessage (x.client.final P (x.verifier P) x.serverNonce).payload)) := by
  have hmessage := authMessage_parsedFirst (x := x) hP
  refine bind_eq_ok_iff.2 ⟨_, receive_eq rfl ?_, BackendAuthSession.respond_continued
    (congrArg some (by decide)) ?_⟩
  · have hlength := hfits.serverFirst
    rw [length_append, length_cons, length_cons, length_cons, length_singleton]
    omega
  refine bind_eq_ok_iff.2 ⟨_, serverFirst_eq hP, ?_⟩
  refine bind_eq_ok_iff.2 ⟨x.session.clientFirst, rfl, ?_⟩
  have hproof : (x.parsedFirst P).clientProof P x.password x.session.clientFirst =
      x.client.proof P (x.verifier P) x.serverNonce := by
    rw [BackendAuthSession.ServerFirst.clientProof, hmessage]
    rfl
  have hsignature : (x.parsedFirst P).serverSignature P x.password x.session.clientFirst =
      x.expected P := by
    rw [BackendAuthSession.ServerFirst.serverSignature, hmessage]
    rfl
  refine congrArg Except.ok (Prod.ext ?_ ?_)
  · exact congrArg
      (fun signature => { x.offered with expectedServerSignature := some signature }) hsignature
  · change passwordMessage (utf8 ((x.parsedFirst P).finalWithoutProof ++ ",p=" ++ P.base64Encode
      ((x.parsedFirst P).clientProof P x.password x.session.clientFirst).toList)) = _
    rw [hproof, finalWithoutProof_parsedFirst hP]
    rfl

theorem scramAttribute_serverFinal (hP : P.IsBase64) (signature : Digest) :
    scramAttribute ("v=" ++ P.base64Encode signature.toList) 'v' =
      .ok (P.base64Encode signature.toList) := by
  have hplain : ',' ∉ attr 'v' (P.base64Encode signature.toList) :=
    comma_not_mem_attr (by decide) (hP.comma_not_mem _)
  have hsplit : (attr 'v' (P.base64Encode signature.toList)).splitOn ',' =
      [attr 'v' (P.base64Encode signature.toList)] := splitOn_eq_singleton hplain
  change orError _ (((attr 'v' (P.base64Encode signature.toList)).splitOn ',').findSome? _) = _
  rw [hsplit]
  simp [stripLeading_attr, orError]

/-- What the session makes of server-final: it takes the signature that it expects. -/
theorem listen_saslFinal_iff (hP : P.IsBase64) (hfits : x.Fits P link) {s : BackendAuthSession} :
    x.listen P (x.continued P) (.saslFinal (x.serverFinalText P)) = .ok s ↔
      scramServerSignature P (x.verifier P) (x.authMessage P) = x.expected P ∧
        s = { x.continued P with expectedServerSignature := none } := by
  have hreceive : ServerMessage.receive (.saslFinal (x.serverFinalText P)) =
      .ok ([0, 0, 0, 12] ++ utf8 (x.serverFinalText P)) := by
    refine receive_eq rfl ?_
    have hlength := hfits.serverFinal
    rw [length_append, length_cons, length_cons, length_cons, length_singleton]
    omega
  have hcode : authRequestCode ([0, 0, 0, 12] ++ utf8 (x.serverFinalText P)) = some 12 :=
    congrArg some (by decide)
  have htext : decodeUtf8 (([0, 0, 0, 12] ++ utf8 (x.serverFinalText P)).drop 4) =
      some (x.serverFinalText P) := decodeUtf8_utf8 _
  have hv := scramAttribute_serverFinal hP
    (scramServerSignature P (x.verifier P) (x.authMessage P))
  constructor
  · intro h
    obtain ⟨⟨s', _⟩, hanswer, h⟩ := bind_eq_ok_iff.1 h
    obtain rfl := Except.ok.inj h
    obtain ⟨request, hrequest, hrespond⟩ := bind_eq_ok_iff.1 hanswer
    obtain rfl := Except.ok.inj (hreceive.symm.trans hrequest)
    cases BackendAuthSession.answered_of_respond hrespond with
    | plain hcode' hplain => exact absurd (some.inj (hcode'.symm.trans hcode)) hplain.2.2
    | initial hcode' | continued hcode' =>
      exact absurd (some.inj (hcode'.symm.trans hcode)) (by decide)
    | final _ hexpected htext' hv' hsignature =>
      obtain rfl := some.inj (htext'.symm.trans htext)
      obtain rfl := Except.ok.inj (hv'.symm.trans hv)
      obtain rfl := some.inj hexpected
      rw [hP.decode_encode] at hsignature
      exact ⟨Vector.toList_inj.1 (some.inj hsignature), rfl⟩
  · rintro ⟨hsignature, rfl⟩
    refine bind_eq_ok_iff.2 ⟨_, bind_eq_ok_iff.2 ⟨_, hreceive,
      BackendAuthSession.respond_final hcode ?_⟩, rfl⟩
    refine bind_eq_ok_iff.2 ⟨_, orError_eq_ok_iff.2 htext, ?_⟩
    refine bind_eq_ok_iff.2 ⟨(), ensure_eq_ok_iff.2 rfl, ?_⟩
    refine bind_eq_ok_iff.2 ⟨x.expected P, rfl, bind_eq_ok_iff.2 ⟨_, hv, ?_⟩⟩
    refine bind_eq_ok_iff.2 ⟨_, orError_eq_ok_iff.2 (hP.decode_encode _), ?_⟩
    rw [hsignature]
    exact bind_eq_ok_iff.2 ⟨(), ensure_eq_ok_iff.2 (beq_self_eq_true _), rfl⟩

/-- AuthenticationOk changes nothing. -/
theorem listen_ok (s : BackendAuthSession) : x.listen P s .ok = .ok s := by
  have hrequest : ServerMessage.receive .ok = .ok [0, 0, 0, 0] := receive_eq rfl (by decide)
  have hcode : authRequestCode [0, 0, 0, 0] = some 0 := congrArg some (by decide)
  have hrespond : s.respond P [0, 0, 0, 0] x.backendIsTls = .ok (s, none) :=
    bind_eq_ok_iff.2 ⟨0, orError_eq_ok_iff.2 hcode, rfl⟩
  exact bind_eq_ok_iff.2 ⟨_, bind_eq_ok_iff.2 ⟨_, hrequest, hrespond⟩, rfl⟩

/-! ### Runs -/

/-- What the server reads of the session's first message, on its own and with what follows. -/
theorem read_initial (hfits : x.Fits P link) :
    readAuthenticationFrame link.maxClientBufferBytes []
      (link.division (passwordMessage x.client.initial.payload)) = .ok (x.client.initial, []) := by
  have hread := @Link.read_iff link _ hfits.frames.initial [] (x.client.initial, [])
  rw [append_nil] at hread
  exact hread.2 ⟨hfits.buffered.initial, rfl⟩

theorem readClientFirst_eq (hfits : x.Fits P link) :
    readClientFirst x.username x.client.initial =
      .ok ⟨x.client.firstBare, x.username, x.clientNonce⟩ :=
  (Client.readClientFirst_iff hfits.frames.initial).2 ⟨rfl, rfl, rfl⟩

/-- A run in which the messages fit goes as far as the session's two messages, and what is left is
up to the server. -/
theorem run_eq_ok_iff (hP : P.IsBase64) (hfits : x.Fits P link) {s : BackendAuthSession}
    {outcome : ClientAuthOutcome} :
    x.run P link = .ok (s, outcome) ↔
      ∃ sent, authenticateScram P link.maxClientBufferBytes x.username
          (.ok (some (.scramSha256 (x.verifier P)))) x.serverNonce
          (x.client.reads P (x.verifier P) x.serverNonce link) = .ok (outcome, sent) ∧
        (sent.drop 2).foldlM (x.listen P) (x.continued P) = .ok s := by
  have hinitial := read_initial hfits
  have hfirst := readClientFirst_eq hfits
  constructor
  · intro h
    obtain ⟨⟨s₁, m₁⟩, h₁, h⟩ := bind_eq_ok_iff.1 h
    obtain ⟨rfl, rfl⟩ := Prod.mk.inj (Except.ok.inj (answer_saslRequest.symm.trans h₁))
    obtain ⟨m₁, hm₁, h⟩ := bind_eq_ok_iff.1 h
    obtain rfl := some.inj (orError_eq_ok_iff.1 hm₁)
    obtain ⟨⟨frame, _⟩, hframe, h⟩ := bind_eq_ok_iff.1 h
    obtain ⟨rfl, -⟩ := Prod.mk.inj (Except.ok.inj (hinitial.symm.trans hframe))
    obtain ⟨first, hfirst', h⟩ := bind_eq_ok_iff.1 h
    obtain rfl := Except.ok.inj (hfirst.symm.trans hfirst')
    obtain ⟨⟨s₂, m₂⟩, h₂, h⟩ := bind_eq_ok_iff.1 h
    obtain ⟨rfl, rfl⟩ := Prod.mk.inj (Except.ok.inj ((answer_saslContinue hP hfits).symm.trans h₂))
    obtain ⟨m₂, hm₂, h⟩ := bind_eq_ok_iff.1 h
    obtain rfl := some.inj (orError_eq_ok_iff.1 hm₂)
    obtain ⟨⟨outcome', sent⟩, hauth, h⟩ := bind_eq_ok_iff.1 h
    obtain ⟨s₃, hlisten, h⟩ := bind_eq_ok_iff.1 h
    cases h
    exact ⟨sent, hauth, hlisten⟩
  · rintro ⟨sent, hauth, hlisten⟩
    refine bind_eq_ok_iff.2 ⟨_, answer_saslRequest, ?_⟩
    refine bind_eq_ok_iff.2 ⟨_, orError_eq_ok_iff.2 rfl, ?_⟩
    refine bind_eq_ok_iff.2 ⟨_, hinitial, bind_eq_ok_iff.2 ⟨_, hfirst, ?_⟩⟩
    refine bind_eq_ok_iff.2 ⟨_, answer_saslContinue hP hfits, ?_⟩
    refine bind_eq_ok_iff.2 ⟨_, orError_eq_ok_iff.2 rfl, ?_⟩
    refine bind_eq_ok_iff.2 ⟨_, hauth, ?_⟩
    exact bind_eq_ok_iff.2 ⟨_, hlisten, rfl⟩

/-- **When a run succeeds**: the proof of the session holds, and the server's signature is the one
that the session expects. -/
theorem succeeds_iff (hP : P.IsBase64) (hfits : x.Fits P link) :
    x.Succeeds P link ↔
      ProofHolds P (x.verifier P) (x.authMessage P)
        (P.base64Encode (x.client.proof P (x.verifier P) x.serverNonce).toList) ∧
      scramServerSignature P (x.verifier P) (x.authMessage P) = x.expected P := by
  have hfirst := readClientFirst_eq hfits
  obtain ⟨hinitial, hfinal⟩ :=
    (Client.reads_iff hfits.frames).2 ⟨hfits.buffered, rfl, rfl, rfl, rfl⟩
  have hx : readClientFinal P (x.verifier P) ⟨x.client.firstBare, x.client.name, x.client.nonce⟩
      x.serverNonce (x.client.final P (x.verifier P) x.serverNonce) =
        .ok (x.client.exchange P (x.verifier P) x.serverNonce) :=
    Client.readClientFinal_eq hP x.serverPlain rfl
  have hmessage : (x.client.exchange P (x.verifier P) x.serverNonce).authMessage =
      x.authMessage P := Client.authMessage_exchange hP rfl
  constructor
  · rintro ⟨s, h, -⟩
    obtain ⟨sent, hauth, hlisten⟩ := (run_eq_ok_iff hP hfits).1 h
    obtain ⟨initial, later, first, final, rest, y, hinitial', hfirst', hfinal', hy, hproof⟩ :=
      authenticated_iff.1 ⟨sent, hauth⟩
    obtain ⟨-, rfl, rfl, rfl, rfl⟩ := (Client.reads_iff hfits.frames).1 ⟨hinitial', hfinal'⟩
    obtain rfl := Except.ok.inj (hfirst.symm.trans hfirst')
    obtain rfl := Except.ok.inj (hx.symm.trans hy)
    have hsent := authenticateScram_of_holds hinitial hfirst hfinal hx hproof
    obtain ⟨-, rfl⟩ := Prod.mk.inj (Except.ok.inj (hauth.symm.trans hsent))
    rw [hmessage] at hproof hlisten
    rw [drop_succ_cons, drop_succ_cons, drop_zero, foldlM_cons] at hlisten
    obtain ⟨s₁, hserver, -⟩ := bind_eq_ok_iff.1 hlisten
    exact ⟨hproof, ((listen_saslFinal_iff hP hfits).1 hserver).1⟩
  · rintro ⟨hproof, hsignature⟩
    have hauth := authenticateScram_of_holds hinitial hfirst hfinal hx (hmessage ▸ hproof)
    rw [hmessage] at hauth
    have hlisten := (listen_saslFinal_iff hP hfits).2 ⟨hsignature, rfl⟩
    refine ⟨{ x.continued P with expectedServerSignature := none },
      (run_eq_ok_iff hP hfits).2 ⟨_, hauth, ?_⟩, rfl⟩
    rw [drop_succ_cons, drop_succ_cons, drop_zero, foldlM_cons]
    refine bind_eq_ok_iff.2 ⟨_, hlisten, ?_⟩
    exact bind_eq_ok_iff.2 ⟨_, listen_ok _, foldlM_nil⟩

/-- The salted password that the verifier was derived from. -/
def storedSalted (x : Setting) (P : Primitives) : Digest :=
  P.pbkdf2 (utf8 x.stored) x.salt x.iterations

/-- **No hash collisions** between what the two sides of the run hash. -/
structure NoCollisions (x : Setting) (P : Primitives) : Prop where
  sha256 : P.sha256 (P.clientKey (x.salted P)).toList =
    P.sha256 (P.clientKey (x.storedSalted P)).toList →
    P.clientKey (x.salted P) = P.clientKey (x.storedSalted P)
  clientKey : P.clientKey (x.salted P) = P.clientKey (x.storedSalted P) →
    x.salted P = x.storedSalted P
  serverKey : P.serverKey (x.salted P) = P.serverKey (x.storedSalted P) →
    x.salted P = x.storedSalted P
  signature : P.hmacSha256 (P.serverKey (x.storedSalted P)).toList (utf8 (x.authMessage P)) =
    P.hmacSha256 (P.serverKey (x.salted P)).toList (utf8 (x.authMessage P)) →
    P.serverKey (x.salted P) = P.serverKey (x.storedSalted P)

section

variable (hK : P.IsPbkdf2)
include hK

theorem storedKey_verifier :
    (x.verifier P).storedKey = P.sha256 (P.clientKey (x.storedSalted P)).toList := by
  rw [verifier, deriveScramStoredKey, hK.loop_eq _ _ x.positive]
  rfl

theorem serverKey_verifier : (x.verifier P).serverKey = P.serverKey (x.storedSalted P) := by
  rw [verifier, hK.loop_eq _ _ x.positive]
  rfl

theorem verifyPassword_iff :
    (x.verifier P).verifyPassword P (utf8 x.password) = true ↔
      P.sha256 (P.clientKey (x.salted P)).toList =
        P.sha256 (P.clientKey (x.storedSalted P)).toList := by
  rw [ScramVerifier.verifyPassword, beq_iff_eq, storedKey_verifier hK, deriveScramStoredKey,
    hK.loop_eq _ _ (x.verifier P).positive]
  rfl

/-- Two sides with the same salted password succeed. -/
theorem succeeds_of_salted (hP : P.IsBase64) (hfits : x.Fits P link)
    (h : x.salted P = x.storedSalted P) : x.Succeeds P link := by
  have hknows : x.client.Knows P (x.verifier P) := by
    rw [Client.Knows, storedKey_verifier hK, ← h]
    rfl
  refine (succeeds_iff hP hfits).2 ⟨Client.proofHolds hP hknows x.serverNonce, ?_⟩
  rw [scramServerSignature, serverKey_verifier hK, ← h]
  rfl

/-- Without collisions only those succeed. -/
theorem salted_of_succeeds (hP : P.IsBase64) (hfits : x.Fits P link) (hno : x.NoCollisions P)
    (h : x.Succeeds P link) : x.salted P = x.storedSalted P := by
  obtain ⟨-, hsignature⟩ := (succeeds_iff hP hfits).1 h
  rw [scramServerSignature, serverKey_verifier hK] at hsignature
  exact hno.serverKey (hno.signature hsignature)

end

/-- **A message that is longer than the buffer ends the run.** -/
theorem not_succeeds_of_long (hlength : x.client.initial.payload.length + 4 < 2 ^ 31)
    (hlong : link.maxClientBufferBytes < x.client.initial.payload.length + 5) :
    ¬x.Succeeds P link := by
  rintro ⟨s, h, -⟩
  obtain ⟨⟨s₁, m₁⟩, h₁, h⟩ := bind_eq_ok_iff.1 h
  obtain ⟨rfl, rfl⟩ := Prod.mk.inj (Except.ok.inj (answer_saslRequest.symm.trans h₁))
  obtain ⟨m₁, hm₁, h⟩ := bind_eq_ok_iff.1 h
  obtain rfl := some.inj (orError_eq_ok_iff.1 hm₁)
  obtain ⟨f₁, hf₁, -⟩ := bind_eq_ok_iff.1 h
  have hread := @Link.read_iff link _ hlength [] f₁
  rw [append_nil, length_passwordMessage] at hread
  exact absurd (hread.1 hf₁).1 (Nat.not_le_of_lt hlong)

end Setting

/-- **The two halves of SCRAM agree.** Escaped names are read back, the two implementations of
PBKDF2 are the same, and a run whose messages fit succeeds on both sides if they have the same
password; without collisions it succeeds exactly if `verify_password` accepts the session's. -/
theorem scram_halves_agree {P : Primitives} (hP : P.IsBase64) (hK : P.IsPbkdf2) :
    (∀ value, scramUnescape (scramEscape value) = .ok value) ∧
    (∀ password salt iterations, 0 < iterations →
      P.pbkdf2HmacSha256 password salt iterations = P.pbkdf2 password salt iterations) ∧
    ∀ (link : Link) (x : Setting), x.Fits P link →
      (x.password = x.stored → x.Succeeds P link) ∧
      (x.NoCollisions P →
        ((x.verifier P).verifyPassword P (utf8 x.password) = true ↔ x.Succeeds P link)) := by
  refine ⟨scramUnescape_escape, fun password salt _ h => hK.loop_eq password salt h,
    fun link x hfits => ⟨fun hsame => ?_, fun hno => ?_⟩⟩
  · refine Setting.succeeds_of_salted hK hP hfits ?_
    rw [Setting.salted, Setting.storedSalted, hsame]
  · rw [Setting.verifyPassword_iff hK]
    constructor
    · intro hkey
      exact Setting.succeeds_of_salted hK hP hfits (hno.clientKey (hno.sha256 hkey))
    · intro hrun
      rw [Setting.salted_of_succeeds hK hP hfits hno hrun]

/-- A setting with the same password on both sides. -/
def sampleSetting (username : Text) : Setting where
  username := username
  password := "p"
  stored := "p"
  salt := utf8 "salt"
  iterations := 2
  clientNonce := "n"
  serverNonce := "s"
  backendIsTls := false
  positive := by decide
  inRange := by decide
  clientPlain := plain_sampleNonce
  serverPlain := by decide

theorem scram_halves_sampleSetting :
    (sampleSetting "a,b=c").Succeeds .standard (bytewise defaultMaxClientBufferBytes) ∧
      ((sampleSetting "a,b=c").verifier .standard).verifyPassword .standard (utf8 "p") = true := by
  have hinitial : (sampleSetting "a,b=c").client.initial.payload.length = 36 := by decide +kernel
  have hfinal : ((sampleSetting "a,b=c").client.final .standard
      ((sampleSetting "a,b=c").verifier .standard) "s").payload.length = 58 := by decide +kernel
  have hfits : (sampleSetting "a,b=c").Fits .standard (bytewise defaultMaxClientBufferBytes) := by
    refine ⟨⟨?_, ?_⟩, ⟨?_, ?_⟩, by decide +kernel, by decide +kernel⟩
    · rw [hinitial]
      decide
    · exact lt_of_eq_of_lt (congrArg (· + 4) hfinal) (by decide)
    · rw [length_passwordMessage, hinitial]
      decide
    · rw [length_passwordMessage]
      exact le_of_eq_of_le (congrArg (· + 5) hfinal) (by decide)
  have hagree := (scram_halves_agree Primitives.isBase64_standard
    Primitives.isPbkdf2_standard).2.2 (bytewise defaultMaxClientBufferBytes) _ hfits
  have hno : (sampleSetting "a,b=c").NoCollisions .standard :=
    ⟨fun _ => rfl, fun _ => rfl, fun _ => rfl, fun _ => rfl⟩
  exact ⟨hagree.1 rfl, (hagree.2 hno).2 (hagree.1 rfl)⟩

theorem length_utf8_replicate (n : Nat) : (utf8 (replicate n ',')).length = n := by
  induction n with
  | zero => rfl
  | succ n ih =>
    rw [replicate_succ, utf8, flatMap_cons, length_append]
    change 1 + (utf8 (replicate n ',')).length = n + 1
    rw [ih, Nat.add_comm]

/-- A comma is escaped by three characters. -/
theorem length_utf8_scramEscape_replicate (n : Nat) :
    (utf8 (scramEscape (replicate n ','))).length = 3 * n := by
  induction n with
  | zero => rfl
  | succ n ih =>
    rw [replicate_succ, scramEscape_cons, utf8, flatMap_append, length_append]
    change 3 + (utf8 (scramEscape (replicate n ','))).length = 3 * (n + 1)
    rw [ih]
    omega

theorem length_initial_replicate (n : Nat) :
    (sampleSetting (replicate n ',')).client.initial.payload.length = 3 * n + 27 := by
  have hutf8 : ∀ t u : Text, utf8 (t ++ u) = utf8 t ++ utf8 u := fun _ _ => flatMap_append
  have hbare : (sampleSetting (replicate n ',')).client.firstBare =
      "n=" ++ scramEscape (replicate n ',') ++ ",r=" ++ "n" ++ "" := rfl
  rw [Client.initial, hbare]
  simp only [initialPayload, hutf8, length_append, length_utf8_scramEscape_replicate, i32ToBytes]
  have hheader : (utf8 (sampleSetting (replicate n ',')).client.header).length = 3 := rfl
  have hconst : (utf8 scramMechanism).length = 13 ∧ (utf8 "n=").length = 2 ∧
      (utf8 ",r=").length = 3 ∧ (utf8 "n").length = 1 ∧ (utf8 "").length = 0 := by decide +kernel
  simp only [hconst, length_cons, length_nil]
  omega

/-- **A user name that is too long.** Both sides have the same password, and the startup packet with
the name (and 15 bytes beside it) is within the limit; but commas are escaped in client-first, which
does not fit into the buffer. -/
theorem scram_halves_longName :
    (sampleSetting (replicate 400000 ',')).password =
        (sampleSetting (replicate 400000 ',')).stored ∧
      (utf8 (replicate 400000 ',')).length + 15 ≤ defaultMaxClientBufferBytes ∧
      ¬(sampleSetting (replicate 400000 ',')).Succeeds .standard
        (bytewise defaultMaxClientBufferBytes) := by
  have hlength := length_initial_replicate 400000
  refine ⟨rfl, ?_, Setting.not_succeeds_of_long ?_ ?_⟩
  · rw [length_utf8_replicate]
    decide
  · rw [hlength]
    decide
  · rw [hlength]
    decide

end ClientAuth

end PgKinetic
