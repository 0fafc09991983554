import PgKinetic.Proxy.StartupReads
import PgKinetic.Security.Scram

/-!
# Authentication to a backend

A `BackendAuthSession` answers the authentication requests of a backend with the proxy's own
credentials. It is a state machine that the backend drives: every message carries a code, and what
the session remembers between two of them is the client-first text it has sent and the signature it
expects.

A backend proves that it knows the password by that signature, so AuthenticationOk should be taken
only when it has been verified, and so should a startup that goes on to ReadyForQuery without one.
The session takes AuthenticationOk at any time, and the loops that drive it look at ReadyForQuery
alone.
-/

namespace PgKinetic

open Fallible Framing Scram Option

/-- `BackendAuthSession`, with the fields of `BackendCredentials` it reads. -/
structure BackendAuthSession where
  username : Text
  password : Text
  clientNonce : Text
  clientFirstBare : Option Text := none
  expectedServerSignature : Option Digest := none
  deriving DecidableEq, Repr

namespace BackendAuthSession

variable (P : Primitives)

/-- `BackendAuthSession::with_nonce`. -/
def withNonce (username password clientNonce : Text) : BackendAuthSession :=
  { username, password, clientNonce }

section

variable (s : BackendAuthSession)

/-- `md5_response`. -/
def md5Response (request : List Byte) : Except Text (List Byte) := do
  ensure (request.length == 8) "MD5 authentication request has invalid length"
  let salt := request.drop 4
  let first := hexLower (P.md5 (utf8 (s.password ++ s.username))).toList
  let second := P.md5 (utf8 first ++ salt)
  pure (passwordMessage (utf8 ("md5" ++ hexLower second.toList) ++ [0]))

/-- The text of the client-first message without its header. -/
def clientFirst : Text := "n=" ++ scramEscape s.username ++ ",r=" ++ s.clientNonce

/-- `scram_initial_response`. -/
def scramInitialResponse (request : List Byte) :
    Except Text (BackendAuthSession × List Byte) := do
  let mechanisms ←
    orError "parse SCRAM authentication mechanisms" (decodeUtf8 (request.drop 4))
  ensure ((mechanisms.splitOn '\x00').any (· == scramMechanism))
    "backend does not support SCRAM-SHA-256"
  let clientFirst : Text := "n,," ++ s.clientFirst
  let payload := utf8 scramMechanism ++ [0] ++ i32ToBytes (utf8 clientFirst).length ++
    utf8 clientFirst
  pure ({ s with clientFirstBare := some s.clientFirst }, passwordMessage payload)

/-- What the session takes from a server-first message. -/
structure ServerFirst where
  text : Text
  nonce : Text
  salt : List Byte
  iterations : Nat

/-- The checks of `scram_final_response`. -/
def serverFirst (request : List Byte) : Except Text ServerFirst := do
  let text ← orError "parse SCRAM server-first message" (decodeUtf8 (request.drop 4))
  let nonce ← scramAttribute text 'r'
  ensure (nonce.startsWith s.clientNonce) "SCRAM server nonce does not extend the client nonce"
  let salt ← scramAttribute text 's'
  let salt ← orError "decode SCRAM salt" (P.base64Decode salt)
  let iterations ← scramAttribute text 'i'
  let iterations ← orError "parse SCRAM iteration count" (iterations.parseUnsigned 32)
  ensure (0 < iterations) "SCRAM iteration count must be positive"
  pure ⟨text, nonce, salt, iterations⟩

namespace ServerFirst

variable (first : ServerFirst)

/-- The client-final message without its proof. -/
def finalWithoutProof : Text := "c=biws,r=" ++ first.nonce

/-- The text that both sides sign. -/
def authMessage (clientFirstBare : Text) : Text :=
  clientFirstBare ++ "," ++ first.text ++ "," ++ first.finalWithoutProof

/-- The salted password of the exchange. -/
def saltedPassword (password : Text) : Digest :=
  P.pbkdf2 (utf8 password) first.salt first.iterations

/-- The signature of a server that knows the password. -/
def serverSignature (password clientFirstBare : Text) : Digest :=
  P.hmacSha256 (P.serverKey (first.saltedPassword P password)).toList
    (utf8 (first.authMessage clientFirstBare))

/-- The proof of a client that knows the password. -/
def clientProof (password clientFirstBare : Text) : Digest :=
  let clientKey := P.clientKey (first.saltedPassword P password)
  let storedKey := P.sha256 clientKey.toList
  xor clientKey (P.hmacSha256 storedKey.toList (utf8 (first.authMessage clientFirstBare)))

end ServerFirst

/-- `scram_final_response`. -/
def scramFinalResponse (request : List Byte) :
    Except Text (BackendAuthSession × List Byte) := do
  let first ← s.serverFirst P request
  let clientFirstBare ←
    orError "received SCRAM server-first before client-first" s.clientFirstBare
  let clientFinal : Text := first.finalWithoutProof ++ ",p=" ++
    P.base64Encode (first.clientProof P s.password clientFirstBare).toList
  let signature := first.serverSignature P s.password clientFirstBare
  pure ({ s with expectedServerSignature := some signature }, passwordMessage (utf8 clientFinal))

/-- `verify_scram_server_final`. -/
def verifyScramServerFinal (request : List Byte) : Except Text BackendAuthSession := do
  let text ← orError "parse SCRAM server-final message" (decodeUtf8 (request.drop 4))
  ensure (!text.startsWith "e=") ("backend rejected SCRAM authentication: " ++ text)
  let expected ←
    orError "received SCRAM server-final before client-final" s.expectedServerSignature
  let actual ← scramAttribute text 'v'
  let actual ← orError "decode SCRAM server signature" (P.base64Decode actual)
  ensure (actual == expected.toList) "backend SCRAM server signature mismatch"
  pure { s with expectedServerSignature := none }

/-- `BackendAuthSession::respond`: the session afterwards and the message to send. -/
def respond (request : List Byte) (backendIsTls : Bool) :
    Except Text (BackendAuthSession × Option (List Byte)) := do
  let code ← orError "read backend authentication code" (authRequestCode request)
  if code = 0 then pure (s, none)
  else if code = 3 then
    ensure backendIsTls "backend requested a cleartext password without TLS"
    pure (s, some (passwordMessage (utf8 s.password ++ [0])))
  else if code = 5 then
    let response ← s.md5Response P request
    pure (s, some response)
  else if code = 10 then
    let (s, response) ← s.scramInitialResponse request
    pure (s, some response)
  else if code = 11 then
    let (s, response) ← s.scramFinalResponse P request
    pure (s, some response)
  else if code = 12 then
    let s ← s.verifyScramServerFinal P request
    pure (s, none)
  else
    throw ("unsupported backend authentication request code " ++ (toString code).toList)

/-- The session after all the requests, if it has answered them all. -/
def respondAll (backendIsTls : Bool) (requests : List (List Byte)) :
    Except Text BackendAuthSession :=
  requests.foldlM (fun s request => (·.1) <$> s.respond P request backendIsTls) s

/-- The session as the loops of a startup use it: the answer to the last of the requests so far. -/
def credentials (backendIsTls : Bool) : Credentials := fun requests =>
  match requests.getLast?, s.respondAll P backendIsTls requests.dropLast with
  | some request, .ok s =>
    match s.respond P request backendIsTls with
    | .ok (_, answer) => .ok answer
    | .error _ => .error ()
  | _, _ => .error ()

end

/-! ### The startups that a session takes part in -/

/-- The body of `AuthQueryService::connect_authenticated` on one frame. -/
def connectFrame (credentials : Credentials) (p : BootstrapProgress) (frame : BackendFrame) :
    BootstrapProgress ⊕ Option (List StartupWire) :=
  let wire := p.wire ++ [.fromBackend frame]
  if frame.hasTag .authentication then
    let authPayloads := p.authPayloads ++ [frame.payload]
    match credentials authPayloads with
    | .error _ => .inr none
    | .ok none => .inl ⟨authPayloads, wire⟩
    | .ok (some response) => .inl ⟨authPayloads, wire ++ [.toBackend response]⟩
  else
    match frame.readyStatus with
    | none => .inl { p with wire }
    | some status => .inr (if status = .idle then some wire else none)

/-- One turn of its loop, which ends with the stream. -/
def connectTurn (credentials : Credentials) (s : Reading BootstrapProgress) (read : StartupRead) :
    Reading BootstrapProgress ⊕ Option (List StartupWire) :=
  if read = some [] then .inr none else startupTurn none (connectFrame credentials) s read

/-- `AuthQueryService::connect_authenticated` on the reads to come. -/
def connectAuthenticated (credentials : Credentials) (startupPacket : List Byte)
    (reads : List StartupRead) :
    Reading BootstrapProgress ⊕ (Option (List StartupWire) × List StartupRead) :=
  foldUntil (connectTurn credentials) ⟨{ wire := [.toBackend startupPacket] }, []⟩ reads

/-- The authentication requests that have come from the backend. -/
def requestsOf (wire : List StartupWire) : List (List Byte) :=
  authPayloadsOf (wire.filterMap fun
    | .fromBackend frame => some frame
    | _ => none)

/-- The requests of a startup that has been accepted. -/
def acceptedRequests {σ : Type} :
    σ ⊕ (Option (List StartupWire) × List StartupRead) → Option (List (List Byte))
  | .inr (some wire, _) => some (requestsOf wire)
  | _ => none

/-- **A startup is accepted** with the credentials, after these requests: one of the three loops
returns well. -/
inductive Accepts (c : Credentials) (requests : List (List Byte)) : Prop where
  | relay (req : StartupRequest) (clientReads reads : List StartupRead)
    (hc : req.credentials = some c)
    (h : acceptedRequests (relayReads req clientReads reads) = some requests)
  | bootstrap (startupPacket : List Byte) (reads : List StartupRead)
    (h : acceptedRequests (bootstrapReads (some c) startupPacket reads) = some requests)
  | authQuery (startupPacket : List Byte) (reads : List StartupRead)
    (h : acceptedRequests (connectAuthenticated c startupPacket reads) = some requests)

section

variable {P} {s : BackendAuthSession} {backendIsTls : Bool} {request : List Byte}
  {requests : List (List Byte)} {wire : List StartupWire} {frame : BackendFrame}

theorem requestsOf_append (wire later : List StartupWire) :
    requestsOf (wire ++ later) = requestsOf wire ++ requestsOf later := by
  rw [requestsOf, List.filterMap_append, authPayloadsOf_append]
  rfl

/-- The session after one more request. -/
theorem respondAll_concat {s₁ s' : BackendAuthSession} {answer : Option (List Byte)}
    (h : s.respondAll P backendIsTls requests = .ok s₁)
    (hrespond : s₁.respond P request backendIsTls = .ok (s', answer)) :
    s.respondAll P backendIsTls (requests ++ [request]) = .ok s' := by
  unfold respondAll at h ⊢
  rw [List.foldlM_append, h]
  change ((·.1) <$> s₁.respond P request backendIsTls) >>= pure = _
  rw [hrespond]
  rfl

/-- The credentials answer only if the session does. -/
theorem respondAll_of_credentials {answer : Option (List Byte)}
    (h : s.credentials P backendIsTls (requests ++ [request]) = .ok answer) :
    ∃ s', s.respondAll P backendIsTls (requests ++ [request]) = .ok s' := by
  unfold credentials at h
  rw [List.getLast?_concat, List.dropLast_concat] at h
  cases hbefore : s.respondAll P backendIsTls requests with
  | error e => rw [hbefore] at h; cases h
  | ok s₁ =>
    cases hrespond : s₁.respond P request backendIsTls with
    | error e =>
      rw [hbefore] at h
      simp only [hrespond] at h
      cases h
    | ok result => exact ⟨result.1, respondAll_concat hbefore hrespond⟩

/-- What a loop has kept: the session has answered all requests that have come. -/
structure Kept (P : Primitives) (s : BackendAuthSession) (backendIsTls : Bool)
    (requests : List (List Byte)) (wire : List StartupWire) : Prop where
  received : requestsOf wire = requests
  answered : ∃ s', s.respondAll P backendIsTls requests = .ok s'

/-- A request that the credentials have answered. -/
theorem Kept.answer {answer : Option (List Byte)} {sent : List StartupWire}
    (h : Kept P s backendIsTls requests wire) (hauth : frame.hasTag .authentication = true)
    (hanswer : s.credentials P backendIsTls (requests ++ [frame.payload]) = .ok answer)
    (hsent : requestsOf sent = []) :
    Kept P s backendIsTls (requests ++ [frame.payload]) (wire ++ .fromBackend frame :: sent) where
  received := by
    rw [← List.singleton_append, requestsOf_append, requestsOf_append, hsent, h.received,
      List.append_nil]
    exact congrArg (requests ++ ·) (authPayloadsOf_singleton hauth)
  answered := respondAll_of_credentials hanswer

/-- Any other frame. -/
theorem Kept.other {sent : List StartupWire} (h : Kept P s backendIsTls requests wire)
    (hauth : frame.hasTag .authentication = false) (hsent : requestsOf sent = []) :
    Kept P s backendIsTls requests (wire ++ .fromBackend frame :: sent) where
  received := by
    rw [← List.singleton_append, requestsOf_append, requestsOf_append, hsent, h.received,
      List.append_nil]
    exact (congrArg (requests ++ ·) (authPayloadsOf_other hauth)).trans (List.append_nil _)
  answered := h.answered

/-- The body of a loop goes on, or returns well, with requests that have all been answered. -/
def KeepsOn {σ : Type} (P : Primitives) (s : BackendAuthSession) (backendIsTls : Bool)
    (asked : σ → List (List Byte)) (wire : σ → List StartupWire) (p : σ) :
    σ ⊕ Option (List StartupWire) → Prop
  | .inl p' => Kept P s backendIsTls (asked p') (wire p')
  | .inr (some done) => Kept P s backendIsTls (asked p) done
  | .inr none => True

theorem Kept.bootstrapFrame {p : BootstrapProgress}
    (h : Kept P s backendIsTls p.authPayloads p.wire) :
    KeepsOn P s backendIsTls (·.authPayloads) (·.wire) p
      (bootstrapFrame (some (s.credentials P backendIsTls)) p frame) := by
  unfold PgKinetic.bootstrapFrame
  cases hauth : frame.hasTag .authentication with
  | true =>
    cases authRequestCode frame.payload with
    | none => trivial
    | some code =>
      dsimp only [if_true]
      cases hanswer : s.credentials P backendIsTls (p.authPayloads ++ [frame.payload]) with
      | error e => trivial
      | ok answer =>
        cases answer with
        | none => exact h.answer hauth hanswer rfl
        | some response =>
          dsimp only
          rw [List.append_assoc]
          exact h.answer hauth hanswer rfl
  | false =>
    rw [if_neg Bool.false_ne_true]
    split
    · exact h.other hauth rfl
    · exact h.other hauth rfl

theorem Kept.connectFrame {p : BootstrapProgress}
    (h : Kept P s backendIsTls p.authPayloads p.wire) :
    KeepsOn P s backendIsTls (·.authPayloads) (·.wire) p
      (connectFrame (s.credentials P backendIsTls) p frame) := by
  unfold BackendAuthSession.connectFrame
  cases hauth : frame.hasTag .authentication with
  | true =>
    dsimp only [if_true]
    cases hanswer : s.credentials P backendIsTls (p.authPayloads ++ [frame.payload]) with
    | error e => trivial
    | ok answer =>
      cases answer with
      | none => exact h.answer hauth hanswer rfl
      | some response =>
        dsimp only
        rw [List.append_assoc]
        exact h.answer hauth hanswer rfl
  | false =>
    rw [if_neg Bool.false_ne_true]
    cases frame.readyStatus with
    | none => exact h.other hauth rfl
    | some status =>
      dsimp only
      split
      · exact h.other hauth rfl
      · trivial

theorem Kept.startupFrame {req : StartupRequest}
    (hc : req.credentials = some (s.credentials P backendIsTls)) {p : StartupProgress}
    (h : Kept P s backendIsTls p.state.authPayloads p.wire) :
    KeepsOn P s backendIsTls (·.state.authPayloads) (·.wire) p (startupFrame req p frame) := by
  unfold PgKinetic.startupFrame handleStartupFrame
  cases hauth : frame.hasTag .authentication with
  | true =>
    unfold handleAuthentication
    rw [hc]
    cases authRequestCode frame.payload with
    | none => trivial
    | some code =>
      dsimp only [if_true]
      cases hanswer : s.credentials P backendIsTls (p.state.authPayloads ++ [frame.payload]) with
      | error e => trivial
      | ok answer =>
        cases answer with
        | none | some response => exact h.answer hauth hanswer rfl
  | false =>
    rw [if_neg Bool.false_ne_true]
    unfold handleOtherFrame
    split
    · exact h.other hauth rfl
    · have hsent : requestsOf ((if frame.readyStatus.isSome && !p.state.sentBackendKeyData then
          [.toClient req.keyData] else []) ++ [.toClient frame]) = [] := by
        split <;> rfl
      by_cases hidle : frame.readyStatus = some .idle
      · rw [if_pos hidle]
        exact h.other hauth hsent
      · rw [if_neg hidle]
        exact h.other hauth hsent

/-- A loop that keeps on accepts a startup only after requests that have all been answered. -/
theorem answered_of_loop {σ : Type} {limit : Option Nat}
    {step : σ → BackendFrame → σ ⊕ Option (List StartupWire)}
    {turn : Reading σ → StartupRead → Reading σ ⊕ Option (List StartupWire)}
    {asked : σ → List (List Byte)} {wire : σ → List StartupWire} {start : Reading σ}
    {reads : List StartupRead}
    (hturn : ∀ p read, turn p read = startupTurn limit step p read ∨ turn p read = .inr none)
    (hstep : ∀ p frame, Kept P s backendIsTls (asked p) (wire p) →
      KeepsOn P s backendIsTls asked wire p (step p frame))
    (hstart : Kept P s backendIsTls (asked start.acc) (wire start.acc))
    (h : acceptedRequests (foldUntil turn start reads) = some requests) :
    ∃ s', s.respondAll P backendIsTls requests = .ok s' := by
  unfold acceptedRequests at h
  split at h
  · have hkeep : ∀ p frame p', Kept P s backendIsTls (asked p) (wire p) →
        step p frame = .inl p' → Kept P s backendIsTls (asked p') (wire p') := by
      intro p frame p' hp heq
      have hkept := hstep p frame hp
      rwa [heq] at hkept
    obtain ⟨p, frame, hp, hlast⟩ := exists_of_startup_complete hturn hkeep hstart ‹_›
    have hkept := hstep p frame hp
    rw [hlast] at hkept
    rw [← some.inj h, hkept.received]
    exact hkept.answered
  · cases h

/-- **A startup is accepted only after requests that the session has answered**, all of them. -/
theorem answered_of_accepts (h : Accepts (s.credentials P backendIsTls) requests) :
    ∃ s', s.respondAll P backendIsTls requests = .ok s' := by
  cases h with
  | relay req clientReads reads hc h =>
    unfold relayReads at h
    split at h
    · cases h
    · exact answered_of_loop (fun _ _ => .inl rfl) (fun _ _ hp => hp.startupFrame hc)
        ⟨rfl, s, rfl⟩ h
  | bootstrap startupPacket reads h =>
    exact answered_of_loop (fun _ _ => .inl rfl) (fun _ _ hp => hp.bootstrapFrame) ⟨rfl, s, rfl⟩ h
  | authQuery startupPacket reads h =>
    have hturn : ∀ p read, connectTurn (s.credentials P backendIsTls) p read =
        startupTurn none (connectFrame (s.credentials P backendIsTls)) p read ∨
          connectTurn (s.credentials P backendIsTls) p read = .inr none := by
      intro p read
      unfold connectTurn
      split
      · exact .inr rfl
      · exact .inl rfl
    exact answered_of_loop hturn (fun _ _ hp => hp.connectFrame) ⟨rfl, s, rfl⟩ h

end

/-! ### What an answered request does -/

variable {P} {s s' : BackendAuthSession} {request : List Byte} {backendIsTls : Bool}

/-- `final` is a server-final message with the signature of a server that knows the password, for
the nonce and the salt of the server-first message `first`. -/
structure Signs (P : Primitives) (s : BackendAuthSession) (first final : List Byte) : Prop where
  isFirst : authRequestCode first = some 11
  signed : ∃ parsed text v, s.serverFirst P first = .ok parsed ∧
    decodeUtf8 (final.drop 4) = some text ∧ scramAttribute text 'v' = .ok v ∧
    P.base64Decode v = some (parsed.serverSignature P s.password s.clientFirst).toList

/-- **One answer.** Only the SCRAM messages change the session: the first sends client-first, the
second sets the signature it expects, the last takes it. -/
inductive Answered (P : Primitives) (s : BackendAuthSession) (request : List Byte)
    (backendIsTls : Bool) : BackendAuthSession → Prop where
  | plain {code : Int} (hcode : authRequestCode request = some code)
    (hplain : code ≠ 10 ∧ code ≠ 11 ∧ code ≠ 12) (htls : code = 3 → backendIsTls = true) :
    Answered P s request backendIsTls s
  | initial (hcode : authRequestCode request = some 10) :
    Answered P s request backendIsTls { s with clientFirstBare := some s.clientFirst }
  | continued {first : ServerFirst} {bare : Text} (hcode : authRequestCode request = some 11)
    (hfirst : s.serverFirst P request = .ok first) (hbare : s.clientFirstBare = some bare) :
    Answered P s request backendIsTls
      { s with expectedServerSignature := some (first.serverSignature P s.password bare) }
  | final {signature : Digest} {text v : Text} (hcode : authRequestCode request = some 12)
    (hexpected : s.expectedServerSignature = some signature)
    (htext : decodeUtf8 (request.drop 4) = some text) (hv : scramAttribute text 'v' = .ok v)
    (hsignature : P.base64Decode v = some signature.toList) :
    Answered P s request backendIsTls { s with expectedServerSignature := none }

theorem answered_of_respond {answer : Option (List Byte)}
    (h : s.respond P request backendIsTls = .ok (s', answer)) :
    Answered P s request backendIsTls s' := by
  obtain ⟨code, hcode, h⟩ := bind_eq_ok_iff.1 h
  have hcode := orError_eq_ok_iff.1 hcode
  split at h
  · next hzero =>
    cases h
    subst hzero
    exact .plain hcode (by decide) nofun
  split at h
  · next hthree =>
    obtain ⟨_, htls, h⟩ := bind_eq_ok_iff.1 h
    cases h
    subst hthree
    exact .plain hcode (by decide) fun _ => ensure_eq_ok_iff.1 htls
  split at h
  · next hfive =>
    obtain ⟨_, -, h⟩ := bind_eq_ok_iff.1 h
    cases h
    subst hfive
    exact .plain hcode (by decide) nofun
  split at h
  · next hten =>
    obtain ⟨⟨_, _⟩, hinitial, h⟩ := bind_eq_ok_iff.1 h
    cases h
    obtain ⟨_, -, hinitial⟩ := bind_eq_ok_iff.1 hinitial
    obtain ⟨_, -, hinitial⟩ := bind_eq_ok_iff.1 hinitial
    cases hinitial
    exact .initial (hten ▸ hcode)
  split at h
  · next heleven =>
    obtain ⟨⟨_, _⟩, hfinal, h⟩ := bind_eq_ok_iff.1 h
    cases h
    obtain ⟨first, hfirst, hfinal⟩ := bind_eq_ok_iff.1 hfinal
    obtain ⟨bare, hbare, hfinal⟩ := bind_eq_ok_iff.1 hfinal
    cases hfinal
    exact .continued (heleven ▸ hcode) hfirst (orError_eq_ok_iff.1 hbare)
  split at h
  · next htwelve =>
    obtain ⟨_, hverify, h⟩ := bind_eq_ok_iff.1 h
    cases h
    obtain ⟨text, htext, hverify⟩ := bind_eq_ok_iff.1 hverify
    obtain ⟨_, -, hverify⟩ := bind_eq_ok_iff.1 hverify
    obtain ⟨signature, hexpected, hverify⟩ := bind_eq_ok_iff.1 hverify
    obtain ⟨v, hv, hverify⟩ := bind_eq_ok_iff.1 hverify
    obtain ⟨actual, hactual, hverify⟩ := bind_eq_ok_iff.1 hverify
    obtain ⟨_, hmatches, hverify⟩ := bind_eq_ok_iff.1 hverify
    obtain rfl := Except.ok.inj hverify
    obtain rfl := eq_of_beq (ensure_eq_ok_iff.1 hmatches)
    exact .final (htwelve ▸ hcode) (orError_eq_ok_iff.1 hexpected) (orError_eq_ok_iff.1 htext) hv
      (orError_eq_ok_iff.1 hactual)
  · cases h

/-! ### How it answers the messages of SCRAM -/

section

variable {answer : List Byte}

theorem respond_initial (hcode : authRequestCode request = some 10)
    (h : s.scramInitialResponse request = .ok (s', answer)) :
    s.respond P request backendIsTls = .ok (s', some answer) :=
  bind_eq_ok_iff.2 ⟨10, orError_eq_ok_iff.2 hcode, bind_eq_ok_iff.2 ⟨_, h, rfl⟩⟩

theorem respond_continued (hcode : authRequestCode request = some 11)
    (h : s.scramFinalResponse P request = .ok (s', answer)) :
    s.respond P request backendIsTls = .ok (s', some answer) :=
  bind_eq_ok_iff.2 ⟨11, orError_eq_ok_iff.2 hcode, bind_eq_ok_iff.2 ⟨_, h, rfl⟩⟩

theorem respond_final (hcode : authRequestCode request = some 12)
    (h : s.verifyScramServerFinal P request = .ok s') :
    s.respond P request backendIsTls = .ok (s', none) :=
  bind_eq_ok_iff.2 ⟨12, orError_eq_ok_iff.2 hcode, bind_eq_ok_iff.2 ⟨_, h, rfl⟩⟩

end

/-! ### Whole exchanges -/

/-- A message of a SCRAM exchange: the offer of mechanisms, server-first or server-final. -/
def isScram (request : List Byte) : Bool :=
  authRequestCode request == some 10 || authRequestCode request == some 11 ||
    authRequestCode request == some 12

/-- The last SCRAM message of a history. -/
def lastScram (before : List (List Byte)) : Option (List Byte) := (before.filter isScram).getLast?

theorem lastScram_concat (before : List (List Byte)) (request : List Byte) :
    lastScram (before ++ [request]) =
      if isScram request then some request else lastScram before := by
  unfold lastScram
  rw [List.filter_append]
  cases h : isScram request with
  | true => rw [List.filter_cons_of_pos h, List.filter_nil, List.getLast?_concat, if_pos rfl]
  | false =>
    rw [List.filter_cons_of_neg (by rw [h]; nofun), List.filter_nil, List.append_nil]
    exact (if_neg nofun).symm

/-- What is to hold of a request, after those before it: an AuthenticationOk is accepted, once
client-first has been sent, only if the last SCRAM message was a server-final, and a server-final
only if it signs the server-first it comes after. -/
structure Mutual (P : Primitives) (s : BackendAuthSession) (before : List (List Byte))
    (request : List Byte) : Prop where
  ok : authRequestCode request = some 0 → (∃ r ∈ before, authRequestCode r = some 10) →
    ∃ final, lastScram before = some final ∧ authRequestCode final = some 12
  final : authRequestCode request = some 12 →
    ∃ first, lastScram before = some first ∧ Signs P s first request

/-- The order of messages that a SCRAM exchange has, on the codes: `last` is the code of the last
SCRAM message so far. -/
def InOrder (last : Option Int) : List (List Byte) → Prop
  | [] => True
  | request :: requests =>
    (authRequestCode request = some 0 → last = none ∨ last = some 12) ∧
      (authRequestCode request = some 12 → last = some 11) ∧
      InOrder (if isScram request then authRequestCode request else last) requests

instance decidableInOrder : ∀ (last : Option Int) (requests : List (List Byte)),
    Decidable (InOrder last requests)
  | _, [] => .isTrue trivial
  | last, request :: requests =>
    have := decidableInOrder (if isScram request then authRequestCode request else last) requests
    inferInstanceAs (Decidable (_ ∧ _ ∧ _))

/-- What the session knows after a history of requests it has answered. -/
structure Remembers (P : Primitives) (s₀ : BackendAuthSession) (before : List (List Byte))
    (s : BackendAuthSession) : Prop where
  same : s.username = s₀.username ∧ s.password = s₀.password ∧ s.clientNonce = s₀.clientNonce
  bare : ∀ bare, s.clientFirstBare = some bare → bare = s₀.clientFirst
  offered : (∃ r ∈ before, authRequestCode r = some 10) ↔ s.clientFirstBare ≠ none
  quiet : lastScram before = none → s.clientFirstBare = none ∧ s.expectedServerSignature = none
  started : lastScram before ≠ none → s.clientFirstBare ≠ none
  continued : ∀ r, lastScram before = some r → authRequestCode r = some 11 →
    ∃ first, s₀.serverFirst P r = .ok first ∧
      s.expectedServerSignature = some (first.serverSignature P s₀.password s₀.clientFirst)
  finished : ∀ r, lastScram before = some r → authRequestCode r = some 12 →
    s.expectedServerSignature = none

theorem remembers_withNonce (P : Primitives) (username password clientNonce : Text) :
    Remembers P (withNonce username password clientNonce) []
      (withNonce username password clientNonce) where
  same := ⟨rfl, rfl, rfl⟩
  bare := nofun
  offered := ⟨nofun, fun h => absurd rfl h⟩
  quiet := fun _ => ⟨rfl, rfl⟩
  started := fun h => absurd rfl h
  continued := nofun
  finished := nofun

theorem isScram_of_code {code : Int} (hcode : authRequestCode request = some code) :
    isScram request = decide (code = 10 ∨ code = 11 ∨ code = 12) := by
  rw [isScram, hcode]
  simp [Bool.or_assoc, beq_eq_decide]

variable {before : List (List Byte)} {s₀ : BackendAuthSession}

theorem offered_concat {code : Int} (hcode : authRequestCode request = some code) :
    (∃ r ∈ before ++ [request], authRequestCode r = some 10) ↔
      (∃ r ∈ before, authRequestCode r = some 10) ∨ code = 10 := by
  simp only [List.mem_append, List.mem_singleton, or_and_right, exists_or, exists_eq_left, hcode,
    some.injEq]

theorem lastScram_of_code {code : Int} (hcode : authRequestCode request = some code)
    (hscram : code = 10 ∨ code = 11 ∨ code = 12) :
    lastScram (before ++ [request]) = some request := by
  rw [lastScram_concat, isScram_of_code hcode]
  exact if_pos (decide_eq_true hscram)

theorem Remembers.clientFirst_eq (h : Remembers P s₀ before s) :
    s.clientFirst = s₀.clientFirst := by
  obtain ⟨husername, -, hnonce⟩ := h.same
  rw [clientFirst, clientFirst, husername, hnonce]

/-- The session remembers one more request that it has answered. -/
theorem Remembers.concat (h : Remembers P s₀ before s)
    (hanswered : Answered P s request backendIsTls s') :
    Remembers P s₀ (before ++ [request]) s' := by
  have hfirst := h.clientFirst_eq
  cases hanswered with
  | @plain code hcode hplain htls =>
    have hlast : lastScram (before ++ [request]) = lastScram before := by
      rw [lastScram_concat, isScram_of_code hcode]
      exact if_neg (by simp [hplain])
    refine ⟨h.same, h.bare, ?_, ?_, ?_, ?_, ?_⟩
    · rw [offered_concat hcode, ← h.offered, or_iff_left hplain.1]
    · rw [hlast]
      exact h.quiet
    · rw [hlast]
      exact h.started
    · rw [hlast]
      exact h.continued
    · rw [hlast]
      exact h.finished
  | initial hcode =>
    have hlast : lastScram (before ++ [request]) = some request :=
      lastScram_of_code hcode (by decide)
    refine ⟨h.same, fun bare hbare => ?_, ?_, ?_, fun _ => nofun, fun r hr hr' => ?_,
      fun r hr hr' => ?_⟩
    · exact (some.inj hbare).symm.trans hfirst
    · rw [offered_concat hcode]
      exact iff_of_true (.inr rfl) nofun
    · rw [hlast]
      nofun
    · obtain rfl := some.inj (hlast.symm.trans hr)
      cases hcode.symm.trans hr'
    · obtain rfl := some.inj (hlast.symm.trans hr)
      cases hcode.symm.trans hr'
  | @continued first bare hcode hparsed hbare =>
    have hlast : lastScram (before ++ [request]) = some request :=
      lastScram_of_code hcode (by decide)
    have hoffered : s.clientFirstBare ≠ none := by rw [hbare]; nofun
    refine ⟨h.same, h.bare, ?_, ?_, fun _ => hoffered, fun r hr _ => ?_, fun r hr hr' => ?_⟩
    · rw [offered_concat hcode, ← h.offered, or_iff_left (by decide)]
    · rw [hlast]
      nofun
    · obtain rfl := some.inj (hlast.symm.trans hr)
      refine ⟨first, ?_, ?_⟩
      · rw [← hparsed, serverFirst, serverFirst, h.same.2.2]
      · rw [h.bare bare hbare, h.same.2.1]
    · obtain rfl := some.inj (hlast.symm.trans hr)
      cases hcode.symm.trans hr'
  | @final signature text v hcode hexpected htext hv hsignature =>
    have hlast : lastScram (before ++ [request]) = some request :=
      lastScram_of_code hcode (by decide)
    refine ⟨h.same, h.bare, ?_, ?_, fun _ hnone => ?_, fun r hr hr' => ?_, fun _ _ _ => rfl⟩
    · rw [offered_concat hcode, ← h.offered, or_iff_left (by decide)]
    · rw [hlast]
      nofun
    · -- a signature is expected only of an exchange that has begun
      have hbefore : lastScram before = none := by
        by_contra hne
        exact h.started hne hnone
      rw [(h.quiet hbefore).2] at hexpected
      cases hexpected
    · obtain rfl := some.inj (hlast.symm.trans hr)
      cases hcode.symm.trans hr'

theorem exists_code_of_lastScram {r : List Byte} (h : lastScram before = some r) :
    ∃ code, authRequestCode r = some code := by
  have hscram : isScram r = true := (List.mem_filter.1 (List.mem_of_getLast? h)).2
  cases hcode : authRequestCode r with
  | none => simp [isScram, hcode] at hscram
  | some code => exact ⟨code, rfl⟩

/-- One request that is answered keeps to mutual authentication exactly if it is in order. -/
theorem mutual_iff_of_answered (h : Remembers P s₀ before s)
    (hanswered : Answered P s request backendIsTls s') :
    Mutual P s₀ before request ↔
      (authRequestCode request = some 0 → (lastScram before).bind authRequestCode = none ∨
        (lastScram before).bind authRequestCode = some 12) ∧
      (authRequestCode request = some 12 → (lastScram before).bind authRequestCode = some 11) := by
  constructor
  · rintro ⟨hok, hfinal⟩
    refine ⟨fun hzero => ?_, fun htwelve => ?_⟩
    · cases hlast : lastScram before with
      | none => exact .inl rfl
      | some r =>
        obtain ⟨final, hr, hcode⟩ := hok hzero (h.offered.2 (h.started (by rw [hlast]; nofun)))
        obtain rfl := some.inj (hlast.symm.trans hr)
        exact .inr hcode
    · obtain ⟨first, hlast, hsigns⟩ := hfinal htwelve
      rw [hlast]
      exact hsigns.isFirst
  · rintro ⟨hzero, htwelve⟩
    refine ⟨fun hok hoffered => ?_, fun hfinal => ?_⟩
    · rcases hzero hok with hnone | hverified
      · cases hlast : lastScram before with
        | none => exact absurd (h.quiet hlast).1 (h.offered.1 hoffered)
        | some r =>
          obtain ⟨code, hcode⟩ := exists_code_of_lastScram hlast
          rw [hlast, bind_some, hcode] at hnone
          cases hnone
      · exact bind_eq_some_iff.1 hverified
    · obtain ⟨first, hlast, hcode⟩ := bind_eq_some_iff.1 (htwelve hfinal)
      obtain ⟨parsed, hparsed, hsignature⟩ := h.continued first hlast hcode
      refine ⟨first, hlast, hcode, ?_⟩
      cases hanswered with
      | plain hcode' hplain =>
        obtain rfl := some.inj (hfinal.symm.trans hcode')
        exact absurd rfl hplain.2.2
      | initial hcode' | continued hcode' => cases hfinal.symm.trans hcode'
      | @final signature text v _ hexpected htext hv hdecode =>
        obtain rfl := some.inj (hexpected.symm.trans hsignature)
        exact ⟨parsed, text, v, hparsed, htext, hv, hdecode⟩

theorem forall_split_cons {α : Type} {a : α} {l : List α} {Q : List α → α → Prop} :
    (∀ before x after, a :: l = before ++ x :: after → Q before x) ↔
      Q [] a ∧ ∀ before x after, l = before ++ x :: after → Q (a :: before) x := by
  refine ⟨fun h => ⟨h [] a l rfl, fun before x after hl => h (a :: before) x after (hl ▸ rfl)⟩, ?_⟩
  rintro ⟨ha, hl⟩ (_ | ⟨b, before⟩) x after heq
  · obtain ⟨rfl, -⟩ := List.cons.inj heq
    exact ha
  · obtain ⟨rfl, htail⟩ := List.cons.inj heq
    exact hl before x after htail

theorem mutual_iff_inOrder {requests : List (List Byte)} (h : Remembers P s₀ before s)
    (hall : s.respondAll P backendIsTls requests = .ok s') :
    ((∀ earlier request later, requests = earlier ++ request :: later →
        Mutual P s₀ (before ++ earlier) request) ↔
      InOrder ((lastScram before).bind authRequestCode) requests) ∧
    (backendIsTls = false → ∀ request ∈ requests, authRequestCode request ≠ some 3) := by
  induction requests generalizing before s with
  | nil => exact ⟨iff_of_true (fun _ _ _ h => by simp at h) trivial, fun _ => nofun⟩
  | cons request requests ih =>
    rw [respondAll, List.foldlM_cons] at hall
    obtain ⟨s₁, hone, hall⟩ := bind_eq_ok_iff.1 hall
    have hanswered : Answered P s request backendIsTls s₁ := by
      cases hrespond : s.respond P request backendIsTls with
      | error e => rw [hrespond] at hone; cases hone
      | ok p =>
        rw [hrespond] at hone
        obtain rfl := Except.ok.inj hone
        exact answered_of_respond hrespond
    obtain ⟨hiff, htls⟩ := ih (h.concat hanswered) hall
    have hlast : (lastScram (before ++ [request])).bind authRequestCode =
        if isScram request then authRequestCode request
          else (lastScram before).bind authRequestCode := by
      rw [lastScram_concat]
      split <;> rfl
    rw [hlast] at hiff
    refine ⟨?_, fun hplain r hr => ?_⟩
    · rw [forall_split_cons, List.append_nil, mutual_iff_of_answered h hanswered, InOrder,
        and_assoc, ← hiff]
      simp only [List.append_assoc, List.singleton_append]
    · rcases List.mem_cons.1 hr with rfl | hr
      · intro hthree
        cases hanswered with
        | plain hcode _ hcleartext =>
          rw [hcleartext (some.inj (hcode.symm.trans hthree))] at hplain
          cases hplain
        | initial hcode | continued hcode | final hcode => cases hcode.symm.trans hthree
      · exact htls hplain r hr

/-- AuthenticationOk. -/
def okRequest : List Byte := [0, 0, 0, 0]

/-- What a startup is to have shown that is accepted after these requests: each of them is taken
only as it may be, and the startup itself only as an AuthenticationOk at the end may be. -/
def MutualStartup (P : Primitives) (s : BackendAuthSession) (requests : List (List Byte)) : Prop :=
  ∀ before request after, requests ++ [okRequest] = before ++ request :: after →
    Mutual P s before request

/-- A startup that is accepted is mutual exactly if its requests are in order, with an
AuthenticationOk at the end. -/
theorem mutualStartup_iff {username password clientNonce : Text} {requests : List (List Byte)}
    (h : Accepts ((withNonce username password clientNonce).credentials P backendIsTls) requests) :
    MutualStartup P (withNonce username password clientNonce) requests ↔
      InOrder none (requests ++ [okRequest]) := by
  obtain ⟨s, hs⟩ := answered_of_accepts h
  have hcode : authRequestCode [0, 0, 0, 0] = some 0 := congrArg some (by decide)
  have hok : s.respond P [0, 0, 0, 0] backendIsTls = .ok (s, none) :=
    bind_eq_ok_iff.2 ⟨0, orError_eq_ok_iff.2 hcode, rfl⟩
  exact (mutual_iff_inOrder (remembers_withNonce P username password clientNonce)
    (respondAll_concat hs hok)).1

/-- **Backend SCRAM is mutual if the messages are in order.** For every sequence of authentication
messages that the session answers, AuthenticationOk is accepted only behind a server-final, and a
server-final only if it signs the server-first it comes after, exactly if on the codes an
AuthenticationOk does not come between an offer of SCRAM and its server-final, and a server-final
not without its server-first; and a startup with this session as its credentials is accepted only
behind a server-final exactly if in addition it does not end between the two. No request for a
cleartext password is answered without TLS. -/
theorem scram_mutual_iff (P : Primitives) (username password clientNonce : Text)
    (backendIsTls : Bool) (requests : List (List Byte)) :
    (∀ s, (withNonce username password clientNonce).respondAll P backendIsTls requests = .ok s →
      ((∀ before request after, requests = before ++ request :: after →
          Mutual P (withNonce username password clientNonce) before request) ↔
        InOrder none requests) ∧
      (backendIsTls = false → ∀ request ∈ requests, authRequestCode request ≠ some 3)) ∧
    (Accepts ((withNonce username password clientNonce).credentials P backendIsTls) requests →
      (MutualStartup P (withNonce username password clientNonce) requests ↔
        InOrder none (requests ++ [okRequest]))) :=
  ⟨fun _ h => mutual_iff_inOrder (remembers_withNonce P username password clientNonce) h,
    mutualStartup_iff⟩

/-- The session of user `u` with password `p`. -/
def sampleSession : BackendAuthSession := withNonce "u" "p" "nonce"

/-- An offer of SCRAM. -/
def offer : List Byte := [0, 0, 0, 10] ++ utf8 scramMechanism ++ [0, 0]

/-- A server-first message with the salt `salt`. -/
def sampleServerFirst : List Byte := [0, 0, 0, 11] ++ utf8 "r=nonce1,s=c2FsdA==,i=1"

/-- The server-final message of a server that knows the password. -/
def sampleServerFinal : List Byte :=
  [0, 0, 0, 12] ++ utf8 "v=8ZR4BvDAlDHY35IQCwHbQxwNlUNbOyuSi52/bm49MiM="

/-- A whole exchange. -/
def wholeExchange : List (List Byte) := [offer, sampleServerFirst, sampleServerFinal, okRequest]

/-- What a backend sends that makes these requests and is then ready. -/
def startupStream (requests : List (List Byte)) : List Byte :=
  requests.flatMap buildAuthMessage ++ [90, 0, 0, 0, 5, 73]

/-- A startup with the functions themselves is accepted after these requests. -/
theorem accepts_sampleSession {requests : List (List Byte)}
    (h : acceptedRequests (bootstrapReads (some (sampleSession.credentials .standard false)) []
      [some (startupStream requests)]) = some requests) :
    Accepts (sampleSession.credentials .standard false) requests := .bootstrap _ _ h

theorem scram_mutual_wholeExchange :
    Accepts (sampleSession.credentials .standard false) wholeExchange ∧
      MutualStartup .standard sampleSession wholeExchange := by
  have haccepts : Accepts (sampleSession.credentials .standard false) wholeExchange :=
    accepts_sampleSession (by decide +kernel)
  exact ⟨haccepts, ((scram_mutual_iff .standard "u" "p" "nonce" false wholeExchange).2 haccepts).2
    (by decide +kernel)⟩

/-- Such a startup is not mutual if its requests are out of order. -/
theorem not_mutual_sampleSession {requests : List (List Byte)}
    (h : acceptedRequests (bootstrapReads (some (sampleSession.credentials .standard false)) []
      [some (startupStream requests)]) = some requests)
    (horder : ¬InOrder none (requests ++ [okRequest])) :
    Accepts (sampleSession.credentials .standard false) requests ∧
      ¬MutualStartup .standard sampleSession requests := by
  have haccepts := accepts_sampleSession h
  exact ⟨haccepts, fun hmutual => horder ((mutualStartup_iff haccepts).1 hmutual)⟩

/-- **A startup without a server-final**, and the signature of another exchange. A backend that
offers SCRAM and then says that it is ready is believed, one that says AuthenticationOk before, and
one that starts a second exchange and signs the first. -/
theorem scram_not_mutual :
    (Accepts (sampleSession.credentials .standard false) [offer] ∧
      ¬MutualStartup .standard sampleSession [offer]) ∧
    (Accepts (sampleSession.credentials .standard false) [offer, okRequest] ∧
      ¬MutualStartup .standard sampleSession [offer, okRequest]) ∧
    Accepts (sampleSession.credentials .standard false)
        [offer, sampleServerFirst, offer, sampleServerFinal, okRequest] ∧
      ¬MutualStartup .standard sampleSession
        [offer, sampleServerFirst, offer, sampleServerFinal, okRequest] :=
  ⟨not_mutual_sampleSession (by decide +kernel) (by decide +kernel),
    not_mutual_sampleSession (by decide +kernel) (by decide +kernel),
    not_mutual_sampleSession (by decide +kernel) (by decide +kernel)⟩

end BackendAuthSession

end PgKinetic
