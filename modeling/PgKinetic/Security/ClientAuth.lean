import PgKinetic.Security.AuthFrames

/-!
# SCRAM authentication of a client

`authenticate_scram` authenticates a client against a stored verifier. It reads two messages of the
client, each in a frame of its own, and takes them apart itself: a GS2 header and attributes
`key=value` between commas, in any order. What it signs is put together again from the attributes
it has kept.

* **Soundness.** A client is authenticated only with a proof for that text. It is the text that was
  exchanged exactly if client-final consists of `c`, `r` and `p`, in this order and nothing else.
* **Completeness.** A client that keeps to the protocol and knows the password is authenticated
  exactly if its header is `n,,`, it names the startup user, and it sends no extensions in
  client-final. PostgreSQL itself accepts `y,,`, and ignores the name, which `libpq` leaves empty.
-/

namespace PgKinetic

open Fallible Scram
open Sha256 (digestOf)

namespace ClientAuth

/-! ### Verifiers -/

/-- `SecretError`, where a SCRAM verifier meets one. -/
inductive SecretError where
  | invalidPrefix (expected : Text)
  | missingField
  | invalidIterations
  | invalidBase64 (field : Text)
  | invalidKeyLength (field : Text) (expected actual : Nat)
  deriving DecidableEq, Repr

/-- `ScramVerifier`, as `ScramVerifier::parse` makes it. -/
structure ScramVerifier where
  iterations : Nat
  salt : List Byte
  storedKey : Digest
  serverKey : Digest
  positive : 0 < iterations
  inRange : iterations < 2 ^ 32
  deriving DecidableEq

/-- `validate_scram_key_length`. -/
def validateScramKeyLength (field : Text) (value : List Byte) : Except SecretError Digest :=
  match digestOf value with
  | some key => .ok key
  | none => .error (.invalidKeyLength field 32 value.length)

/-- A number of iterations that a verifier may have. -/
def parseIterations (text : Text) : Except SecretError { n : Nat // 0 < n ∧ n < 2 ^ 32 } :=
  match text.parseUnsigned 32 with
  | some n => if h : 0 < n ∧ n < 2 ^ 32 then .ok ⟨n, h⟩ else .error .invalidIterations
  | none => .error .invalidIterations

section

variable (P : Primitives)

/-- Base64 in a field of a verifier. -/
def decodeField (field text : Text) : Except SecretError (List Byte) :=
  match P.base64Decode text with
  | some bytes => .ok bytes
  | none => .error (.invalidBase64 field)

/-- `ScramVerifier::parse`. -/
def ScramVerifier.parse (verifier : Text) : Except SecretError ScramVerifier :=
  match verifier.splitOnce '$' with
  | none => .error .missingField
  | some (start, rest) =>
    if start ≠ scramMechanism then .error (.invalidPrefix scramMechanism)
    else
      match rest.splitOnce '$' with
      | none => .error .missingField
      | some (iterationAndSalt, keys) =>
        match iterationAndSalt.splitOnce ':', keys.splitOnce ':' with
        | some (iterations, salt), some (storedKey, serverKey) => do
          let iterations ← parseIterations iterations
          let salt ← decodeField P "salt" salt
          let storedKey ← decodeField P "stored_key" storedKey
          let serverKey ← decodeField P "server_key" serverKey
          let storedKey ← validateScramKeyLength "stored_key" storedKey
          let serverKey ← validateScramKeyLength "server_key" serverKey
          pure ⟨iterations, salt, storedKey, serverKey, iterations.2.1, iterations.2.2⟩
        | _, _ => .error .missingField

/-- `derive_scram_stored_key`. -/
def deriveScramStoredKey (password salt : List Byte) (iterations : Nat) : Digest :=
  P.sha256 (P.clientKey (P.pbkdf2HmacSha256 password salt iterations)).toList

/-- `ScramVerifier::verify_password`. -/
def ScramVerifier.verifyPassword (verifier : ScramVerifier) (password : List Byte) : Bool :=
  deriveScramStoredKey P password verifier.salt verifier.iterations == verifier.storedKey

end

/-- `UserSecret`. -/
inductive UserSecret where
  | trust
  | scramSha256 (verifier : ScramVerifier)
  | md5 (hex : Text)
  deriving DecidableEq

/-! ### Messages of the client -/

/-- `parse_password_frame`. -/
def parsePasswordFrame (frame : FrontendFrame) : Except Text (List Byte) := do
  ensure (frame.tag == passwordMessageTag)
    ("unexpected frontend authentication message tag 0x" ++ hexLower [frame.tag])
  pure frame.payload

/-- `read_cstr`: the text and the bytes after its terminator. -/
def readCstr (bytes : List Byte) : Except Text (Text × List Byte) :=
  match bytes.dropWhile (· != 0) with
  | [] => .error "read SCRAM cstring terminator"
  | _ :: rest => do
    let value ← orError "parse SCRAM cstring" (decodeUtf8 (bytes.takeWhile (· != 0)))
    pure (value, rest)

/-- `read_i32`. -/
def readI32 : List Byte → Option Int
  | b₀ :: b₁ :: b₂ :: b₃ :: _ => some (i32FromBytes b₀ b₁ b₂ b₃)
  | _ => none

/-- `parse_scram_initial_response`. -/
def parseScramInitialResponse (payload : List Byte) : Except Text (Text × Text) := do
  let (mechanism, rest) ← readCstr payload
  let length ← orError "read SCRAM initial response length" (readI32 rest)
  ensure (0 ≤ length) "SCRAM initial response length is invalid"
  let rest := rest.drop 4
  ensure (length.toNat ≤ rest.length) "SCRAM initial response is incomplete"
  let response ← orError "parse SCRAM initial response" (decodeUtf8 (rest.take length.toNat))
  pure (mechanism, response)

/-- What `parse_scram_client_first` returns. -/
structure ClientFirst where
  bare : Text
  username : Text
  nonce : Text
  deriving DecidableEq, Repr

/-- One attribute of client-first, with the user name and the nonce so far. -/
def clientFirstItem (found : Option Text × Option Text) (item : Text) :
    Except Text (Option Text × Option Text) := do
  let (key, value) ← orError "SCRAM client first item is malformed" (item.splitOnce '=')
  if key = "n" then
    let username ← scramUnescape value
    pure (some username, found.2)
  else if key = "r" then pure (found.1, some value)
  else pure found

/-- `parse_scram_client_first`. -/
def parseScramClientFirst (message : Text) : Except Text ClientFirst := do
  ensure (message.startsWith "n,,") "SCRAM client first message is malformed"
  let bare : Text := message.drop 3
  let (username, nonce) ← (bare.splitOn ',').foldlM clientFirstItem (none, none)
  let username ← orError "SCRAM client first message is missing username" username
  let nonce ← orError "SCRAM client first message is missing nonce" nonce
  pure ⟨bare, username, nonce⟩

/-- What `parse_scram_client_final` returns. -/
structure ClientFinal where
  channelBinding : Text
  nonce : Text
  proof : Text
  deriving DecidableEq, Repr

/-- The attributes of client-final found so far. -/
structure FinalItems where
  channelBinding : Option Text := none
  nonce : Option Text := none
  proof : Option Text := none

/-- One attribute of client-final. -/
def clientFinalItem (found : FinalItems) (item : Text) : Except Text FinalItems := do
  let (key, value) ← orError "SCRAM client final item is malformed" (item.splitOnce '=')
  if key = "c" then pure { found with channelBinding := some value }
  else if key = "r" then pure { found with nonce := some value }
  else if key = "p" then pure { found with proof := some value }
  else pure found

/-- `parse_scram_client_final`. -/
def parseScramClientFinal (message : Text) : Except Text ClientFinal := do
  let found ← (message.splitOn ',').foldlM clientFinalItem {}
  let channelBinding ←
    orError "SCRAM client final message is missing channel binding" found.channelBinding
  let nonce ← orError "SCRAM client final message is missing nonce" found.nonce
  let proof ← orError "SCRAM client final message is missing proof" found.proof
  pure ⟨channelBinding, nonce, proof⟩

/-! ### The exchange -/

/-- `ClientAuthOutcome`, where a client is authenticated. -/
inductive ClientAuthOutcome where
  | authenticated
  | rejected
  deriving DecidableEq, Repr

/-- What the client is sent. -/
inductive ServerMessage where
  | saslRequest
  | saslContinue (text : Text)
  | saslFinal (text : Text)
  | ok
  /-- `reject_authentication`, with its reason. -/
  | failure (reason : Text)
  deriving DecidableEq, Repr

/-- The texts of an exchange: client-first without its header, server-first and client-final as they
were sent, and what client-final was taken for. -/
structure Exchange where
  first : ClientFirst
  serverFirst : Text
  clientFinal : Text
  final : ClientFinal
  deriving DecidableEq, Repr

/-- The text that is signed. -/
def Exchange.authMessage (x : Exchange) : Text :=
  x.first.bare ++ "," ++ x.serverFirst ++ ",c=" ++ x.final.channelBinding ++ ",r=" ++ x.final.nonce

section

variable (P : Primitives)

/-- `verify_scram_proof`. -/
def verifyScramProof (verifier : ScramVerifier) (authMessage proof : Text) : Except Text Unit := do
  let clientProof ← orError "decode SCRAM client proof" (P.base64Decode proof)
  let clientProof ← orError "SCRAM client proof has invalid length" (digestOf clientProof)
  let clientSignature := P.hmacSha256 verifier.storedKey.toList (utf8 authMessage)
  let clientKey := xor clientProof clientSignature
  ensure (P.sha256 clientKey.toList == verifier.storedKey) "SCRAM proof verification failed"

/-- `scram_server_signature`. -/
def scramServerSignature (verifier : ScramVerifier) (authMessage : Text) : Digest :=
  P.hmacSha256 verifier.serverKey.toList (utf8 authMessage)

/-- The text of server-first. -/
def serverFirstText (verifier : ScramVerifier) (clientNonce serverNonce : Text) : Text :=
  "r=" ++ clientNonce ++ serverNonce ++ ",s=" ++ P.base64Encode verifier.salt ++ ",i=" ++
    (Nat.repr verifier.iterations).toList

/-- The first half of `authenticate_scram`: what it makes of the client's first message. -/
def readClientFirst (username : Text) (initial : FrontendFrame) : Except Text ClientFirst := do
  let payload ← parsePasswordFrame initial
  let (mechanism, clientFirst) ← parseScramInitialResponse payload
  ensure (mechanism == scramMechanism) ("unsupported SCRAM mechanism " ++ mechanism)
  let first ← parseScramClientFirst clientFirst
  ensure (first.username == username) "SCRAM client username does not match startup user"
  pure first

/-- The second half of `authenticate_scram`, up to the proof. -/
def readClientFinal (verifier : ScramVerifier) (first : ClientFirst) (serverNonce : Text)
    (final : FrontendFrame) : Except Text Exchange := do
  let payload ← parsePasswordFrame final
  let clientFinal ← orError "parse SCRAM final response" (decodeUtf8 payload)
  let parsed ← parseScramClientFinal clientFinal
  ensure (parsed.channelBinding == "biws".toList) "unsupported SCRAM channel binding"
  ensure (parsed.nonce == first.nonce ++ serverNonce) "SCRAM nonce mismatch"
  pure ⟨first, serverFirstText P verifier first.nonce serverNonce, clientFinal, parsed⟩

/-- `authenticate_scram`, on the user's secret, the nonce it generates and what it reads from the
client. A frame that cannot be read ends it with an error, as one does that cannot be
understood. -/
def authenticateScram (maxClientBufferBytes : Nat) (username : Text)
    (secret : Except Unit (Option UserSecret)) (serverNonce : Text) (reads : List (List Byte)) :
    Except Text (ClientAuthOutcome × List ServerMessage) :=
  match secret with
  | .error _ => .ok (.rejected, [.failure "auth query failed"])
  | .ok (some (.scramSha256 verifier)) => do
    let (initial, reads) ← readAuthenticationFrame maxClientBufferBytes [] reads
    let first ← readClientFirst username initial
    let (final, _) ← readAuthenticationFrame maxClientBufferBytes [] reads
    let x ← readClientFinal P verifier first serverNonce final
    let sent := [.saslRequest, .saslContinue x.serverFirst]
    match verifyScramProof P verifier x.authMessage x.final.proof with
    | .error _ => pure (.rejected, sent ++ [.failure "invalid password"])
    | .ok _ =>
      let signature := scramServerSignature P verifier x.authMessage
      pure (.authenticated, sent ++ [.saslFinal ("v=" ++ P.base64Encode signature.toList), .ok])
  | .ok _ => .ok (.rejected, [.failure "unknown user"])

end

end ClientAuth

end PgKinetic
