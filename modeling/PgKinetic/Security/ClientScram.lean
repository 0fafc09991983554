import PgKinetic.Security.ClientAuth

/-!
# Whom SCRAM authenticates

The two directions of `authenticate_scram`. `Exchange.Exact` says that the text it has signed is the
text that was exchanged, `Client` is a client that keeps to the protocol.
-/

namespace PgKinetic

open Fallible Scram List
open Sha256 (digestOf)

namespace ClientAuth

/-! ### Attributes -/

section

variable {found found' : FinalItems} {item message : Text}

/-- The attributes that have been found have no commas. -/
def FinalItems.Plain (found : FinalItems) : Prop :=
  (∀ c, found.channelBinding = some c → ',' ∉ c) ∧ (∀ r, found.nonce = some r → ',' ∉ r) ∧
    ∀ p, found.proof = some p → ',' ∉ p

theorem plain_none : FinalItems.Plain {} := ⟨fun _ => nofun, fun _ => nofun, fun _ => nofun⟩

theorem plain_clientFinalItem (hfound : found.Plain) (hitem : ',' ∉ item)
    (h : clientFinalItem found item = .ok found') : found'.Plain := by
  obtain ⟨⟨key, value⟩, hsplit, hkept⟩ := bind_eq_ok_iff.1 h
  obtain ⟨rfl, -⟩ := Text.splitOnce_eq_some (orError_eq_ok_iff.1 hsplit)
  have hvalue : ',' ∉ value := fun hmem => hitem (mem_append_right _ (mem_cons_of_mem _ hmem))
  obtain ⟨hc, hr, hp⟩ := hfound
  dsimp only at hkept
  split at hkept
  · obtain rfl := Except.ok.inj hkept
    exact ⟨fun c heq => Option.some.inj heq ▸ hvalue, hr, hp⟩
  split at hkept
  · obtain rfl := Except.ok.inj hkept
    exact ⟨hc, fun c heq => Option.some.inj heq ▸ hvalue, hp⟩
  split at hkept
  · obtain rfl := Except.ok.inj hkept
    exact ⟨hc, hr, fun c heq => Option.some.inj heq ▸ hvalue⟩
  · obtain rfl := Except.ok.inj hkept
    exact ⟨hc, hr, hp⟩

theorem plain_foldlM {items : List Text} (hfound : found.Plain)
    (hitems : ∀ item ∈ items, ',' ∉ item)
    (h : items.foldlM clientFinalItem found = .ok found') : found'.Plain := by
  induction items generalizing found with
  | nil =>
    obtain rfl := Except.ok.inj h
    exact hfound
  | cons item items ih =>
    obtain ⟨found₁, hitem, h⟩ := bind_eq_ok_iff.1 h
    exact ih (plain_clientFinalItem hfound (hitems item mem_cons_self) hitem)
      (fun i hi => hitems i (mem_cons_of_mem _ hi)) h

/-- The attributes of client-final have no commas. -/
theorem plain_of_parseScramClientFinal {final : ClientFinal}
    (h : parseScramClientFinal message = .ok final) :
    ',' ∉ final.channelBinding ∧ ',' ∉ final.nonce ∧ ',' ∉ final.proof := by
  obtain ⟨found, hfound, h⟩ := bind_eq_ok_iff.1 h
  obtain ⟨hc, hr, hp⟩ := plain_foldlM plain_none
    (fun _ => Text.not_mem_of_mem_splitOn) hfound
  obtain ⟨c, hfc, h⟩ := bind_eq_ok_iff.1 h
  obtain ⟨r, hfr, h⟩ := bind_eq_ok_iff.1 h
  obtain ⟨p, hfp, h⟩ := bind_eq_ok_iff.1 h
  obtain rfl := Except.ok.inj h
  exact ⟨hc c (orError_eq_ok_iff.1 hfc), hr r (orError_eq_ok_iff.1 hfr),
    hp p (orError_eq_ok_iff.1 hfp)⟩

end

/-- An attribute as it is written. -/
def attr (key : Char) (value : Text) : Text := key :: '=' :: value

theorem comma_not_mem_attr {key : Char} {value : Text} (hkey : key ≠ ',')
    (hvalue : ',' ∉ value) : ',' ∉ attr key value := by
  rw [attr, mem_cons, mem_cons, not_or, not_or]
  exact ⟨hkey.symm, by decide, hvalue⟩

theorem splitOnce_attr {key : Char} (hkey : key ≠ '=') (value : Text) :
    (attr key value).splitOnce '=' = some ([key], value) := by
  rw [attr, Text.splitOnce, if_neg hkey, Text.splitOnce, if_pos rfl]
  rfl

theorem stripLeading_attr (key key' : Char) (value : Text) :
    (attr key value).stripLeading [key', '='] = if key = key' then some value else none := by
  simp [attr, Text.stripLeading]

/-- An attribute that the server does not know. -/
structure Extension where
  key : Char
  value : Text
  letter : key.isAlpha = true
  plain : ',' ∉ value

namespace Extension

variable (e : Extension)

/-- The attribute as it is written. -/
def text : Text := attr e.key e.value

theorem comma_not_mem_text : ',' ∉ e.text :=
  comma_not_mem_attr (fun h => absurd (h ▸ e.letter) (by decide)) e.plain

theorem splitOnce_text : e.text.splitOnce '=' = some ([e.key], e.value) :=
  splitOnce_attr (fun h => absurd (h ▸ e.letter) (by decide)) e.value

end Extension

/-- Extensions as they follow an attribute. -/
def extensionsText (extensions : List Extension) : Text :=
  (extensions.map Extension.text).flatMap (',' :: ·)

theorem foldlM_eq_of_forall {σ : Type} {f : σ → Text → Except Text σ} {found : σ}
    {items : List Text} (h : ∀ item ∈ items, f found item = .ok found) :
    items.foldlM f found = .ok found := by
  induction items with
  | nil => rfl
  | cons item items ih =>
    rw [foldlM_cons, h item mem_cons_self]
    exact ih fun i hi => h i (mem_cons_of_mem _ hi)

/-- An extension of client-first is passed over. -/
theorem clientFirstItem_extension {e : Extension} (h : e.key ≠ 'n' ∧ e.key ≠ 'r')
    (found : Option Text × Option Text) : clientFirstItem found e.text = .ok found := by
  rw [clientFirstItem, e.splitOnce_text]
  change (if [e.key] = "n".toList then _ else if [e.key] = "r".toList then _ else _) = _
  rw [if_neg (by simpa using h.1), if_neg (by simpa using h.2)]
  rfl

/-- An extension of client-final is passed over. -/
theorem clientFinalItem_extension {e : Extension} (h : e.key ≠ 'c' ∧ e.key ≠ 'r' ∧ e.key ≠ 'p')
    (found : FinalItems) : clientFinalItem found e.text = .ok found := by
  rw [clientFinalItem, e.splitOnce_text]
  change (if [e.key] = "c".toList then _ else if [e.key] = "r".toList then _
    else if [e.key] = "p".toList then _ else _) = _
  rw [if_neg (by simpa using h.1), if_neg (by simpa using h.2.1), if_neg (by simpa using h.2.2)]
  rfl

/-- Client-final with its attributes in order is taken for what it is. -/
theorem parseScramClientFinal_ordered {c r p : Text} (extensions : List Extension)
    (hc : ',' ∉ c) (hr : ',' ∉ r) (hp : ',' ∉ p)
    (h : ∀ e ∈ extensions, e.key ≠ 'c' ∧ e.key ≠ 'r' ∧ e.key ≠ 'p') :
    parseScramClientFinal ("c=" ++ c ++ ",r=" ++ r ++ extensionsText extensions ++ ",p=" ++ p) =
      .ok ⟨c, r, p⟩ := by
  have hpieces : ∀ piece ∈ attr 'r' r :: extensions.map Extension.text ++ [attr 'p' p],
      ',' ∉ piece := by
    intro piece hpiece
    simp only [cons_append, mem_cons, mem_append, mem_map, not_mem_nil, or_false] at hpiece
    rcases hpiece with rfl | ⟨e, -, rfl⟩ | rfl
    · exact comma_not_mem_attr (by decide) hr
    · exact e.comma_not_mem_text
    · exact comma_not_mem_attr (by decide) hp
  have htext : ("c=" ++ c ++ ",r=" ++ r ++ extensionsText extensions ++ ",p=" ++ p : Text) =
      attr 'c' c ++ (attr 'r' r :: extensions.map Extension.text ++
        [attr 'p' p]).flatMap (',' :: ·) := by
    simp [extensionsText, attr]
  have hfirst : ',' ∉ attr 'c' c := comma_not_mem_attr (by decide) hc
  rw [htext, parseScramClientFinal, Text.splitOn_flatMap hfirst hpieces]
  have hfold : (attr 'c' c :: (attr 'r' r :: extensions.map Extension.text ++
      [attr 'p' p])).foldlM clientFinalItem {} = .ok ⟨some c, some r, some p⟩ := by
    change foldlM clientFinalItem ⟨some c, none, none⟩ _ = _
    rw [cons_append, foldlM_cons]
    change foldlM clientFinalItem ⟨some c, some r, none⟩ _ = _
    rw [foldlM_append, foldlM_eq_of_forall]
    · rfl
    · intro item hitem
      obtain ⟨e, he, rfl⟩ := mem_map.1 hitem
      exact clientFinalItem_extension (h e he) _
  rw [hfold]
  rfl

/-! ### Soundness -/

/-- The proof is one for the text: taken together with the signature of the text under the stored
key, it is the key whose hash is stored. -/
def ProofHolds (P : Primitives) (verifier : ScramVerifier) (authMessage proof : Text) : Prop :=
  ∃ clientProof, (P.base64Decode proof).bind digestOf = some clientProof ∧
    P.sha256 (xor clientProof (P.hmacSha256 verifier.storedKey.toList (utf8 authMessage))).toList =
      verifier.storedKey

theorem verifyScramProof_ok_iff {P : Primitives} {verifier : ScramVerifier}
    {authMessage proof : Text} {u : Unit} :
    verifyScramProof P verifier authMessage proof = .ok u ↔
      ProofHolds P verifier authMessage proof := by
  unfold verifyScramProof ProofHolds
  simp only [bind_eq_ok_iff, orError_eq_ok_iff, ensure_eq_ok_iff, beq_iff_eq,
    Option.bind_eq_some_iff]
  exact ⟨fun ⟨bytes, hbytes, digest, hdigest, hkey⟩ => ⟨digest, ⟨bytes, hbytes, hdigest⟩, hkey⟩,
    fun ⟨digest, ⟨bytes, hbytes, hdigest⟩, hkey⟩ => ⟨bytes, hbytes, digest, hdigest, hkey⟩⟩

/-- The text that is signed is the one that was exchanged: client-first without its header,
server-first and client-final without its proof, with commas between them. -/
def Exchange.Exact (x : Exchange) : Prop :=
  ∃ withoutProof, x.clientFinal = withoutProof ++ ",p=" ++ x.final.proof ∧
    x.authMessage = x.first.bare ++ "," ++ x.serverFirst ++ "," ++ withoutProof

/-- Client-final as PostgreSQL clients write it: three attributes, in this order. -/
def Ordered (clientFinal : Text) : Prop :=
  ∃ c r p, ',' ∉ c ∧ ',' ∉ r ∧ ',' ∉ p ∧ clientFinal = "c=" ++ c ++ ",r=" ++ r ++ ",p=" ++ p

theorem exact_iff_ordered {x : Exchange} (h : parseScramClientFinal x.clientFinal = .ok x.final) :
    x.Exact ↔ Ordered x.clientFinal := by
  constructor
  · rintro ⟨withoutProof, htext, hmessage⟩
    have hwithout : withoutProof =
        ("c=" ++ x.final.channelBinding ++ ",r=" ++ x.final.nonce : Text) := by
      have hsigned : (x.first.bare ++ "," ++ x.serverFirst ++ "," : Text) ++ withoutProof =
          (x.first.bare ++ "," ++ x.serverFirst ++ "," : Text) ++
            ("c=" ++ x.final.channelBinding ++ ",r=" ++ x.final.nonce) := by
        rw [← hmessage, Exchange.authMessage]
        simp
      exact append_cancel_left hsigned
    obtain ⟨hc, hr, hp⟩ := plain_of_parseScramClientFinal h
    exact ⟨_, _, _, hc, hr, hp, by rw [htext, hwithout]⟩
  · rintro ⟨c, r, p, hc, hr, hp, htext⟩
    have hparse := parseScramClientFinal_ordered [] hc hr hp nofun
    have hfinal : x.final = ⟨c, r, p⟩ := by
      refine Except.ok.inj (h.symm.trans (Eq.trans ?_ hparse))
      rw [htext]
      simp [extensionsText]
    refine ⟨"c=" ++ c ++ ",r=" ++ r, ?_, ?_⟩
    · rw [htext, hfinal]
    · rw [Exchange.authMessage, hfinal]
      simp

section

variable {P : Primitives} {username serverNonce : Text} {verifier : ScramVerifier} {max : Nat}
  {reads later rest : List (List Byte)} {initial final : FrontendFrame} {first : ClientFirst}
  {x : Exchange}

/-- Client-first is its header and the rest. -/
theorem eq_of_parseScramClientFirst {message : Text}
    (h : parseScramClientFirst message = .ok first) : message = "n,," ++ first.bare := by
  obtain ⟨_, hheader, h⟩ := bind_eq_ok_iff.1 h
  obtain ⟨⟨_, _⟩, -, h⟩ := bind_eq_ok_iff.1 h
  obtain ⟨_, -, h⟩ := bind_eq_ok_iff.1 h
  obtain ⟨_, -, h⟩ := bind_eq_ok_iff.1 h
  obtain rfl := Except.ok.inj h
  exact (prefix_iff_eq_append.1
    ( isPrefixOf_iff_prefix.1 (ensure_eq_ok_iff.1 hheader))).symm

/-- The client's first message, as it was read. -/
theorem readClientFirst_eq_ok (h : readClientFirst username initial = .ok first) :
    parseScramInitialResponse initial.payload = .ok (scramMechanism, "n,," ++ first.bare) ∧
      parseScramClientFirst ("n,," ++ first.bare) = .ok first ∧ first.username = username := by
  obtain ⟨payload, hpayload, h⟩ := bind_eq_ok_iff.1 h
  obtain ⟨_, -, hpayload⟩ := bind_eq_ok_iff.1 hpayload
  obtain rfl := Except.ok.inj hpayload
  obtain ⟨⟨mechanism, clientFirst⟩, hinitial, h⟩ := bind_eq_ok_iff.1 h
  obtain ⟨_, hmechanism, h⟩ := bind_eq_ok_iff.1 h
  obtain ⟨first', hparse, h⟩ := bind_eq_ok_iff.1 h
  obtain ⟨_, husername, h⟩ := bind_eq_ok_iff.1 h
  obtain rfl := Except.ok.inj h
  obtain rfl := eq_of_beq (ensure_eq_ok_iff.1 hmechanism)
  obtain rfl := eq_of_parseScramClientFirst hparse
  exact ⟨hinitial, hparse, eq_of_beq (ensure_eq_ok_iff.1 husername)⟩

/-- The client's second message, as it was read. -/
theorem readClientFinal_eq_ok (h : readClientFinal P verifier first serverNonce final = .ok x) :
    x.first = first ∧ x.serverFirst = serverFirstText P verifier first.nonce serverNonce ∧
      decodeUtf8 final.payload = some x.clientFinal ∧
      parseScramClientFinal x.clientFinal = .ok x.final ∧
      x.final.channelBinding = "biws" ∧ x.final.nonce = first.nonce ++ serverNonce := by
  obtain ⟨payload, hpayload, h⟩ := bind_eq_ok_iff.1 h
  obtain ⟨_, -, hpayload⟩ := bind_eq_ok_iff.1 hpayload
  obtain rfl := Except.ok.inj hpayload
  obtain ⟨clientFinal, htext, h⟩ := bind_eq_ok_iff.1 h
  obtain ⟨parsed, hparsed, h⟩ := bind_eq_ok_iff.1 h
  obtain ⟨_, hbinding, h⟩ := bind_eq_ok_iff.1 h
  obtain ⟨_, hnonce, h⟩ := bind_eq_ok_iff.1 h
  obtain rfl := Except.ok.inj h
  exact ⟨rfl, rfl, orError_eq_ok_iff.1 htext, hparsed, eq_of_beq (ensure_eq_ok_iff.1 hbinding),
    eq_of_beq (ensure_eq_ok_iff.1 hnonce)⟩

/-- What a client is sent that is authenticated. -/
theorem authenticateScram_of_holds
    (hinitial : readAuthenticationFrame max [] reads = .ok (initial, later))
    (hfirst : readClientFirst username initial = .ok first)
    (hfinal : readAuthenticationFrame max [] later = .ok (final, rest))
    (hx : readClientFinal P verifier first serverNonce final = .ok x)
    (hproof : ProofHolds P verifier x.authMessage x.final.proof) :
    authenticateScram P max username (.ok (some (.scramSha256 verifier))) serverNonce reads =
      .ok (.authenticated, [.saslRequest, .saslContinue x.serverFirst, .saslFinal ("v=" ++
        P.base64Encode (scramServerSignature P verifier x.authMessage).toList), .ok]) := by
  have hverify : verifyScramProof P verifier x.authMessage x.final.proof = .ok () :=
    verifyScramProof_ok_iff.2 hproof
  simp only [authenticateScram, hinitial, hfirst, hfinal, hx, hverify, bind, Except.bind]
  rfl

/-- A client is authenticated if both messages can be read and the proof holds. -/
theorem authenticated_iff :
    (∃ sent, authenticateScram P max username (.ok (some (.scramSha256 verifier))) serverNonce
      reads = .ok (.authenticated, sent)) ↔
    ∃ initial later first final rest x,
      readAuthenticationFrame max [] reads = .ok (initial, later) ∧
      readClientFirst username initial = .ok first ∧
      readAuthenticationFrame max [] later = .ok (final, rest) ∧
      readClientFinal P verifier first serverNonce final = .ok x ∧
      ProofHolds P verifier x.authMessage x.final.proof := by
  constructor
  · rintro ⟨sent, h⟩
    obtain ⟨⟨initial, later⟩, hinitial, h⟩ := bind_eq_ok_iff.1 h
    obtain ⟨first, hfirst, h⟩ := bind_eq_ok_iff.1 h
    obtain ⟨⟨final, rest⟩, hfinal, h⟩ := bind_eq_ok_iff.1 h
    obtain ⟨x, hx, h⟩ := bind_eq_ok_iff.1 h
    refine ⟨initial, later, first, final, rest, x, hinitial, hfirst, hfinal, hx, ?_⟩
    cases hproof : verifyScramProof P verifier x.authMessage x.final.proof with
    | error e =>
      simp only [hproof] at h
      cases h
    | ok u => exact verifyScramProof_ok_iff.1 hproof
  · rintro ⟨initial, later, first, final, rest, x, hinitial, hfirst, hfinal, hx, hproof⟩
    exact ⟨_, authenticateScram_of_holds hinitial hfirst hfinal hx hproof⟩

end

/-! ### Completeness -/

/-- The payload of a frame with client-first. -/
def initialPayload (clientFirst : Text) : List Byte :=
  utf8 scramMechanism ++ [0] ++ i32ToBytes (utf8 clientFirst).length ++ utf8 clientFirst

theorem readCstr_utf8 {value : Text} (h : ∀ b ∈ utf8 value, (b != 0) = true) (rest : List Byte) :
    readCstr (utf8 value ++ 0 :: rest) = .ok (value, rest) := by
  rw [readCstr, dropWhile_append_of_pos h, takeWhile_append_of_pos h]
  change (orError _ (decodeUtf8 (utf8 value ++ [])) >>= fun value => pure (value, rest)) = _
  rw [append_nil, decodeUtf8_utf8]
  rfl

/-- Client-first is read back, if it fits into a frame. -/
theorem parse_initialPayload {clientFirst : Text} (h : (utf8 clientFirst).length < 2 ^ 31) :
    parseScramInitialResponse (initialPayload clientFirst) = .ok (scramMechanism, clientFirst) := by
  have hcstr : readCstr (initialPayload clientFirst) = .ok (scramMechanism,
      i32ToBytes (utf8 clientFirst).length ++ utf8 clientFirst) := by
    have hmechanism : ∀ b ∈ utf8 scramMechanism, (b != 0) = true := by decide +kernel
    rw [← readCstr_utf8 hmechanism, initialPayload]
    simp
  have hlength : readI32 (i32ToBytes (utf8 clientFirst).length ++ utf8 clientFirst) =
      some ((utf8 clientFirst).length : Int) := congrArg some (i32FromBytes_toBytes h)
  have hrest : (i32ToBytes (utf8 clientFirst).length ++ utf8 clientFirst).drop 4 =
      utf8 clientFirst := rfl
  refine bind_eq_ok_iff.2 ⟨_, hcstr, bind_eq_ok_iff.2 ⟨_, orError_eq_ok_iff.2 hlength, ?_⟩⟩
  refine bind_eq_ok_iff.2 ⟨(), ensure_eq_ok_iff.2 (decide_eq_true (Int.natCast_nonneg _)), ?_⟩
  rw [hrest, Int.toNat_natCast]
  refine bind_eq_ok_iff.2 ⟨(), ensure_eq_ok_iff.2 (decide_eq_true (Nat.le_refl _)), ?_⟩
  refine bind_eq_ok_iff.2 ⟨_, orError_eq_ok_iff.2 ?_, rfl⟩
  rw [take_length, decodeUtf8_utf8]

theorem digestOf_toList (digest : Digest) : digestOf digest.toList = some digest := by
  have hlength : digest.toList.length = 32 := digest.length_toList
  rw [digestOf, dif_pos hlength]
  rfl

/-- **A client that keeps to the protocol**, with the user name it sends, which need not be its
own. `bindingSupported` is the flag `y`: the client could bind to a channel, but was offered no
mechanism for it. -/
structure Client where
  password : Text
  name : Text
  nonce : Text
  bindingSupported : Bool
  firstExtensions : List Extension
  finalExtensions : List Extension
  plain : ',' ∉ nonce
  firstKeys : ∀ e ∈ firstExtensions, e.key ≠ 'n' ∧ e.key ≠ 'r'
  finalKeys : ∀ e ∈ finalExtensions, e.key ≠ 'c' ∧ e.key ≠ 'r' ∧ e.key ≠ 'p'

namespace Client

variable (client : Client) (P : Primitives) (verifier : ScramVerifier) (serverNonce : Text)

/-- The GS2 header. -/
def header : Text := if client.bindingSupported then "y,," else "n,,"

/-- Client-first without its header. -/
def firstBare : Text :=
  "n=" ++ scramEscape client.name ++ ",r=" ++ client.nonce ++ extensionsText client.firstExtensions

/-- The frame with client-first. -/
def initial : FrontendFrame where
  tag := passwordMessageTag
  payload := initialPayload (client.header ++ client.firstBare)

/-- Client-final without its proof, with extensions. -/
def withoutProof (extensions : List Extension) : Text :=
  "c=" ++ P.base64Encode (utf8 client.header) ++ ",r=" ++ (client.nonce ++ serverNonce) ++
    extensionsText extensions

/-- The text that is signed, with extensions. -/
def authMessage (extensions : List Extension) : Text :=
  client.firstBare ++ "," ++ serverFirstText P verifier client.nonce serverNonce ++ "," ++
    client.withoutProof P serverNonce extensions

/-- The client's key, from its password and what server-first says. -/
def key : Digest := P.clientKey (P.pbkdf2 (utf8 client.password) verifier.salt verifier.iterations)

/-- The proof that the client knows its key. -/
def proof : Digest :=
  xor (client.key P verifier) (P.hmacSha256 (P.sha256 (client.key P verifier).toList).toList
    (utf8 (client.authMessage P verifier serverNonce client.finalExtensions)))

/-- The frame with client-final. -/
def final : FrontendFrame where
  tag := passwordMessageTag
  payload := utf8 (client.withoutProof P serverNonce client.finalExtensions ++ ",p=" ++
    P.base64Encode (client.proof P verifier serverNonce).toList)

/-- **The messages are frames**: their lengths are `i32`. -/
structure Fits : Prop where
  initial : client.initial.payload.length + 4 < 2 ^ 31
  final : (client.final P verifier serverNonce).payload.length + 4 < 2 ^ 31

/-- The messages fit into the buffer that they are read into. -/
structure Buffered (link : Link) : Prop where
  initial : (passwordMessage client.initial.payload).length ≤ link.maxClientBufferBytes
  final : (passwordMessage (client.final P verifier serverNonce).payload).length ≤
    link.maxClientBufferBytes

/-- What is read from the client. -/
def reads (link : Link) : List (List Byte) :=
  link.division (passwordMessage client.initial.payload) ++
    link.division (passwordMessage (client.final P verifier serverNonce).payload)

/-- The client knows the password of the verifier. -/
def Knows : Prop := P.sha256 (client.key P verifier).toList = verifier.storedKey

variable {client P verifier serverNonce} {username : Text}

theorem parse_first (h : client.bindingSupported = false) :
    parseScramClientFirst (client.header ++ client.firstBare) =
      .ok ⟨client.firstBare, client.name, client.nonce⟩ := by
  have hname : ',' ∉ attr 'n' (scramEscape client.name) :=
    comma_not_mem_attr (by decide) (comma_not_mem_scramEscape _)
  have hpieces : ∀ piece ∈ attr 'r' client.nonce :: client.firstExtensions.map Extension.text,
      ',' ∉ piece := by
    intro piece hpiece
    rcases mem_cons.1 hpiece with rfl | hpiece
    · exact comma_not_mem_attr (by decide) client.plain
    · obtain ⟨e, -, rfl⟩ := mem_map.1 hpiece
      exact e.comma_not_mem_text
  have hbare : client.firstBare = attr 'n' (scramEscape client.name) ++
      (attr 'r' client.nonce :: client.firstExtensions.map Extension.text).flatMap (',' :: ·) := by
    simp [firstBare, extensionsText, attr]
  have hfold : (attr 'n' (scramEscape client.name) :: attr 'r' client.nonce ::
      client.firstExtensions.map Extension.text).foldlM clientFirstItem (none, none) =
      .ok (some client.name, some client.nonce) := by
    have hn : clientFirstItem (none, none) (attr 'n' (scramEscape client.name)) =
        .ok (some client.name, none) := by
      refine bind_eq_ok_iff.2 ⟨_, orError_eq_ok_iff.2 (splitOnce_attr (by decide) _), ?_⟩
      exact bind_eq_ok_iff.2 ⟨_, scramUnescape_escape client.name, rfl⟩
    rw [foldlM_cons, hn]
    change foldlM clientFirstItem (some client.name, some client.nonce) _ = _
    refine foldlM_eq_of_forall fun item hitem => ?_
    obtain ⟨e, he, rfl⟩ := mem_map.1 hitem
    exact clientFirstItem_extension (client.firstKeys e he) _
  have hheader : client.header = "n,," := by rw [header, h]; rfl
  have hdrop : (client.header ++ client.firstBare).drop 3 = client.firstBare := by
    rw [hheader]
    rfl
  refine bind_eq_ok_iff.2 ⟨(), ensure_eq_ok_iff.2 ?_, ?_⟩
  · rw [hheader]
    exact isPrefixOf_iff_prefix.2 (prefix_append _ _)
  · rw [hdrop]
    refine bind_eq_ok_iff.2 ⟨(some client.name, some client.nonce), ?_, rfl⟩
    rw [hbare, Text.splitOn_flatMap hname hpieces]
    exact hfold

/-- The first message of the client is read if it has the header and the name that are expected. -/
theorem readClientFirst_iff (hfits : client.initial.payload.length + 4 < 2 ^ 31)
    {first : ClientFirst} :
    readClientFirst username client.initial = .ok first ↔
      client.bindingSupported = false ∧ client.name = username ∧
        first = ⟨client.firstBare, client.name, client.nonce⟩ := by
  have hinitial : parseScramInitialResponse client.initial.payload =
      .ok (scramMechanism, client.header ++ client.firstBare) := by
    refine parse_initialPayload ?_
    rw [initial, initialPayload, length_append] at hfits
    omega
  constructor
  · intro h
    obtain ⟨hparse, hfirst, husername⟩ := readClientFirst_eq_ok h
    have htext := (Prod.mk.inj (Except.ok.inj (hparse.symm.trans hinitial))).2
    have hheader : client.bindingSupported = false := by
      by_contra hsupported
      rw [header, if_pos (Bool.of_not_eq_false hsupported)] at htext
      cases htext
    rw [htext] at hfirst
    obtain rfl := Except.ok.inj (hfirst.symm.trans (parse_first hheader))
    exact ⟨hheader, husername, rfl⟩
  · rintro ⟨hheader, hname, rfl⟩
    refine bind_eq_ok_iff.2 ⟨_, rfl, bind_eq_ok_iff.2 ⟨_, hinitial, ?_⟩⟩
    refine bind_eq_ok_iff.2 ⟨(), ensure_eq_ok_iff.2 (beq_self_eq_true _), ?_⟩
    refine bind_eq_ok_iff.2 ⟨_, parse_first hheader, ?_⟩
    exact bind_eq_ok_iff.2 ⟨(), ensure_eq_ok_iff.2 (beq_iff_eq.2 hname), rfl⟩

/-- The exchange with a client whose header is `n,,`. -/
def exchange (client : Client) (P : Primitives) (verifier : ScramVerifier) (serverNonce : Text) :
    Exchange where
  first := ⟨client.firstBare, client.name, client.nonce⟩
  serverFirst := serverFirstText P verifier client.nonce serverNonce
  clientFinal := client.withoutProof P serverNonce client.finalExtensions ++ ",p=" ++
    P.base64Encode (client.proof P verifier serverNonce).toList
  final := ⟨"biws", client.nonce ++ serverNonce,
    P.base64Encode (client.proof P verifier serverNonce).toList⟩

/-- The header as client-final repeats it. -/
theorem encode_header (hP : P.IsBase64) (hheader : client.bindingSupported = false) :
    P.base64Encode (utf8 client.header) = "biws" := by
  rw [header, hheader]
  exact hP.header

theorem readClientFinal_eq (hP : P.IsBase64) (hnonce : ',' ∉ serverNonce)
    (hheader : client.bindingSupported = false) :
    readClientFinal P verifier ⟨client.firstBare, client.name, client.nonce⟩ serverNonce
      (client.final P verifier serverNonce) = .ok (client.exchange P verifier serverNonce) := by
  have hbinding := encode_header hP hheader
  have hcombined : ',' ∉ client.nonce ++ serverNonce := by
    rw [mem_append, not_or]
    exact ⟨client.plain, hnonce⟩
  have hparse := parseScramClientFinal_ordered client.finalExtensions
    (hP.comma_not_mem (utf8 client.header)) hcombined
    (hP.comma_not_mem (client.proof P verifier serverNonce).toList) client.finalKeys
  refine bind_eq_ok_iff.2 ⟨_, rfl, ?_⟩
  refine bind_eq_ok_iff.2 ⟨_, orError_eq_ok_iff.2 (decodeUtf8_utf8 _), ?_⟩
  refine bind_eq_ok_iff.2 ⟨_, hparse, ?_⟩
  rw [hbinding]
  refine bind_eq_ok_iff.2 ⟨(), ensure_eq_ok_iff.2 (beq_self_eq_true _), ?_⟩
  exact bind_eq_ok_iff.2 ⟨(), ensure_eq_ok_iff.2 (beq_self_eq_true _), rfl⟩

/-- The text that is signed is the client's without its extensions. -/
theorem authMessage_exchange (hP : P.IsBase64) (hheader : client.bindingSupported = false) :
    (client.exchange P verifier serverNonce).authMessage =
      client.authMessage P verifier serverNonce [] := by
  have hbinding := encode_header hP hheader
  rw [Exchange.authMessage, authMessage, withoutProof, hbinding]
  simp [exchange, extensionsText]

/-- The proof of a client that knows the password holds for the text it has signed. -/
theorem proofHolds (hP : P.IsBase64) (hknows : client.Knows P verifier) (serverNonce : Text) :
    ProofHolds P verifier (client.authMessage P verifier serverNonce client.finalExtensions)
      (P.base64Encode (client.proof P verifier serverNonce).toList) := by
  refine ⟨client.proof P verifier serverNonce, ?_, ?_⟩
  · rw [hP.decode_encode, Option.bind_some, digestOf_toList]
  · have hkey : P.sha256 (client.key P verifier).toList = verifier.storedKey := hknows
    rw [proof, hkey, xor_xor_cancel, hkey]

/-- What is read of the client's two messages. -/
theorem reads_iff {link : Link} (hfits : client.Fits P verifier serverNonce)
    {initial final : FrontendFrame} {later rest : List (List Byte)} :
    (readAuthenticationFrame link.maxClientBufferBytes []
        (client.reads P verifier serverNonce link) = .ok (initial, later) ∧
      readAuthenticationFrame link.maxClientBufferBytes [] later = .ok (final, rest)) ↔
    client.Buffered P verifier serverNonce link ∧ initial = client.initial ∧
      later = link.division (passwordMessage (client.final P verifier serverNonce).payload) ∧
      final = client.final P verifier serverNonce ∧ rest = [] := by
  have hsecond : ∀ result, readAuthenticationFrame link.maxClientBufferBytes []
      (link.division (passwordMessage (client.final P verifier serverNonce).payload)) =
        .ok result ↔
      (passwordMessage (client.final P verifier serverNonce).payload).length ≤
        link.maxClientBufferBytes ∧ result = (client.final P verifier serverNonce, []) := by
    intro result
    have hread := @Link.read_iff link _ hfits.final [] result
    rwa [append_nil] at hread
  rw [reads, link.read_iff hfits.initial, Prod.mk.injEq]
  constructor
  · rintro ⟨⟨hroom, rfl, rfl⟩, hlater⟩
    obtain ⟨hroom', hresult⟩ := (hsecond _).1 hlater
    obtain ⟨rfl, rfl⟩ := Prod.mk.inj hresult
    exact ⟨⟨hroom, hroom'⟩, rfl, rfl, rfl, rfl⟩
  · rintro ⟨hbuffered, rfl, rfl, rfl, rfl⟩
    exact ⟨⟨hbuffered.initial, rfl, rfl⟩, (hsecond _).2 ⟨hbuffered.final, rfl⟩⟩

/-- A client that knows the password is authenticated exactly if its header is `n,,`, it names the
startup user, its messages fit into the buffer, and its proof holds for the text without
extensions. -/
theorem authenticated_iff (hP : P.IsBase64) (hknows : client.Knows P verifier) {link : Link}
    (hfits : client.Fits P verifier serverNonce) (hnonce : ',' ∉ serverNonce) :
    (∃ sent, authenticateScram P link.maxClientBufferBytes username
      (.ok (some (.scramSha256 verifier))) serverNonce (client.reads P verifier serverNonce link) =
        .ok (.authenticated, sent)) ↔
    client.bindingSupported = false ∧ client.name = username ∧
      client.Buffered P verifier serverNonce link ∧
      (client.finalExtensions = [] ∨
        ProofHolds P verifier (client.authMessage P verifier serverNonce [])
          (P.base64Encode (client.proof P verifier serverNonce).toList)) := by
  rw [ClientAuth.authenticated_iff]
  constructor
  · rintro ⟨initial, later, first, final, rest, x, hinitial, hfirst, hfinal, hx, hproof⟩
    obtain ⟨hbuffered, rfl, rfl, rfl, rfl⟩ := (reads_iff hfits).1 ⟨hinitial, hfinal⟩
    obtain ⟨hheader, hname, rfl⟩ := (readClientFirst_iff hfits.initial).1 hfirst
    obtain rfl := Except.ok.inj (hx.symm.trans (readClientFinal_eq hP hnonce hheader))
    rw [authMessage_exchange hP hheader] at hproof
    exact ⟨hheader, hname, hbuffered, .inr hproof⟩
  · rintro ⟨hheader, hname, hbuffered, hproof⟩
    obtain ⟨hinitial, hfinal⟩ := (reads_iff hfits).2 ⟨hbuffered, rfl, rfl, rfl, rfl⟩
    refine ⟨_, _, _, _, _, _, hinitial,
      (readClientFirst_iff hfits.initial).2 ⟨hheader, hname, rfl⟩, hfinal,
      readClientFinal_eq hP hnonce hheader, ?_⟩
    rw [authMessage_exchange hP hheader]
    rcases hproof with hnone | hproof
    · have hholds := proofHolds hP hknows serverNonce
      rwa [hnone] at hholds
    · exact hproof

end Client

/-- **The texts of an exchange are those that went over the wire**: client-first and client-final
as they were read, server-first as it was sent, and client-final taken for what it says. -/
structure Exchange.WasSent (x : Exchange) (max : Nat) (reads : List (List Byte))
    (sent : List ServerMessage) : Prop where
  frames : ∃ initial later final rest,
    readAuthenticationFrame max [] reads = .ok (initial, later) ∧
    parseScramInitialResponse initial.payload = .ok (scramMechanism, "n,," ++ x.first.bare) ∧
    readAuthenticationFrame max [] later = .ok (final, rest) ∧
    decodeUtf8 final.payload = some x.clientFinal
  serverFirst : .saslContinue x.serverFirst ∈ sent
  final : parseScramClientFinal x.clientFinal = .ok x.final

/-- **Whom SCRAM authenticates.** A client is authenticated only with a proof that holds for the
text put together from its attributes, which is the text that was exchanged exactly if client-final
is ordered. A client that keeps to the protocol and knows the password is authenticated exactly if
its header is `n,,`, it names the startup user, its messages fit into the buffer, and client-final
has no extensions (or its proof holds without them all the same). -/
theorem client_scram_iff {P : Primitives} (hP : P.IsBase64) (verifier : ScramVerifier)
    (username : Text) {serverNonce : Text} (hnonce : ',' ∉ serverNonce) :
    (∀ max reads sent,
      authenticateScram P max username (.ok (some (.scramSha256 verifier))) serverNonce reads =
        .ok (.authenticated, sent) →
      ∃ x : Exchange, x.WasSent max reads sent ∧
        ProofHolds P verifier x.authMessage x.final.proof ∧ (x.Exact ↔ Ordered x.clientFinal)) ∧
    ∀ (link : Link) (client : Client), client.Knows P verifier →
      client.Fits P verifier serverNonce →
      ((∃ sent, authenticateScram P link.maxClientBufferBytes username
        (.ok (some (.scramSha256 verifier))) serverNonce
        (client.reads P verifier serverNonce link) = .ok (.authenticated, sent)) ↔
      client.bindingSupported = false ∧ client.name = username ∧
        client.Buffered P verifier serverNonce link ∧
        (client.finalExtensions = [] ∨
          ProofHolds P verifier (client.authMessage P verifier serverNonce [])
            (P.base64Encode (client.proof P verifier serverNonce).toList))) := by
  refine ⟨fun max reads sent h => ?_, fun link client hknows hfits =>
    Client.authenticated_iff hP hknows hfits hnonce⟩
  obtain ⟨initial, later, first, final, rest, x, hinitial, hfirst, hfinal, hx, hproof⟩ :=
    authenticated_iff.1 ⟨sent, h⟩
  have hsent := authenticateScram_of_holds hinitial hfirst hfinal hx hproof
  obtain ⟨rfl, -, htext, hparsed, -, -⟩ := readClientFinal_eq_ok hx
  have heq := (Prod.mk.inj (Except.ok.inj (h.symm.trans hsent))).2
  refine ⟨x, ⟨⟨initial, later, final, rest, hinitial, (readClientFirst_eq_ok hfirst).1, hfinal,
    htext⟩, ?_, hparsed⟩, hproof, exact_iff_ordered hparsed⟩
  rw [heq]
  exact mem_cons_of_mem _ mem_cons_self

theorem firstKeys_nil : ∀ e ∈ ([] : List Extension), e.key ≠ 'n' ∧ e.key ≠ 'r' := nofun

theorem finalKeys_nil : ∀ e ∈ ([] : List Extension), e.key ≠ 'c' ∧ e.key ≠ 'r' ∧ e.key ≠ 'p' :=
  nofun

theorem plain_sampleNonce : ',' ∉ ("n" : Text) := by decide

/-- A client of user `u` with password `p`. -/
def sampleClient (name : Text) (bindingSupported : Bool) : Client where
  password := "p"
  name := name
  nonce := "n"
  bindingSupported := bindingSupported
  firstExtensions := []
  finalExtensions := []
  plain := plain_sampleNonce
  firstKeys := firstKeys_nil
  finalKeys := finalKeys_nil

/-- The keys of the password `p` with the salt `salt`. -/
def sampleStoredKey : Digest :=
  #v[0xd5, 0xd6, 0xc3, 0xb0, 0x34, 0x35, 0xa7, 0x90, 0xd9, 0xa3, 0x91, 0x73, 0xf9, 0x6e, 0x45, 0x80,
    0xe3, 0x4a, 0x76, 0x08, 0x02, 0x2b, 0x22, 0xdd, 0x0e, 0x16, 0xf1, 0x46, 0x85, 0xfa, 0xbc, 0x75]

@[inherit_doc sampleStoredKey]
def sampleServerKey : Digest :=
  #v[0xbe, 0xa4, 0xf9, 0xd0, 0xae, 0x5d, 0x30, 0xa7, 0x20, 0x1f, 0xca, 0xe0, 0x46, 0xf3, 0x32, 0xdb,
    0xc3, 0x41, 0xe0, 0xbb, 0xda, 0xcd, 0xf6, 0x48, 0x95, 0xf5, 0xe9, 0x73, 0x3f, 0x69, 0x75, 0xb5]

/-- The verifier of the password `p`. -/
def sampleVerifier : ScramVerifier where
  iterations := 1
  salt := utf8 "salt"
  storedKey := sampleStoredKey
  serverKey := sampleServerKey
  positive := by decide
  inRange := by decide

/-- What is read from a client of user `u`. -/
def sampleReads (name : Text) (bindingSupported : Bool) : List (List Byte) :=
  (sampleClient name bindingSupported).reads .standard sampleVerifier "s"
    (bytewise defaultMaxClientBufferBytes)

theorem knows_sampleClient (name : Text) (bindingSupported : Bool) :
    (sampleClient name bindingSupported).Knows .standard sampleVerifier := by
  have hkey : Sha256.sha256 (Primitives.standard.clientKey (pbkdf2Block Sha256.hmac (utf8 "p")
      (utf8 "salt") 1)).toList = sampleStoredKey := by decide +kernel
  exact hkey

theorem client_scram_sampleClient :
    ∃ sent, authenticateScram .standard defaultMaxClientBufferBytes "u"
      (.ok (some (.scramSha256 sampleVerifier))) "s" (sampleReads "u" false) =
        .ok (.authenticated, sent) := by
  have hinitial : (sampleClient "u" false).initial.payload.length = 28 := by decide +kernel
  have hfinal : ((sampleClient "u" false).final .standard sampleVerifier "s").payload.length =
      58 := by decide +kernel
  refine ((client_scram_iff Primitives.isBase64_standard sampleVerifier "u" (by decide)).2
    (bytewise defaultMaxClientBufferBytes) (sampleClient "u" false) (knows_sampleClient _ _)
    ⟨?_, ?_⟩).2 ⟨rfl, rfl, ⟨?_, ?_⟩, .inl rfl⟩
  · rw [hinitial]
    decide
  · rw [hfinal]
    decide
  · rw [length_passwordMessage, hinitial]
    decide
  · rw [length_passwordMessage, hfinal]
    decide

/-- Client-final with the nonce first, and a proof for the attributes in order. -/
def reorderedFinal : Text := "r=ns,c=biws,p=1dBN2iInWdq2MoK4OiewTGYLCvOSH+JpOMmcTED1Oo0="

/-- **A text that was never sent is signed, and clients are locked out.** A client whose
client-final has its attributes in another order is authenticated; one that leaves its name empty,
and one that could bind to a channel, are not, though they know the password. -/
theorem client_scram_mismatch :
    ((authenticateScram .standard defaultMaxClientBufferBytes "u"
      (.ok (some (.scramSha256 sampleVerifier))) "s"
      [passwordMessage (sampleClient "u" false).initial.payload,
        passwordMessage (utf8 reorderedFinal)]).map Prod.fst = .ok .authenticated ∧
      ¬Ordered reorderedFinal) ∧
    ∀ client ∈ [sampleClient "" false, sampleClient "u" true],
      client.Knows .standard sampleVerifier ∧
        (authenticateScram .standard defaultMaxClientBufferBytes "u"
          (.ok (some (.scramSha256 sampleVerifier))) "s" (client.reads .standard sampleVerifier "s"
            (bytewise defaultMaxClientBufferBytes))).toOption = none := by
  refine ⟨⟨by decide +kernel, ?_⟩, ?_⟩
  · rintro ⟨c, r, p, -, -, -, htext⟩
    have hhead := congrArg head? htext
    cases hhead
  · intro client hclient
    rcases mem_pair.1 hclient with rfl | rfl
    · exact ⟨knows_sampleClient _ _, by decide +kernel⟩
    · exact ⟨knows_sampleClient _ _, by decide +kernel⟩

end ClientAuth

end PgKinetic
