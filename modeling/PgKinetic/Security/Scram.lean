import PgKinetic.Lib.Base64
import PgKinetic.Lib.Fallible
import PgKinetic.Lib.Sha256
import PgKinetic.Wire.Frame

/-!
# SCRAM-SHA-256

What the two halves of the proxy's SCRAM share. As a client of a backend it is a
`BackendAuthSession`, as the server of a client it is `authenticate_scram`; both build on SHA-256,
HMAC, PBKDF2 and Base64, which are given (`Primitives`), derive keys from a salted password, and
take messages apart that are lists of attributes `key=value` with commas between them.

There are two implementations of PBKDF2: that of the `pbkdf2` crate in the client half, which is
one of the given functions and is assumed to be what RFC 8018 defines (`IsPbkdf2`), and a loop in
`secrets.rs` (`pbkdf2HmacSha256`).
-/

namespace PgKinetic

namespace Scram

open Fallible

/-! ### Bytes -/

/-- `str::as_bytes`. -/
def utf8 (t : Text) : List Byte := t.flatMap String.utf8EncodeChar

/-- `BufMut::put_i32` of a length that is cast to `i32`. -/
def i32ToBytes (n : Nat) : List Byte :=
  [UInt8.ofNat (n / 2 ^ 24), UInt8.ofNat (n / 2 ^ 16), UInt8.ofNat (n / 2 ^ 8), UInt8.ofNat n]

/-- `PASSWORD_MESSAGE_TAG`. -/
def passwordMessageTag : Byte := 'p'.toUInt8

/-- `password_message`. -/
def passwordMessage (payload : List Byte) : List Byte :=
  passwordMessageTag :: i32ToBytes (payload.length + 4) ++ payload

theorem length_passwordMessage (payload : List Byte) :
    (passwordMessage payload).length = payload.length + 5 := by
  simp [passwordMessage, i32ToBytes]

/-- `build_auth_message`, on the payload. -/
def buildAuthMessage (payload : List Byte) : List Byte :=
  BackendTag.authentication.byte :: i32ToBytes (payload.length + 4) ++ payload

/-- `hex_lower`. -/
def hexLower (bytes : List Byte) : Text :=
  let digit (n : Nat) : Char := "0123456789abcdef".toList.getD n '0'
  bytes.flatMap fun byte => [digit (byte.toNat / 16), digit (byte.toNat % 16)]

/-- What is written as UTF-8 is read back. -/
theorem decodeUtf8_utf8 (t : Text) : decodeUtf8 (utf8 t) = some t := by
  have hbytes : (⟨(utf8 t).toArray⟩ : ByteArray) = (String.ofList t).toByteArray :=
    ByteArray.ext List.data_toByteArray.symm
  rw [decodeUtf8, hbytes, String.fromUTF8?, dif_pos (String.ofList t).isValidUTF8]
  exact congrArg some String.toList_ofList

/-- A length that fits is read back. -/
theorem i32FromBytes_toBytes {n : Nat} (h : n < 2 ^ 31) :
    i32FromBytes (UInt8.ofNat (n / 2 ^ 24)) (UInt8.ofNat (n / 2 ^ 16)) (UInt8.ofNat (n / 2 ^ 8))
      (UInt8.ofNat n) = n := by
  unfold i32FromBytes
  simp only [UInt8.toNat_ofNat']
  split <;> omega

/-! ### Keys -/

/-- A SHA-256 digest. -/
abbrev Digest := Vector Byte 32

/-- `xor_arrays`, `xor_bytes` and `xor_in_place`. -/
def xor (a b : Digest) : Digest := a.zipWith (· ^^^ ·) b

theorem xor_xor_cancel (a b : Digest) : xor (xor a b) b = a := by
  refine Vector.ext fun i hi => ?_
  simp only [xor, Vector.getElem_zipWith]
  rw [UInt8.xor_assoc, UInt8.xor_self, UInt8.xor_zero]

theorem zero_xor (a : Digest) : xor (Vector.replicate 32 0) a = a := by
  refine Vector.ext fun i hi => ?_
  simp only [xor, Vector.getElem_zipWith, Vector.getElem_replicate]
  exact UInt8.zero_xor

/-- The results of HMAC that PBKDF2 adds up: the first is that of the salt and the number of the
block, each further one that of the one before. -/
def pbkdf2Round (hmac : (key data : List Byte) → Digest) (password salt : List Byte) : Nat → Digest
  | 0 => hmac password (salt ++ [0, 0, 0, 1])
  | n + 1 => hmac password (pbkdf2Round hmac password salt n).toList

/-- The first block of PBKDF2, as RFC 8018 defines it. -/
def pbkdf2Block (hmac : (key data : List Byte) → Digest) (password salt : List Byte)
    (iterations : Nat) : Digest :=
  ((List.range iterations).map (pbkdf2Round hmac password salt)).foldl xor (Vector.replicate 32 0)

theorem pbkdf2Block_succ (hmac : (key data : List Byte) → Digest) (password salt : List Byte)
    (n : Nat) :
    pbkdf2Block hmac password salt (n + 1) =
      xor (pbkdf2Block hmac password salt n) (pbkdf2Round hmac password salt n) := by
  rw [pbkdf2Block, List.range_succ, List.map_append, List.foldl_append]
  rfl

/-- The functions that SCRAM is built on. -/
structure Primitives where
  sha256 : List Byte → Digest
  hmacSha256 : (key data : List Byte) → Digest
  /-- `pbkdf2::pbkdf2_hmac::<Sha256>` with 32 bytes of output, which is one block. -/
  pbkdf2 : (password salt : List Byte) → (iterations : Nat) → Digest
  md5 : List Byte → Vector Byte 16
  /-- `STANDARD.encode`. -/
  base64Encode : List Byte → Text
  /-- `STANDARD.decode`. -/
  base64Decode : Text → Option (List Byte)

namespace Primitives

variable (P : Primitives)

/-- What PBKDF2 is to SCRAM: the function of RFC 8018 for HMAC with SHA-256. -/
def IsPbkdf2 : Prop :=
  ∀ password salt iterations, 0 < iterations →
    P.pbkdf2 password salt iterations = pbkdf2Block P.hmacSha256 password salt iterations

/-- What Base64 is to SCRAM: it can be read back, has no commas, and writes the header `n,,` as
PostgreSQL expects it. -/
structure IsBase64 : Prop where
  decode_encode : ∀ bytes, P.base64Decode (P.base64Encode bytes) = some bytes
  comma_not_mem : ∀ bytes, ',' ∉ P.base64Encode bytes
  header : P.base64Encode (utf8 "n,,") = "biws"

/-- One turn of the loop of `pbkdf2_hmac_sha256`, on `u` and `output`. -/
def pbkdf2Turn (password : List Byte) (vars : Digest × Digest) : Digest × Digest :=
  let u := P.hmacSha256 password vars.1.toList
  (u, xor vars.2 u)

/-- `pbkdf2_hmac_sha256` of `secrets.rs`. -/
def pbkdf2HmacSha256 (password salt : List Byte) (iterations : Nat) : Digest :=
  let u := P.hmacSha256 password (salt ++ [0, 0, 0, 1])
  ((P.pbkdf2Turn password)^[iterations - 1] (u, u)).2

/-- The key of the client, from the salted password. -/
def clientKey (salted : Digest) : Digest := P.hmacSha256 salted.toList (utf8 "Client Key")

/-- The key of the server, from the salted password. -/
def serverKey (salted : Digest) : Digest := P.hmacSha256 salted.toList (utf8 "Server Key")

/-- The variables of the loop after `n` turns: the last result of HMAC and the sum of them all. -/
theorem pbkdf2Turn_iterate (password salt : List Byte) (n : Nat) :
    (P.pbkdf2Turn password)^[n] (pbkdf2Round P.hmacSha256 password salt 0,
        pbkdf2Round P.hmacSha256 password salt 0) =
      (pbkdf2Round P.hmacSha256 password salt n,
        pbkdf2Block P.hmacSha256 password salt (n + 1)) := by
  induction n with
  | zero =>
    have hfirst : pbkdf2Block P.hmacSha256 password salt 1 =
        pbkdf2Round P.hmacSha256 password salt 0 := zero_xor _
    rw [hfirst, Function.iterate_zero, id]
  | succ n ih =>
    rw [Function.iterate_succ_apply', ih, pbkdf2Block_succ _ password salt (n + 1)]
    rfl

variable {P}

/-- **The two implementations of PBKDF2 agree.** -/
theorem IsPbkdf2.loop_eq (hP : P.IsPbkdf2) (password salt : List Byte) {iterations : Nat}
    (h : 0 < iterations) :
    P.pbkdf2HmacSha256 password salt iterations = P.pbkdf2 password salt iterations := by
  have hloop := pbkdf2Turn_iterate P password salt (iterations - 1)
  rw [Nat.sub_add_cancel h] at hloop
  rw [hP password salt iterations h]
  exact congrArg Prod.snd hloop

/-- The functions themselves, but for MD5, which SCRAM does not use. -/
def standard : Primitives where
  sha256 := Sha256.sha256
  hmacSha256 := Sha256.hmac
  pbkdf2 := pbkdf2Block Sha256.hmac
  md5 _ := Vector.replicate 16 0
  base64Encode := Base64.encode
  base64Decode := Base64.decode

theorem isPbkdf2_standard : standard.IsPbkdf2 := fun _ _ _ _ => rfl

theorem isBase64_standard : standard.IsBase64 where
  decode_encode := Base64.decode_encode
  comma_not_mem := Base64.not_mem_encode (by decide) (by decide)
  header := by decide +kernel

end Primitives

/-! ### Texts -/

/-- `SCRAM_MECHANISM`. -/
def scramMechanism : Text := "SCRAM-SHA-256"

/-- `scram_attribute`. -/
def scramAttribute (message : Text) (key : Char) : Except Text Text :=
  orError ("SCRAM message is missing " ++ [key] ++ " attribute")
    ((message.splitOn ',').findSome? (Text.stripLeading · [key, '=']))

/-- `scram_escape`. -/
def scramEscape (value : Text) : Text :=
  (value.flatMap fun c => if c = '=' then "=3D".toList else [c]).flatMap fun c =>
    if c = ',' then "=2C".toList else [c]

/-- `scram_unescape`. -/
def scramUnescape : Text → Except Text Text
  | [] => .ok []
  | c :: rest =>
    if c ≠ '=' then do
      let output ← scramUnescape rest
      .ok (c :: output)
    else
      match rest with
      | first :: second :: rest =>
        if first = '2' ∧ second = 'C' then do
          let output ← scramUnescape rest
          .ok (',' :: output)
        else if first = '3' ∧ second = 'D' then do
          let output ← scramUnescape rest
          .ok ('=' :: output)
        else .error "SCRAM escape sequence is invalid"
      | _ => .error "SCRAM escape sequence is incomplete"

theorem scramEscape_cons (c : Char) (t : Text) :
    scramEscape (c :: t) =
      (if c = '=' then "=3D".toList else if c = ',' then "=2C".toList else [c]) ++
        scramEscape t := by
  unfold scramEscape
  rw [List.flatMap_cons, List.flatMap_append]
  by_cases heq : c = '='
  · subst heq
    rfl
  · rw [if_neg heq, if_neg heq]
    simp

theorem scramUnescape_cons {c : Char} (h : c ≠ '=') (rest : Text) :
    scramUnescape (c :: rest) = (scramUnescape rest >>= fun output => .ok (c :: output)) := by
  rw [scramUnescape.eq_def]
  exact if_pos h

/-- **Escaping is undone.** -/
theorem scramUnescape_escape (t : Text) : scramUnescape (scramEscape t) = .ok t := by
  induction t with
  | nil => rfl
  | cons c t ih =>
    rw [scramEscape_cons]
    by_cases heq : c = '='
    · subst heq
      change (scramUnescape (scramEscape t) >>= fun output => .ok ('=' :: output)) = _
      rw [ih]
      rfl
    · by_cases hcomma : c = ','
      · subst hcomma
        change (scramUnescape (scramEscape t) >>= fun output => .ok (',' :: output)) = _
        rw [ih]
        rfl
      · rw [if_neg heq, if_neg hcomma, List.singleton_append, scramUnescape_cons heq, ih]
        rfl

/-- An escaped text has no commas. -/
theorem comma_not_mem_scramEscape (t : Text) : ',' ∉ scramEscape t := by
  induction t with
  | nil => nofun
  | cons c t ih =>
    rw [scramEscape_cons, List.mem_append, not_or]
    refine ⟨?_, ih⟩
    split
    · decide
    · split
      · decide
      · next hcomma => exact fun hmem => hcomma (List.mem_singleton.1 hmem).symm

end Scram

end PgKinetic
