import PgKinetic.Proxy.RoutePools
import PgKinetic.Wire.Rewrite

/-!
# The bytes of a startup packet

The body of a startup packet are pairs of NUL-terminated strings, and a NUL behind them. But the
loop of `parse_parameters` ends with the bytes as well, and it does not look behind the NUL that
ends it, if only the last byte is one. So **a packet is parsed by the grammar exactly if its body
neither lacks the NUL nor goes on behind it** (`parseStartupPacket_iff`).
-/

namespace PgKinetic

open Scram List

/-- `WireError`, where a startup packet meets one. -/
inductive StartupError where
  | incompleteStartupPacket
  | invalidStartupLength (length : Int)
  | unterminatedStartupParameters
  | missingStartupParameterValue (key : Text)
  | invalidUtf8
  deriving DecidableEq, Repr

/-- `StartupPacket`. -/
inductive StartupPacket where
  | startup (protocolMajor protocolMinor : Int) (parameters : StartupParameters)
  | sslRequest
  | gssEncRequest
  | cancelRequest (processId secretKey : Int)
  deriving DecidableEq, Repr

/-- The string in front of the first NUL and its length in bytes. -/
def startupCstr (bytes : List Byte) : Except StartupError (Text × Nat) :=
  match cstr bytes with
  | .ok found => .ok found
  | .error .incompleteFrame => .error .unterminatedStartupParameters
  | .error _ => .error .invalidUtf8

/-- The loop of `parse_parameters`, on the bytes from `start` on. -/
def parseParametersFrom : List Byte → Except StartupError StartupParameters
  | [] => .ok []
  | b :: bytes =>
    if b = 0 then .ok []
    else
      match startupCstr (b :: bytes) with
      | .error e => .error e
      | .ok (key, keyEnd) =>
        -- behind the NUL of the key
        let values := bytes.drop keyEnd
        if values.isEmpty then .error (.missingStartupParameterValue key)
        else
          match startupCstr values with
          | .error e => .error e
          | .ok (value, valueEnd) =>
            (parseParametersFrom (values.drop (valueEnd + 1))).map ((key, value) :: ·)
termination_by bytes => bytes.length
decreasing_by
  rw [length_drop, length_drop, length_cons]
  omega

/-- `parse_parameters`. -/
def parseParameters (bytes : List Byte) : Except StartupError StartupParameters :=
  if bytes.getLast? ≠ some 0 then .error .unterminatedStartupParameters
  else parseParametersFrom bytes

/-- `SSL_REQUEST_CODE`. -/
def sslRequestCode : Int := 80877103

/-- `CANCEL_REQUEST_CODE`. -/
def cancelRequestCode : Int := 80877102

/-- `GSSENC_REQUEST_CODE`. -/
def gssencRequestCode : Int := 80877104

/-- `Buf::get_i32`, on bytes that have four. -/
def getI32 : List Byte → Int
  | b₀ :: b₁ :: b₂ :: b₃ :: _ => i32FromBytes b₀ b₁ b₂ b₃
  | _ => 0

/-- The low 16 bits as an `i16`. -/
def asI16 (n : Int) : Int := n.bmod (2 ^ 16)

/-- `parse_startup_packet`. -/
def parseStartupPacket (packet : List Byte) : Except StartupError StartupPacket :=
  if packet.length < 4 then .error .incompleteStartupPacket
  else
    let len := getI32 packet
    if len < 8 then .error (.invalidStartupLength len)
    else if packet.length ≠ len then .error .incompleteStartupPacket
    else
      let code := getI32 (packet.drop 4)
      let body := packet.drop 8
      if code = sslRequestCode then .ok .sslRequest
      else if code = gssencRequestCode then .ok .gssEncRequest
      else if code = cancelRequestCode then
        if body.length ≠ 8 then .error (.invalidStartupLength len)
        else .ok (.cancelRequest (getI32 body) (getI32 (body.drop 4)))
      else (parseParameters body).map (.startup (asI16 (code.shiftRight 16)) (asI16 code))

/-! ### The grammar -/

/-- The bytes of parameters. -/
def parameterBytes (parameters : StartupParameters) : List Byte :=
  parameters.flatMap fun p => writeCstr p.1 ++ writeCstr p.2

/-- Keys are not empty, and no string has a NUL in it. -/
def Writable (parameters : StartupParameters) : Prop :=
  ∀ p ∈ parameters, p.1 ≠ [] ∧ 0 ∉ utf8 p.1 ∧ 0 ∉ utf8 p.2

/-- The packet has its size in front and the code of a protocol behind it, and then the parameters
and these bytes. -/
structure IsStartup (packet : List Byte) (major minor : Int) (parameters : StartupParameters)
    (rest : List Byte) : Prop where
  size : 8 ≤ packet.length ∧ getI32 packet = packet.length
  code : getI32 (packet.drop 4) ∉ [sslRequestCode, gssencRequestCode, cancelRequestCode]
  version : asI16 ((getI32 (packet.drop 4)).shiftRight 16) = major ∧
    asI16 (getI32 (packet.drop 4)) = minor
  writable : Writable parameters
  body : packet.drop 8 = parameterBytes parameters ++ rest

/-- The NUL behind the parameters is missing, or it is not the last byte, which is a NUL too. -/
def Loose (parameters : StartupParameters) (rest : List Byte) : Prop :=
  rest = [] ∧ parameters ≠ [] ∨ ∃ between, rest = 0 :: (between ++ [0])

variable {packet bytes : List Byte} {parameters : StartupParameters} {major minor : Int}

theorem startupCstr_eq_ok_iff {value : Text} {n : Nat} :
    startupCstr bytes = .ok (value, n) ↔
      0 ∉ utf8 value ∧ n = (utf8 value).length ∧ ∃ rest, bytes = writeCstr value ++ rest := by
  rw [← cstr_eq_ok_iff, startupCstr]
  cases cstr bytes with
  | ok found => simp
  | error e => cases e <;> simp

theorem startupCstr_writeCstr {value : Text} (h : 0 ∉ utf8 value) (rest : List Byte) :
    startupCstr (writeCstr value ++ rest) = .ok (value, (utf8 value).length) :=
  startupCstr_eq_ok_iff.2 ⟨h, rfl, rest, rfl⟩

theorem parameterBytes_cons (p : Text × Text) (parameters : StartupParameters)
    (rest : List Byte) :
    parameterBytes (p :: parameters) ++ rest =
      writeCstr p.1 ++ (writeCstr p.2 ++ (parameterBytes parameters ++ rest)) := by
  simp [parameterBytes]

/-- A string starts with a NUL exactly if it is empty. -/
theorem ne_nil_of_writeCstr {b : Byte} {key : Text} {rest : List Byte} (hnul : 0 ∉ utf8 key)
    (h : b :: bytes = writeCstr key ++ rest) : key ≠ [] ↔ b ≠ 0 := by
  refine not_congr ⟨fun hkey => ?_, fun hb => ?_⟩
  · rw [hkey] at h
    exact (cons.inj h).1
  · cases hutf8 : utf8 key with
    | nil => exact Option.some.inj ((decodeUtf8_utf8 key).symm.trans (hutf8 ▸ decodeUtf8_utf8 []))
    | cons c cs =>
      rw [writeCstr, hutf8] at h
      rw [hutf8, ← (cons.inj h).1, hb] at hnul
      exact absurd mem_cons_self hnul

theorem drop_of_writeCstr {b : Byte} {key : Text} {rest : List Byte}
    (h : b :: bytes = writeCstr key ++ rest) : bytes.drop (utf8 key).length = rest := by
  have hdrop := congrArg (drop (writeCstr key).length) h
  rw [drop_left, length_writeCstr] at hdrop
  exact hdrop

/-- **The loop** reads parameters until the bytes end, or a NUL stands where a key would. -/
theorem parseParametersFrom_eq_ok_iff :
    parseParametersFrom bytes = .ok parameters ↔
      Writable parameters ∧ ∃ rest, bytes = parameterBytes parameters ++ rest ∧
        ∀ b ∈ rest.head?, b = 0 := by
  constructor
  · intro h
    fun_induction parseParametersFrom bytes generalizing parameters with
    | case1 =>
      cases h
      exact ⟨nofun, [], rfl, nofun⟩
    | case2 bytes =>
      cases h
      exact ⟨nofun, 0 :: bytes, rfl, fun _ h => (Option.some.inj h).symm⟩
    | case3 | case4 | case5 => cases h
    | case6 b bytes hb key keyEnd hkey values _ value valueEnd hvalue =>
      rename_i ih
      cases hlater : parseParametersFrom (values.drop (valueEnd + 1)) with
      | error e =>
        rw [hlater] at h
        cases h
      | ok later =>
        rw [hlater] at h
        cases h
        obtain ⟨hkeyNul, rfl, rest, hkeyRest⟩ := startupCstr_eq_ok_iff.1 hkey
        obtain ⟨hvalueNul, rfl, rest', hvalueRest⟩ := startupCstr_eq_ok_iff.1 hvalue
        obtain ⟨hwritable, last, hlast, hend⟩ := ih hlater
        have hvalues : values = rest := drop_of_writeCstr hkeyRest
        rw [hvalueRest, ← length_writeCstr, drop_left] at hlast
        refine ⟨?_, last, ?_, hend⟩
        · rintro p (_ | ⟨_, hp⟩)
          · exact ⟨(ne_nil_of_writeCstr hkeyNul hkeyRest).2 hb, hkeyNul, hvalueNul⟩
          · exact hwritable p hp
        · rw [parameterBytes_cons, ← hlast, ← hvalueRest, hvalues]
          exact hkeyRest
  · rintro ⟨hwritable, rest, rfl, hend⟩
    induction parameters with
    | nil =>
      obtain _ | ⟨b, rest⟩ := rest
      · rw [parameterBytes, flatMap_nil, nil_append, parseParametersFrom]
      · rw [parameterBytes, flatMap_nil, nil_append, parseParametersFrom, if_pos (hend b rfl)]
    | cons p parameters ih =>
      obtain ⟨hne, hkeyNul, hvalueNul⟩ := hwritable p mem_cons_self
      have hlater := ih fun p hp => hwritable p (mem_cons_of_mem _ hp)
      rw [parameterBytes_cons]
      cases hbytes : writeCstr p.1 ++ (writeCstr p.2 ++ (parameterBytes parameters ++ rest)) with
      | nil => simp [writeCstr] at hbytes
      | cons b bytes =>
        have hb := (ne_nil_of_writeCstr hkeyNul hbytes.symm).1 hne
        rw [parseParametersFrom, if_neg hb, ← hbytes, startupCstr_writeCstr hkeyNul]
        dsimp only
        rw [drop_of_writeCstr hbytes.symm, if_neg (by simp [writeCstr]),
          startupCstr_writeCstr hvalueNul]
        dsimp only
        rw [← length_writeCstr, drop_left, hlater]
        rfl

/-- Bytes that end with a NUL, and that the loop ends in front of. -/
theorem getLast?_parameterBytes_iff (parameters : StartupParameters) (rest : List Byte) :
    (parameterBytes parameters ++ rest).getLast? = some 0 ∧ (∀ b ∈ rest.head?, b = 0) ↔
      rest = [0] ∨ Loose parameters rest := by
  obtain _ | ⟨b, rest⟩ := rest
  · obtain rfl | ⟨before, p, rfl⟩ := eq_nil_or_concat' parameters
    · simp [parameterBytes, Loose]
    · have hbytes : parameterBytes (before ++ [p]) =
          parameterBytes before ++ writeCstr p.1 ++ utf8 p.2 ++ [0] := by
        simp [parameterBytes, writeCstr]
      rw [append_nil, hbytes, getLast?_concat]
      simp [Loose]
  · obtain rfl | ⟨between, last, rfl⟩ := eq_nil_or_concat' rest
    · simp [Loose]
    · rw [← cons_append, ← append_assoc, getLast?_concat]
      simp [Loose, and_comm]

theorem parseParameters_eq_ok_iff :
    parseParameters bytes = .ok parameters ↔
      Writable parameters ∧ ∃ rest, bytes = parameterBytes parameters ++ rest ∧
        (rest = [0] ∨ Loose parameters rest) := by
  rw [parseParameters]
  split
  · next hlast =>
    refine iff_of_false nofun ?_
    rintro ⟨-, rest, rfl, hrest⟩
    exact hlast ((getLast?_parameterBytes_iff parameters rest).2 hrest).1
  · next hlast =>
    rw [parseParametersFrom_eq_ok_iff]
    refine and_congr_right fun _ => exists_congr fun rest => and_congr_right fun hbytes => ?_
    rw [← getLast?_parameterBytes_iff, ← hbytes]
    exact (and_iff_right (not_not.1 hlast)).symm

/-- **What is accepted as a startup.** -/
theorem parseStartupPacket_eq_ok_iff :
    parseStartupPacket packet = .ok (.startup major minor parameters) ↔
      ∃ rest, IsStartup packet major minor parameters rest ∧
        (rest = [0] ∨ Loose parameters rest) := by
  constructor
  · intro h
    simp only [parseStartupPacket] at h
    split_ifs at h with hshort hlen hsize hssl hgss hcancel
    · cases h
    · cases h
    · cases h
    cases hbody : parseParameters (packet.drop 8) with
    | error e =>
      rw [hbody] at h
      cases h
    | ok found =>
      simp only [hbody, Except.map, Except.ok.injEq, StartupPacket.startup.injEq] at h
      obtain ⟨hmajor, hminor, rfl⟩ := h
      obtain ⟨hwritable, rest, hrest, hend⟩ := parseParameters_eq_ok_iff.1 hbody
      exact ⟨rest, ⟨⟨by omega, by omega⟩, by simp [hssl, hgss, hcancel], ⟨hmajor, hminor⟩,
        hwritable, hrest⟩, hend⟩
  · rintro ⟨rest, ⟨⟨hlong, hsize⟩, hcode, ⟨rfl, rfl⟩, hwritable, hbody⟩, hrest⟩
    simp only [mem_cons, not_mem_nil, or_false, not_or] at hcode
    have hparsed := parseParameters_eq_ok_iff.2 ⟨hwritable, rest, hbody, hrest⟩
    simp only [parseStartupPacket]
    rw [if_neg (by omega), if_neg (by omega), if_neg (by omega), if_neg hcode.1, if_neg hcode.2.1,
      if_neg hcode.2.2, hparsed]
    rfl

/-- The grammar decides what a packet is parsed to, exactly if its body neither lacks the NUL
behind the parameters nor goes on behind it. -/
theorem parseStartupPacket_iff (packet : List Byte) :
    (∀ major minor parameters,
      parseStartupPacket packet = .ok (.startup major minor parameters) ↔
        IsStartup packet major minor parameters [0]) ↔
      ¬∃ major minor parameters rest,
        IsStartup packet major minor parameters rest ∧ Loose parameters rest := by
  constructor
  · rintro hgrammar ⟨major, minor, parameters, rest, h, hloose⟩
    have hparsed := parseStartupPacket_eq_ok_iff.2 ⟨rest, h, .inr hloose⟩
    have hexact := (hgrammar major minor parameters).1 hparsed
    obtain rfl := append_cancel_left (h.body.symm.trans hexact.body)
    -- a single NUL is neither missing nor followed by another
    obtain ⟨hnil, -⟩ | ⟨between, hbetween⟩ := hloose
    · cases hnil
    · simp at hbetween
  · intro hstrict major minor parameters
    rw [parseStartupPacket_eq_ok_iff]
    constructor
    · rintro ⟨rest, h, rfl | hloose⟩
      · exact h
      · exact absurd ⟨major, minor, parameters, rest, h, hloose⟩ hstrict
    · intro h
      exact ⟨[0], h, .inl rfl⟩

/-- `"k\0v\0"` is accepted without a NUL behind it, and `"\0x\0"` with bytes behind its NUL. -/
theorem parseStartupPacket_loose :
    parseStartupPacket [0, 0, 0, 12, 0, 3, 0, 0, 107, 0, 118, 0] =
        .ok (.startup 3 0 [("k".toList, "v".toList)]) ∧
      ¬IsStartup [0, 0, 0, 12, 0, 3, 0, 0, 107, 0, 118, 0] 3 0 [("k".toList, "v".toList)] [0] ∧
      parseStartupPacket [0, 0, 0, 11, 0, 3, 0, 0, 0, 120, 0] = .ok (.startup 3 0 []) ∧
      ¬IsStartup [0, 0, 0, 11, 0, 3, 0, 0, 0, 120, 0] 3 0 [] [0] := by
  refine ⟨by decide +kernel, ?_, by decide +kernel, ?_⟩
  · intro h
    have hlength : 4 = 5 := congrArg length h.body
    cases hlength
  · intro h
    have hlength : 3 = 1 := congrArg length h.body
    cases hlength

end PgKinetic
