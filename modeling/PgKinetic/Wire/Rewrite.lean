import PgKinetic.Security.Scram
import PgKinetic.Wire.ClientCycle
import PgKinetic.Wire.FrontendFrame

/-!
# Statement names in frames

A statement that moves to another backend is known there under another name. `rewrite.rs` puts the
name into the frames of the client and builds a Parse anew from what `message.rs` has read of one;
each has its own reader of NUL-terminated strings, and the count of the parameter types has sixteen
bits.

The readers agree, and what they read is what stands in the payload (`readCstr_eq_ok_iff`). So what
stands behind a name is read in the same way behind another (`parseParseMessage_of_name`,
`parseBindStatementName_of_names`), and a Parse that is built from what was read of one is the one
that is rewritten (`buildParseFrame_eq`).
-/

namespace PgKinetic

open Scram List

/-! ### NUL-terminated strings -/

/-- The string in front of the first NUL and its length in bytes. -/
def cstr (bytes : List Byte) : Except WireError (Text × Nat) :=
  match bytes.findIdx? (· == 0) with
  | none => .error .incompleteFrame
  | some n =>
    match decodeUtf8 (bytes.take n) with
    | none => .error .invalidUtf8
    | some value => .ok (value, n)

/-- `read_cstr` of `message.rs`: the string and the position behind its NUL. -/
def Message.readCstr (bytes : List Byte) (start : Nat) : Except WireError (Text × Nat) :=
  -- `bytes.get(start..)`
  if start ≤ bytes.length then
    (cstr (bytes.drop start)).map fun (value, terminator) => (value, start + terminator + 1)
  else .error .incompleteFrame

/-- `read_cstr` of `rewrite.rs`. -/
def Rewrite.readCstr (bytes : List Byte) (start : Nat) : Except WireError (Text × Nat) :=
  if bytes.length < start then .error .incompleteFrame
  else
    match (bytes.drop start).findIdx? (· == 0) with
    | none => .error .incompleteFrame
    | some relativeEnd =>
      let finish := start + relativeEnd
      match decodeUtf8 ((bytes.take finish).drop start) with
      | none => .error .invalidUtf8
      | some value => .ok (value, finish + 1)

/-- `write_cstr`. -/
def writeCstr (value : Text) : List Byte := utf8 value ++ [0]

/-- **The two readers agree.** -/
theorem Rewrite.readCstr_eq (bytes : List Byte) (start : Nat) :
    Rewrite.readCstr bytes start = Message.readCstr bytes start := by
  unfold Rewrite.readCstr Message.readCstr cstr
  by_cases hstart : start ≤ bytes.length
  · rw [if_pos hstart, if_neg hstart.not_gt]
    cases (bytes.drop start).findIdx? (· == 0) with
    | none => rfl
    | some n =>
      dsimp only
      rw [drop_take, Nat.add_sub_cancel_left]
      cases decodeUtf8 ((bytes.drop start).take n) <;> rfl
  · rw [if_neg hstart, if_pos (Nat.lt_of_not_le hstart)]

/-- The bytes of a text are those of the string. -/
theorem toByteArray_utf8 (value : Text) :
    (⟨(utf8 value).toArray⟩ : ByteArray) = (String.ofList value).toByteArray :=
  ByteArray.ext data_toByteArray.symm

variable {bytes : List Byte} {value : Text} {n : Nat} {e : WireError}

/-- What is read as UTF-8 is what was written. -/
theorem utf8_of_decodeUtf8 (h : decodeUtf8 bytes = some value) : utf8 value = bytes := by
  obtain ⟨s, hs, rfl⟩ := Option.map_eq_some_iff.1 h
  rw [String.fromUTF8?] at hs
  split at hs
  · obtain rfl := Option.some.inj hs
    have hbytes := toByteArray_utf8 (String.fromUTF8 ⟨bytes.toArray⟩ (by assumption)).toList
    rw [String.ofList_toList] at hbytes
    exact congrArg (fun b : ByteArray => b.data.toList) hbytes
  · cases hs

/-- A NUL byte is a NUL character. -/
theorem zero_notMem_utf8 (h : '\x00' ∉ value) : 0 ∉ utf8 value := by
  intro hmem
  obtain ⟨c, hc, hzero⟩ := mem_flatMap.1 hmem
  have hnul : c.val.toNat = 0 := by
    unfold String.utf8EncodeChar at hzero
    dsimp only at hzero
    have hbyte : ∀ n : Nat, (0 : UInt8) = UInt8.ofNat n → n % 256 = 0 := by
      intro n hn
      have htoNat := congrArg UInt8.toNat hn
      exact htoNat.symm
    split at hzero
    · have := hbyte _ (mem_singleton.1 hzero)
      omega
    · split at hzero
      · simp only [mem_cons, not_mem_nil, or_false] at hzero
        rcases hzero with h | h <;> have := hbyte _ h <;> omega
      · split at hzero
        · simp only [mem_cons, not_mem_nil, or_false] at hzero
          rcases hzero with h | h | h <;> have := hbyte _ h <;> omega
        · simp only [mem_cons, not_mem_nil, or_false] at hzero
          rcases hzero with h | h | h | h <;> have := hbyte _ h <;> omega
  have hchar : c = '\x00' := Char.ext (UInt32.toNat_inj.1 hnul)
  exact h (hchar ▸ hc)

theorem length_writeCstr (value : Text) : (writeCstr value).length = (utf8 value).length + 1 :=
  length_append

/-- **What is read stands in the bytes**, in front of a NUL and with none in it. -/
theorem cstr_eq_ok_iff :
    cstr bytes = .ok (value, n) ↔
      0 ∉ utf8 value ∧ n = (utf8 value).length ∧ ∃ rest, bytes = writeCstr value ++ rest := by
  constructor
  · intro h
    unfold cstr at h
    split at h
    · cases h
    next m hm =>
    split at h
    · cases h
    next decoded hdecoded =>
    obtain ⟨rfl, rfl⟩ := Prod.mk.inj (Except.ok.inj h)
    obtain ⟨hlt, hzero, hbefore⟩ := findIdx?_eq_some_iff_getElem.1 hm
    have hvalue := utf8_of_decodeUtf8 hdecoded
    have hlength : (bytes.take m).length = m := length_take_of_le hlt.le
    refine ⟨?_, ?_, bytes.drop (m + 1), ?_⟩
    · rw [hvalue]
      intro hmem
      obtain ⟨i, hi, hget⟩ := mem_iff_getElem.1 hmem
      rw [hlength] at hi
      rw [getElem_take] at hget
      have hne := hbefore i hi
      rw [hget] at hne
      exact hne rfl
    · rw [hvalue, hlength]
    · rw [writeCstr, hvalue, append_assoc, singleton_append]
      have hhead : bytes[m] = 0 := eq_of_beq hzero
      rw [← hhead, getElem_cons_drop, take_append_drop]
  · rintro ⟨hzero, rfl, rest, rfl⟩
    have hnone : (utf8 value).findIdx? (· == 0) = none := by
      refine findIdx?_eq_none_iff.2 fun b hb => beq_eq_false_iff_ne.2 ?_
      rintro rfl
      exact hzero hb
    have hfind : (writeCstr value ++ rest).findIdx? (· == 0) = some (utf8 value).length := by
      rw [writeCstr, append_assoc, findIdx?_append, hnone, singleton_append,
        findIdx?_cons, if_pos (beq_self_eq_true _)]
      exact congrArg some (Nat.zero_add _)
    have htake : (writeCstr value ++ rest).take (utf8 value).length = utf8 value := by
      rw [writeCstr, append_assoc, take_left]
    rw [cstr, hfind]
    dsimp only
    rw [htake, decodeUtf8_utf8]

namespace Message

/-- What is read at a position. -/
theorem readCstr_eq_ok_iff {bytes : List Byte} {start next : Nat} {value : Text} :
    readCstr bytes start = .ok (value, next) ↔
      0 ∉ utf8 value ∧ next = start + (writeCstr value).length ∧
        ∃ before rest, bytes = before ++ (writeCstr value ++ rest) ∧ before.length = start := by
  rw [length_writeCstr]
  constructor
  · intro h
    unfold readCstr at h
    split at h
    · next hstart =>
      cases hcstr : cstr (bytes.drop start) with
      | error e =>
        rw [hcstr] at h
        cases h
      | ok found =>
        obtain ⟨value', n⟩ := found
        rw [hcstr] at h
        cases h
        obtain ⟨hzero, rfl, rest, hrest⟩ := cstr_eq_ok_iff.1 hcstr
        refine ⟨hzero, rfl, bytes.take start, rest, ?_, length_take_of_le hstart⟩
        rw [← hrest, take_append_drop]
    · cases h
  · rintro ⟨hzero, rfl, before, rest, rfl, rfl⟩
    have hcstr : cstr (writeCstr value ++ rest) = .ok (value, (utf8 value).length) :=
      cstr_eq_ok_iff.2 ⟨hzero, rfl, rest, rfl⟩
    rw [readCstr, if_pos (by rw [length_append]; omega), drop_left, hcstr]
    rfl

/-- Bytes in front shift what is read. -/
theorem readCstr_append (before bytes : List Byte) (start : Nat) :
    readCstr (before ++ bytes) (before.length + start) =
      (readCstr bytes start).map fun read => (read.1, before.length + read.2) := by
  unfold readCstr
  rw [length_append, drop_append, drop_eq_nil_of_le (Nat.le_add_right _ _),
    Nat.add_sub_cancel_left, nil_append]
  by_cases hstart : start ≤ bytes.length
  · rw [if_pos hstart, if_pos (Nat.add_le_add_left hstart _)]
    cases cstr (bytes.drop start) with
    | error e => rfl
    | ok found =>
      simp only [Except.map]
      rw [Nat.add_assoc, Nat.add_assoc, Nat.add_assoc]
  · rw [if_neg hstart, if_neg (by omega)]
    rfl

/-- A name at the start. -/
theorem readCstr_writeCstr {name : Text} (h : 0 ∉ utf8 name) (rest : List Byte) :
    readCstr (writeCstr name ++ rest) 0 = .ok (name, (writeCstr name).length) :=
  readCstr_eq_ok_iff.2 ⟨h, (Nat.zero_add _).symm, [], rest, rfl, rfl⟩

end Message

/-! ### Messages -/

/-- `ParseMessage`. -/
structure ParseMessage where
  statementName : Text
  query : Text
  parameterTypeOids : List Int
  deriving DecidableEq, Repr

/-- `slice::get` on a range that starts at a position and has a length. -/
def getRange (bytes : List Byte) (start length : Nat) : Option (List Byte) :=
  if start + length ≤ bytes.length then some ((bytes.drop start).take length) else none

/-- The numbers that `chunks_exact(4)` gives. -/
def oidsOf : List Byte → List Int
  | b₀ :: b₁ :: b₂ :: b₃ :: rest => i32FromBytes b₀ b₁ b₂ b₃ :: oidsOf rest
  | _ => []

/-- The end of `parse_parse_message`: the count of the parameter types, and as many numbers. A count
of sixteen bits times four does not overflow. -/
def parameterTypeOids (payload : List Byte) (offset : Nat) : Except WireError (List Int) :=
  match getRange payload offset 2 with
  | some [c₀, c₁] =>
    let parameterCount := i16FromBytes c₀ c₁
    if parameterCount < 0 then .error .incompleteFrame
    else
      match getRange payload (offset + 2) (parameterCount.toNat * 4) with
      | none => .error .incompleteFrame
      | some oids => .ok (oidsOf oids)
  | _ => .error .incompleteFrame

/-- `parse_parse_message`. -/
def parseParseMessage (frame : FrontendFrame) : Except WireError (Option ParseMessage) :=
  if frame.tag ≠ FrontendTag.parse.byte then .ok none
  else do
    let (statementName, offset) ← Message.readCstr frame.payload 0
    let (query, offset) ← Message.readCstr frame.payload offset
    let parameterTypeOids ← parameterTypeOids frame.payload offset
    .ok (some { statementName, query, parameterTypeOids })

/-- `parse_bind_statement_name`. -/
def parseBindStatementName (frame : FrontendFrame) : Except WireError (Option Text) :=
  if frame.tag ≠ FrontendTag.bind.byte then .ok none
  else do
    let (_, statementOffset) ← Message.readCstr frame.payload 0
    let (statementName, _) ← Message.readCstr frame.payload statementOffset
    .ok (some statementName)

/-! ### Rewriting -/

/-- `rewrite_parse_statement_name`. -/
def rewriteParseStatementName (frame : FrontendFrame) (backendName : Text) :
    Except WireError FrontendFrame :=
  if frame.tag ≠ FrontendTag.parse.byte then .ok frame
  else do
    let (_, afterName) ← Rewrite.readCstr frame.payload 0
    .ok ⟨frame.tag, writeCstr backendName ++ frame.payload.drop afterName⟩

/-- `rewrite_bind_statement_name`. -/
def rewriteBindStatementName (frame : FrontendFrame) (backendName : Text) :
    Except WireError FrontendFrame :=
  if frame.tag ≠ FrontendTag.bind.byte then .ok frame
  else do
    let (_, afterPortal) ← Rewrite.readCstr frame.payload 0
    let (_, afterStatement) ← Rewrite.readCstr frame.payload afterPortal
    .ok ⟨frame.tag, frame.payload.take afterPortal ++ writeCstr backendName ++
      frame.payload.drop afterStatement⟩

/-- `BufMut::put_i16` of a length that is cast to `i16`. -/
def i16ToBytes (n : Nat) : List Byte := [UInt8.ofNat (n / 2 ^ 8), UInt8.ofNat n]

/-- `BufMut::put_i32`. -/
def putI32 (n : Int) : List Byte := i32ToBytes (n % 2 ^ 32).toNat

/-- `build_parse_frame`. -/
def buildParseFrame (backendName query : Text) (parameterTypeOids : List Int) : FrontendFrame where
  tag := FrontendTag.parse.byte
  payload := writeCstr backendName ++ writeCstr query ++ i16ToBytes parameterTypeOids.length ++
    parameterTypeOids.flatMap putI32

/-! ### What stands behind a name -/

theorem getRange_append (before bytes : List Byte) (start length : Nat) :
    getRange (before ++ bytes) (before.length + start) length = getRange bytes start length := by
  unfold getRange
  rw [length_append, drop_append, drop_eq_nil_of_le (Nat.le_add_right _ _),
    Nat.add_sub_cancel_left, nil_append, Nat.add_assoc]
  simp only [Nat.add_le_add_iff_left]

theorem parameterTypeOids_append (before bytes : List Byte) (offset : Nat) :
    parameterTypeOids (before ++ bytes) (before.length + offset) =
      parameterTypeOids bytes offset := by
  unfold parameterTypeOids
  simp only [Nat.add_assoc, getRange_append]

/-- What `parse_parse_message` reads behind the statement name: the query and the types. -/
def parseBehindName (bytes : List Byte) : Except WireError (Text × List Int) := do
  let (query, offset) ← Message.readCstr bytes 0
  let parameterTypeOids ← parameterTypeOids bytes offset
  .ok (query, parameterTypeOids)

/-- **A Parse is its name and what is read behind it.** -/
theorem parseParseMessage_of_name {name : Text} (h : 0 ∉ utf8 name) (rest : List Byte) :
    parseParseMessage ⟨FrontendTag.parse.byte, writeCstr name ++ rest⟩ =
      (parseBehindName rest).map fun read => some ⟨name, read.1, read.2⟩ := by
  have hshift := Message.readCstr_append (writeCstr name) rest 0
  rw [Nat.add_zero] at hshift
  unfold parseParseMessage parseBehindName
  rw [Message.readCstr_writeCstr h]
  dsimp only [bind, Except.bind]
  rw [hshift]
  cases Message.readCstr rest 0 with
  | error e => rfl
  | ok read =>
    dsimp only [Except.map]
    rw [parameterTypeOids_append]
    cases parameterTypeOids rest read.2 <;> rfl

/-- **A Bind is its portal, its statement and what is behind them.** -/
theorem parseBindStatementName_of_names {portal name : Text} (hportal : 0 ∉ utf8 portal)
    (hname : 0 ∉ utf8 name) (rest : List Byte) :
    parseBindStatementName
        ⟨FrontendTag.bind.byte, writeCstr portal ++ (writeCstr name ++ rest)⟩ =
      .ok (some name) := by
  have hshift := Message.readCstr_append (writeCstr portal) (writeCstr name ++ rest) 0
  rw [Nat.add_zero, Message.readCstr_writeCstr hname] at hshift
  unfold parseBindStatementName
  rw [Message.readCstr_writeCstr hportal]
  dsimp only [bind, Except.bind]
  rw [hshift]
  rfl

/-! ### A Parse built anew -/

theorem i16ToBytes_fromBytes {c₀ c₁ : Byte} (h : ¬i16FromBytes c₀ c₁ < 0) :
    i16ToBytes (i16FromBytes c₀ c₁).toNat = [c₀, c₁] := by
  have h₀ := c₀.toNat_lt
  have h₁ := c₁.toNat_lt
  have hvalue : (i16FromBytes c₀ c₁).toNat = c₀.toNat * 2 ^ 8 + c₁.toNat := by
    unfold i16FromBytes at h ⊢
    dsimp only at h ⊢
    split at h <;> omega
  rw [hvalue, i16ToBytes]
  have hfirst : UInt8.ofNat ((c₀.toNat * 2 ^ 8 + c₁.toNat) / 2 ^ 8) = c₀ := by
    rw [← UInt8.toNat_inj, UInt8.toNat_ofNat']
    omega
  have hsecond : UInt8.ofNat (c₀.toNat * 2 ^ 8 + c₁.toNat) = c₁ := by
    rw [← UInt8.toNat_inj, UInt8.toNat_ofNat']
    omega
  rw [hfirst, hsecond]

theorem putI32_fromBytes (b₀ b₁ b₂ b₃ : Byte) :
    putI32 (i32FromBytes b₀ b₁ b₂ b₃) = [b₀, b₁, b₂, b₃] := by
  have h₀ := b₀.toNat_lt
  have h₁ := b₁.toNat_lt
  have h₂ := b₂.toNat_lt
  have h₃ := b₃.toNat_lt
  have hvalue : (i32FromBytes b₀ b₁ b₂ b₃ % 2 ^ 32).toNat =
      b₀.toNat * 2 ^ 24 + b₁.toNat * 2 ^ 16 + b₂.toNat * 2 ^ 8 + b₃.toNat := by
    unfold i32FromBytes
    dsimp only
    split <;> omega
  rw [putI32, hvalue, i32ToBytes]
  have hbyte : ∀ (n : Nat) (b : Byte), n % 256 = b.toNat → UInt8.ofNat n = b := by
    intro n b hn
    rw [← UInt8.toNat_inj, UInt8.toNat_ofNat']
    exact hn
  rw [hbyte _ b₀ (by omega), hbyte _ b₁ (by omega), hbyte _ b₂ (by omega), hbyte _ b₃ (by omega)]

/-- Numbers that are read are written as they were. -/
theorem flatMap_putI32_oidsOf (h : bytes.length = n * 4) :
    (oidsOf bytes).flatMap putI32 = bytes ∧ (oidsOf bytes).length = n := by
  induction n generalizing bytes with
  | zero =>
    obtain rfl := length_eq_zero_iff.1 (h.trans (Nat.zero_mul 4))
    exact ⟨rfl, rfl⟩
  | succ n ih =>
    obtain _ | ⟨b₀, _ | ⟨b₁, _ | ⟨b₂, _ | ⟨b₃, rest⟩⟩⟩⟩ := bytes
    · simp only [length_nil] at h
      omega
    · simp only [length_cons, length_nil] at h
      omega
    · simp only [length_cons, length_nil] at h
      omega
    · simp only [length_cons, length_nil] at h
      omega
    · simp only [length_cons] at h
      obtain ⟨hbytes, hlength⟩ := @ih rest (by omega)
      rw [oidsOf, flatMap_cons, putI32_fromBytes, hbytes, length_cons, hlength]
      exact ⟨rfl, rfl⟩

/-- **The types are written as they were read**, if nothing is behind them. -/
theorem types_of_parameterTypeOids {oids : List Int} (h : parameterTypeOids bytes 0 = .ok oids)
    (hlength : bytes.length = 2 + oids.length * 4) :
    i16ToBytes oids.length ++ oids.flatMap putI32 = bytes := by
  obtain _ | ⟨c₀, _ | ⟨c₁, rest⟩⟩ := bytes
  · cases h
  · cases h
  · have hcount : getRange (c₀ :: c₁ :: rest) 0 2 = some [c₀, c₁] := by
      rw [getRange, if_pos (by simp only [length_cons]; omega)]
      rfl
    unfold parameterTypeOids at h
    rw [hcount] at h
    dsimp only at h
    split at h
    · cases h
    next hvalid =>
    rw [getRange] at h
    split at h
    · cases h
    next oidBytes hoids =>
    split at hoids
    · next hfits =>
      obtain rfl := Option.some.inj hoids
      obtain rfl := Except.ok.inj h
      rw [length_cons, length_cons] at hfits hlength
      have htake : (rest.take ((i16FromBytes c₀ c₁).toNat * 4)).length =
          (i16FromBytes c₀ c₁).toNat * 4 := length_take_of_le (by omega)
      obtain ⟨hbytes, hnumber⟩ := flatMap_putI32_oidsOf htake
      have hdrop : ((c₀ :: c₁ :: rest).drop (0 + 2)).take ((i16FromBytes c₀ c₁).toNat * 4) =
          rest.take ((i16FromBytes c₀ c₁).toNat * 4) := rfl
      rw [hdrop] at hlength ⊢
      rw [hbytes, hnumber, i16ToBytes_fromBytes hvalid, take_of_length_le (by omega)]
      rfl
    · cases hoids

/-! ### The rewritten frames -/

variable {frame rewritten : FrontendFrame} {name : Text}

/-- **What the rewrite of a Parse does**: the name is replaced, and what is behind it stays. -/
theorem rewriteParseStatementName_eq_ok (htag : frame.tag = FrontendTag.parse.byte)
    (h : rewriteParseStatementName frame name = .ok rewritten) :
    ∃ old rest, 0 ∉ utf8 old ∧ frame = ⟨FrontendTag.parse.byte, writeCstr old ++ rest⟩ ∧
      rewritten = ⟨FrontendTag.parse.byte, writeCstr name ++ rest⟩ := by
  obtain ⟨tag, payload⟩ := frame
  obtain rfl : tag = FrontendTag.parse.byte := htag
  unfold rewriteParseStatementName at h
  obtain ⟨⟨old, next⟩, hread, hrest⟩ := Fallible.bind_eq_ok_iff.1 h
  rw [Rewrite.readCstr_eq] at hread
  obtain ⟨hold, rfl, before, rest, rfl, hbefore⟩ := Message.readCstr_eq_ok_iff.1 hread
  obtain rfl := length_eq_zero_iff.1 hbefore
  obtain rfl := Except.ok.inj hrest
  refine ⟨old, rest, hold, rfl, ?_⟩
  rw [nil_append, Nat.zero_add, drop_left]

/-- **What the rewrite of a Bind does**: the statement is replaced, and the portal and what is
behind the statement stay. -/
theorem rewriteBindStatementName_eq_ok (htag : frame.tag = FrontendTag.bind.byte)
    (h : rewriteBindStatementName frame name = .ok rewritten) :
    ∃ portal old rest, 0 ∉ utf8 portal ∧ 0 ∉ utf8 old ∧
      frame = ⟨FrontendTag.bind.byte, writeCstr portal ++ (writeCstr old ++ rest)⟩ ∧
      rewritten = ⟨FrontendTag.bind.byte, writeCstr portal ++ (writeCstr name ++ rest)⟩ := by
  obtain ⟨tag, payload⟩ := frame
  obtain rfl : tag = FrontendTag.bind.byte := htag
  unfold rewriteBindStatementName at h
  obtain ⟨⟨portal, afterPortal⟩, hportal, hlater⟩ := Fallible.bind_eq_ok_iff.1 h
  obtain ⟨⟨old, afterStatement⟩, hold, hrest⟩ := Fallible.bind_eq_ok_iff.1 hlater
  rw [Rewrite.readCstr_eq] at hportal hold
  obtain ⟨hportalFree, rfl, none, behind, hpayload, hnone⟩ := Message.readCstr_eq_ok_iff.1 hportal
  obtain rfl := length_eq_zero_iff.1 hnone
  obtain ⟨holdFree, rfl, first, rest, hfirst, hlength⟩ := Message.readCstr_eq_ok_iff.1 hold
  rw [Nat.zero_add] at hlength
  obtain rfl : payload = writeCstr portal ++ behind := hpayload
  obtain ⟨rfl, rfl⟩ := append_inj hfirst hlength.symm
  obtain rfl := Except.ok.inj hrest
  refine ⟨portal, old, rest, hportalFree, holdFree, rfl, ?_⟩
  rw [Nat.zero_add, take_left, ← drop_drop, drop_left, drop_left, append_assoc]

/-- The rewrite of a Parse fails as the reader of its statement name does. -/
theorem rewriteParseStatementName_eq_error_iff :
    rewriteParseStatementName frame name = .error e ↔
      frame.tag = FrontendTag.parse.byte ∧ Message.readCstr frame.payload 0 = .error e := by
  unfold rewriteParseStatementName
  split
  · next htag => exact ⟨nofun, fun h => absurd h.1 htag⟩
  · next htag =>
    rw [Rewrite.readCstr_eq]
    cases Message.readCstr frame.payload 0 with
    | error e' =>
      exact ⟨fun h => ⟨not_not.1 htag, congrArg Except.error (Except.error.inj h)⟩,
        fun h => congrArg Except.error (Except.error.inj h.2)⟩
    | ok read => exact ⟨nofun, fun h => nomatch h.2⟩

/-- The rewrite of a Bind fails as the parse of its names does. -/
theorem rewriteBindStatementName_eq_error_iff :
    rewriteBindStatementName frame name = .error e ↔ parseBindStatementName frame = .error e := by
  unfold rewriteBindStatementName parseBindStatementName
  split
  · exact ⟨nofun, nofun⟩
  · rw [Rewrite.readCstr_eq]
    cases Message.readCstr frame.payload 0 with
    | error e' => exact ⟨fun h => congrArg Except.error (Except.error.inj h),
        fun h => congrArg Except.error (Except.error.inj h)⟩
    | ok read =>
      dsimp only [bind, Except.bind]
      rw [Rewrite.readCstr_eq]
      cases Message.readCstr frame.payload read.2 with
      | error e' => exact ⟨fun h => congrArg Except.error (Except.error.inj h),
          fun h => congrArg Except.error (Except.error.inj h)⟩
      | ok read' => exact ⟨nofun, nofun⟩

/-- The message takes up the whole frame: nothing stands behind the last parameter type. -/
def ParseMessage.Fills (message : ParseMessage) (frame : FrontendFrame) : Prop :=
  frame.payload.length = (writeCstr message.statementName).length +
    (writeCstr message.query).length + 2 + message.parameterTypeOids.length * 4

/-- **A Parse that is built from what was read of one is the one that is rewritten.** -/
theorem buildParseFrame_eq {message : ParseMessage}
    (hparse : parseParseMessage frame = .ok (some message)) (hfills : message.Fills frame) :
    rewriteParseStatementName frame name =
      .ok (buildParseFrame name message.query message.parameterTypeOids) := by
  have htag : frame.tag = FrontendTag.parse.byte := by
    by_contra htag
    rw [parseParseMessage, if_pos htag] at hparse
    cases hparse
  cases hrewrite : rewriteParseStatementName frame name with
  | error e =>
    -- a name that cannot be read cannot be parsed
    obtain ⟨-, herror⟩ := rewriteParseStatementName_eq_error_iff.1 hrewrite
    rw [parseParseMessage, if_neg (not_not_intro htag), herror] at hparse
    cases hparse
  | ok rewritten =>
    obtain ⟨old, rest, hold, rfl, rfl⟩ := rewriteParseStatementName_eq_ok htag hrewrite
    rw [parseParseMessage_of_name hold] at hparse
    cases hbehind : parseBehindName rest with
    | error e =>
      rw [hbehind] at hparse
      cases hparse
    | ok read =>
      rw [hbehind] at hparse
      obtain rfl := Option.some.inj (Except.ok.inj hparse)
      obtain ⟨⟨query, offset⟩, hquery, hlater⟩ := Fallible.bind_eq_ok_iff.1 hbehind
      obtain ⟨oids, hoids, hread⟩ := Fallible.bind_eq_ok_iff.1 hlater
      obtain rfl := Except.ok.inj hread
      obtain ⟨-, rfl, before, types, hrest, hbefore⟩ := Message.readCstr_eq_ok_iff.1 hquery
      obtain rfl := length_eq_zero_iff.1 hbefore
      obtain rfl : rest = writeCstr query ++ types := hrest
      have hshift := parameterTypeOids_append (writeCstr query) types 0
      rw [Nat.add_zero] at hshift
      rw [Nat.zero_add, hshift] at hoids
      have hlength : types.length = 2 + oids.length * 4 := by
        have hwhole : (writeCstr old ++ (writeCstr query ++ types)).length =
          (writeCstr old).length + (writeCstr query).length + 2 + oids.length * 4 := hfills
        rw [length_append, length_append] at hwhole
        omega
      have htypes := types_of_parameterTypeOids hoids hlength
      refine congrArg Except.ok ?_
      rw [buildParseFrame, append_assoc, append_assoc, htypes]

/-- **A rewritten Parse reads as before, under the new name.** -/
theorem parseParseMessage_rewritten (hname : '\x00' ∉ name)
    (h : rewriteParseStatementName frame name = .ok rewritten) :
    parseParseMessage rewritten =
      (parseParseMessage frame).map (·.map ({ · with statementName := name })) := by
  by_cases htag : frame.tag = FrontendTag.parse.byte
  · obtain ⟨old, rest, hold, rfl, rfl⟩ := rewriteParseStatementName_eq_ok htag h
    rw [parseParseMessage_of_name hold, parseParseMessage_of_name (zero_notMem_utf8 hname)]
    cases parseBehindName rest <;> rfl
  · rw [rewriteParseStatementName, if_pos htag] at h
    obtain rfl := Except.ok.inj h
    rw [parseParseMessage, if_pos htag]
    rfl

/-- **A rewritten Bind reads as before, under the new name.** -/
theorem parseBindStatementName_rewritten (hname : '\x00' ∉ name)
    (h : rewriteBindStatementName frame name = .ok rewritten) :
    parseBindStatementName rewritten =
      (parseBindStatementName frame).map (·.map fun _ => name) := by
  by_cases htag : frame.tag = FrontendTag.bind.byte
  · obtain ⟨portal, old, rest, hportal, hold, rfl, rfl⟩ := rewriteBindStatementName_eq_ok htag h
    rw [parseBindStatementName_of_names hportal hold,
      parseBindStatementName_of_names hportal (zero_notMem_utf8 hname)]
    rfl
  · rw [rewriteBindStatementName, if_pos htag] at h
    obtain rfl := Except.ok.inj h
    rw [parseBindStatementName, if_pos htag]
    rfl

/-- **Encoder, parser and rewriter agree.** For every frame and every backend name without a NUL: a
Parse that is built anew from what was read of a frame that the message fills is the rewritten
frame; a rewritten Parse or Bind reads as before under the new name, with every byte in front of the
name and behind it as it was; and a rewrite fails as the parse of the names does. -/
theorem rewrite_agrees (frame : FrontendFrame) (name : Text) (hname : '\x00' ∉ name) :
    (∀ message, parseParseMessage frame = .ok (some message) → message.Fills frame →
      rewriteParseStatementName frame name =
        .ok (buildParseFrame name message.query message.parameterTypeOids)) ∧
    (∀ rewritten, rewriteParseStatementName frame name = .ok rewritten →
      parseParseMessage rewritten =
          (parseParseMessage frame).map (·.map ({ · with statementName := name })) ∧
        (frame.tag = FrontendTag.parse.byte → ∃ old rest, 0 ∉ utf8 old ∧
          frame = ⟨FrontendTag.parse.byte, writeCstr old ++ rest⟩ ∧
          rewritten = ⟨FrontendTag.parse.byte, writeCstr name ++ rest⟩)) ∧
    (∀ rewritten, rewriteBindStatementName frame name = .ok rewritten →
      parseBindStatementName rewritten =
          (parseBindStatementName frame).map (·.map fun _ => name) ∧
        (frame.tag = FrontendTag.bind.byte → ∃ portal old rest, 0 ∉ utf8 portal ∧ 0 ∉ utf8 old ∧
          frame = ⟨FrontendTag.bind.byte, writeCstr portal ++ (writeCstr old ++ rest)⟩ ∧
          rewritten = ⟨FrontendTag.bind.byte, writeCstr portal ++ (writeCstr name ++ rest)⟩)) ∧
    (∀ e, rewriteParseStatementName frame name = .error e ↔
      frame.tag = FrontendTag.parse.byte ∧ Message.readCstr frame.payload 0 = .error e) ∧
    ∀ e, rewriteBindStatementName frame name = .error e ↔ parseBindStatementName frame = .error e :=
  ⟨fun _ hparse hfills => buildParseFrame_eq hparse hfills,
    fun _ h => ⟨parseParseMessage_rewritten hname h,
      fun htag => rewriteParseStatementName_eq_ok htag h⟩,
    fun _ h => ⟨parseBindStatementName_rewritten hname h,
      fun htag => rewriteBindStatementName_eq_ok htag h⟩,
    fun _ => rewriteParseStatementName_eq_error_iff,
    fun _ => rewriteBindStatementName_eq_error_iff⟩

/-- The Parse of the query `x` with one parameter type, under the name `s`. -/
theorem rewrite_agrees_oneType :
    rewriteParseStatementName ⟨80, [97, 0, 120, 0, 0, 1, 0, 0, 0, 23]⟩ ['s'] =
      .ok (buildParseFrame ['s'] ['x'] [23]) := by
  have hquery := @Message.readCstr_writeCstr ['x'] (by decide) [0, 1, 0, 0, 0, 23]
  have hbehind : parseBehindName (writeCstr ['x'] ++ [0, 1, 0, 0, 0, 23]) = .ok (['x'], [23]) := by
    decide +kernel
  have hparse := @parseParseMessage_of_name ['a'] (by decide)
    (writeCstr ['x'] ++ [0, 1, 0, 0, 0, 23])
  rw [hbehind] at hparse
  exact (rewrite_agrees _ ['s'] (by decide)).1 ⟨['a'], ['x'], [23]⟩ hparse rfl

end PgKinetic
