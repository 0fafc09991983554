import PgKinetic.Protocol.VirtualSession

/-!
# Positions of the write-ahead log as texts

`PgLsn::from_str` reads the two hexadecimal halves of a position, `segment/offset`, each of at
most eight digits.
-/

namespace PgKinetic

/-- `LsnParseError`. -/
inductive LsnParseError where
  | missingSeparator
  | emptyPart
  | invalidSegment
  | invalidOffset
  | segmentOverflow
  | offsetOverflow
  deriving DecidableEq, Repr

/-- The value of a hexadecimal digit. -/
def hexDigit (c : Char) : Option Nat :=
  if '0' ≤ c ∧ c ≤ '9' then some (c.toNat - '0'.toNat)
  else if 'a' ≤ c ∧ c ≤ 'f' then some (c.toNat - 'a'.toNat + 10)
  else if 'A' ≤ c ∧ c ≤ 'F' then some (c.toNat - 'A'.toNat + 10)
  else none

/-- `parse_hex_u32`. A character that takes several bytes is no digit, so the bytes before the
first invalid one are characters. -/
def parseHexU32 (input : Text) (invalid overflow : LsnParseError) : Except LsnParseError Nat :=
  go 0 0 input
where
  go (digits value : Nat) : Text → Except LsnParseError Nat
    | [] => .ok value
    | c :: rest =>
      if digits = 8 then .error overflow
      else
        match hexDigit c with
        | none => .error invalid
        | some digit =>
          let value := value * 16 + digit
          if value < 2 ^ 32 then go (digits + 1) value rest else .error overflow

/-- `PgLsn::from_parts`. -/
def PgLsn.fromParts (segment offset : Nat) : PgLsn := segment * 2 ^ 32 + offset

/-- `PgLsn::from_str`. -/
def PgLsn.fromStr (input : Text) : Except LsnParseError PgLsn :=
  match input.splitOnce '/' with
  | none => .error .missingSeparator
  | some (segment, offset) =>
    if segment.isEmpty || offset.isEmpty then .error .emptyPart
    else do
      let segment ← parseHexU32 segment .invalidSegment .segmentOverflow
      let offset ← parseHexU32 offset .invalidOffset .offsetOverflow
      pure (PgLsn.fromParts segment offset)

example : PgLsn.fromStr "2/10" = .ok (PgLsn.fromParts 2 16) := by decide

end PgKinetic
