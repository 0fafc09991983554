import Mathlib
import PgKinetic.Lib.Fallible

/-!
# The time of the last replayed transaction

`parse_replay_timestamp` reads the second column of the replay query: milliseconds since the
epoch, or a timestamp as PostgreSQL writes it, with a time zone. A `SystemTime` is a number of
nanoseconds since the epoch. Sums the source leaves unchecked are those of `i64`.
-/

namespace PgKinetic

open Fallible

/-- `SystemTime`, in nanoseconds since the epoch. -/
abbrev SystemTime := Int

/-- A value of `i64`, wrapped around. -/
def wrapI64 (n : Int) : Int := n.bmod (2 ^ 64)

/-- `parse_offset_seconds`. A slice off a character boundary ends the probe as an error does. -/
def parseOffsetSeconds (offset : Text) : Except Text Int :=
  match offset with
  | [] => .error "offset is empty"
  | c :: rest => do
    let sign : Int ←
      if c = '+' then pure 1
      else if c = '-' then pure (-1)
      else .error (("offset has invalid sign: " : Text) ++ [c])
    let cleaned : Text := rest.filter (· != ':')
    if cleaned.isEmpty then .error "offset is missing digits"
    else
      match cleaned.byteLen with
      | 2 =>
        let hours ← orError "offset hours are invalid" (Text.parseSigned 64 cleaned)
        pure (sign * (hours * 3600))
      | 4 =>
        let (hours, minutes) ←
          orError "byte index 2 is not a char boundary" (cleaned.splitAtByte 2)
        let hours ← orError "offset hours are invalid" (Text.parseSigned 64 hours)
        let minutes ← orError "offset minutes are invalid" (Text.parseSigned 64 minutes)
        pure (sign * (hours * 3600 + minutes * 60))
      | _ => .error "offset must be HH, HHMM, or HH:MM"

/-- `parse_timestamp_offset`: the time of day, and the offset behind its last sign. -/
def parseTimestampOffset (value : Text) : Except Text (Text × Int) :=
  if value.getLast? = some 'Z' then pure (value.dropLast, 0)
  else
    let isSign := fun c => c = '+' || c = '-'
    if !value.any isSign then .error "timestamp is missing a timezone offset"
    else do
      let offsetDigits := (value.reverse.takeWhile fun c => !isSign c).reverse
      let position := value.length - offsetDigits.length - 1
      let offset ← parseOffsetSeconds (value.drop position)
      pure (value.take position, offset)

/-- The nanoseconds a fraction of a second stands for, from its first nine digits. -/
def fractionNanos : Nat → Nat → Text → Except Text Nat
  | digits, nanos, [] => pure (nanos * 10 ^ (9 - digits))
  | digits, nanos, c :: rest =>
    if digits = 9 then pure nanos
    else
      match Text.decimalDigit c with
      | some digit => fractionNanos (digits + 1) (nanos * 10 + digit) rest
      | none => .error "timestamp fraction is invalid"

/-- `parse_second_part`. -/
def parseSecondPart (value : Text) : Except Text (Int × Nat) :=
  match value.splitOnce '.' with
  | some (seconds, fraction) => do
    let second ← orError "timestamp second is invalid" (Text.parseSigned 64 seconds)
    let nanos ← fractionNanos 0 0 fraction
    pure (second, nanos)
  | none => do
    let second ← orError "timestamp second is invalid" (Text.parseSigned 64 value)
    pure (second, 0)

/-- `days_from_civil`. -/
def daysFromCivil (year : Int) (month day : Nat) : Except Text Int :=
  if !(1 ≤ month && month ≤ 12) then .error "timestamp month out of range"
  else if !(1 ≤ day && day ≤ 31) then .error "timestamp day out of range"
  else
    let year := year - if month ≤ 2 then 1 else 0
    let era := year / 400
    let yearOfEra := year - era * 400
    let adjustedMonth : Int := month + if month > 2 then -3 else 9
    let dayOfYear := (153 * adjustedMonth + 2) / 5 + day - 1
    let dayOfEra := yearOfEra * 365 + yearOfEra / 4 - yearOfEra / 100 + dayOfYear
    .ok (era * 146097 + dayOfEra - 719468)

/-- The time as `UNIX_EPOCH` and a `Duration` of 64 bits make it. -/
def systemTimeFromNanos (nanos : Int) : SystemTime :=
  if 0 ≤ nanos then nanos % 2 ^ 64 else -(-nanos % 2 ^ 64)

/-- `parse_postgres_timestamp`. -/
def parsePostgresTimestamp (value : Text) : Except Text SystemTime := do
  let (datePart, timePart) ← orError "timestamp is missing a separator" (value.splitOnce ' ')
  -- a split has a first part even if the text is empty, so a missing year or hour is invalid
  let dateParts := datePart.splitOn '-'
  let year ← orError "timestamp year is invalid" (Text.parseSigned 32 (dateParts.headD []))
  let month ← orError "timestamp is missing a month" dateParts[1]?
  let month ← orError "timestamp month is invalid" (Text.parseUnsigned 32 month)
  let day ← orError "timestamp is missing a day" dateParts[2]?
  let day ← orError "timestamp day is invalid" (Text.parseUnsigned 32 day)
  if 3 < dateParts.length then .error "timestamp has extra date parts"
  let (timePart, offsetSeconds) ← parseTimestampOffset timePart
  let timeParts := timePart.splitOn ':'
  let hour ← orError "timestamp hour is invalid" (Text.parseSigned 64 (timeParts.headD []))
  let minute ← orError "timestamp is missing a minute" timeParts[1]?
  let minute ← orError "timestamp minute is invalid" (Text.parseSigned 64 minute)
  let secondPart ← orError "timestamp is missing seconds" timeParts[2]?
  if 3 < timeParts.length then .error "timestamp has extra time parts"
  let (second, nanosecond) ← parseSecondPart secondPart
  let days ← (daysFromCivil year month day).mapError fun _ => "timestamp date is invalid"
  let seconds := days * 86400 + wrapI64 (hour * 3600 + minute * 60 + second)
  if seconds < -2 ^ 63 ∨ 2 ^ 63 ≤ seconds then .error "timestamp seconds overflow"
  pure (systemTimeFromNanos (wrapI64 (seconds - offsetSeconds) * 1000000000 + nanosecond))

/-- `parse_replay_timestamp`. -/
def parseReplayTimestamp (value : Text) : Except Text SystemTime :=
  match Text.parseUnsigned 64 value.trim with
  | some milliseconds => .ok (milliseconds * 1000000)
  | none => parsePostgresTimestamp value.trim

example : parseReplayTimestamp "1970-01-02 01:00:00.5+01" = .ok 86400500000000 := by decide +kernel

end PgKinetic
