import Mathlib.Algebra.Ring.Int.Defs
import PgKinetic.Lib.Text

/-!
# Frames and messages of the wire protocol

Backend frames are kept as bytes: `parse_backend_frame` cuts them off a read buffer,
`ready_status` and `sqlstate` look into their payload. Frontend frames are kept as the messages
they parse to, one constructor for each tag the proxy distinguishes, since the proxy looks at
nothing in them but names, texts and parameter types; a payload that does not parse is
`malformed`.
-/

namespace PgKinetic

/-- A byte of the wire. -/
abbrev Byte := UInt8

/-- `ReadyStatus`. -/
inductive ReadyStatus where
  | idle
  | inTransaction
  | failedTransaction
  deriving DecidableEq, Repr

/-- `SqlState`. -/
inductive SqlState where
  | tooManyConnections
  | insufficientPrivilege
  | queryCanceled
  | operatorIntervention
  | cannotConnectNow
  | invalidSqlStatementName
  | featureNotSupported
  | undefinedTable
  | undefinedColumn
  | uniqueViolation
  deriving DecidableEq, Repr

/-- `SqlState::parse`. -/
def SqlState.parse (code : Text) : Option SqlState :=
  if code = "53300" then some .tooManyConnections
  else if code = "42501" then some .insufficientPrivilege
  else if code = "57014" then some .queryCanceled
  else if code = "57000" then some .operatorIntervention
  else if code = "57P03" then some .cannotConnectNow
  else if code = "26000" then some .invalidSqlStatementName
  else if code = "0A000" then some .featureNotSupported
  else if code = "42P01" then some .undefinedTable
  else if code = "42703" then some .undefinedColumn
  else if code = "23505" then some .uniqueViolation
  else none

/-! ### Backend frames -/

/-- `BackendTag`. -/
inductive BackendTag where
  | authentication
  | backendKeyData
  | bindComplete
  | closeComplete
  | commandComplete
  | copyBothResponse
  | copyInResponse
  | dataRow
  | emptyQueryResponse
  | errorResponse
  | noData
  | parameterDescription
  | parameterStatus
  | parseComplete
  | portalSuspended
  | readyForQuery
  | rowDescription
  deriving DecidableEq, Repr

/-- `u8::from(BackendTag)`. -/
def BackendTag.byte : BackendTag → Byte
  | .authentication => 'R'.toUInt8
  | .backendKeyData => 'K'.toUInt8
  | .bindComplete => '2'.toUInt8
  | .closeComplete => '3'.toUInt8
  | .commandComplete => 'C'.toUInt8
  | .copyBothResponse => 'W'.toUInt8
  | .copyInResponse => 'G'.toUInt8
  | .dataRow => 'D'.toUInt8
  | .emptyQueryResponse => 'I'.toUInt8
  | .errorResponse => 'E'.toUInt8
  | .noData => 'n'.toUInt8
  | .parameterDescription => 't'.toUInt8
  | .parameterStatus => 'S'.toUInt8
  | .parseComplete => '1'.toUInt8
  | .portalSuspended => 's'.toUInt8
  | .readyForQuery => 'Z'.toUInt8
  | .rowDescription => 'T'.toUInt8

/-- `BackendFrame`. -/
structure BackendFrame where
  tag : Byte
  payload : List Byte
  deriving DecidableEq, Repr

/-- `std::str::from_utf8`. -/
def decodeUtf8 (bytes : List Byte) : Option Text :=
  (String.fromUTF8? ⟨bytes.toArray⟩).map String.toList

namespace BackendFrame

/-- Whether the frame carries the tag. -/
def hasTag (frame : BackendFrame) (tag : BackendTag) : Bool := frame.tag == tag.byte

/-- A frame with one tag has no other. -/
theorem hasTag_eq_false {frame : BackendFrame} {tag : BackendTag}
    (h : frame.hasTag tag = true) (tag' : BackendTag) (hne : tag.byte ≠ tag'.byte) :
    frame.hasTag tag' = false := by
  have htag : frame.tag = tag.byte := eq_of_beq h
  exact beq_false_of_ne (htag ▸ hne)

/-- `BackendFrame::ready_status`. -/
def readyStatus (frame : BackendFrame) : Option ReadyStatus :=
  if !frame.hasTag .readyForQuery then none
  else
    match frame.payload with
    | [byte] =>
      if byte = 'I'.toUInt8 then some .idle
      else if byte = 'T'.toUInt8 then some .inTransaction
      else if byte = 'E'.toUInt8 then some .failedTransaction
      else none
    | _ => none

/-- The fields of an error payload, read until the one of kind `C`. Every field takes at least
one byte, so the number of bytes bounds the number of turns. -/
def sqlstateField : Nat → List Byte → Option SqlState
  | 0, _ => none
  | _ + 1, [] => none
  | n + 1, fieldType :: remaining =>
    if fieldType = 0 then none
    else
      match remaining.dropWhile (· != 0) with
      | [] => none
      | _ :: rest =>
        match decodeUtf8 (remaining.takeWhile (· != 0)) with
        | none => none
        | some value =>
          if fieldType = 'C'.toUInt8 then SqlState.parse value else sqlstateField n rest

/-- `BackendFrame::sqlstate`. -/
def sqlstate (frame : BackendFrame) : Option SqlState :=
  if !frame.hasTag .errorResponse then none
  else sqlstateField frame.payload.length frame.payload

end BackendFrame

/-- `i32::from_be_bytes`. -/
def i32FromBytes (b₀ b₁ b₂ b₃ : Byte) : Int :=
  let n : Int := b₀.toNat * 2 ^ 24 + b₁.toNat * 2 ^ 16 + b₂.toNat * 2 ^ 8 + b₃.toNat
  if n < 2 ^ 31 then n else n - 2 ^ 32

/-- `i16::from_be_bytes`. -/
def i16FromBytes (b₀ b₁ : Byte) : Int :=
  let n : Int := b₀.toNat * 2 ^ 8 + b₁.toNat
  if n < 2 ^ 15 then n else n - 2 ^ 16

/-- `WireError`, where the proxy meets one. -/
inductive WireError where
  | invalidBackendFrameLength (length : Int)
  | incompleteFrame
  | invalidUtf8
  deriving DecidableEq, Repr

/-- `parse_backend_frame`: the first frame of the buffer and the bytes after it. -/
def parseBackendFrame : List Byte → Except WireError (Option (BackendFrame × List Byte))
  | tag :: b₀ :: b₁ :: b₂ :: b₃ :: rest =>
    let length := i32FromBytes b₀ b₁ b₂ b₃
    if length < 4 then .error (.invalidBackendFrameLength length)
    else
      let payloadLen := (length - 4).toNat
      if rest.length < payloadLen then .ok none
      else .ok (some (⟨tag, rest.take payloadLen⟩, rest.drop payloadLen))
  | _ => .ok none

/-- All complete frames of a buffer, in order, and the bytes that remain: what a loop
`while let Some(frame) = parse_backend_frame(buffer)?` goes through. Every frame takes at least
five bytes, so the length of the buffer bounds their number. -/
def parseBackendFrames (buffer : List Byte) : Except WireError (List BackendFrame × List Byte) :=
  go buffer.length buffer
where
  go : Nat → List Byte → Except WireError (List BackendFrame × List Byte)
    | 0, buffer => .ok ([], buffer)
    | n + 1, buffer =>
      match parseBackendFrame buffer with
      | .error e => .error e
      | .ok none => .ok ([], buffer)
      | .ok (some (frame, rest)) =>
        match go n rest with
        | .error e => .error e
        | .ok (frames, rest) => .ok (frame :: frames, rest)

/-- `ReadyStatusByte`. -/
def ReadyStatus.byte : ReadyStatus → Byte
  | .idle => 'I'.toUInt8
  | .inTransaction => 'T'.toUInt8
  | .failedTransaction => 'E'.toUInt8

/-- `ready_for_query`. -/
def readyForQuery (status : ReadyStatus) : List Byte :=
  [BackendTag.readyForQuery.byte, 0, 0, 0, 5, status.byte]

theorem readyStatus_idle : BackendFrame.readyStatus ⟨90, [73]⟩ = some .idle := by decide

/-! ### Frontend messages -/

/-- `FrontendTag`. -/
inductive FrontendTag where
  | query
  | parse
  | bind
  | describe
  | execute
  | close
  | flush
  | sync
  | terminate
  deriving DecidableEq, Repr

/-- `DescribeTarget` and `CloseTarget`, with `unknown` for a kind byte that is neither. -/
inductive StatementTarget where
  | statement (name : Text)
  | portal (name : Text)
  | unknown
  deriving DecidableEq, Repr

/-- A frontend frame, as `parse_simple_query`, `parse_parse_message`,
`parse_bind_statement_name`, `parse_describe_target` and `parse_close_target` read it. -/
inductive FrontendMessage where
  | query (sql : Text)
  | parse (statementName query : Text) (parameterTypeOids : List Int)
  | bind (statementName : Text)
  | describe (target : StatementTarget)
  | execute
  | close (target : StatementTarget)
  | flush
  | sync
  | terminate
  | other (tag : Byte)
  | malformed (tag : FrontendTag)
  deriving DecidableEq, Repr

/-- The tag of the frame; `none` for one the proxy does not know. -/
def FrontendMessage.tag : FrontendMessage → Option FrontendTag
  | .query _ => some .query
  | .parse .. => some .parse
  | .bind _ => some .bind
  | .describe _ => some .describe
  | .execute => some .execute
  | .close _ => some .close
  | .flush => some .flush
  | .sync => some .sync
  | .terminate => some .terminate
  | .other _ => none
  | .malformed tag => some tag

end PgKinetic
