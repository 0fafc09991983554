import PgKinetic.Lib.Text

/-!
# Statement tracking: the command a statement is taken for

`classify` reads the text of one statement and decides which of the session-state commands it
is: transaction control, `SET`/`RESET`, `DISCARD`, temporary tables, advisory locks, `COPY`,
`LISTEN`. Everything else, including every spelling of these commands that the comparison with
fixed texts does not cover, is a plain `query`.

`parse_set` cuts the statement at a fixed **byte** position, which fails off a character
boundary; the source panics there, and `classify` is `none`.
-/

namespace PgKinetic

/-- `TransactionAccessMode`. -/
inductive TransactionAccessMode where
  | readOnly
  | readWrite
  deriving DecidableEq, Repr

/-- `SetScope`. -/
inductive SetScope where
  | session
  | «local»
  deriving DecidableEq, Repr

/-- `SqlCommand`. -/
inductive SqlCommand where
  | begin (accessMode : TransactionAccessMode)
  | commit
  | rollback
  | setTransaction (accessMode : TransactionAccessMode)
  | set (scope : SetScope) (key value : Text)
  | reset (key : Text)
  | discardAll
  | discardTemp
  | discardPlans
  | createTemp
  | advisoryLock
  | advisoryUnlock
  | copy
  | listen
  | unlisten
  | query
  deriving DecidableEq, Repr

namespace Sql

/-- `normalize`: one blank between words, ASCII letters in lower case. -/
def normalize (sql : Text) : Text := (Text.joinWords sql.splitWhitespace).toAsciiLowercase

/-- `parse_begin_transaction`. -/
def parseBeginTransaction (normalized : Text) : Option TransactionAccessMode :=
  if normalized = "begin" ∨ normalized = "start transaction" then some .readWrite
  else if normalized = "begin read only" ∨ normalized = "start transaction read only" then
    some .readOnly
  else if normalized = "begin read write" ∨ normalized = "start transaction read write" then
    some .readWrite
  else none

/-- `parse_set_transaction`. -/
def parseSetTransaction (normalized : Text) : Option TransactionAccessMode :=
  if normalized = "set transaction read only" then some .readOnly
  else if normalized = "set transaction read write" then some .readWrite
  else none

/-- `parse_set`: `none` where `sql[prefix_len..]` is not a slice. -/
def parseSet (sql : Text) (scope : SetScope) : Option SqlCommand :=
  let prefixLen := match scope with
    | .session => 4
    | .local => 10
  match sql.splitAtByte prefixLen with
  | none => none
  | some (_, rest) =>
    let rest := rest.trim
    match Text.splitOnce '=' rest with
    | some (key, value) => some (.set scope key.trim.toAsciiLowercase value.trim)
    | none =>
      match rest.splitWhitespace with
      | [] => some (.set scope [] [])
      | key :: parts => some (.set scope key.toAsciiLowercase (Text.joinWords parts))

/-- `classify`: the command a statement is tracked as. -/
def classify (sql : Text) : Option SqlCommand :=
  -- the whole text is taken for one statement, and comments are part of it
  let trimmed := (sql.trim.trimEndMatches (· == ';')).trim
  let normalized := normalize trimmed
  match parseBeginTransaction normalized with
  | some accessMode => some (.begin accessMode)
  | none =>
  match parseSetTransaction normalized with
  | some accessMode => some (.setTransaction accessMode)
  | none =>
  if normalized = "commit" ∨ normalized = "end" then some .commit
  else if normalized = "rollback" then some .rollback
  else if normalized = "discard all" then some .discardAll
  else if normalized = "discard temp" ∨ normalized = "discard temporary" then some .discardTemp
  else if normalized = "discard plans" then some .discardPlans
  else if normalized.startsWith "set local " then parseSet trimmed .local
  else if normalized.startsWith "set " then parseSet trimmed .session
  else if normalized.startsWith "reset " then
    some (.reset (Text.trimStartMatches "reset " normalized).trim)
  else if normalized.startsWith "create temp " || normalized.startsWith "create temporary " then
    some .createTemp
  else if normalized.contains "pg_advisory_lock(" then some .advisoryLock
  else if normalized.contains "pg_advisory_unlock" then some .advisoryUnlock
  else if normalized.startsWith "copy " then some .copy
  else if normalized.startsWith "listen " then some .listen
  else if normalized.startsWith "unlisten " then some .unlisten
  else some .query

end Sql

end PgKinetic
