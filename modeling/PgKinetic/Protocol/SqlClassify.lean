import PgKinetic.Lib.Text

/-!
# Query classes

The second reading of a statement: `classify_sql` decides whether a text reads or writes, which
routing and write tracking use. It works on **top-level statements**, the pieces between
semicolons outside quotes and comments, and on words separated by white space and comments.

The scanners of the source share one automaton (`ScanState`), here `ScanState.next`. Loops that
cut a proper suffix off the text at every turn recurse on a bound for the number of turns, the
length of the text.
-/

namespace PgKinetic

/-- `QueryClass`. -/
inductive QueryClass where
  | write
  | readOnly
  | readCandidate
  | transactionControl
  | sessionMutation
  | copy
  | unknown
  deriving DecidableEq, Repr

/-- `QueryClass::routes_to_replica`. -/
def QueryClass.routesToReplica : QueryClass → Bool
  | .readOnly | .readCandidate => true
  | _ => false

namespace SqlClassify

/-! ### Scanning -/

/-- `ScanState`. -/
inductive ScanState where
  | normal
  | singleQuote
  | doubleQuote
  | lineComment
  | blockComment
  deriving DecidableEq, Repr

/-- One turn of the scanners on the character `ch` with `peek` after it: the next state, and
whether `peek` is consumed as well. -/
def ScanState.next (state : ScanState) (ch : Char) (peek : Option Char) : ScanState × Bool :=
  match state with
  | .normal =>
    if ch = '\'' then (.singleQuote, false)
    else if ch = '"' then (.doubleQuote, false)
    else if ch = '-' ∧ peek = some '-' then (.lineComment, true)
    else if ch = '/' ∧ peek = some '*' then (.blockComment, true)
    else (.normal, false)
  | .singleQuote =>
    if ch = '\'' then
      if peek = some '\'' then (.singleQuote, true) else (.normal, false)
    else (.singleQuote, false)
  | .doubleQuote =>
    if ch = '"' then
      if peek = some '"' then (.doubleQuote, true) else (.normal, false)
    else (.doubleQuote, false)
  | .lineComment => if ch = '\n' then (.normal, false) else (.lineComment, false)
  | .blockComment => if ch = '*' ∧ peek = some '/' then (.normal, true) else (.blockComment, false)

/-- A finished segment, given by its characters in reverse: visited unless it is blank. -/
def segment (acc : Text) : List Text :=
  let statement := Text.trim acc.reverse
  if statement.isEmpty then [] else [statement]

/-- The statements `for_each_top_level_statement` visits, in order
(`split_top_level_statements`). -/
def splitTopLevelStatements (sql : Text) : List Text := go .normal false [] sql
where
  /-- `acc` holds the characters since `start`, `skip` that `iter.next()` has already taken
  the next one. -/
  go : ScanState → Bool → Text → Text → List Text
    | _, _, acc, [] => segment acc
    | state, true, acc, c :: rest => go state false (c :: acc) rest
    | state, false, acc, c :: rest =>
      if state = .normal ∧ c = ';' then segment acc ++ go .normal false [] rest
      else
        let (state', skip) := state.next c rest.head?
        go state' skip (c :: acc) rest

/-- `find_matching_paren`, as the text before the matching parenthesis and the text after. -/
def splitAtMatchingParen (sql : Text) : Option (Text × Text) := go .normal false 0 [] sql
where
  go : ScanState → Bool → Nat → Text → Text → Option (Text × Text)
    | _, _, _, _, [] => none
    | state, true, depth, acc, c :: rest => go state false depth (c :: acc) rest
    | state, false, depth, acc, c :: rest =>
      if state = .normal ∧ c = '(' then go .normal false (depth + 1) (c :: acc) rest
      else if state = .normal ∧ c = ')' then
        if depth - 1 = 0 then some (acc.reverse, rest)
        else go .normal false (depth - 1) (c :: acc) rest
      else
        let (state', skip) := state.next c rest.head?
        go state' skip depth (c :: acc) rest

/-- `strip_leading_comments_and_whitespace`, also `strip_token_separators`. -/
def stripTokenSeparators (sql : Text) : Text := go (sql.length + 1) sql
where
  go : Nat → Text → Text
    | 0, rest => rest
    | n + 1, rest =>
      let trimmed := rest.trimStart
      if trimmed ≠ rest then go n trimmed
      else
        match rest.stripLeading "--" with
        | some afterComment =>
          match Text.splitAtFirst "\n" afterComment with
          | some (_, rest) => go n rest
          | none => []
        | none =>
          match rest.stripLeading "/*" with
          | some afterComment =>
            match Text.splitAtFirst "*/" afterComment with
            | some (_, rest) => go n rest
            | none => []
          | none => rest

/-- `starts_with_token_separator`. -/
def startsWithTokenSeparator (sql : Text) : Bool :=
  sql.head?.any Text.isWhitespace || sql.startsWith "--" || sql.startsWith "/*"

/-! ### Words -/

/-- `starts_with_words_ignore_ascii_case`. -/
def startsWithWords (sql : Text) : List Text → Bool
  | [] => true
  | word :: words =>
    match (stripTokenSeparators sql).splitAtByte word.byteLen with
    | none => false
    | some (candidate, afterWord) =>
      if !candidate.eqIgnoreAsciiCase word then false
      else if words.isEmpty then afterWord.isEmpty || startsWithTokenSeparator afterWord
      else if !startsWithTokenSeparator afterWord then false
      else startsWithWords afterWord words

/-- `keyword_is`. -/
def keywordIs (sql keyword : Text) : Bool := startsWithWords sql [keyword]

/-- `keyword_is_exact`. -/
def keywordIsExact (sql keyword : Text) : Bool :=
  match (stripTokenSeparators sql).splitAtByte keyword.byteLen with
  | none => false
  | some (candidate, rest) =>
    candidate.eqIgnoreAsciiCase keyword && (stripTokenSeparators rest).isEmpty

/-- `keyword_is_followed_by_more`. -/
def keywordIsFollowedByMore (sql keyword : Text) : Bool :=
  match (stripTokenSeparators sql).splitAtByte keyword.byteLen with
  | none => false
  | some (candidate, rest) =>
    candidate.eqIgnoreAsciiCase keyword && startsWithTokenSeparator rest &&
      !(stripTokenSeparators rest).isEmpty

/-- The text from its first token separator on (`find_token_separator`). -/
def dropToTokenSeparator : Text → Text
  | [] => []
  | c :: t => if startsWithTokenSeparator (c :: t) then c :: t else dropToTokenSeparator t

/-- `contains_words_ignore_ascii_case`. -/
def containsWords (sql : Text) (words : List Text) : Bool := words.isEmpty || go sql.length sql
where
  go : Nat → Text → Bool
    | 0, _ => false
    | n + 1, remainder =>
      let trimmed := stripTokenSeparators remainder
      if trimmed.isEmpty then false
      else startsWithWords trimmed words || go n (dropToTokenSeparator trimmed)

/-! ### Classes of statements -/

/-- `normalize`. -/
def normalize (sql : Text) : Text := (Text.joinWords sql.splitWhitespace).toAsciiLowercase

/-- `contains_data_modifying_cte_normalized`. -/
def containsDataModifyingCteNormalized (normalized : Text) : Bool :=
  (normalized.startsWith "with " || normalized == "with") &&
    (normalized.contains " as (insert" || normalized.contains " as (update" ||
      normalized.contains " as (delete" || normalized.contains " as (merge")

/-- `contains_select_side_effects`. -/
def containsSelectSideEffects (normalized : Text) : Bool :=
  normalized.contains " into " || normalized.contains " for update" ||
    normalized.contains " for no key update" || normalized.contains " for share" ||
    normalized.contains " for key share" || normalized.contains " lock in share mode" ||
    normalized.contains "pg_advisory_lock(" || normalized.contains "pg_try_advisory_lock(" ||
    normalized.contains "set_config("

/-- `is_transaction_control`. -/
def isTransactionControl (sql : Text) : Bool :=
  startsWithWords sql ["begin"] || keywordIsExact sql "commit" ||
    keywordIsExact sql "rollback" || keywordIsExact sql "abort" || keywordIsExact sql "end" ||
    startsWithWords sql ["start", "transaction"] || startsWithWords sql ["set", "transaction"] ||
    keywordIsFollowedByMore sql "savepoint" || startsWithWords sql ["release", "savepoint"] ||
    startsWithWords sql ["rollback", "to"]

/-- `is_session_mutation`. -/
def isSessionMutation (sql : Text) : Bool :=
  (["set", "reset", "discard", "listen", "unlisten", "notify", "lock", "declare"] :
    List String).any fun keyword => keywordIsFollowedByMore sql keyword

/-- `is_write_statement`. -/
def isWriteStatement (sql : Text) : Bool :=
  (["insert", "update", "delete", "merge", "truncate", "create", "alter", "drop", "call", "do",
    "vacuum", "analyze", "reindex", "grant", "revoke"] : List String).any fun keyword =>
      keywordIs sql keyword

/-- `classify_copy`. -/
def classifyCopy (sql : Text) : QueryClass :=
  if containsWords sql ["from", "stdin"] then .write
  else if containsWords sql ["to", "stdout"] then .readCandidate
  else .write

/-- What `classify_single_statement` does with a statement that is not an `EXPLAIN`. -/
def classifyPlainStatement (sql : Text) : QueryClass :=
  if keywordIs sql "with" then
    if containsDataModifyingCteNormalized (normalize sql) then .write else .unknown
  else if isTransactionControl sql then .transactionControl
  else if isSessionMutation sql then .sessionMutation
  else if keywordIs sql "copy" then classifyCopy sql
  else if keywordIs sql "select" then
    let normalized := normalize sql
    if containsDataModifyingCteNormalized normalized || containsSelectSideEffects normalized then
      .write
    else .readCandidate
  else if keywordIs sql "values" || keywordIs sql "table" then .readCandidate
  else if keywordIs sql "show" then .readCandidate
  else if isWriteStatement sql then .write
  else .unknown

/-- What `classify_explain` classifies next: the statement under the `EXPLAIN`, unless its
options ask for `ANALYZE` or their parenthesis is not closed. -/
def explainTarget (sql : Text) : Option Text :=
  match sql.splitAtByte 7 with
  | none => none
  | some (_, afterKeyword) =>
    let rest := stripTokenSeparators afterKeyword
    if rest.startsWith "(" then
      match splitAtMatchingParen rest with
      | none => none
      | some (options, rest) =>
        if (normalize (options.drop 1)).contains "analyze" then none
        else some (stripTokenSeparators rest)
    else if (normalize rest).startsWith "analyze" then none
    else some rest

/-- `classify_single_statement` with `classify_explain`; every `EXPLAIN` shortens the text. -/
def classifySingleStatement (sql : Text) : QueryClass := go (sql.length + 1) sql
where
  go : Nat → Text → QueryClass
    | 0, _ => .unknown
    | n + 1, sql =>
      let sql := stripTokenSeparators sql
      if sql.isEmpty then .unknown
      else if keywordIs sql "explain" then
        match explainTarget sql with
        | none => .unknown
        | some target => if (go n target).routesToReplica then .readCandidate else .unknown
      else classifyPlainStatement sql

/-- `classify_multi_statement`; the flag is `saw_read_candidate`. -/
def classifyMultiStatement : Bool → List Text → QueryClass
  | sawReadCandidate, [] => if sawReadCandidate then .readCandidate else .transactionControl
  | sawReadCandidate, statement :: statements =>
    match classifySingleStatement statement with
    | .readCandidate | .readOnly => classifyMultiStatement true statements
    | .transactionControl => classifyMultiStatement sawReadCandidate statements
    | other => other

/-- `classify_sql`. -/
def classifySql (sql : Text) : QueryClass :=
  let sql := stripTokenSeparators sql
  if sql.isEmpty then .unknown
  else
    let statements := splitTopLevelStatements sql
    if statements.length > 1 then classifyMultiStatement false statements
    else classifySingleStatement sql

end SqlClassify

end PgKinetic
