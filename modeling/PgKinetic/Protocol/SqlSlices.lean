import PgKinetic.Protocol.SqlTokens
import PgKinetic.Protocol.SqlWords
import PgKinetic.Traffic.ReadRouting
import Mathlib.Data.List.ReduceOption

/-!
# The positions at which statements are cut

`classify_sql`, `tokenize_sql` and `extract_routing_hint` once more, with the byte positions that
the source computes and the slices it takes at them. A slice that does not exist is a panic, and a
loop that does not end within the number of turns it is given has no result: both are `none`. That
the functions are `some` of what they are in the model without positions says three things at once:
no slice is out of bounds or off a character boundary, every loop ends, and cutting at the positions
gives the pieces the other model has.

`parse_set` is the exception. It cuts at a fixed position a text whose start was only compared after
its white space was normalised.
-/

namespace PgKinetic

open List Option SqlClassify Text

namespace SqlSlices

/-! ### Separators and words -/

/-- `strip_leading_comments_and_whitespace`, also `strip_token_separators`. -/
def stripTokenSeparators (sql : Text) : Option Text := go (sql.length + 1) sql
where
  go : Nat → Text → Option Text
    | 0, _ => none
    | n + 1, rest =>
      let trimmed := rest.trimStart
      if trimmed ≠ rest then go n trimmed
      else
        match rest.stripLeading "--" with
        | some afterComment =>
          match afterComment.find "\n" with
          | some last => (afterComment.sliceFrom (last + 1)).bind fun rest => go n rest
          | none => some []
        | none =>
          match rest.stripLeading "/*" with
          | some afterComment =>
            match afterComment.find "*/" with
            | some last => (afterComment.sliceFrom (last + 2)).bind fun rest => go n rest
            | none => some []
          | none => some rest

/-- `starts_with_words_ignore_ascii_case`. -/
def startsWithWords (sql : Text) : List Text → Option Bool
  | [] => some true
  | word :: words => do
    let rest ← stripTokenSeparators sql
    match rest.sliceTo word.byteLen with
    | none => some false
    | some candidate =>
      if !candidate.eqIgnoreAsciiCase word then some false
      else do
        let afterWord ← rest.sliceFrom word.byteLen
        if words.isEmpty then
          some (afterWord.isEmpty || SqlClassify.startsWithTokenSeparator afterWord)
        else if !SqlClassify.startsWithTokenSeparator afterWord then some false
        else startsWithWords afterWord words

/-- `keyword_is`. -/
def keywordIs (sql keyword : Text) : Option Bool := startsWithWords sql [keyword]

/-- `keyword_is_exact`. -/
def keywordIsExact (sql keyword : Text) : Option Bool := do
  let trimmed ← stripTokenSeparators sql
  match trimmed.sliceTo keyword.byteLen with
  | none => some false
  | some candidate =>
    if !candidate.eqIgnoreAsciiCase keyword then some false
    else do
      let rest ← trimmed.sliceFrom keyword.byteLen
      let rest ← stripTokenSeparators rest
      some rest.isEmpty

/-- `keyword_is_followed_by_more`. -/
def keywordIsFollowedByMore (sql keyword : Text) : Option Bool := do
  let rest ← stripTokenSeparators sql
  match rest.sliceTo keyword.byteLen with
  | none => some false
  | some candidate =>
    if !candidate.eqIgnoreAsciiCase keyword then some false
    else do
      let rest ← rest.sliceFrom keyword.byteLen
      if !SqlClassify.startsWithTokenSeparator rest then some false
      else do
        let rest ← stripTokenSeparators rest
        some !rest.isEmpty

/-- `find_token_separator`. -/
def findTokenSeparator (sql : Text) : Option Nat :=
  [sql.findChar Text.isWhitespace, sql.find "--", sql.find "/*"].reduceOption.min?

/-- `contains_words_ignore_ascii_case`. -/
def containsWords (sql : Text) (words : List Text) : Option Bool :=
  if words.isEmpty then some true else go (sql.length + 1) 0
where
  go : Nat → (index : Nat) → Option Bool
    | 0, _ => none
    | n + 1, index =>
      if sql.byteLen ≤ index then some false
      else do
        let remainder ← sql.sliceFrom index
        let trimmed ← stripTokenSeparators remainder
        let index := index + (remainder.byteLen - trimmed.byteLen)
        if sql.byteLen ≤ index then some false
        else do
          let here ← sql.sliceFrom index
          if ← startsWithWords here words then some true
          else do
            let here ← sql.sliceFrom index
            go n (((findTokenSeparator here).map (index + ·)).getD sql.byteLen)

/-! ### Statements and parentheses -/

/-- What `for_each_top_level_statement` visits of a piece. -/
def visited (piece : Text) : List Text :=
  let statement := piece.trim
  if statement.isEmpty then [] else [statement]

/-- The statements `for_each_top_level_statement` visits. -/
def splitTopLevelStatements (sql : Text) : Option (List Text) := go 0 .normal false sql
where
  /-- `skip` holds that `iter.next()` has already taken the next character. -/
  go : (start : Nat) → ScanState → (skip : Bool) → (iter : Text) →
      Option (List Text)
    | start, _, _, [] => (sql.sliceFrom start).map visited
    | start, state, true, _ :: iter => go start state false iter
    | start, state, false, ch :: iter =>
      if state = .normal ∧ ch = ';' then do
        let index := sql.offset (ch :: iter)
        let statement ← sql.slice start index
        let statements ← go (index + ch.utf8Size) .normal false iter
        some (visited statement ++ statements)
      else
        let (state', skip) := state.next ch iter.head?
        go start state' skip iter

/-- `find_matching_paren`. -/
def findMatchingParen (sql : Text) : Option Nat := go .normal false 0 sql
where
  go : ScanState → (skip : Bool) → (depth : Nat) → (iter : Text) → Option Nat
    | _, _, _, [] => none
    | state, true, depth, _ :: iter => go state false depth iter
    | state, false, depth, ch :: iter =>
      if state = .normal ∧ ch = '(' then go .normal false (depth + 1) iter
      else if state = .normal ∧ ch = ')' then
        if depth - 1 = 0 then some (sql.offset (ch :: iter)) else go .normal false (depth - 1) iter
      else
        let (state', skip) := state.next ch iter.head?
        go state' skip depth iter

/-! ### Classes -/

/-- A chain of `||`: a test is made if those before it have failed. -/
def firstTrue : List (Option Bool) → Option Bool
  | [] => some false
  | test :: tests => test.bind fun holds => if holds then some true else firstTrue tests

/-- `is_transaction_control`. -/
def isTransactionControl (sql : Text) : Option Bool :=
  firstTrue [startsWithWords sql ["begin"], keywordIsExact sql "commit",
    keywordIsExact sql "rollback", keywordIsExact sql "abort", keywordIsExact sql "end",
    startsWithWords sql ["start", "transaction"], startsWithWords sql ["set", "transaction"],
    keywordIsFollowedByMore sql "savepoint", startsWithWords sql ["release", "savepoint"],
    startsWithWords sql ["rollback", "to"]]

/-- `is_session_mutation`. -/
def isSessionMutation (sql : Text) : Option Bool :=
  firstTrue ((["set", "reset", "discard", "listen", "unlisten", "notify", "lock", "declare"] :
    List String).map fun keyword : String => keywordIsFollowedByMore sql keyword)

/-- `is_write_statement`. -/
def isWriteStatement (sql : Text) : Option Bool :=
  firstTrue ((["insert", "update", "delete", "merge", "truncate", "create", "alter", "drop", "call",
    "do", "vacuum", "analyze", "reindex", "grant", "revoke"] : List String).map
      fun keyword : String => keywordIs sql keyword)

/-- `classify_copy`. -/
def classifyCopy (sql : Text) : Option QueryClass := do
  if ← containsWords sql ["from", "stdin"] then some .write
  else if ← containsWords sql ["to", "stdout"] then some .readCandidate
  else some .write

/-- What `classify_single_statement` does with a statement that is not an `EXPLAIN`. -/
def classifyPlainStatement (sql : Text) : Option QueryClass := do
  if ← keywordIs sql "with" then
    some (if containsDataModifyingCteNormalized (normalize sql) then .write
      else .unknown)
  else if ← isTransactionControl sql then some .transactionControl
  else if ← isSessionMutation sql then some .sessionMutation
  else if ← keywordIs sql "copy" then classifyCopy sql
  else if ← keywordIs sql "select" then
    let normalized := normalize sql
    some (if containsDataModifyingCteNormalized normalized ||
      containsSelectSideEffects normalized then .write else .readCandidate)
  else if ← firstTrue [keywordIs sql "values", keywordIs sql "table"] then some .readCandidate
  else if ← keywordIs sql "show" then some .readCandidate
  else if ← isWriteStatement sql then some .write
  else some .unknown

/-- What `classify_explain` classifies next; the inner `none` is an `EXPLAIN` that is not looked
into. -/
def explainTarget (sql : Text) : Option (Option Text) := do
  let afterKeyword ← sql.sliceFrom (byteLen "explain")
  let rest ← stripTokenSeparators afterKeyword
  if rest.startsWith "(" then
    match findMatchingParen rest with
    | none => some none
    | some last => do
      let options ← rest.slice 1 last
      if (normalize options).contains "analyze" then some none
      else do
        let rest ← rest.sliceFrom (last + 1)
        let rest ← stripTokenSeparators rest
        some (some rest)
  else if (normalize rest).startsWith "analyze" then some none
  else some (some rest)

/-- `classify_single_statement` with `classify_explain`. -/
def classifySingleStatement (sql : Text) : Option QueryClass := go (sql.length + 1) sql
where
  go : Nat → Text → Option QueryClass
    | 0, _ => none
    | n + 1, sql => do
      let sql ← stripTokenSeparators sql
      if sql.isEmpty then some .unknown
      else if ← keywordIs sql "explain" then
        match ← explainTarget sql with
        | none => some .unknown
        | some target => do
          let targetClass ← go n target
          some (if targetClass.routesToReplica then .readCandidate else .unknown)
      else classifyPlainStatement sql

/-- `classify_multi_statement`. -/
def classifyMultiStatement : Bool → List Text → Option QueryClass
  | sawReadCandidate, [] => some (if sawReadCandidate then .readCandidate else .transactionControl)
  | sawReadCandidate, statement :: statements => do
    match ← classifySingleStatement statement with
    | .readCandidate | .readOnly => classifyMultiStatement true statements
    | .transactionControl => classifyMultiStatement sawReadCandidate statements
    | other => some other

/-- `classify_sql`. -/
def classifySql (sql : Text) : Option QueryClass := do
  let sql ← stripTokenSeparators sql
  if sql.isEmpty then some .unknown
  else do
    let statements ← splitTopLevelStatements sql
    if statements.length > 1 then classifyMultiStatement false statements
    else classifySingleStatement sql

/-! ### Hints and tokens -/

/-- `extract_routing_hint`. -/
def extractRoutingHint (sql : Text) : Option RoutingHint := go (sql.length + 1) sql.trimStart
where
  go : Nat → Text → Option RoutingHint
    | 0, _ => none
    | n + 1, rest =>
      match rest.stripLeading "/*" with
      | some afterComment =>
        match afterComment.find "*/" with
        | none => some .none
        | some last => do
          let comment ← afterComment.sliceTo last
          if RoutingHint.ofComment comment.trim ≠ .none then
            some (RoutingHint.ofComment comment.trim)
          else do
            let rest ← afterComment.sliceFrom (last + 2)
            go n rest.trimStart
      | none =>
        match rest.stripLeading "--" with
        | some afterComment =>
          match afterComment.find "\n" with
          | some last => do
            let rest ← afterComment.sliceFrom (last + 1)
            go n rest.trimStart
          | none => some .none
        | none => if rest.trimStart = rest then some .none else go n rest.trimStart

/-- What follows a dollar-quoted text, if `ch` starts one; `raw` is the text from `ch` on. -/
def dropDollarQuoted (sql : Text) (ch : Char) (iter : Text) : Option (Option Text) :=
  if ch ≠ '$' then some none
  else do
    let raw ← sql.sliceFrom (sql.offset (ch :: iter))
    let afterDollar ← raw.sliceFrom 1
    match afterDollar.find "$" with
    | none => some none
    | some tagEnd => do
      let delimiterEnd := tagEnd + 2
      let delimiter ← raw.sliceTo delimiterEnd
      let body ← raw.sliceFrom delimiterEnd
      match body.find delimiter with
      | none => some none
      | some bodyEnd => do
        let token ← raw.sliceTo (delimiterEnd + bodyEnd + delimiter.byteLen)
        some (some (iter.drop (token.length - 1)))

/-- The word that `ch` starts, the rest of the text being `tail`. -/
def takeWord (ch : Char) (tail : Text) : Option Text :=
  let word : Text := ch :: tail
  word.sliceTo ((word.findChar fun c => !SqlClassify.isWordChar c).getD word.byteLen)

/-- The token of a word. -/
def wordToken (word : Text) : Option SqlClassify.SqlToken :=
  if word.startsWith "$" then do
    let number ← word.sliceFrom 1
    some (if number.all Char.isDigit then .literal else .word word)
  else some (.word word)

/-- A turn of `tokenize_sql`; the inner `none` is its `break`. -/
def tokenTurn (sql : Text) (ch : Char) (iter : Text) :
    Option (Option (Option SqlClassify.SqlToken × Text)) :=
  if Text.isWhitespace ch then some (some (none, iter))
  else if ch = '-' ∧ iter.head? = some '-' then
    some (some (some .comment, SqlClassify.dropLine iter.tail))
  else if ch = '/' ∧ iter.head? = some '*' then
    some ((Text.splitAtFirst "*/" iter.tail).map fun p => (some .comment, p.2))
  else if ch = '\'' ∨ ch = '"' then
    some (some (some .literal, dropQuoted ch iter))
  else do
    match ← dropDollarQuoted sql ch iter with
    | some rest => some (some (some .literal, rest))
    | none =>
      if ch.isDigit then some (some (some .literal, iter.dropWhile isNumberChar))
      else if isWordChar ch then do
        let tail ← sql.sliceFrom (sql.offset iter)
        let word ← takeWord ch tail
        let token ← wordToken word
        some (some (some token, iter.drop (word.length - 1)))
      else do
        let symbol ← sql.slice (sql.offset (ch :: iter)) (sql.offset iter)
        some (some (some (.symbol symbol), iter))

/-- `tokenize_sql`. -/
def tokenizeSql (sql : Text) : Option (List SqlToken) := go (sql.length + 1) sql
where
  go : Nat → Text → Option (List SqlToken)
    | 0, _ => none
    | _ + 1, [] => some []
    | n + 1, ch :: iter => do
      match ← tokenTurn sql ch iter with
      | none => some []
      | some (token, rest) => do
        let tokens ← go n rest
        some (token.toList ++ tokens)

/-! ### Every slice of the words exists -/

variable {sql : Text}

/-- Behind a comment the text goes on at the position the search returned. -/
theorem stripTokenSeparators_comment {n : Nat} {rest start close afterComment : Text}
    (hlen : rest.length < n + 1)
    (ih : ∀ rest : Text, rest.length < n →
      stripTokenSeparators.go n rest = some (SqlClassify.stripTokenSeparators.go n rest))
    (hstart : start ≠ []) (hafter : rest.stripLeading start = some afterComment) :
    (match afterComment.find close with
      | some last => (afterComment.sliceFrom (last + close.byteLen)).bind fun rest =>
        stripTokenSeparators.go n rest
      | none => some []) =
    some (match splitAtFirst close afterComment with
      | some (_, rest) => SqlClassify.stripTokenSeparators.go n rest
      | none => []) := by
  cases hclose : splitAtFirst close afterComment with
  | none =>
    rw [find, hclose]
    rfl
  | some p =>
    obtain ⟨comment, later⟩ := p
    obtain ⟨hfind, -, hslice⟩ := find_of_splitAtFirst hclose
    obtain ⟨-, hlt⟩ := suffix_of_comment hstart hafter hclose
    simp only [hfind, hslice, bind_some]
    exact ih later (by omega)

theorem stripTokenSeparators_eq (sql : Text) :
    stripTokenSeparators sql = some (SqlClassify.stripTokenSeparators sql) := by
  have hgo : ∀ n rest, rest.length < n →
      stripTokenSeparators.go n rest = some (SqlClassify.stripTokenSeparators.go n rest) := by
    intro n
    induction n with
    | zero => exact fun rest hlen => absurd hlen (Nat.not_lt_zero _)
    | succ n ih =>
      intro rest hlen
      rw [stripTokenSeparators.go, SqlClassify.stripTokenSeparators.go]
      by_cases htrim : rest.trimStart = rest
      · rw [if_neg (not_not.2 htrim), if_neg (not_not.2 htrim)]
        cases hline : rest.stripLeading "--" with
        | some afterComment => exact stripTokenSeparators_comment hlen ih (by decide) hline
        | none =>
          cases hblock : rest.stripLeading "/*" with
          | some afterComment => exact stripTokenSeparators_comment hlen ih (by decide) hblock
          | none => rfl
      · rw [if_pos htrim, if_pos htrim]
        have hlt := length_trimStart_lt htrim
        exact ih _ (by omega)
  exact hgo _ _ (Nat.lt_succ_self _)

theorem startsWithWords_eq (sql : Text) (words : List Text) :
    startsWithWords sql words = some (SqlClassify.startsWithWords sql words) := by
  induction words generalizing sql with
  | nil => rfl
  | cons word words ih =>
    rw [startsWithWords, SqlClassify.startsWithWords, stripTokenSeparators_eq]
    simp only [bind_eq_bind, bind_some, sliceTo, sliceFrom]
    cases splitAtByte word.byteLen (SqlClassify.stripTokenSeparators sql) with
    | none => rfl
    | some p =>
      simp only [map_some, bind_some, ih]
      split_ifs <;> rfl

theorem keywordIs_eq (sql keyword : Text) :
    keywordIs sql keyword = some (SqlClassify.keywordIs sql keyword) :=
  startsWithWords_eq sql [keyword]

theorem keywordIsExact_eq (sql keyword : Text) :
    keywordIsExact sql keyword = some (SqlClassify.keywordIsExact sql keyword) := by
  rw [keywordIsExact, SqlClassify.keywordIsExact, stripTokenSeparators_eq]
  simp only [bind_eq_bind, bind_some, sliceTo, sliceFrom]
  cases splitAtByte keyword.byteLen (SqlClassify.stripTokenSeparators sql) with
  | none => rfl
  | some p =>
    simp only [map_some, bind_some, stripTokenSeparators_eq]
    cases p.1.eqIgnoreAsciiCase keyword <;> rfl

theorem keywordIsFollowedByMore_eq (sql keyword : Text) :
    keywordIsFollowedByMore sql keyword =
      some (SqlClassify.keywordIsFollowedByMore sql keyword) := by
  rw [keywordIsFollowedByMore, SqlClassify.keywordIsFollowedByMore, stripTokenSeparators_eq]
  simp only [bind_eq_bind, bind_some, sliceTo, sliceFrom]
  cases splitAtByte keyword.byteLen (SqlClassify.stripTokenSeparators sql) with
  | none => rfl
  | some p =>
    simp only [map_some, bind_some, stripTokenSeparators_eq]
    cases p.1.eqIgnoreAsciiCase keyword with
    | false => rfl
    | true => cases startsWithTokenSeparator p.2 <;> rfl

/-! ### The next separator -/

variable {c ch : Char} {iter before : Text}

theorem find_cons {t pat : Text} (h : Text.startsWith (c :: t) pat = false) :
    Text.find (c :: t) pat = (t.find pat).map (c.utf8Size + ·) := by
  rw [find, splitAtFirst, stripLeading_eq_none_iff.2 h, find, Option.map_map, Option.map_map]
  rfl

theorem find_of_startsWith {t pat : Text} (h : Text.startsWith (c :: t) pat = true) :
    Text.find (c :: t) pat = some 0 := by
  obtain ⟨after, hafter⟩ := isSome_iff_exists.1 ((isSome_stripLeading _ _).trans h)
  rw [find, splitAtFirst, hafter]
  rfl

/-- Positions all of which are shifted have their least one shifted. -/
theorem min?_shift (k : Nat) (positions : List (Option Nat)) :
    (positions.map fun position => position.map (k + ·)).reduceOption.min? =
      positions.reduceOption.min?.map (k + ·) := by
  have hmap : (positions.map fun position => position.map (k + ·)).reduceOption =
      positions.reduceOption.map (k + ·) := reduceOption_map
  rw [hmap]
  cases hmin : positions.reduceOption.min? with
  | none =>
    rw [min?_eq_none_iff.1 hmin]
    rfl
  | some least =>
    obtain ⟨hmem, hle⟩ := min?_eq_some_iff.1 hmin
    refine min?_eq_some_iff.2 ⟨List.mem_map_of_mem hmem, ?_⟩
    intro shifted hshifted
    obtain ⟨position, hposition, rfl⟩ := List.mem_map.1 hshifted
    exact Nat.add_le_add_left (hle position hposition) k

/-- The next separator is where the word in front of it ends. -/
theorem findTokenSeparator_spec (sql : Text) :
    ∃ word, sql = word ++ SqlClassify.dropToTokenSeparator sql ∧
      (findTokenSeparator sql).getD sql.byteLen = word.byteLen := by
  induction sql with
  | nil => exact ⟨[], rfl, rfl⟩
  | cons c sql ih =>
    rw [dropToTokenSeparator]
    split
    · next hstarts =>
      have hzero : findTokenSeparator (c :: sql) = some 0 := by
        refine min?_eq_some_iff.2 ⟨?_, fun _ _ => Nat.zero_le _⟩
        rw [reduceOption_mem_iff]
        rw [startsWithTokenSeparator, Bool.or_eq_true, Bool.or_eq_true] at hstarts
        rcases hstarts with (hblank | hline) | hblock
        · have hfind : findChar isWhitespace (c :: sql) = some 0 := by
            exact if_pos hblank
          rw [hfind]
          exact mem_cons_self
        · rw [find_of_startsWith hline]
          exact mem_cons_of_mem _ mem_cons_self
        · rw [find_of_startsWith hblock]
          exact mem_cons_of_mem _ (mem_cons_of_mem _ mem_cons_self)
      exact ⟨[], rfl, by rw [hzero]; rfl⟩
    · next hstarts =>
      obtain ⟨word, hword, hfind⟩ := ih
      rw [startsWithTokenSeparator, Bool.or_eq_true, Bool.or_eq_true, not_or, not_or] at hstarts
      obtain ⟨⟨hblank, hline⟩, hblock⟩ := hstarts
      have hshift : findTokenSeparator (c :: sql) =
          (findTokenSeparator sql).map (c.utf8Size + ·) := by
        have hchar : ¬isWhitespace c = true := hblank
        rw [findTokenSeparator, findChar, if_neg hchar,
          find_cons (Bool.eq_false_iff.2 hline), find_cons (Bool.eq_false_iff.2 hblock)]
        exact min?_shift c.utf8Size [_, _, _]
      refine ⟨c :: word, by rw [cons_append, ← hword], ?_⟩
      rw [hshift, byteLen_cons, byteLen_cons, ← hfind]
      cases findTokenSeparator sql <;> rfl

theorem containsWords_eq (sql : Text) (words : List Text) :
    containsWords sql words = some (SqlClassify.containsWords sql words) := by
  -- `rest` is what the loop still has to look at, the text from its position on.
  have hgo : ∀ n m (before rest : Text), sql = before ++ rest → rest.length < n →
      rest.length ≤ m → containsWords.go sql words n before.byteLen =
        some (SqlClassify.containsWords.go words m rest) := by
    intro n
    induction n with
    | zero => exact fun _ _ _ _ hlen => absurd hlen (Nat.not_lt_zero _)
    | succ n ih =>
      intro m before rest hsql hlen hle
      rw [containsWords.go]
      obtain rfl | hne := eq_or_ne rest []
      · rw [if_pos (by rw [hsql, append_nil])]
        cases m <;> rfl
      · obtain ⟨m, rfl⟩ : ∃ m', m = m' + 1 :=
          Nat.exists_eq_add_one.2 ((length_pos_of_ne_nil hne).trans_le hle)
        have hpos : 0 < rest.byteLen := (length_pos_of_ne_nil hne).trans_le (length_le_byteLen rest)
        obtain ⟨separators, hseparators⟩ := stripTokenSeparators_suffix rest
        have hstrip := startsWithTokenSeparator_strip rest
        generalize htrimmed : SqlClassify.stripTokenSeparators rest = trimmed at *
        have hindex : before.byteLen + (rest.byteLen - trimmed.byteLen) =
            (before ++ separators).byteLen := by
          rw [← hseparators, byteLen_append, byteLen_append, Nat.add_sub_cancel]
        have hsql' : sql = (before ++ separators) ++ trimmed := by
          rw [hsql, ← hseparators, append_assoc]
        have hslice : sql.sliceFrom before.byteLen = some rest := by
          rw [hsql]
          exact sliceFrom_append _ _
        have hslice' : sql.sliceFrom (before ++ separators).byteLen = some trimmed := by
          rw [hsql']
          exact sliceFrom_append _ _
        rw [if_neg (by rw [hsql, byteLen_append]; omega), hslice]
        simp only [bind_eq_bind, bind_some, stripTokenSeparators_eq, htrimmed, hindex,
          hslice', startsWithWords_eq, SqlClassify.containsWords.go]
        obtain rfl | htrimmedNe := eq_or_ne trimmed []
        · rw [if_pos (by rw [hsql', append_nil])]
          rfl
        · have htrimmedPos : 0 < trimmed.byteLen :=
            (length_pos_of_ne_nil htrimmedNe).trans_le (length_le_byteLen trimmed)
          rw [if_neg (by rw [hsql', byteLen_append]; omega), isEmpty_eq_false_iff.2 htrimmedNe]
          cases SqlClassify.startsWithWords trimmed words with
          | true => rfl
          | false =>
            obtain ⟨word, hword, hfind⟩ := findTokenSeparator_spec trimmed
            have hnext : ((findTokenSeparator trimmed).map
                ((before ++ separators).byteLen + ·)).getD sql.byteLen =
                (before ++ separators ++ word).byteLen := by
              rw [byteLen_append _ word, ← hfind, hsql', byteLen_append _ trimmed]
              cases findTokenSeparator trimmed <;> rfl
            have hless := length_dropToTokenSeparator_lt htrimmedNe hstrip
            have hshort : trimmed.length ≤ rest.length := by
              rw [← hseparators, length_append]
              exact Nat.le_add_left _ _
            simp only [Bool.false_eq_true, if_false, hnext, Bool.false_or]
            refine ih m _ _ ?_ (by omega) (by omega)
            rw [hsql', append_assoc _ word, ← hword]
  rw [containsWords, SqlClassify.containsWords]
  cases words.isEmpty with
  | true => rfl
  | false => exact hgo _ _ [] sql rfl (Nat.lt_succ_self _) le_rfl

/-! ### Every slice of the statements exists -/

theorem splitTopLevelStatements_eq (sql : Text) :
    splitTopLevelStatements sql = some (SqlClassify.splitTopLevelStatements sql) := by
  -- `before` ends where the statement at hand starts, `acc` has what was read of it.
  have hgo : ∀ (iter before acc : Text) state skip, sql = before ++ (acc.reverse ++ iter) →
      splitTopLevelStatements.go sql before.byteLen state skip iter =
        some (SqlClassify.splitTopLevelStatements.go state skip acc iter) := by
    intro iter
    induction iter with
    | nil =>
      intro before acc state skip hsql
      have hslice : sql.sliceFrom before.byteLen = some acc.reverse := by
        rw [hsql, append_nil]
        exact sliceFrom_append _ _
      rw [splitTopLevelStatements.go, hslice]
      cases skip <;> rfl
    | cons ch iter ih =>
      intro before acc state skip hsql
      have hsql' : sql = before ++ ((ch :: acc).reverse ++ iter) := by
        rw [hsql, reverse_cons, append_assoc acc.reverse, singleton_append]
      cases skip with
      | true => exact ih before (ch :: acc) state false hsql'
      | false =>
        rw [splitTopLevelStatements.go, SqlClassify.splitTopLevelStatements.go]
        by_cases hsemicolon : state = .normal ∧ ch = ';'
        · have hindex : sql.offset (ch :: iter) = before.byteLen + byteLen acc.reverse := by
            rw [hsql, ← append_assoc, offset_append, byteLen_append]
          have hslice : sql.slice before.byteLen (before.byteLen + byteLen acc.reverse) =
              some acc.reverse := by
            rw [hsql]
            exact slice_append _ _ _
          have hstart : before.byteLen + byteLen acc.reverse + ch.utf8Size =
              (before ++ (ch :: acc).reverse).byteLen := by
            rw [reverse_cons, byteLen_append, byteLen_append, byteLen_cons, byteLen_nil]
            omega
          have hlater := ih (before ++ (ch :: acc).reverse) [] .normal false
            (by rw [hsql', append_assoc]; rfl)
          rw [if_pos hsemicolon, if_pos hsemicolon]
          simp only [hindex, hslice, hstart, hlater, bind_eq_bind, bind_some]
          rfl
        · rw [if_neg hsemicolon, if_neg hsemicolon]
          exact ih before (ch :: acc) _ _ hsql'
  exact hgo sql [] [] .normal false rfl

/-- The matching parenthesis is where the text before it ends, and it is one. -/
theorem findMatchingParen_spec (sql : Text) :
    findMatchingParen sql =
      (SqlClassify.splitAtMatchingParen sql).map (fun p => p.1.byteLen) ∧
    ∀ before after, SqlClassify.splitAtMatchingParen sql = some (before, after) →
      sql = before ++ (')' :: after) := by
  have hgo : ∀ (iter acc : Text) state skip depth, sql = acc.reverse ++ iter →
      findMatchingParen.go sql state skip depth iter =
        (splitAtMatchingParen.go state skip depth acc iter).map
          (fun p => p.1.byteLen) ∧
      ∀ before after,
        splitAtMatchingParen.go state skip depth acc iter = some (before, after) →
        sql = before ++ (')' :: after) := by
    intro iter
    induction iter with
    | nil =>
      intro acc state skip depth _
      cases skip
      · exact ⟨rfl, nofun⟩
      · exact ⟨rfl, nofun⟩
    | cons ch iter ih =>
      intro acc state skip depth hsql
      have hsql' : sql = (ch :: acc).reverse ++ iter := by
        rw [hsql, reverse_cons, append_assoc, singleton_append]
      cases skip with
      | true => exact ih (ch :: acc) state false depth hsql'
      | false =>
        rw [findMatchingParen.go, splitAtMatchingParen.go]
        by_cases hopen : state = .normal ∧ ch = '('
        · rw [if_pos hopen, if_pos hopen]
          exact ih (ch :: acc) _ _ _ hsql'
        · rw [if_neg hopen, if_neg hopen]
          by_cases hclose : state = .normal ∧ ch = ')'
          · rw [if_pos hclose, if_pos hclose]
            by_cases hdepth : depth - 1 = 0
            · rw [if_pos hdepth, if_pos hdepth]
              refine ⟨?_, fun before after h => ?_⟩
              · rw [hsql, offset_append]
                rfl
              · cases h
                rw [hsql, hclose.2]
            · rw [if_neg hdepth, if_neg hdepth]
              exact ih (ch :: acc) _ _ _ hsql'
          · rw [if_neg hclose, if_neg hclose]
            exact ih (ch :: acc) _ _ _ hsql'
  exact hgo sql [] .normal false 0 rfl

/-! ### Every class is found -/

theorem firstTrue_map (tests : List Bool) : firstTrue (tests.map some) = some (tests.any id) := by
  induction tests with
  | nil => rfl
  | cons test tests ih => cases test <;> simp [firstTrue, ih]

theorem isTransactionControl_eq (sql : Text) :
    isTransactionControl sql = some (SqlClassify.isTransactionControl sql) := by
  simp only [isTransactionControl, startsWithWords_eq, keywordIsExact_eq,
    keywordIsFollowedByMore_eq]
  refine (firstTrue_map [_, _, _, _, _, _, _, _, _, _]).trans ?_
  simp only [SqlClassify.isTransactionControl, any_cons, any_nil, id, Bool.or_false, Bool.or_assoc]

theorem isSessionMutation_eq (sql : Text) :
    isSessionMutation sql = some (SqlClassify.isSessionMutation sql) := by
  simp only [isSessionMutation, keywordIsFollowedByMore_eq]
  refine (congrArg firstTrue List.map_map.symm).trans ((firstTrue_map _).trans ?_)
  rfl

theorem isWriteStatement_eq (sql : Text) :
    isWriteStatement sql = some (SqlClassify.isWriteStatement sql) := by
  simp only [isWriteStatement, keywordIs_eq]
  refine (congrArg firstTrue List.map_map.symm).trans ((firstTrue_map _).trans ?_)
  rfl

theorem classifyCopy_eq (sql : Text) : classifyCopy sql = some (SqlClassify.classifyCopy sql) := by
  simp only [classifyCopy, containsWords_eq, bind_eq_bind, bind_some, SqlClassify.classifyCopy]
  split_ifs <;> rfl

theorem classifyPlainStatement_eq (sql : Text) :
    classifyPlainStatement sql = some (SqlClassify.classifyPlainStatement sql) := by
  have hvalues : firstTrue
      [some (SqlClassify.keywordIs sql "values"), some (SqlClassify.keywordIs sql "table")] =
      some (SqlClassify.keywordIs sql "values" || SqlClassify.keywordIs sql "table") := by
    refine (firstTrue_map [_, _]).trans ?_
    simp only [any_cons, any_nil, id, Bool.or_false]
  simp only [classifyPlainStatement, keywordIs_eq, isTransactionControl_eq, isSessionMutation_eq,
    classifyCopy_eq, hvalues, isWriteStatement_eq, bind_eq_bind, bind_some,
    SqlClassify.classifyPlainStatement, ← apply_ite some]

theorem explainTarget_eq (h : (sql.splitAtByte 7).isSome = true) :
    explainTarget sql = some (SqlClassify.explainTarget sql) := by
  obtain ⟨⟨keyword, afterKeyword⟩, hsplit⟩ := isSome_iff_exists.1 h
  have hslice : sql.sliceFrom (byteLen "explain") = some afterKeyword := by
    have hlen : byteLen "explain" = 7 := by decide
    rw [hlen, sliceFrom, hsplit]
    rfl
  rw [explainTarget, SqlClassify.explainTarget, hsplit, hslice]
  simp only [bind_eq_bind, bind_some, stripTokenSeparators_eq]
  generalize SqlClassify.stripTokenSeparators afterKeyword = rest
  obtain ⟨hfind, hparen⟩ := findMatchingParen_spec rest
  by_cases hopen : rest.startsWith "(" = true
  · rw [if_pos hopen, if_pos hopen, hfind]
    cases hmatch : splitAtMatchingParen rest with
    | none => rfl
    | some p =>
      obtain ⟨before, after⟩ := p
      have hrest := hparen before after hmatch
      -- The text starts with the opening parenthesis, so it does not start with the closing one.
      obtain ⟨options, rfl⟩ : ∃ options, before = '(' :: options := by
        rw [hrest] at hopen
        cases before with
        | nil => exact absurd hopen (by simp [startsWith])
        | cons c options =>
          have hc : '(' = c := by simpa [startsWith] using hopen
          exact ⟨options, by rw [hc]⟩
      have hoptions : rest.slice 1 (byteLen ('(' :: options)) = some options := by
        rw [hrest]
        exact slice_append ['('] options (')' :: after)
      have hafter : rest.sliceFrom (byteLen ('(' :: options) + 1) = some after := by
        have hlen : byteLen ('(' :: options) + 1 = byteLen ('(' :: options ++ [')']) := by
          rw [byteLen_append]
          rfl
        rw [hrest, hlen, append_cons]
        exact sliceFrom_append _ _
      simp only [map_some, hoptions, hafter, bind_some, drop_one, tail_cons]
      split_ifs <;> rfl
  · split_ifs <;> rfl

/-- The statement under an `EXPLAIN` is shorter. -/
theorem length_explainTarget_lt {target : Text}
    (h : SqlClassify.explainTarget sql = some target) : target.length < sql.length := by
  rw [SqlClassify.explainTarget] at h
  split at h
  · cases h
  · next keyword afterKeyword hsplit =>
    obtain ⟨hsql, hkeyword⟩ := splitAtByte_eq_some hsplit
    have hpos : 0 < keyword.length := by
      refine length_pos_of_ne_nil ?_
      rintro rfl
      cases hkeyword
    have hlen : sql.length = keyword.length + afterKeyword.length := by rw [hsql, length_append]
    have hstrip := (stripTokenSeparators_suffix afterKeyword).length_le
    dsimp only at h
    split at h
    · split at h
      · cases h
      · next options rest hmatch =>
        split at h
        · cases h
        · obtain rfl := some.inj h
          have hrest := (findMatchingParen_spec _).2 _ _ hmatch
          have hrestLen := congrArg List.length hrest
          have htarget := (stripTokenSeparators_suffix rest).length_le
          rw [length_append, length_cons] at hrestLen
          omega
    · split at h
      · cases h
      · obtain rfl := some.inj h
        omega

theorem classifySingleStatement_eq (sql : Text) :
    classifySingleStatement sql = some (SqlClassify.classifySingleStatement sql) := by
  have hgo : ∀ n (sql : Text), sql.length < n →
      classifySingleStatement.go n sql = some (SqlClassify.classifySingleStatement.go n sql) := by
    intro n
    induction n with
    | zero => exact fun sql hlen => absurd hlen (Nat.not_lt_zero _)
    | succ n ih =>
      intro sql hlen
      rw [classifySingleStatement.go, SqlClassify.classifySingleStatement.go,
        stripTokenSeparators_eq]
      have hlen' := (stripTokenSeparators_suffix sql).length_le
      have hstrip := strip_strip sql
      generalize SqlClassify.stripTokenSeparators sql = sql' at hlen' hstrip
      simp only [bind_eq_bind, bind_some, keywordIs_eq, classifyPlainStatement_eq]
      split_ifs with hempty hexplain
      · rfl
      · obtain ⟨candidate, after, hword, -⟩ := keywordIs_iff.1 hexplain
        have hsplit : (sql'.splitAtByte 7).isSome = true := by
          rw [hstrip] at hword
          exact isSome_iff_exists.2 ⟨_, hword⟩
        rw [explainTarget_eq hsplit, bind_some]
        cases htarget : SqlClassify.explainTarget sql' with
        | none => rfl
        | some target =>
          have hlt := length_explainTarget_lt htarget
          simp only [ih target (by omega), bind_some]
      · rfl
  exact hgo _ _ (Nat.lt_succ_self _)

theorem classifyMultiStatement_eq (sawReadCandidate : Bool) (statements : List Text) :
    classifyMultiStatement sawReadCandidate statements =
      some (SqlClassify.classifyMultiStatement sawReadCandidate statements) := by
  induction statements generalizing sawReadCandidate with
  | nil => rfl
  | cons statement statements ih =>
    rw [classifyMultiStatement, SqlClassify.classifyMultiStatement, classifySingleStatement_eq]
    simp only [bind_eq_bind, bind_some, ih]
    cases SqlClassify.classifySingleStatement statement <;> rfl

/-- `classify_sql` cuts at positions of the text. -/
theorem classifySql_eq (sql : Text) : classifySql sql = some (SqlClassify.classifySql sql) := by
  rw [classifySql, SqlClassify.classifySql, stripTokenSeparators_eq]
  simp only [bind_eq_bind, bind_some, splitTopLevelStatements_eq,
    classifyMultiStatement_eq, classifySingleStatement_eq]
  split_ifs <;> rfl

/-! ### Every slice of the hints and the tokens exists -/

theorem trimStart_trimStart (t : Text) : t.trimStart.trimStart = t.trimStart :=
  dropWhile_idempotent _ _

/-- `extract_routing_hint` cuts at positions of the text. -/
theorem extractRoutingHint_eq (sql : Text) :
    extractRoutingHint sql = some (RoutingHint.extract sql) := by
  have hgo : ∀ n (rest : Text), rest.trimStart = rest → rest.length < n →
      extractRoutingHint.go n rest = some (RoutingHint.extract.go n rest) := by
    intro n
    induction n with
    | zero => exact fun rest _ hlen => absurd hlen (Nat.not_lt_zero _)
    | succ n ih =>
      intro rest htrim hlen
      have hnext : ∀ {later : Text}, later.length < rest.length →
          extractRoutingHint.go n later.trimStart =
            some (RoutingHint.extract.go n later.trimStart) := by
        intro later hlt
        have hle : later.trimStart.length ≤ later.length := (dropWhile_suffix _).length_le
        exact ih _ (trimStart_trimStart later) (by omega)
      rw [extractRoutingHint.go, RoutingHint.extract.go]
      cases hblock : rest.stripLeading "/*" with
      | some afterComment =>
        dsimp only
        cases hclose : splitAtFirst "*/" afterComment with
        | none =>
          rw [find, hclose]
          rfl
        | some p =>
          obtain ⟨comment, later⟩ := p
          obtain ⟨hfind, hcomment, hslice⟩ := find_of_splitAtFirst hclose
          obtain ⟨-, hlt⟩ := suffix_of_comment (by decide) hblock hclose
          have hlater : afterComment.sliceFrom (comment.byteLen + 2) = some later := hslice
          simp only [hfind, hcomment, hlater, bind_eq_bind, bind_some, hnext hlt]
          split_ifs <;> rfl
      | none =>
        cases hline : rest.stripLeading "--" with
        | some afterComment =>
          dsimp only
          cases hclose : splitAtFirst "\n" afterComment with
          | none =>
            rw [find, hclose]
            rfl
          | some p =>
            obtain ⟨comment, later⟩ := p
            obtain ⟨hfind, -, hslice⟩ := find_of_splitAtFirst hclose
            obtain ⟨-, hlt⟩ := suffix_of_comment (by decide) hline hclose
            have hlater : afterComment.sliceFrom (comment.byteLen + 1) = some later := hslice
            simp only [hfind, hlater, bind_eq_bind, bind_some, hnext hlt]
        | none => exact if_pos htrim
  have hle : sql.trimStart.length ≤ sql.length := (dropWhile_suffix _).length_le
  exact hgo _ _ (trimStart_trimStart sql) (Nat.lt_succ_of_le hle)

/-- Taking the characters of a token from the iterator, its first one being taken, leaves what
follows it. -/
theorem drop_of_cons_eq {token rest : Text} (hne : token ≠ []) (h : ch :: iter = token ++ rest) :
    iter.drop (token.length - 1) = rest := by
  obtain ⟨c, token, rfl⟩ := exists_cons_of_ne_nil hne
  obtain ⟨-, hiter⟩ := cons.inj h
  rw [hiter]
  exact drop_left

theorem dropDollarQuoted_eq (hsql : sql = before ++ (ch :: iter)) :
    dropDollarQuoted sql ch iter =
      some (if ch = '$' then SqlClassify.dropDollarQuoted iter else none) := by
  rw [dropDollarQuoted, ite_not]
  split
  swap
  · rfl
  next hch =>
  subst hch
  have hraw : sql.sliceFrom (sql.offset ('$' :: iter)) = some ('$' :: iter) := by
    rw [hsql, offset_append]
    exact sliceFrom_append _ _
  have hdollar : sliceFrom ('$' :: iter) 1 = some iter := sliceFrom_append ['$'] iter
  rw [SqlClassify.dropDollarQuoted, hraw, bind_eq_bind, bind_some, hdollar]
  rw [bind_some]
  cases htag : splitAtFirst "$" iter with
  | none =>
    rw [find, htag]
    rfl
  | some p =>
    obtain ⟨tag, body⟩ := p
    obtain ⟨hfind, -, -⟩ := find_of_splitAtFirst htag
    have hiter : '$' :: iter = ('$' :: (tag ++ ['$'])) ++ body := by
      rw [splitAtFirst_eq_some htag]
      simp
    have hend : tag.byteLen + 2 = byteLen ('$' :: (tag ++ ['$'])) := by
      have hone : byteLen ['$'] = 1 := rfl
      have hsize : '$'.utf8Size = 1 := rfl
      rw [byteLen_cons, byteLen_append]
      omega
    have hdelimiter : sliceTo ('$' :: iter) (tag.byteLen + 2) = some ('$' :: (tag ++ ['$'])) := by
      rw [hiter, hend]
      exact sliceTo_append _ _
    have hbody : sliceFrom ('$' :: iter) (tag.byteLen + 2) = some body := by
      rw [hiter, hend]
      exact sliceFrom_append _ _
    simp only [hfind, hdelimiter, hbody, bind_some]
    cases hclose : splitAtFirst ('$' :: (tag ++ ['$'])) body with
    | none =>
      rw [find, hclose]
      rfl
    | some p =>
      obtain ⟨quoted, rest⟩ := p
      obtain ⟨hfindBody, -, -⟩ := find_of_splitAtFirst hclose
      generalize hdelim : '$' :: (tag ++ ['$']) = delimiter at *
      have hraw : '$' :: iter = (delimiter ++ quoted ++ delimiter) ++ rest := by
        rw [hiter, splitAtFirst_eq_some hclose]
        simp only [append_assoc]
      have htoken : sliceTo ('$' :: iter)
          (tag.byteLen + 2 + quoted.byteLen + byteLen delimiter) =
          some (delimiter ++ quoted ++ delimiter) := by
        rw [hraw, hend, ← byteLen_append, ← byteLen_append]
        exact sliceTo_append _ _
      have hne : delimiter ++ quoted ++ delimiter ≠ [] := by
        rw [← hdelim]
        simp
      simp only [hfindBody, htoken, bind_some, drop_of_cons_eq hne hraw]
      rfl

theorem cons_eq_word_append (ch : Char) (iter : Text) :
    ch :: iter = (ch :: iter.takeWhile isWordChar) ++ iter.dropWhile isWordChar := by
  rw [cons_append, takeWhile_append_dropWhile]

theorem takeWord_eq (hch : isWordChar ch = true) (iter : Text) :
    takeWord ch iter = some (ch :: iter.takeWhile isWordChar) := by
  have hword : (ch :: iter).takeWhile (fun c => !!isWordChar c) =
      ch :: iter.takeWhile isWordChar := by
    simp only [Bool.not_not]
    exact takeWhile_cons_of_pos hch
  rw [takeWord]
  cases hfind : findChar (fun c => !isWordChar c) (ch :: iter) with
  | some n =>
    rw [getD_some, findChar_eq_some_takeWhile hfind, hword, cons_eq_word_append]
    exact sliceTo_append _ _
  | none =>
    have hall := (takeWhile_of_findChar_eq_none hfind).symm.trans hword
    rw [getD_none, ← hall]
    have hwhole := sliceTo_append (ch :: iter) []
    rwa [append_nil] at hwhole

theorem wordToken_eq (word : Text) : wordToken word = some (SqlClassify.wordToken word) := by
  cases hdollar : word.startsWith "$" with
  | true =>
    obtain ⟨number, hnumber⟩ := isSome_iff_exists.1
      ((isSome_stripLeading _ _).trans hdollar)
    have hword : word = '$' :: number := stripLeading_eq_some hnumber
    have hslice : word.sliceFrom 1 = some number := by
      rw [hword]
      exact sliceFrom_append ['$'] number
    rw [wordToken, if_pos hdollar, hslice, hword]
    rfl
  | false =>
    have hne : ∀ number, word ≠ '$' :: number := by
      rintro number rfl
      cases hdollar
    rw [wordToken, if_neg (by rw [hdollar]; nofun), SqlClassify.wordToken.eq_2 word hne]

theorem tokenTurn_eq (hsql : sql = before ++ (ch :: iter)) :
    tokenTurn sql ch iter = some (SqlClassify.tokenTurn ch iter) := by
  have hend : sql.offset iter = byteLen before + byteLen [ch] := by
    rw [hsql, append_cons, offset_append, byteLen_append]
  have htail : sql.sliceFrom (sql.offset iter) = some iter := by
    rw [hend, hsql, append_cons, ← byteLen_append]
    exact sliceFrom_append _ _
  have hsymbol : sql.slice (sql.offset (ch :: iter)) (sql.offset iter) = some [ch] := by
    rw [hend, hsql, offset_append]
    exact slice_append before [ch] iter
  rw [tokenTurn, SqlClassify.tokenTurn, dropDollarQuoted_eq hsql]
  split
  · rfl
  split
  · rfl
  split
  · rfl
  split
  · rfl
  cases hdollar : (if ch = '$' then SqlClassify.dropDollarQuoted iter else none) with
  | some rest => rfl
  | none =>
    dsimp only
    split
    · rfl
    split
    · next hword =>
      have hne : ch :: iter.takeWhile isWordChar ≠ [] := nofun
      simp only [htail, bind_eq_bind, bind_some, takeWord_eq hword, wordToken_eq,
        drop_of_cons_eq hne (cons_eq_word_append ch iter)]
    · rw [hsymbol]
      rfl

/-- `tokenize_sql` cuts at positions of the text. -/
theorem tokenizeSql_eq (sql : Text) : tokenizeSql sql = some (SqlClassify.tokenizeSql sql) := by
  have hgo : ∀ n m (before iter : Text), sql = before ++ iter → iter.length < n →
      iter.length ≤ m → tokenizeSql.go sql n iter = some (SqlClassify.tokenizeSql.go m iter) := by
    intro n
    induction n with
    | zero => exact fun _ _ _ _ hlen => absurd hlen (Nat.not_lt_zero _)
    | succ n ih =>
      intro m before iter hsql hlen hle
      cases iter with
      | nil =>
        cases m with
        | zero | succ m => rw [tokenizeSql.go, SqlClassify.tokenizeSql.go]
      | cons ch iter =>
        obtain ⟨m, rfl⟩ : ∃ m', m = m' + 1 :=
          Nat.exists_eq_add_one.2 ((Nat.succ_pos iter.length).trans_le hle)
        rw [tokenizeSql.go, SqlClassify.tokenizeSql.go, tokenTurn_eq hsql]
        simp only [bind_eq_bind, bind_some]
        cases hturn : SqlClassify.tokenTurn ch iter with
        | none => rfl
        | some p =>
          obtain ⟨token, rest⟩ := p
          obtain ⟨taken, htaken⟩ := tokenTurn_suffix hturn
          have hlen' := congrArg length htaken
          rw [length_append] at hlen'
          rw [length_cons] at hlen hle
          have hrest := ih m (before ++ (ch :: taken)) rest
            (by rw [hsql, ← htaken, append_assoc, cons_append]) (by omega) (by omega)
          simp only [hrest, bind_some]
          rfl
  exact hgo _ _ [] sql rfl (Nat.lt_succ_self _) le_rfl

/-! ### The slice that may not exist -/

theorem isSome_parseSet_iff {statement : Text} {scope : SetScope} :
    (Sql.parseSet statement scope).isSome = true ↔
      statement.IsBoundary (match scope with | .session => 4 | .local => 10) := by
  rw [isBoundary_iff]
  unfold Sql.parseSet
  cases scope
  all_goals
    dsimp only
    cases statement.splitAtByte _ with
    | none => exact Iff.rfl
    | some p =>
      refine ⟨fun _ => rfl, fun _ => ?_⟩
      dsimp only
      split
      · rfl
      · split <;> rfl

/-- **The position at which `SET` is cut** is a character boundary: the fourth byte of the statement
as it was sent, or the tenth for `SET LOCAL`. The two forms of `SET TRANSACTION` that are recognised
as such are not cut. -/
def CutsSetAtBoundary (sql : Text) : Prop :=
  let statement := (sql.trim.trimEndMatches (· == ';')).trim
  let normalized := Sql.normalize statement
  Sql.parseSetTransaction normalized = none → normalized.startsWith "set " = true →
    statement.IsBoundary (if normalized.startsWith "set local " then 10 else 4)

theorem startsWith_set_of_local {normalized : Text}
    (h : normalized.startsWith "set local " = true) : normalized.startsWith "set " = true :=
  isPrefixOf_iff_prefix.2 ((by decide : "set ".toList <+: "set local ".toList).trans
    ( isPrefixOf_iff_prefix.1 h))

theorem isSome_ite {α : Type} {condition : Prop} [Decidable condition] {x y : Option α}
    (hx : x.isSome = true) (hy : y.isSome = true) :
    (if condition then x else y).isSome = true := by
  split
  · exact hx
  · exact hy

theorem isSome_classify_iff (sql : Text) :
    (Sql.classify sql).isSome = true ↔ CutsSetAtBoundary sql := by
  unfold Sql.classify CutsSetAtBoundary
  generalize (sql.trim.trimEndMatches (· == ';')).trim = statement
  dsimp only
  generalize Sql.normalize statement = normalized
  by_cases hset : normalized.startsWith "set " = true
  · have hne : ∀ {fixed : Text}, fixed.startsWith "set " = false → normalized ≠ fixed := by
      rintro fixed hfixed rfl
      exact absurd (hset.symm.trans hfixed) nofun
    have hor : ∀ {fixed other : Text}, fixed.startsWith "set " = false →
        other.startsWith "set " = false → ¬(normalized = fixed ∨ normalized = other) :=
      fun hfixed hother => not_or.2 ⟨hne hfixed, hne hother⟩
    have hbegin : Sql.parseBeginTransaction normalized = none := by
      rw [Sql.parseBeginTransaction, if_neg (hor (by decide) (by decide)),
        if_neg (hor (by decide) (by decide)), if_neg (hor (by decide) (by decide))]
    rw [hbegin]
    cases Sql.parseSetTransaction normalized with
    | some _ => exact ⟨fun _ h => absurd h nofun, fun _ => rfl⟩
    | none =>
      rw [if_neg (hor (by decide) (by decide)), if_neg (hne (by decide)),
        if_neg (hne (by decide)), if_neg (hor (by decide) (by decide)), if_neg (hne (by decide)),
        if_pos hset]
      by_cases hlocal : normalized.startsWith "set local " = true
      · rw [if_pos hlocal, if_pos hlocal, isSome_parseSet_iff]
        exact ⟨fun h _ _ => h, fun h => h rfl hset⟩
      · rw [if_neg hlocal, if_neg hlocal, isSome_parseSet_iff]
        exact ⟨fun h _ _ => h, fun h => h rfl hset⟩
  · have hlocal : ¬normalized.startsWith "set local " = true :=
      fun h => hset (startsWith_set_of_local h)
    refine ⟨fun _ _ h => absurd h hset, fun _ => ?_⟩
    cases Sql.parseBeginTransaction normalized with
    | some _ => rfl
    | none =>
      cases Sql.parseSetTransaction normalized with
      | some _ => rfl
      | none =>
        rw [if_neg hlocal, if_neg hset]
        exact isSome_ite rfl <| isSome_ite rfl <| isSome_ite rfl <| isSome_ite rfl <|
          isSome_ite rfl <| isSome_ite rfl <| isSome_ite rfl <| isSome_ite rfl <|
          isSome_ite rfl <| isSome_ite rfl <| isSome_ite rfl <| isSome_ite rfl rfl

/-- **No panic**: every slice is within the text and at character boundaries, and every loop
ends. -/
structure CutsAtCharacters (sql : Text) : Prop where
  classify : (Sql.classify sql).isSome = true
  classifySql : (classifySql sql).isSome = true
  stripTokenSeparators : (stripTokenSeparators sql).isSome = true
  splitTopLevelStatements : (splitTopLevelStatements sql).isSome = true
  startsWithWords : ∀ words, (startsWithWords sql words).isSome = true
  containsWords : ∀ words, (containsWords sql words).isSome = true
  keywordIsExact : ∀ keyword, (keywordIsExact sql keyword).isSome = true
  keywordIsFollowedByMore : ∀ keyword, (keywordIsFollowedByMore sql keyword).isSome = true
  tokenizeSql : (tokenizeSql sql).isSome = true
  extractRoutingHint : (extractRoutingHint sql).isSome = true

/-- **Reading a statement panics in one place.** No text makes `classify_sql` and its helpers,
`tokenize_sql` or `extract_routing_hint` cut off a character boundary or run for ever, and
`classify` does so exactly if `parse_set` has to cut inside a character. -/
theorem cutsAtCharacters_iff (sql : Text) : CutsAtCharacters sql ↔ CutsSetAtBoundary sql := by
  constructor
  · intro h
    exact (isSome_classify_iff sql).1 h.classify
  · intro h
    refine ⟨(isSome_classify_iff sql).2 h, ?_, ?_, ?_, fun words => ?_, fun words => ?_,
      fun keyword => ?_, fun keyword => ?_, ?_, ?_⟩
    · rw [classifySql_eq]; rfl
    · rw [stripTokenSeparators_eq]; rfl
    · rw [splitTopLevelStatements_eq]; rfl
    · rw [startsWithWords_eq]; rfl
    · rw [containsWords_eq]; rfl
    · rw [keywordIsExact_eq]; rfl
    · rw [keywordIsFollowedByMore_eq]; rfl
    · rw [tokenizeSql_eq]; rfl
    · rw [extractRoutingHint_eq]; rfl

/-- An ideographic space behind `SET` takes three bytes, the fourth byte of the statement is inside
it. -/
theorem not_cutsAtCharacters_wideSpace : ¬CutsAtCharacters "set\u3000x = 1" := by
  intro h
  exact absurd h.classify (by decide +kernel)

end SqlSlices

end PgKinetic
