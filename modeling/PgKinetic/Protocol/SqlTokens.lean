import PgKinetic.Lib.Slice

/-!
# Tokens of a statement

`tokenize_sql`, the third reading of a statement, which the guardrails and the fingerprints use. It
cuts a text into words, symbols, literals and comments; a word keeps its letters and a symbol its
character, of the others only the kind is left.

One **turn** of its loop takes a character and decides from it, and from what follows, which token
starts there and where the next turn goes on.
-/

namespace PgKinetic

open List Option

namespace SqlClassify

/-- `SqlToken`. -/
inductive SqlToken where
  | comment
  | literal
  | word (word : Text)
  | symbol (symbol : Text)
  deriving DecidableEq, Repr

/-- The characters of a word. -/
def isWordChar (c : Char) : Bool := c.isAlphanum || c == '_' || c == '$'

/-- The characters of a number behind its first digit. -/
def isNumberChar (c : Char) : Bool := c.isAlphanum || c == '.' || c == '_'

/-- What follows the line. -/
def dropLine (iter : Text) : Text := (iter.dropWhile (· != '\n')).tail

/-- What follows a quoted text, in which the quote is doubled; nothing if it is not closed. -/
def dropQuoted (quote : Char) : Text → Text
  | [] => []
  | [_] => []
  | c :: d :: iter =>
    if c = quote then
      if d = quote then dropQuoted quote iter else d :: iter
    else dropQuoted quote (d :: iter)

/-- What follows a text between two copies of the same `$tag$`, the first dollar sign taken. -/
def dropDollarQuoted (iter : Text) : Option Text :=
  match Text.splitAtFirst "$" iter with
  | none => none
  | some (tag, body) => (Text.splitAtFirst ('$' :: (tag ++ ['$'])) body).map Prod.snd

/-- The token of a word: a parameter is a literal. -/
def wordToken (word : Text) : SqlToken :=
  match word with
  | '$' :: number => if number.all Char.isDigit then .literal else .word word
  | _ => .word word

/-- What the loop does with the character `ch` and `iter` behind it: the token, if one starts there,
and what is left. It stops at a comment that is not closed. -/
def tokenTurn (ch : Char) (iter : Text) : Option (Option SqlToken × Text) :=
  if Text.isWhitespace ch then some (none, iter)
  else if ch = '-' ∧ iter.head? = some '-' then some (some .comment, dropLine iter.tail)
  else if ch = '/' ∧ iter.head? = some '*' then
    (Text.splitAtFirst "*/" iter.tail).map fun p => (some .comment, p.2)
  else if ch = '\'' ∨ ch = '"' then some (some .literal, dropQuoted ch iter)
  else
    match if ch = '$' then dropDollarQuoted iter else none with
    | some rest => some (some .literal, rest)
    | none =>
      if ch.isDigit then some (some .literal, iter.dropWhile isNumberChar)
      else if isWordChar ch then
        some (some (wordToken (ch :: iter.takeWhile isWordChar)), iter.dropWhile isWordChar)
      else some (some (.symbol [ch]), iter)

/-- `tokenize_sql`; every turn takes a character. -/
def tokenizeSql (sql : Text) : List SqlToken := go sql.length sql
where
  go : Nat → Text → List SqlToken
    | 0, _ => []
    | _ + 1, [] => []
    | n + 1, ch :: iter => (tokenTurn ch iter).elim [] fun turn => turn.1.toList ++ go n turn.2

/-! ### What a turn leaves -/

theorem dropQuoted_suffix (quote : Char) (iter : Text) : dropQuoted quote iter <:+ iter := by
  fun_induction dropQuoted quote iter with
  | case1 => exact suffix_rfl
  | case2 => exact nil_suffix
  | case3 iter ih => exact ih.trans ((suffix_cons _ _).trans (suffix_cons _ _))
  | case4 d iter _ => exact suffix_cons _ _
  | case5 c d iter _ ih => exact ih.trans (suffix_cons _ _)

theorem dropLine_suffix (iter : Text) : dropLine iter <:+ iter :=
  (tail_suffix _).trans (dropWhile_suffix _)

theorem dropDollarQuoted_suffix {iter rest : Text} (h : dropDollarQuoted iter = some rest) :
    rest <:+ iter := by
  rw [dropDollarQuoted] at h
  split at h
  · cases h
  · next tag body htag =>
    obtain ⟨⟨before, after⟩, hbody, rfl⟩ := map_eq_some_iff.1 h
    exact (Text.splitAtFirst_suffix hbody).trans (Text.splitAtFirst_suffix htag)

/-- What a turn leaves is the end of what it found. -/
theorem tokenTurn_suffix {ch : Char} {iter rest : Text} {token : Option SqlToken}
    (h : tokenTurn ch iter = some (token, rest)) : rest <:+ iter := by
  unfold tokenTurn at h
  split at h
  · cases h
    exact suffix_rfl
  split at h
  · cases h
    exact (dropLine_suffix _).trans (tail_suffix _)
  split at h
  · obtain ⟨⟨before, after⟩, hclose, heq⟩ := map_eq_some_iff.1 h
    obtain ⟨-, rfl⟩ := Prod.mk.inj heq
    exact (Text.splitAtFirst_suffix hclose).trans (tail_suffix _)
  split at h
  · cases h
    exact dropQuoted_suffix _ _
  split at h
  · next after hafter =>
    cases h
    split at hafter
    · exact dropDollarQuoted_suffix hafter
    · cases hafter
  split at h
  · cases h
    exact dropWhile_suffix _
  split at h
  · cases h
    exact dropWhile_suffix _
  · cases h
    exact suffix_rfl

end SqlClassify

end PgKinetic
