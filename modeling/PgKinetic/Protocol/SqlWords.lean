import PgKinetic.Lib.Slice
import PgKinetic.Protocol.SqlClassify

/-!
# Words and what separates them

The functions of `classify_sql` that look at words all start by dropping **token separators**, white
space and comments. Dropping them leaves an end of the text that does not start with one, and leaves
a text alone that does not.
-/

namespace PgKinetic

open List

namespace SqlClassify

variable {sql : Text}

/-! ### Dropping the separators -/

theorem startsWithTokenSeparator_eq_false_iff :
    startsWithTokenSeparator sql = false ↔
      sql.trimStart = sql ∧ sql.stripLeading "--" = none ∧ sql.stripLeading "/*" = none := by
  rw [startsWithTokenSeparator, Bool.or_eq_false_iff, Bool.or_eq_false_iff,
    Text.trimStart_eq_self_iff, Text.stripLeading_eq_none_iff, Text.stripLeading_eq_none_iff,
    and_assoc]

/-- What follows a comment is a shorter end of the text. -/
theorem suffix_of_comment {start close afterComment comment rest : Text} (hstart : start ≠ [])
    (h : sql.stripLeading start = some afterComment)
    (hclose : Text.splitAtFirst close afterComment = some (comment, rest)) :
    rest <:+ sql ∧ rest.length < sql.length := by
  have hsql : sql = (start ++ (comment ++ close)) ++ rest := by
    rw [Text.stripLeading_eq_some h, Text.splitAtFirst_eq_some hclose]
    simp only [append_assoc]
  have hpos := length_pos_of_ne_nil hstart
  refine ⟨hsql ▸ suffix_append _ _, ?_⟩
  rw [hsql]
  simp only [length_append]
  omega

/-- A turn of the loop: it is over, the text runs out in a comment, or it goes on with a shorter
end of the text. -/
theorem stripTokenSeparators_go_succ (n : Nat) (rest : Text) :
    (stripTokenSeparators.go (n + 1) rest = rest ∧ startsWithTokenSeparator rest = false) ∨
    stripTokenSeparators.go (n + 1) rest = [] ∨
    ∃ rest', (rest' <:+ rest ∧ rest'.length < rest.length) ∧
      stripTokenSeparators.go (n + 1) rest = stripTokenSeparators.go n rest' := by
  rw [stripTokenSeparators.go]
  by_cases htrim : rest.trimStart = rest
  · rw [if_neg (not_not.2 htrim)]
    split
    · next afterComment hline =>
      split
      · next comment rest' hclose =>
        exact .inr (.inr ⟨rest', suffix_of_comment (by decide) hline hclose, rfl⟩)
      · exact .inr (.inl rfl)
    · next hline =>
      split
      · next afterComment hblock =>
        split
        · next comment rest' hclose =>
          exact .inr (.inr ⟨rest', suffix_of_comment (by decide) hblock hclose, rfl⟩)
        · exact .inr (.inl rfl)
      · next hblock =>
        exact .inl ⟨rfl, startsWithTokenSeparator_eq_false_iff.2 ⟨htrim, hline, hblock⟩⟩
  · rw [if_pos htrim]
    exact .inr (.inr ⟨_, ⟨dropWhile_suffix _, Text.length_trimStart_lt htrim⟩, rfl⟩)

theorem stripTokenSeparators_suffix (sql : Text) : stripTokenSeparators sql <:+ sql := by
  rw [stripTokenSeparators]
  generalize sql.length + 1 = n
  induction n generalizing sql with
  | zero => exact suffix_rfl
  | succ n ih =>
    rcases stripTokenSeparators_go_succ n sql with ⟨h, -⟩ | h | ⟨rest, ⟨hsuffix, -⟩, h⟩
    · exact ⟨[], h⟩
    · rw [h]
      exact nil_suffix
    · rw [h]
      exact (ih rest).trans hsuffix

/-- What is left does not start with a separator. -/
theorem startsWithTokenSeparator_strip (sql : Text) :
    startsWithTokenSeparator (stripTokenSeparators sql) = false := by
  have hgo : ∀ n rest, rest.length < n →
      startsWithTokenSeparator (stripTokenSeparators.go n rest) = false := by
    intro n
    induction n with
    | zero => exact fun rest hlen => absurd hlen (Nat.not_lt_zero _)
    | succ n ih =>
      intro rest hlen
      rcases stripTokenSeparators_go_succ n rest with ⟨h, hrest⟩ | h | ⟨rest', ⟨-, hlt⟩, h⟩
      · rw [h, hrest]
      · rw [h]
        rfl
      · rw [h]
        exact ih rest' (by omega)
  exact hgo _ _ (Nat.lt_succ_self _)

/-- A text that does not start with a separator is left alone. -/
theorem stripTokenSeparators_eq_self (h : startsWithTokenSeparator sql = false) :
    stripTokenSeparators sql = sql := by
  obtain ⟨htrim, hline, hblock⟩ := startsWithTokenSeparator_eq_false_iff.1 h
  rw [stripTokenSeparators, stripTokenSeparators.go, if_neg (not_not.2 htrim), hline, hblock]

@[simp]
theorem strip_strip (sql : Text) :
    stripTokenSeparators (stripTokenSeparators sql) = stripTokenSeparators sql :=
  stripTokenSeparators_eq_self (startsWithTokenSeparator_strip sql)

/-! ### The end of a word -/

theorem dropToTokenSeparator_suffix (sql : Text) : dropToTokenSeparator sql <:+ sql := by
  induction sql with
  | nil => exact suffix_rfl
  | cons c sql ih =>
    rw [dropToTokenSeparator]
    split
    · exact suffix_rfl
    · exact ih.trans (suffix_cons _ _)

/-- A text that starts with a word is left with less. -/
theorem length_dropToTokenSeparator_lt (hne : sql ≠ [])
    (h : startsWithTokenSeparator sql = false) :
    (dropToTokenSeparator sql).length < sql.length := by
  obtain ⟨c, rest, rfl⟩ := exists_cons_of_ne_nil hne
  rw [dropToTokenSeparator, if_neg (by rw [h]; nofun), length_cons]
  exact Nat.lt_succ_of_le (dropToTokenSeparator_suffix rest).length_le

/-! ### The word a text starts with -/

theorem keywordIs_iff {keyword : Text} :
    keywordIs sql keyword = true ↔ ∃ candidate after,
      (stripTokenSeparators sql).splitAtByte keyword.byteLen = some (candidate, after) ∧
      candidate.eqIgnoreAsciiCase keyword = true ∧
      (after = [] ∨ startsWithTokenSeparator after = true) := by
  rw [keywordIs, startsWithWords]
  cases (stripTokenSeparators sql).splitAtByte keyword.byteLen with
  | none => exact ⟨nofun, nofun⟩
  | some p =>
    obtain ⟨candidate, after⟩ := p
    cases hword : candidate.eqIgnoreAsciiCase keyword <;> simp [hword]

end SqlClassify

end PgKinetic
