import Mathlib.Algebra.Ring.Nat
import Mathlib.Data.List.DropRight

/-!
# Text as Rust's `str` sees it

A text is a list of characters. The operations below are those of Rust's `str` that inspect or
cut a text without allocating anything but its pieces: trimming, splitting at white space,
searching, and the slices `&s[n..]` and `s.get(..n)`, whose positions are **byte** positions of
the UTF-8 encoding and which fail off a character boundary.

All of them recurse on the list, so that closed instances evaluate.
-/

/-- A text: its characters in order. -/
abbrev Text := List Char

namespace Text

open List

instance : Coe String Text := ⟨String.toList⟩

instance : LawfulBEq Text := inferInstance

/-- The Unicode property `White_Space` (`char::is_whitespace`). -/
def isWhitespace (c : Char) : Bool :=
  let n := c.toNat
  (9 ≤ n && n ≤ 13) || n == 0x20 || n == 0x85 || n == 0xA0 || n == 0x1680 ||
    (0x2000 ≤ n && n ≤ 0x200A) || n == 0x2028 || n == 0x2029 || n == 0x202F || n == 0x205F ||
    n == 0x3000

/-- `str::trim_start`. -/
def trimStart (t : Text) : Text := t.dropWhile isWhitespace

/-- `str::trim_end_matches` with a predicate on characters. -/
def trimEndMatches (p : Char → Bool) (t : Text) : Text := t.rdropWhile p

/-- `str::trim`. -/
def trim (t : Text) : Text := trimEndMatches isWhitespace (trimStart t)

/-- `str::split_whitespace`: the maximal runs of characters that are not white space. -/
def splitWhitespace (t : Text) : List Text :=
  (t.splitOnP isWhitespace).filter fun piece => !piece.isEmpty

/-- `[_]::join(" ")`. -/
def joinWords (pieces : List Text) : Text := List.intercalate [' '] pieces

/-- `str::to_ascii_lowercase`. -/
def toAsciiLowercase (t : Text) : Text := t.map Char.toLower

/-- `str::eq_ignore_ascii_case`. -/
def eqIgnoreAsciiCase (t u : Text) : Bool := t.toAsciiLowercase == u.toAsciiLowercase

/-- `str::starts_with`. -/
def startsWith (t pat : Text) : Bool := pat.isPrefixOf t

/-- `str::strip_prefix`. -/
def stripLeading : (t pat : Text) → Option Text
  | t, [] => some t
  | [], _ :: _ => none
  | c :: t, d :: pat => if c = d then stripLeading t pat else none

/-- The text around the first occurrence of `pat`: what stands before it and what stands
after it (`str::find` together with the two slices it is used for). -/
def splitAtFirst (pat : Text) : Text → Option (Text × Text)
  | [] => if pat.isEmpty then some ([], []) else none
  | c :: t =>
    match stripLeading (c :: t) pat with
    | some after => some ([], after)
    | none => (splitAtFirst pat t).map fun p => (c :: p.1, p.2)

/-- `str::contains`. -/
def contains (t pat : Text) : Bool := (splitAtFirst pat t).isSome

/-- `str::split_once` with a character. -/
def splitOnce (sep : Char) : Text → Option (Text × Text)
  | [] => none
  | c :: t => if c = sep then some ([], t) else (splitOnce sep t).map fun p => (c :: p.1, p.2)

/-- `str::trim_start_matches` with a text: drops as many copies of `pat` as the text starts
with. Every copy of a nonempty `pat` is at least one character, so the length bounds their
number. -/
def trimStartMatches (pat t : Text) : Text := go t.length t
where
  go : Nat → Text → Text
    | 0, t => t
    | n + 1, t =>
      match stripLeading t pat with
      | some after => go n after
      | none => t

/-- Cuts a text at byte position `n` of its UTF-8 encoding: `none` past the end and off a
character boundary. `&s[n..]` is its second component (a panic where it is `none`) and
`s.get(..n)` its first. -/
def splitAtByte : Nat → Text → Option (Text × Text)
  | 0, t => some ([], t)
  | _ + 1, [] => none
  | n + 1, c :: t =>
    if c.utf8Size ≤ n + 1 then
      (splitAtByte (n + 1 - c.utf8Size) t).map fun p => (c :: p.1, p.2)
    else none

/-- The value of a decimal digit. -/
def decimalDigit (c : Char) : Option Nat :=
  if '0' ≤ c ∧ c ≤ '9' then some (c.toNat - '0'.toNat) else none

/-- The number a text of decimal digits stands for; `none` for the empty text. -/
def parseDigits (t : Text) : Option Nat :=
  if t.isEmpty then none
  else t.foldl (fun value c => value.bind fun n => (decimalDigit c).map (n * 10 + ·)) (some 0)

/-- `str::parse` to an unsigned integer of that many bits. -/
def parseUnsigned (bits : Nat) (t : Text) : Option Nat :=
  (parseDigits (match t with | '+' :: digits => digits | _ => t)).filter (· < 2 ^ bits)

/-- `str::parse` to a signed integer of that many bits. -/
def parseSigned (bits : Nat) (t : Text) : Option Int :=
  match t with
  | '-' :: digits => ((parseDigits digits).filter (· ≤ 2 ^ (bits - 1))).map fun n => -(n : Int)
  | _ =>
    ((parseDigits (match t with | '+' :: digits => digits | _ => t)).filter
      (· < 2 ^ (bits - 1))).map fun n => (n : Int)

/-- The length in bytes (`str::len`). -/
def byteLen (t : Text) : Nat := (t.map Char.utf8Size).sum

variable {sep c : Char}

/-- What is left of the first separator has none. -/
theorem splitOnce_eq_some {t before after : Text} (h : t.splitOnce sep = some (before, after)) :
    t = before ++ sep :: after ∧ sep ∉ before := by
  induction t generalizing before with
  | nil => cases h
  | cons c t ih =>
    rw [splitOnce] at h
    split at h
    · next hc =>
      cases h
      exact ⟨hc ▸ rfl, nofun⟩
    · next hc =>
      obtain ⟨⟨before', after'⟩, hsplit, heq⟩ := Option.map_eq_some_iff.1 h
      obtain ⟨rfl, rfl⟩ := Prod.mk.inj heq
      obtain ⟨ht, hbefore⟩ := ih hsplit
      refine ⟨by rw [ht]; rfl, ?_⟩
      rw [mem_cons, not_or]
      exact ⟨fun heq => hc heq.symm, hbefore⟩

theorem splitOnce_append {before : Text} (h : sep ∉ before) (after : Text) :
    (before ++ sep :: after).splitOnce sep = some (before, after) := by
  induction before with
  | nil => exact if_pos rfl
  | cons c before ih =>
    rw [mem_cons, not_or] at h
    rw [cons_append, splitOnce, if_neg (Ne.symm h.1), ih h.2]
    rfl

/-- The pieces of a split have no separators. -/
theorem not_mem_of_mem_splitOn {t piece : Text} (h : piece ∈ t.splitOn sep) : sep ∉ piece := by
  induction t generalizing piece with
  | nil =>
    rw [mem_singleton.1 h]
    nofun
  | cons c t ih =>
    rw [splitOn_cons_eq_if_modifyHead] at h
    split at h
    · rcases mem_cons.1 h with rfl | h
      · nofun
      · exact ih h
    · next hc =>
      cases hsplit : t.splitOn sep with
      | nil => exact absurd hsplit (splitOn_ne_nil _ _)
      | cons head pieces =>
        rw [hsplit] at h ih
        rcases mem_cons.1 h with rfl | h
        · rw [mem_cons, not_or]
          exact ⟨fun heq => hc (beq_iff_eq.2 heq.symm), ih mem_cons_self⟩
        · exact ih (mem_cons_of_mem _ h)

/-- Pieces without separators are found again. -/
theorem splitOn_flatMap {first : Text} {pieces : List Text} (hfirst : sep ∉ first)
    (hpieces : ∀ piece ∈ pieces, sep ∉ piece) :
    (first ++ pieces.flatMap (sep :: ·)).splitOn sep = first :: pieces := by
  induction pieces generalizing first with
  | nil =>
    rw [flatMap_nil, append_nil]
    exact splitOn_eq_singleton hfirst
  | cons piece pieces ih =>
    rw [flatMap_cons, cons_append, splitOn_append_cons_self,
      splitOn_eq_singleton hfirst, ih (hpieces piece mem_cons_self)
        fun p hp => hpieces p (mem_cons_of_mem _ hp)]
    rfl

/-! ### Decimal numbers -/

theorem toList_repr (n : Nat) : (Nat.repr n).toList = Nat.toDigits 10 n := by
  rw [Nat.repr_eq_ofList_toDigits, String.toList_ofList]

theorem isDigit_of_mem_repr {n : Nat} (h : c ∈ (Nat.repr n).toList) : c.isDigit = true := by
  rw [toList_repr] at h
  exact Nat.isDigit_of_mem_toDigits (by decide) (by decide) h

theorem decimalDigit_of_isDigit (h : c.isDigit = true) :
    decimalDigit c = some (c.toNat - '0'.toNat) := by
  have hrange : '0' ≤ c ∧ c ≤ '9' := by simpa [Char.isDigit, Char.le_def] using h
  exact if_pos hrange

theorem foldl_decimalDigit {t : Text} (h : ∀ c ∈ t, c.isDigit = true) (n : Nat) :
    t.foldl (fun value c => value.bind fun n => (decimalDigit c).map (n * 10 + ·)) (some n) =
      some (Nat.ofDigitChars 10 t n) := by
  induction t generalizing n with
  | nil => rfl
  | cons c t ih =>
    rw [foldl_cons, Option.bind_some, decimalDigit_of_isDigit (h c mem_cons_self),
      Option.map_some, ih fun d hd => h d (mem_cons_of_mem _ hd), Nat.ofDigitChars_cons,
      Nat.mul_comm]

/-- A number that fits is read back. -/
theorem parseUnsigned_repr {bits n : Nat} (h : n < 2 ^ bits) :
    parseUnsigned bits (Nat.repr n).toList = some n := by
  have hdigits : parseDigits (Nat.repr n).toList = some n := by
    have hne : ((Nat.repr n).toList).isEmpty = false := by
      rw [toList_repr, isEmpty_eq_false_iff]
      exact Nat.toDigits_ne_nil
    rw [parseDigits, hne, if_neg nofun, foldl_decimalDigit (fun _ => isDigit_of_mem_repr),
      toList_repr, Nat.ofDigitChars_ten_toDigits]
  unfold parseUnsigned
  split
  · next digits heq =>
    have hplus : '+' ∈ (Nat.repr n).toList := by
      rw [heq]
      exact mem_cons_self
    exact absurd (isDigit_of_mem_repr hplus) (by decide)
  · rw [hdigits, Option.filter_some, if_pos (decide_eq_true h)]

end Text
