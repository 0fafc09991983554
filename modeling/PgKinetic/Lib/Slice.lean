import PgKinetic.Lib.Text

/-!
# Byte positions of a text

Rust's `str` is indexed by **byte** positions of the UTF-8 encoding. Searches return such positions
and slices take them; a slice whose ends are not character boundaries of the text, in order and
within its length, panics. Here the operations on positions are those of Rust, a slice is `none`
where the source panics, and one fact carries all proofs that it does not: **the length of what
stands before a piece is a position of the text**, and cutting there gives the piece back.
-/

namespace Text

open List Option

variable {t a b c pat : Text} {n : Nat}

/-- `&s[n..]`. -/
def sliceFrom (t : Text) (n : Nat) : Option Text := (t.splitAtByte n).map Prod.snd

/-- `&s[..n]`, and `s.get(..n)`, where `none` is no panic. -/
def sliceTo (t : Text) (n : Nat) : Option Text := (t.splitAtByte n).map Prod.fst

/-- `&s[m..n]`. The text is cut at `n` first, so that a start behind `n` is out of bounds. -/
def slice (t : Text) (m n : Nat) : Option Text := (t.sliceTo n).bind (·.sliceFrom m)

/-- `str::find` with a text: the position of its first occurrence. -/
def find (t pat : Text) : Option Nat := (splitAtFirst pat t).map fun p => byteLen p.1

/-- `str::find` with a predicate. -/
def findChar (p : Char → Bool) : Text → Option Nat
  | [] => none
  | c :: t => if p c then some 0 else (findChar p t).map (c.utf8Size + ·)

/-- `CharIndices::offset`: the position at which `iter`, what is left of the text, starts. -/
def offset (t iter : Text) : Nat := byteLen t - byteLen iter

/-- A character boundary: the length of a piece the text starts with. -/
def IsBoundary (t : Text) (n : Nat) : Prop := ∃ a b, t = a ++ b ∧ byteLen a = n

/-! ### Lengths -/

@[simp]
theorem byteLen_nil : byteLen [] = 0 := rfl

@[simp]
theorem byteLen_cons (c : Char) (t : Text) : byteLen (c :: t) = c.utf8Size + byteLen t := by
  rw [byteLen, map_cons, sum_cons, byteLen]

@[simp]
theorem byteLen_append (a b : Text) : byteLen (a ++ b) = byteLen a + byteLen b := by
  rw [byteLen, map_append, sum_append, byteLen, byteLen]

theorem offset_append (a b : Text) : offset (a ++ b) b = byteLen a := by
  rw [offset, byteLen_append]
  exact Nat.add_sub_cancel _ _

theorem length_le_byteLen (t : Text) : t.length ≤ byteLen t := by
  induction t with
  | nil => rfl
  | cons c t ih =>
    have hc := c.utf8Size_pos
    rw [byteLen_cons, length_cons]
    omega

/-! ### Cutting at a position -/

theorem splitAtByte_append (a b : Text) : splitAtByte (byteLen a) (a ++ b) = some (a, b) := by
  induction a with
  | nil => cases b <;> rfl
  | cons c a ih =>
    obtain ⟨n, hn⟩ : ∃ n, c.utf8Size + byteLen a = n + 1 :=
      Nat.exists_eq_add_one.2 (Nat.add_pos_left c.utf8Size_pos _)
    have hle : c.utf8Size ≤ n + 1 := hn ▸ Nat.le_add_right _ _
    have hrest : n + 1 - c.utf8Size = byteLen a := by omega
    rw [byteLen_cons, hn, cons_append, splitAtByte, if_pos hle, hrest, ih]
    rfl

theorem splitAtByte_eq_some (h : t.splitAtByte n = some (a, b)) : t = a ++ b ∧ byteLen a = n := by
  induction t generalizing n a with
  | nil =>
    cases n with
    | zero =>
      cases h
      exact ⟨rfl, rfl⟩
    | succ n => cases h
  | cons c t ih =>
    cases n with
    | zero =>
      cases h
      exact ⟨rfl, rfl⟩
    | succ n =>
      rw [splitAtByte] at h
      split at h
      · next hle =>
        obtain ⟨⟨a', b'⟩, hsplit, heq⟩ := map_eq_some_iff.1 h
        obtain ⟨rfl, rfl⟩ := Prod.mk.inj heq
        obtain ⟨ht, ha⟩ := ih hsplit
        refine ⟨by rw [ht]; rfl, ?_⟩
        rw [byteLen_cons, ha]
        omega
      · cases h

theorem isBoundary_iff : IsBoundary t n ↔ (t.splitAtByte n).isSome = true := by
  constructor
  · rintro ⟨a, b, rfl, rfl⟩
    rw [splitAtByte_append]
    rfl
  · intro h
    obtain ⟨⟨a, b⟩, hsplit⟩ := isSome_iff_exists.1 h
    exact ⟨a, b, splitAtByte_eq_some hsplit⟩

instance (t : Text) (n : Nat) : Decidable (IsBoundary t n) := decidable_of_iff _ isBoundary_iff.symm

theorem sliceFrom_append (a b : Text) : sliceFrom (a ++ b) (byteLen a) = some b := by
  rw [sliceFrom, splitAtByte_append]
  rfl

theorem sliceTo_append (a b : Text) : sliceTo (a ++ b) (byteLen a) = some a := by
  rw [sliceTo, splitAtByte_append]
  rfl

theorem slice_append (a b c : Text) :
    slice (a ++ (b ++ c)) (byteLen a) (byteLen a + byteLen b) = some b := by
  rw [slice, ← byteLen_append, ← append_assoc, sliceTo_append]
  exact sliceFrom_append a b

/-! ### Searching -/

theorem trimStart_eq_self_iff : t.trimStart = t ↔ t.head?.any isWhitespace = false := by
  cases t with
  | nil => exact ⟨fun _ => rfl, fun _ => rfl⟩
  | cons c t =>
    rw [trimStart, dropWhile_eq_self_iff]
    simp

theorem length_trimStart_lt (h : t.trimStart ≠ t) : t.trimStart.length < t.length := by
  have hsuffix : t.trimStart <:+ t := dropWhile_suffix _
  exact lt_of_le_of_ne hsuffix.length_le fun heq => h (hsuffix.eq_of_length heq)

theorem stripLeading_eq_some (h : t.stripLeading pat = some a) : t = pat ++ a := by
  induction pat generalizing t with
  | nil =>
    cases t with
    | nil | cons d t => exact some.inj h
  | cons d pat ih =>
    cases t with
    | nil => cases h
    | cons e t =>
      rw [stripLeading] at h
      split at h
      · next hd => rw [hd, ih h, cons_append]
      · cases h

theorem isSome_stripLeading (t pat : Text) : (t.stripLeading pat).isSome = t.startsWith pat := by
  induction pat generalizing t with
  | nil => cases t <;> rfl
  | cons d pat ih =>
    cases t with
    | nil => rfl
    | cons e t =>
      rw [stripLeading, startsWith, List.isPrefixOf]
      split
      · next hd =>
        rw [ih, beq_iff_eq.2 hd.symm]
        rfl
      · next hd =>
        rw [beq_eq_false_iff_ne.2 fun heq => hd heq.symm]
        rfl

theorem stripLeading_eq_none_iff : t.stripLeading pat = none ↔ t.startsWith pat = false := by
  rw [← isSome_stripLeading, isSome_eq_false_iff, isNone_iff_eq_none]

theorem splitAtFirst_eq_some (h : splitAtFirst pat t = some (a, b)) : t = a ++ (pat ++ b) := by
  induction t generalizing a with
  | nil =>
    rw [splitAtFirst] at h
    split at h
    · next hpat =>
      cases h
      rw [List.isEmpty_iff.1 hpat]
      rfl
    · cases h
  | cons d t ih =>
    rw [splitAtFirst] at h
    split at h
    · next after hafter =>
      cases h
      rw [stripLeading_eq_some hafter, nil_append]
    · obtain ⟨⟨a', b'⟩, hsplit, heq⟩ := map_eq_some_iff.1 h
      obtain ⟨rfl, rfl⟩ := Prod.mk.inj heq
      rw [ih hsplit, cons_append]

theorem splitAtFirst_suffix (h : splitAtFirst pat t = some (a, b)) : b <:+ t := by
  rw [splitAtFirst_eq_some h, ← append_assoc]
  exact suffix_append _ _

/-- What stands before and behind the first occurrence, by its position. -/
theorem find_of_splitAtFirst (h : splitAtFirst pat t = some (a, b)) :
    t.find pat = some (byteLen a) ∧ t.sliceTo (byteLen a) = some a ∧
      t.sliceFrom (byteLen a + byteLen pat) = some b := by
  have ht := splitAtFirst_eq_some h
  refine ⟨by rw [find, h]; rfl, ?_, ?_⟩
  · rw [ht]
    exact sliceTo_append _ _
  · rw [ht, ← append_assoc, ← byteLen_append]
    exact sliceFrom_append _ _

theorem findChar_eq_some_takeWhile {p : Char → Bool} (h : t.findChar p = some n) :
    n = byteLen (t.takeWhile fun c => !p c) := by
  induction t generalizing n with
  | nil => cases h
  | cons c t ih =>
    rw [findChar] at h
    cases hc : p c with
    | true =>
      rw [if_pos hc] at h
      rw [takeWhile_cons_of_neg (by rw [hc]; nofun)]
      exact (some.inj h).symm
    | false =>
      rw [if_neg (by rw [hc]; nofun)] at h
      obtain ⟨m, hm, rfl⟩ := map_eq_some_iff.1 h
      rw [takeWhile_cons_of_pos (by rw [hc]; rfl), byteLen_cons, ih hm]

theorem takeWhile_of_findChar_eq_none {p : Char → Bool} (h : t.findChar p = none) :
    t.takeWhile (fun c => !p c) = t := by
  induction t with
  | nil => rfl
  | cons c t ih =>
    rw [findChar] at h
    cases hc : p c with
    | true =>
      rw [if_pos hc] at h
      cases h
    | false =>
      rw [if_neg (by rw [hc]; nofun)] at h
      rw [takeWhile_cons_of_pos (by rw [hc]; rfl), ih (map_eq_none_iff.1 h)]

end Text
