import Mathlib.Data.List.Basic
import Mathlib.Logic.Function.Iterate

/-!
# Erasing the first matches

A filter that is to remove certain **marked** elements of a stream, but only knows what they look
like and how many there are, erases the first `k` **matches** instead: `(List.eraseP p)^[k]`. If
all matches look the same, this is right exactly when nobody can tell: there is no unmarked match
at all, or all `k` marked elements are there and none of them comes after an unmarked match that
has been followed by something else (`Separated`).
-/

namespace EraseFirst

open List

section Iterate

variable {α : Type*} {p : α → Bool}

theorem iterate_eraseP_nil (k : ℕ) : (List.eraseP p)^[k] [] = [] := by
  induction k with
  | zero => rfl
  | succ k ih => rw [Function.iterate_succ_apply, eraseP_nil, ih]

theorem iterate_eraseP_cons_of_neg {a : α} (ha : p a = false) (k : ℕ) (l : List α) :
    (List.eraseP p)^[k] (a :: l) = a :: (List.eraseP p)^[k] l := by
  induction k generalizing l with
  | zero => rfl
  | succ k ih =>
    rw [Function.iterate_succ_apply, eraseP_cons_of_neg (by simp [ha]), ih,
      Function.iterate_succ_apply]

theorem iterate_eraseP_cons_of_pos {a : α} (ha : p a = true) (k : ℕ) (l : List α) :
    (List.eraseP p)^[k + 1] (a :: l) = (List.eraseP p)^[k] l := by
  rw [Function.iterate_succ_apply, eraseP_cons_of_pos ha]

/-- What does not match is not erased. -/
theorem filter_iterate_eraseP (k : ℕ) (l : List α) :
    ((List.eraseP p)^[k] l).filter (fun a => !p a) = l.filter fun a => !p a := by
  induction l generalizing k with
  | nil => rw [iterate_eraseP_nil]
  | cons a l ih =>
    cases ha : p a with
    | false => rw [iterate_eraseP_cons_of_neg ha, filter_cons, filter_cons, ih]
    | true =>
      cases k with
      | zero => rfl
      | succ k => rw [iterate_eraseP_cons_of_pos ha, ih, filter_cons_of_neg (by simp [ha])]

end Iterate

/-! ### Marked elements -/

variable {α β : Type*} (p : α → Bool) (val : β → α) (marked : β → Bool)

/-- No marked element comes after one that does not match. -/
def MarksLead (l : List β) : Prop :=
  ∀ u y v, l = u ++ y :: v → p (val y) = false → ∀ d ∈ v, marked d = false

/-- No marked element comes after an unmarked match that has been followed by something that does
not match. -/
def Separated (l : List β) : Prop :=
  ∀ u y v, l = u ++ y :: v → p (val y) = false →
    (∀ c ∈ u, p (val c) = true → marked c = true) ∨ ∀ d ∈ v, marked d = false

section

variable {p val marked}

variable {a : β} {l : List β}

theorem marksLead_cons_of_pos (ha : p (val a) = true) :
    MarksLead p val marked (a :: l) ↔ MarksLead p val marked l := by
  constructor
  · rintro h u y v rfl hy
    exact h (a :: u) y v rfl hy
  · intro h u y v hl hy
    cases u with
    | nil =>
      obtain ⟨rfl, rfl⟩ := cons.inj hl
      rw [ha] at hy
      cases hy
    | cons b u =>
      obtain ⟨rfl, rfl⟩ := cons.inj hl
      exact h u y v rfl hy

theorem marksLead_cons_of_neg (ha : p (val a) = false) :
    MarksLead p val marked (a :: l) ↔ ∀ d ∈ l, marked d = false := by
  constructor
  · intro h
    exact h [] a l rfl ha
  · intro h u y v hl _ d hd
    refine h d ?_
    cases u with
    | nil =>
      obtain ⟨rfl, rfl⟩ := cons.inj hl
      exact hd
    | cons b u =>
      obtain ⟨rfl, rfl⟩ := cons.inj hl
      simp [hd]

theorem marksLead_of_countP (h : l.countP marked = 0) : MarksLead p val marked l := by
  rintro u y v rfl - d hd
  simpa using countP_eq_zero.1 h d (by simp [hd])

/-- What does not match, or is marked, does not matter at the head. -/
theorem separated_cons (ha : p (val a) = true → marked a = true) :
    Separated p val marked (a :: l) ↔ Separated p val marked l := by
  constructor
  · rintro h u y v rfl hy
    rcases h (a :: u) y v rfl hy with hu | hv
    · exact .inl fun c hc => hu c (mem_cons_of_mem a hc)
    · exact .inr hv
  · intro h u y v hl hy
    cases u with
    | nil => exact .inl (by simp)
    | cons b u =>
      obtain ⟨rfl, rfl⟩ := cons.inj hl
      rcases h u y v rfl hy with hu | hv
      · refine .inl fun c hc => ?_
        rcases mem_cons.1 hc with rfl | hc
        · exact ha
        · exact hu c hc
      · exact .inr hv

theorem separated_cons_of_unmarked (ha : p (val a) = true) (hm : marked a = false) :
    Separated p val marked (a :: l) ↔ MarksLead p val marked l := by
  constructor
  · rintro h u y v rfl hy
    rcases h (a :: u) y v rfl hy with hu | hv
    · have hmarked := hu a mem_cons_self ha
      rw [hm] at hmarked
      cases hmarked
    · exact hv
  · intro h u y v hl hy
    cases u with
    | nil => exact .inl (by simp)
    | cons b u =>
      obtain ⟨rfl, rfl⟩ := cons.inj hl
      exact .inr (h u y v rfl hy)

/-! ### When erasing the first matches removes the marked elements -/

theorem map_eq_map_filter_iff (l : List β) :
    l.map val = (l.filter fun a => !marked a).map val ↔ l.countP marked = 0 := by
  constructor
  · intro h
    have hlen := congrArg List.length h
    rw [length_map, length_map] at hlen
    have hall := length_filter_eq_length_iff.1 hlen.symm
    exact countP_eq_zero.2 fun a ha => by simpa using hall a ha
  · intro h
    rw [filter_eq_self.2]
    intro a ha
    simpa using countP_eq_zero.1 h a ha

variable {x : α}

theorem replicate_append_cons (n : ℕ) (l : List α) :
    List.replicate n x ++ x :: l = List.replicate (n + 1) x ++ l := by
  rw [replicate_succ', append_assoc, singleton_append]

/-- The case in which `j` unmarked matches have been erased already: the elements still to be
erased must make up for them before anything else comes. -/
theorem iterate_eraseP_eq_owed_iff {k j : ℕ} (hj : 0 < j)
    (hx : ∀ a ∈ l, p (val a) = true → val a = x) (hpx : p x = true)
    (hmark : ∀ a ∈ l, marked a = true → p (val a) = true) (hk : l.countP marked ≤ k + j) :
    (List.eraseP p)^[k] (l.map val) =
        List.replicate j x ++ (l.filter fun a => !marked a).map val ↔
      l.countP marked = k + j ∧ MarksLead p val marked l := by
  induction l generalizing k j with
  | nil =>
    rw [map_nil, iterate_eraseP_nil]
    simp
    omega
  | cons a l ih =>
    obtain ⟨hxa, hx⟩ := forall_mem_cons.1 hx
    obtain ⟨hmarka, hmark⟩ := forall_mem_cons.1 hmark
    obtain ⟨j, rfl⟩ : ∃ i, j = i + 1 := ⟨j - 1, by omega⟩
    cases hpa : p (val a) with
    | false =>
      -- something else comes while elements are owed
      have hne : val a ≠ x := by
        rintro rfl
        rw [hpx] at hpa
        cases hpa
      have hma : marked a = false := Bool.eq_false_iff.2 (mt hmarka (by simp [hpa]))
      rw [map_cons, iterate_eraseP_cons_of_neg hpa, marksLead_cons_of_neg hpa,
        replicate_succ, cons_append]
      refine ⟨fun h => absurd (cons.inj h).1 hne, fun ⟨hcount, hnone⟩ => ?_⟩
      rw [countP_cons_of_neg (by simp [hma]),
        countP_eq_zero.2 fun b hb => by simp [hnone b hb]] at hcount
      omega
    | true =>
      obtain rfl := hxa hpa
      rw [marksLead_cons_of_pos hpa, map_cons]
      cases hma : marked a with
      | true =>
        rw [countP_cons_of_pos hma] at hk ⊢
        rw [filter_cons_of_neg (by simp [hma])]
        cases k with
        | succ k =>
          rw [iterate_eraseP_cons_of_pos hpa, ih (Nat.succ_pos j) hx hmark (by omega)]
          refine and_congr_left' ?_
          omega
        | zero =>
          -- all matches are kept now, and a marked one is taken for an owed one
          rw [Function.iterate_zero, id_eq, replicate_succ, cons_append, cons_inj_right]
          cases j with
          | zero =>
            rw [replicate_zero, nil_append, map_eq_map_filter_iff]
            constructor
            · intro hnone
              exact ⟨by omega, marksLead_of_countP hnone⟩
            · rintro ⟨hcount, -⟩
              omega
          | succ j =>
            have hrest := ih (k := 0) (Nat.succ_pos j) hx hmark (by omega)
            rw [Function.iterate_zero, id_eq] at hrest
            rw [hrest]
            refine and_congr_left' ?_
            omega
      | false =>
        rw [countP_cons_of_neg (by simp [hma])] at hk ⊢
        rw [filter_cons_of_pos (by simp [hma]), map_cons]
        cases k with
        | succ k =>
          -- an unmarked match is erased: one more is owed
          rw [iterate_eraseP_cons_of_pos hpa, replicate_append_cons,
            ih (Nat.succ_pos (j + 1)) hx hmark (by omega)]
          refine and_congr_left' ?_
          omega
        | zero =>
          rw [Function.iterate_zero, id_eq, replicate_append_cons, replicate_succ,
            cons_append, cons_inj_right]
          have hrest := ih (k := 0) (Nat.succ_pos j) hx hmark (by omega)
          exact hrest

/-- The case in which all marked elements match. -/
theorem iterate_eraseP_eq_filter_iff_of_marked {k : ℕ} (hx : ∀ a ∈ l, p (val a) = true → val a = x)
    (hpx : p x = true) (hmark : ∀ a ∈ l, marked a = true → p (val a) = true)
    (hk : l.countP marked ≤ k) :
    (List.eraseP p)^[k] (l.map val) = (l.filter fun a => !marked a).map val ↔
      (∀ a ∈ l, p (val a) = true → marked a = true) ∨
        (l.countP marked = k ∧ Separated p val marked l) := by
  induction l generalizing k with
  | nil =>
    rw [map_nil, iterate_eraseP_nil]
    simp
  | cons a l ih =>
    obtain ⟨hxa, hx⟩ := forall_mem_cons.1 hx
    obtain ⟨hmarka, hmark⟩ := forall_mem_cons.1 hmark
    rw [map_cons, forall_mem_cons]
    cases hpa : p (val a) with
    | false =>
      have hma : marked a = false := Bool.eq_false_iff.2 (mt hmarka (by simp [hpa]))
      rw [countP_cons_of_neg (by simp [hma])] at hk ⊢
      rw [iterate_eraseP_cons_of_neg hpa, filter_cons_of_pos (by simp [hma]), map_cons,
        cons_inj_right, ih hx hmark hk, separated_cons (by simp [hpa])]
      simp
    | true =>
      cases hma : marked a with
      | true =>
        rw [countP_cons_of_pos hma] at hk ⊢
        obtain ⟨k, rfl⟩ : ∃ i, k = i + 1 := ⟨k - 1, by omega⟩
        rw [iterate_eraseP_cons_of_pos hpa, filter_cons_of_neg (by simp [hma]),
          ih hx hmark (by omega), separated_cons fun _ => hma]
        simp
      | false =>
        obtain rfl := hxa hpa
        rw [countP_cons_of_neg (by simp [hma])] at hk ⊢
        rw [filter_cons_of_pos (by simp [hma]), map_cons, separated_cons_of_unmarked hpa hma]
        cases k with
        | zero =>
          have hnone : l.countP marked = 0 := by omega
          rw [Function.iterate_zero, id_eq, cons_inj_right, map_eq_map_filter_iff]
          exact ⟨fun _ => .inr ⟨hnone, marksLead_of_countP hnone⟩, fun _ => hnone⟩
        | succ k =>
          rw [iterate_eraseP_cons_of_pos hpa]
          have howed := iterate_eraseP_eq_owed_iff (k := k) Nat.one_pos hx hpx hmark hk
          rw [replicate_one, singleton_append] at howed
          rw [howed]
          simp

/-- What does not match is not erased, so all marked elements match if they are removed. -/
theorem marked_of_iterate_eraseP_eq_filter {k : ℕ}
    (h : (List.eraseP p)^[k] (l.map val) = (l.filter fun a => !marked a).map val) :
    ∀ a ∈ l, marked a = true → p (val a) = true := by
  have hkept := congrArg (List.filter fun a => !p a) h
  rw [filter_iterate_eraseP, filter_map, filter_map, filter_filter] at hkept
  have hlen : ((l.filter fun a => !p (val a)).filter fun a => !marked a).length =
      (l.filter fun a => !p (val a)).length := by
    have hlen := congrArg List.length hkept
    rw [length_map, length_map] at hlen
    rw [filter_filter]
    simpa only [Function.comp_def, Bool.and_comm] using hlen.symm
  intro a ha hma
  by_contra hpa
  have hunmarked := length_filter_eq_length_iff.1 hlen a (by simp [ha, hpa])
  simp [hma] at hunmarked

/-- **Erasing the first `k` matches** of a stream in which all matches look the same removes the
marked elements if and only if these all match and either no match is unmarked, or all `k` marked
ones are there and come in time. -/
theorem iterate_eraseP_eq_filter_iff {k : ℕ} (hx : ∀ a ∈ l, p (val a) = true → val a = x)
    (hpx : p x = true) (hk : l.countP marked ≤ k) :
    (List.eraseP p)^[k] (l.map val) = (l.filter fun a => !marked a).map val ↔
      (∀ a ∈ l, marked a = true → p (val a) = true) ∧
        ((∀ a ∈ l, p (val a) = true → marked a = true) ∨
          (l.countP marked = k ∧ Separated p val marked l)) := by
  constructor
  · intro h
    have hmark := marked_of_iterate_eraseP_eq_filter h
    exact ⟨hmark, (iterate_eraseP_eq_filter_iff_of_marked hx hpx hmark hk).1 h⟩
  · rintro ⟨hmark, h⟩
    exact (iterate_eraseP_eq_filter_iff_of_marked hx hpx hmark hk).2 h

end

end EraseFirst
