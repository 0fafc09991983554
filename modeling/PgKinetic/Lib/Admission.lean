import Mathlib.Data.List.Basic
import Mathlib.Data.List.Pairwise

/-!
# Admission by rank

Arrivals are counted: the **rank** of an arrival is the number of those counted inside, itself
included. A little later it is decided, against a limit that may have changed since, whether the
arrival stays (it is **granted**) or leaves again.

A ledger keeps those inside in the order of their arrival. An entry carries its rank and a
**bound**: for one that is granted, the limit it was granted under; for one still to be decided,
the largest limit there has been since it arrived. Since those before an entry can only leave,
its position never exceeds its rank, and so whoever is granted finds no more inside, of those
that stay, than its bound allows (`Sound.grantedCount_lt_bound`).
-/

namespace Admission

open List

/-- An entry of a ledger. -/
structure Entry (κ : Type*) where
  key : κ
  rank : Nat
  bound : Nat
  granted : Bool
  deriving DecidableEq, Repr

variable {κ : Type*}

/-! ### Operations -/

/-- An arrival, under the present limit. -/
def arrive (l : List (Entry κ)) (key : κ) (limit : Nat) : List (Entry κ) :=
  l ++ [⟨key, l.length + 1, limit, false⟩]

/-- The entries of `key` are granted under the limit. -/
def grant [DecidableEq κ] (l : List (Entry κ)) (key : κ) (limit : Nat) : List (Entry κ) :=
  l.map fun e => if e.key = key then { e with bound := limit, granted := true } else e

/-- The first entry of `key` leaves. -/
def leave [DecidableEq κ] (l : List (Entry κ)) (key : κ) : List (Entry κ) :=
  l.eraseP fun e => e.key = key

/-- The limit changes. -/
def relimit (l : List (Entry κ)) (limit : Nat) : List (Entry κ) :=
  l.map fun e => if e.granted then e else { e with bound := max e.bound limit }

/-- The entries of `key`. -/
def entriesOf [DecidableEq κ] (l : List (Entry κ)) (key : κ) : List (Entry κ) :=
  l.filter fun e => e.key = key

/-- The entries that stay. -/
def grantedCount (l : List (Entry κ)) : Nat := l.countP (·.granted)

/-! ### Entries of one key -/

section

variable [DecidableEq κ] {l : List (Entry κ)} {i j : κ} {limit : Nat}

theorem entriesOf_arrive_self (h : entriesOf l i = []) :
    entriesOf (arrive l i limit) i = [⟨i, l.length + 1, limit, false⟩] := by
  rw [entriesOf] at h
  simp [entriesOf, arrive, h]

theorem entriesOf_arrive_of_ne (h : i ≠ j) : entriesOf (arrive l i limit) j = entriesOf l j := by
  simp [entriesOf, arrive, h]

theorem entriesOf_grant_self :
    entriesOf (grant l i limit) i =
      (entriesOf l i).map fun e => { e with bound := limit, granted := true } := by
  induction l with
  | nil => rfl
  | cons e l ih =>
    simp only [entriesOf, grant] at ih
    by_cases he : e.key = i
    · simp [entriesOf, grant, he, ih]
    · simp [entriesOf, grant, he, ih]

theorem entriesOf_grant_of_ne (h : i ≠ j) : entriesOf (grant l i limit) j = entriesOf l j := by
  induction l with
  | nil => rfl
  | cons e l ih =>
    simp only [entriesOf, grant] at ih
    by_cases he : e.key = i
    · simp [entriesOf, grant, he, ih, h]
    · by_cases hj : e.key = j
      · simp [entriesOf, grant, hj, ih, h.symm]
      · simp [entriesOf, grant, he, hj, ih]

theorem entriesOf_leave_self : entriesOf (leave l i) i = (entriesOf l i).tail := by
  induction l with
  | nil => rfl
  | cons e l ih =>
    by_cases he : e.key = i
    · simp [entriesOf, leave, he]
    · simp only [entriesOf, leave] at ih
      simp [entriesOf, leave, he, ih]

theorem entriesOf_leave_of_ne (h : i ≠ j) : entriesOf (leave l i) j = entriesOf l j := by
  induction l with
  | nil => rfl
  | cons e l ih =>
    by_cases he : e.key = i
    · simp [entriesOf, leave, he, h]
    · simp only [entriesOf, leave] at ih
      by_cases hj : e.key = j
      · simp [entriesOf, leave, hj, h.symm, ih]
      · simp [entriesOf, leave, he, hj, ih]

/-- A change of the limit touches the bounds only. -/
theorem entriesOf_relimit : entriesOf (relimit l limit) i = relimit (entriesOf l i) limit := by
  induction l with
  | nil => rfl
  | cons e l ih =>
    simp only [entriesOf, relimit] at ih
    by_cases hg : e.granted = true
    · by_cases he : e.key = i <;> simp [entriesOf, relimit, hg, he, ih]
    · by_cases he : e.key = i <;> simp [entriesOf, relimit, hg, he, ih]

end

/-! ### Counting -/

section

variable {l : List (Entry κ)} {i : κ} {limit : Nat}

theorem length_arrive : (arrive l i limit).length = l.length + 1 := by simp [arrive]

theorem length_relimit : (relimit l limit).length = l.length := length_map _

theorem grantedCount_arrive : grantedCount (arrive l i limit) = grantedCount l := by
  simp [grantedCount, arrive]

theorem grantedCount_relimit : grantedCount (relimit l limit) = grantedCount l := by
  rw [grantedCount, relimit, countP_map]
  refine countP_congr fun e _ => ?_
  by_cases hg : e.granted = true
  · simp [hg]
  · simp [hg]

variable [DecidableEq κ]

theorem length_grant : (grant l i limit).length = l.length := length_map _

variable {e : Entry κ} {rest : List (Entry κ)}

theorem length_leave (h : entriesOf l i = e :: rest) : (leave l i).length + 1 = l.length := by
  have he : e ∈ entriesOf l i := h ▸ mem_cons_self
  obtain ⟨hmem, hkey⟩ := mem_filter.1 he
  have hpos := length_pos_of_mem hmem
  rw [leave, length_eraseP_of_mem hmem hkey]
  omega

/-- Granting the one entry of a key, which was not granted, adds one to those that stay. -/
theorem grantedCount_grant (h : entriesOf l i = [e]) (hg : e.granted = false) :
    grantedCount (grant l i limit) = grantedCount l + 1 := by
  induction l with
  | nil => cases h
  | cons x l ih =>
    by_cases hx : x.key = i
    · rw [entriesOf, filter_cons_of_pos (by simpa using hx)] at h
      obtain ⟨rfl, hrest⟩ := cons.inj h
      have hsame : grant l i limit = l := by
        conv_rhs => rw [← map_id l]
        refine map_congr_left fun y hy => ?_
        have hy' : y.key ≠ i := by simpa using filter_eq_nil_iff.1 hrest y hy
        rw [if_neg hy', id]
      rw [grant] at hsame
      simp [grantedCount, grant, hx, hg, hsame]
    · rw [entriesOf, filter_cons_of_neg (by simpa using hx)] at h
      have ih' := ih h
      simp only [grantedCount, grant] at ih'
      simp only [grantedCount, grant, map_cons, if_neg hx, countP_cons, ih']
      omega

/-- An entry that leaves takes itself along, if it was granted. -/
theorem grantedCount_leave (h : entriesOf l i = e :: rest) :
    grantedCount (leave l i) + (if e.granted then 1 else 0) = grantedCount l := by
  induction l with
  | nil => cases h
  | cons x l ih =>
    by_cases hx : x.key = i
    · rw [entriesOf, filter_cons_of_pos (by simpa using hx)] at h
      obtain ⟨rfl, -⟩ := cons.inj h
      rw [leave, eraseP_cons_of_pos (by simpa using hx), grantedCount, grantedCount, countP_cons]
    · rw [entriesOf, filter_cons_of_neg (by simpa using hx)] at h
      have ih' := ih h
      simp only [grantedCount, leave] at ih'
      rw [leave, eraseP_cons_of_neg (by simpa using hx), grantedCount, grantedCount,
        countP_cons, countP_cons]
      omega

end

/-! ### Positions and ranks -/

/-- The entries of a ledger, from position `n` on, are not further back than their ranks. -/
def RankedFrom : Nat → List (Entry κ) → Prop
  | _, [] => True
  | n, e :: l => n + 1 ≤ e.rank ∧ RankedFrom (n + 1) l

/-- A ledger under the present limit. -/
structure Sound (l : List (Entry κ)) (limit : Nat) : Prop where
  ranked : RankedFrom 0 l
  within : ∀ e ∈ l, e.granted = true → e.rank ≤ e.bound
  undecided : ∀ e ∈ l, e.granted = false → limit ≤ e.bound
  ordered : l.Pairwise fun a b => a.granted = false → b.granted = true → b.bound ≤ a.bound

section

variable {l l' : List (Entry κ)} {i : κ} {limit : Nat}

variable {n : Nat} {e : Entry κ}

theorem RankedFrom.mono {m : Nat} (h : RankedFrom n l) (hm : m ≤ n) : RankedFrom m l := by
  induction l generalizing n m with
  | nil => trivial
  | cons e l ih => exact ⟨by have := h.1; omega, ih h.2 (by omega)⟩

theorem RankedFrom.sublist (h : RankedFrom n l) (hl : l'.Sublist l) : RankedFrom n l' := by
  induction hl generalizing n with
  | slnil => trivial
  | cons e _ ih => exact ih (h.2.mono (Nat.le_succ n))
  | cons_cons e _ ih => exact ⟨h.1, ih h.2⟩

theorem RankedFrom.map (h : RankedFrom n l) {f : Entry κ → Entry κ}
    (hf : ∀ e, (f e).rank = e.rank) : RankedFrom n (l.map f) := by
  induction l generalizing n with
  | nil => trivial
  | cons e l ih => exact ⟨by rw [hf]; exact h.1, ih h.2⟩

theorem RankedFrom.concat (h : RankedFrom n l) (he : n + l.length + 1 ≤ e.rank) :
    RankedFrom n (l ++ [e]) := by
  induction l generalizing n with
  | nil => exact ⟨by simpa using he, trivial⟩
  | cons x l ih =>
    refine ⟨h.1, ih h.2 ?_⟩
    rw [length_cons] at he
    omega

theorem Sound.nil : Sound ([] : List (Entry κ)) limit := ⟨trivial, by simp, by simp, .nil⟩

theorem Sound.arrive (h : Sound l limit) : Sound (arrive l i limit) limit := by
  refine ⟨h.ranked.concat (by simp), ?_, ?_, ?_⟩
  · intro e he hg
    rcases mem_append.1 he with he | he
    · exact h.within e he hg
    · rw [mem_singleton.1 he] at hg
      cases hg
  · intro e he hg
    rcases mem_append.1 he with he | he
    · exact h.undecided e he hg
    · obtain rfl := mem_singleton.1 he
      exact Nat.le_refl limit
  · refine pairwise_append.2 ⟨h.ordered, pairwise_singleton _ _, ?_⟩
    intro a _ b hb _ hg
    rw [mem_singleton.1 hb] at hg
    cases hg

theorem Sound.leave [DecidableEq κ] (h : Sound l limit) : Sound (leave l i) limit := by
  have hl : (Admission.leave l i).Sublist l := eraseP_sublist
  exact ⟨h.ranked.sublist hl, fun e he => h.within e (hl.subset he),
    fun e he => h.undecided e (hl.subset he), h.ordered.sublist hl⟩

/-- Entries whose rank is within the present limit may be granted under it. -/
theorem Sound.grant [DecidableEq κ] (h : Sound l limit)
    (hrank : ∀ e ∈ entriesOf l i, e.rank ≤ limit) :
    Sound (grant l i limit) limit := by
  refine ⟨h.ranked.map fun e => by split <;> rfl, ?_, ?_, ?_⟩
  · intro e he hg
    obtain ⟨x, hx, rfl⟩ := mem_map.1 he
    by_cases hkey : x.key = i
    · rw [if_pos hkey]
      exact hrank x (mem_filter.2 ⟨hx, by simpa using hkey⟩)
    · rw [if_neg hkey] at hg ⊢
      exact h.within x hx hg
  · intro e he hg
    obtain ⟨x, hx, rfl⟩ := mem_map.1 he
    by_cases hkey : x.key = i
    · rw [if_pos hkey] at hg
      cases hg
    · rw [if_neg hkey] at hg ⊢
      exact h.undecided x hx hg
  · refine pairwise_map.2 (h.ordered.imp_of_mem fun {a b} ha hb hab => ?_)
    by_cases hkey : a.key = i
    · rw [if_pos hkey]
      intro hg
      cases hg
    · rw [if_neg hkey]
      intro hg hb'
      -- who is granted now is granted under the present limit
      by_cases hbkey : b.key = i
      · rw [if_pos hbkey]
        exact h.undecided a ha hg
      · rw [if_neg hbkey] at hb' ⊢
        exact hab hg hb'

theorem Sound.relimit (h : Sound l limit) (limit' : Nat) : Sound (relimit l limit') limit' := by
  refine ⟨h.ranked.map fun e => by split <;> rfl, ?_, ?_, ?_⟩
  · intro e he hg
    obtain ⟨x, hx, rfl⟩ := mem_map.1 he
    by_cases hx' : x.granted = true
    · rw [if_pos hx']
      exact h.within x hx hx'
    · rw [if_neg hx'] at hg
      exact absurd hg hx'
  · intro e he hg
    obtain ⟨x, hx, rfl⟩ := mem_map.1 he
    by_cases hx' : x.granted = true
    · rw [if_pos hx', hx'] at hg
      cases hg
    · rw [if_neg hx']
      exact Nat.le_max_right _ _
  · refine pairwise_map.2 (h.ordered.imp fun {a b} hab => ?_)
    by_cases ha : a.granted = true
    · rw [if_pos ha, ha]
      intro hg
      cases hg
    · rw [if_neg ha]
      intro hg hb
      by_cases hb' : b.granted = true
      · rw [if_pos hb']
        exact Nat.le_trans (hab hg hb') (Nat.le_max_left _ _)
      · rw [if_neg hb'] at hb
        exact absurd hb hb'

/-- From position `m` on, those granted under limits up to `B` are at most `B - m`. -/
theorem RankedFrom.grantedCount_le {m B : Nat} (h : RankedFrom m l)
    (hB : ∀ e ∈ l, e.granted = true → e.rank ≤ B) (hm : m ≤ B) : m + grantedCount l ≤ B := by
  induction l generalizing m with
  | nil => exact hm
  | cons e l ih =>
    have hrest : ∀ x ∈ l, x.granted = true → x.rank ≤ B := fun x hx => hB x (mem_cons_of_mem e hx)
    have hcons : grantedCount (e :: l) = grantedCount l + if e.granted then 1 else 0 := countP_cons
    by_cases hg : e.granted = true
    · have hrank := hB e mem_cons_self hg
      have hlt := h.1
      have hle := ih h.2 hrest (by omega)
      rw [hcons, if_pos hg]
      omega
    · have hle := ih (h.2.mono (Nat.le_succ m)) hrest hm
      rw [hcons, if_neg hg]
      omega

theorem grantedCount_lt_bound_from (hranked : RankedFrom n l)
    (hwithin : ∀ e ∈ l, e.granted = true → e.rank ≤ e.bound)
    (hordered : l.Pairwise fun a b => a.granted = false → b.granted = true → b.bound ≤ a.bound)
    (he : e ∈ l) (hg : e.granted = false) (hrank : e.rank ≤ e.bound) :
    n + grantedCount l + 1 ≤ e.bound := by
  induction l generalizing n with
  | nil => cases he
  | cons x l ih =>
    have hcons : grantedCount (x :: l) = grantedCount l + if x.granted then 1 else 0 := countP_cons
    have hwithin' : ∀ y ∈ l, y.granted = true → y.rank ≤ y.bound := fun y hy =>
      hwithin y (mem_cons_of_mem x hy)
    rcases mem_cons.1 he with rfl | he
    -- those after the entry that are granted were granted since it arrived
    · have hafter : ∀ y ∈ l, y.granted = true → y.rank ≤ e.bound := fun y hy hy' =>
        Nat.le_trans (hwithin' y hy hy') ((pairwise_cons.1 hordered).1 y hy hg hy')
      have hpos := hranked.1
      have hle := hranked.2.grantedCount_le hafter (by omega)
      rw [hcons, hg]
      simp only [Bool.false_eq_true, if_false]
      omega
    · have hordered' := (pairwise_cons.1 hordered).2
      by_cases hx : x.granted = true
      · have hle := ih hranked.2 hwithin' hordered' he
        rw [hcons, if_pos hx]
        omega
      · have hle := ih (hranked.2.mono (Nat.le_succ n)) hwithin' hordered' he
        rw [hcons, if_neg hx]
        omega

/-- **Grants are bounded.** An undecided entry whose rank is within the present limit finds
fewer granted entries than its bound, the largest limit since it arrived. -/
theorem Sound.grantedCount_lt_bound (h : Sound l limit) (he : e ∈ l) (hg : e.granted = false)
    (hrank : e.rank ≤ limit) : grantedCount l + 1 ≤ e.bound := by
  have hbound := Nat.le_trans hrank (h.undecided e he hg)
  have hle := grantedCount_lt_bound_from h.ranked h.within h.ordered he hg hbound
  omega

end

end Admission
