import Mathlib.Algebra.BigOperators.Group.List.Basic
import Mathlib.Tactic.Abel

/-!
# Tallies over a list of tasks

Concurrent tasks that each hold some amount of a resource are kept in a list, and a step replaces
one of them. The **tally** of a list adds up what its members hold, in any commutative monoid:
a number of slots, a multiset of names. `tally_set` says how a step changes a tally, and
`balance_set` is the form in which it is used: if one account equals another plus a tally, and a
step changes the two accounts and one task in balance, the equation holds after the step.
-/

namespace Tally

variable {α M : Type*}

/-- The sum of what the members of a list hold. -/
def tally [AddCommMonoid M] (f : α → M) (l : List α) : M := (l.map f).sum

variable {a : α} {l : List α} {i : Nat} (f : α → M)

@[simp] theorem tally_nil [AddCommMonoid M] : tally f [] = 0 := rfl

theorem tally_cons [AddCommMonoid M] (a : α) (l : List α) : tally f (a :: l) = f a + tally f l := by
  simp [tally]

theorem tally_append [AddCommMonoid M] (l l' : List α) :
    tally f (l ++ l') = tally f l + tally f l' := by
  simp [tally]

theorem tally_add [AddCommMonoid M] (g : α → M) (l : List α) :
    tally (fun a => f a + g a) l = tally f l + tally g l := by
  induction l with
  | nil => simp
  | cons a l ih => rw [tally_cons, tally_cons, tally_cons, ih, add_add_add_comm]

theorem tally_set [AddCommMonoid M] (h : l[i]? = some a) (b : α) :
    tally f (l.set i b) + f a = tally f l + f b := by
  induction l generalizing i with
  | nil => simp at h
  | cons c l ih =>
    cases i with
    | zero =>
      obtain rfl : c = a := by simpa using h
      rw [List.set_cons_zero, tally_cons, tally_cons]
      abel
    | succ i =>
      rw [List.set_cons_succ, tally_cons, tally_cons, add_assoc, ih (by simpa using h), add_assoc]

/-- A task that holds nothing may be left out. -/
theorem tally_eraseIdx [AddCommMonoid M] {f : α → M} (h : l[i]? = some a) (hf : f a = 0) :
    tally f (l.eraseIdx i) = tally f l := by
  induction l generalizing i with
  | nil => simp at h
  | cons c l ih =>
    cases i with
    | zero =>
      obtain rfl : c = a := by simpa using h
      rw [List.eraseIdx_cons_zero, tally_cons, hf, zero_add]
    | succ i => rw [List.eraseIdx_cons_succ, tally_cons, tally_cons, ih (by simpa using h)]

/-- What one task holds is part of the tally. -/
theorem exists_tally_eq [AddCommMonoid M] (h : l[i]? = some a) :
    ∃ rest, tally f l = f a + rest := by
  induction l generalizing i with
  | nil => simp at h
  | cons c l ih =>
    cases i with
    | zero =>
      obtain rfl : c = a := by simpa using h
      exact ⟨_, tally_cons f c l⟩
    | succ i =>
      obtain ⟨rest, hrest⟩ := ih (by simpa using h)
      refine ⟨f c + rest, ?_⟩
      rw [tally_cons, hrest, add_left_comm]

theorem le_tally (f : α → Nat) (h : l[i]? = some a) : f a ≤ tally f l := by
  obtain ⟨rest, hrest⟩ := exists_tally_eq f h
  omega

/-- **The balance rule.** An account `x` that equals `y` and a tally keeps doing so, if a step
that takes the accounts to `u` and `v` and task `a` to `b` is in balance. -/
theorem balance_set [AddCancelCommMonoid M] {b : α} (h : l[i]? = some a) {x y u v : M}
    (hxy : x = y + tally f l) (hstep : u + (y + f a) = x + (v + f b)) :
    u = v + tally f (l.set i b) := by
  have hset := tally_set f h b
  refine add_right_cancel (b := y + f a) ?_
  calc u + (y + f a) = y + tally f l + (v + f b) := by rw [hstep, hxy]
    _ = y + v + (tally f l + f b) := by abel
    _ = y + v + (tally f (l.set i b) + f a) := by rw [hset]
    _ = v + tally f (l.set i b) + (y + f a) := by abel

end Tally
