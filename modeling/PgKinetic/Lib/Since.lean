import Mathlib.Data.List.Basic

/-!
# What has held since

A history is a list of inputs, the latest at the end. `Since start stop` says of a history that
one of its inputs was a start and that none after it was a stop, where what counts as either may
depend on the inputs before it. It is the *since* of past-time temporal logic, and is determined
by how it changes as the history grows (`since_nil`, `since_concat`).
-/

namespace History

open List

variable {ι : Type*} {start stop : List ι → ι → Prop}

/-- One of the inputs was a start, and none after it a stop. -/
def Since (start stop : List ι → ι → Prop) (inputs : List ι) : Prop :=
  ∃ before input after, inputs = before ++ input :: after ∧ start before input ∧
    ∀ between next rest, after = between ++ next :: rest →
      ¬ stop (before ++ input :: between) next

theorem since_nil : ¬ Since start stop [] := by
  rintro ⟨before, input, after, heq, -⟩
  exact append_ne_nil_of_right_ne_nil before (cons_ne_nil input after) heq.symm

/-- **One more input** is a start itself, or it is no stop and there was a start before. -/
theorem since_concat {inputs : List ι} {last : ι} :
    Since start stop (inputs ++ [last]) ↔
      start inputs last ∨ Since start stop inputs ∧ ¬ stop inputs last := by
  constructor
  · rintro ⟨before, input, after, heq, hstart, hstop⟩
    rcases eq_nil_or_concat' after with rfl | ⟨after, last', rfl⟩
    · obtain ⟨rfl, hlast⟩ := append_inj' heq rfl
      obtain rfl := head_eq_of_cons_eq hlast
      exact .inl hstart
    · rw [← cons_append, ← append_assoc] at heq
      obtain ⟨rfl, hlast⟩ := append_inj' heq rfl
      obtain rfl := head_eq_of_cons_eq hlast
      refine .inr ⟨⟨before, input, after, rfl, hstart, fun between next rest hafter => ?_⟩, ?_⟩
      · refine hstop between next (rest ++ [last]) ?_
        rw [hafter, append_assoc, cons_append]
      · exact hstop after last [] rfl
  · rintro (hstart | ⟨⟨before, input, after, rfl, hstart, hstop⟩, hlast⟩)
    · exact ⟨inputs, last, [], rfl, hstart, fun between next rest h => absurd h (by simp)⟩
    · refine ⟨before, input, after ++ [last], by simp, hstart, fun between next rest heq => ?_⟩
      rcases eq_nil_or_concat' rest with rfl | ⟨rest, last', rfl⟩
      · obtain ⟨rfl, hnext⟩ := append_inj' heq rfl
        obtain rfl := head_eq_of_cons_eq hnext
        exact hlast
      · rw [← cons_append, ← append_assoc] at heq
        exact hstop between next rest (append_inj' heq rfl).1

end History
