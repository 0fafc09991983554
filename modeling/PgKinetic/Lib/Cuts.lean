import PgKinetic.Lib.Framing

/-!
# The frames at the start of a buffer

`Cutter.Cuts buffer frames rest`: the frames can be cut off the buffer one after the other, and
leave `rest`. If nothing can be cut off what is left (`Cutter.Stuck`), then these are all the frames
of the buffer, and any other cut goes through a first part of them (`Cuts.first_part`).
-/

namespace Framing

namespace Cutter

variable {α β ε : Type*} (C : Cutter α β ε)

/-- The frames can be cut off the buffer, and leave `rest`. -/
inductive Cuts : (buffer : List α) → (frames : List β) → (rest : List α) → Prop where
  | nil (buffer : List α) : Cuts buffer [] buffer
  | cons {buffer behind rest : List α} {frame : β} {frames : List β} :
    C.cut buffer = .ok (some (frame, behind)) → Cuts behind frames rest →
      Cuts buffer (frame :: frames) rest

/-- No frame can be cut off the buffer: it is not complete, or not one. -/
def Stuck (buffer : List α) : Prop := ∀ frame rest, C.cut buffer ≠ .ok (some (frame, rest))

variable {C} {buffer behind rest rest' : List α} {frames later : List β}

theorem stuck_of_incomplete (h : C.cut buffer = .ok none) : C.Stuck buffer := by
  intro frame rest hcut
  cases h.symm.trans hcut

theorem stuck_of_error {e : ε} (h : C.cut buffer = .error e) : C.Stuck buffer := by
  intro frame rest hcut
  cases h.symm.trans hcut

namespace Cuts

section

variable (h : C.Cuts buffer frames rest)
include h

/-- What arrives later stands behind the frames. -/
theorem append (more : List α) : C.Cuts (buffer ++ more) frames (rest ++ more) := by
  induction h with
  | nil buffer => exact nil _
  | cons hcut _ ih => exact cons (C.append_frame more hcut) ih

/-- Cutting frames off does not make the buffer longer. -/
theorem length_le : rest.length ≤ buffer.length := by
  induction h with
  | nil _ => exact Nat.le_refl _
  | cons hcut _ ih => exact Nat.le_trans ih (Nat.le_of_lt (C.shorter hcut))

/-- Cutting a frame off makes the buffer shorter. -/
theorem length_lt (hframes : frames ≠ []) : rest.length < buffer.length := by
  cases h with
  | nil _ => exact absurd rfl hframes
  | cons hcut hbehind => exact Nat.lt_of_le_of_lt hbehind.length_le (C.shorter hcut)

/-- **A cut goes through a first part of the frames** of the buffer. -/
theorem first_part (hstuck : C.Stuck rest)
    (hfirst : C.Cuts buffer later behind) :
    ∃ others, frames = later ++ others ∧ C.Cuts behind others rest := by
  induction hfirst generalizing frames with
  | nil _ => exact ⟨frames, rfl, h⟩
  | cons hcut _ ih =>
    cases h with
    | nil _ => exact absurd hcut (hstuck _ _)
    | cons hcut' hbehind =>
      obtain ⟨rfl, rfl⟩ := Prod.mk.inj (Option.some.inj (Except.ok.inj (hcut.symm.trans hcut')))
      obtain ⟨others, rfl, hothers⟩ := ih hbehind
      exact ⟨others, rfl, hothers⟩

/-- **The frames of a buffer are unique.** -/
theorem unique (hstuck : C.Stuck rest)
    (h' : C.Cuts buffer later rest') (hstuck' : C.Stuck rest') : frames = later ∧ rest = rest' := by
  obtain ⟨others, rfl, hothers⟩ := h.first_part hstuck h'
  cases hothers with
  | nil _ => exact ⟨List.append_nil _, rfl⟩
  | cons hcut _ => exact absurd hcut (hstuck' _ _)

end

end Cuts

end Cutter

end Framing
