import PgKinetic.Lib.Cuts
import PgKinetic.Wire.Stream

/-!
# Frontend frames

`parse_frontend_frame` cuts the frames of a client off a buffer. They are laid out as backend frames
are, so what later bytes can change is the same for both (`frontendCutter`).
-/

namespace PgKinetic

open Framing

/-- `FrontendFrame`. -/
structure FrontendFrame where
  tag : Byte
  payload : List Byte
  deriving DecidableEq, Repr

/-- `parse_frontend_frame`: the first frame of the buffer and the bytes after it. The error is
`InvalidFrameLength`. -/
def parseFrontendFrame : List Byte → Except Int (Option (FrontendFrame × List Byte))
  | tag :: b₀ :: b₁ :: b₂ :: b₃ :: rest =>
    let length := i32FromBytes b₀ b₁ b₂ b₃
    if length < 4 then .error length
    else
      let payloadLen := (length - 4).toNat
      if rest.length < payloadLen then .ok none
      else .ok (some (⟨tag, rest.take payloadLen⟩, rest.drop payloadLen))
  | _ => .ok none

/-- The frame, laid out as one of a backend. -/
def FrontendFrame.toBackend (frame : FrontendFrame) : BackendFrame := ⟨frame.tag, frame.payload⟩

variable {buffer rest : List Byte}

/-- Frontend frames are cut off as backend frames are. -/
theorem parseFrontendFrame_some_iff {frame : FrontendFrame} :
    parseFrontendFrame buffer = .ok (some (frame, rest)) ↔
      parseBackendFrame buffer = .ok (some (frame.toBackend, rest)) := by
  obtain ⟨tag, payload⟩ := frame
  unfold parseFrontendFrame parseBackendFrame
  split
  · dsimp only [FrontendFrame.toBackend]
    split
    · simp only [reduceCtorEq]
    · split
      · simp only [Except.ok.injEq, reduceCtorEq]
      · simp only [Except.ok.injEq, Option.some.injEq, Prod.mk.injEq, FrontendFrame.mk.injEq,
          BackendFrame.mk.injEq]
  · simp only [Except.ok.injEq, reduceCtorEq]

/-- Frontend frames are refused as backend frames are. -/
theorem parseFrontendFrame_error_iff {length : Int} :
    parseFrontendFrame buffer = .error length ↔
      parseBackendFrame buffer = .error (.invalidBackendFrameLength length) := by
  unfold parseFrontendFrame parseBackendFrame
  split
  · dsimp only
    split
    · simp only [Except.error.injEq, WireError.invalidBackendFrameLength.injEq]
    · split <;> simp only [reduceCtorEq]
  · simp only [reduceCtorEq]

/-- A length below four is refused. -/
theorem parseFrontendFrame_of_invalid {tag b₀ b₁ b₂ b₃ : Byte} (h : i32FromBytes b₀ b₁ b₂ b₃ < 4) :
    parseFrontendFrame (tag :: b₀ :: b₁ :: b₂ :: b₃ :: rest) =
      .error (i32FromBytes b₀ b₁ b₂ b₃) := by
  simp only [parseFrontendFrame]
  rw [if_pos h]

/-- `parse_frontend_frame` cuts a stream into frames. -/
def frontendCutter : Cutter Byte FrontendFrame Int where
  cut := parseFrontendFrame
  cut_nil := rfl
  shorter h := backendCutter.shorter (parseFrontendFrame_some_iff.1 h)
  append_frame more h :=
    parseFrontendFrame_some_iff.2
      (backendCutter.append_frame more (parseFrontendFrame_some_iff.1 h))
  append_error more h :=
    parseFrontendFrame_error_iff.2
      (backendCutter.append_error more (parseFrontendFrame_error_iff.1 h))

/-- The bytes of frames that are cut off are these frames and nothing else. -/
theorem exists_of_cuts {frames : List FrontendFrame} (h : frontendCutter.Cuts buffer frames rest) :
    ∃ bytes, buffer = bytes ++ rest ∧ frontendCutter.Cuts bytes frames [] := by
  induction h with
  | nil buffer => exact ⟨[], rfl, .nil []⟩
  | cons hcut _ ih =>
    obtain ⟨first, rfl, hfirst⟩ := exists_of_cut (parseFrontendFrame_some_iff.1 hcut)
    obtain ⟨later, rfl, hlater⟩ := ih
    refine ⟨first ++ later, (List.append_assoc _ _ _).symm, ?_⟩
    have hcut := frontendCutter.append_frame later (parseFrontendFrame_some_iff.2 hfirst)
    exact .cons hcut hlater

end PgKinetic
