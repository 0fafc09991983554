import PgKinetic.Lib.Framing
import PgKinetic.Wire.Frame

/-!
# Backend frames in a stream

`parse_backend_frame` is a cutter: bytes that arrive later change nothing about a frame that is
complete, or about a length that is invalid. So the frames of a stream are those of its parts
(`parseBackendFrames_append`), and what remains of a buffer holds no complete frame.
-/

namespace PgKinetic

open Framing List

/-- `parse_backend_frame` cuts a stream into frames. -/
def backendCutter : Cutter Byte BackendFrame WireError where
  cut := parseBackendFrame
  cut_nil := rfl
  shorter {buffer rest frame} h := by
    unfold parseBackendFrame at h
    split at h
    · dsimp only at h
      split at h
      · cases h
      · split at h
        · cases h
        · obtain ⟨-, rfl⟩ := Prod.mk.inj (Option.some.inj (Except.ok.inj h))
          simp only [List.length_drop, List.length_cons]
          omega
    · cases h
  append_frame {buffer rest frame} more h := by
    unfold parseBackendFrame at h
    split at h
    · dsimp only at h
      split at h
      · cases h
      · rename_i hvalid
        split at h
        · cases h
        · rename_i hcomplete
          obtain ⟨rfl, rfl⟩ := Prod.mk.inj (Option.some.inj (Except.ok.inj h))
          have hlength := Nat.le_of_not_lt hcomplete
          simp only [List.cons_append, parseBackendFrame]
          rw [if_neg hvalid, if_neg (by rw [List.length_append]; omega),
            List.take_append_of_le_length hlength, List.drop_append_of_le_length hlength]
    · cases h
  append_error {buffer e} more h := by
    unfold parseBackendFrame at h
    split at h
    · dsimp only at h
      split at h
      · rename_i hinvalid
        simp only [List.cons_append, parseBackendFrame]
        rw [if_pos hinvalid]
        exact h
      · split at h <;> cases h
    · cases h

theorem backendCutter_cut : backendCutter.cut = parseBackendFrame := rfl

/-- A step that keeps every frame. -/
def keepFrame (frames : List BackendFrame) (frame : BackendFrame) : List BackendFrame ⊕ Empty :=
  .inl (frames ++ [frame])

/-- The frames of a buffer are what a scan keeps that is never done. -/
theorem scan_keepFrame (kept : List BackendFrame) (buffer : List Byte) :
    backendCutter.scan keepFrame kept buffer =
      match parseBackendFrames buffer with
      | .ok (frames, rest) => .waiting (kept ++ frames) rest
      | .error e => .failed e := by
  have hgo : ∀ (n : Nat) (kept : List BackendFrame) (buffer : List Byte),
      backendCutter.scanFrom keepFrame n kept buffer =
        match parseBackendFrames.go n buffer with
        | .ok (frames, rest) => .waiting (kept ++ frames) rest
        | .error e => .failed e := by
    intro n
    induction n with
    | zero =>
      intro kept buffer
      exact congrArg (Scanned.waiting · buffer) (append_nil kept).symm
    | succ n ih =>
      intro kept buffer
      rw [parseBackendFrames.go, Cutter.scanFrom, backendCutter_cut]
      cases parseBackendFrame buffer with
      | error e => rfl
      | ok first =>
        cases first with
        | none => exact congrArg (Scanned.waiting · buffer) (append_nil kept).symm
        | some first =>
          obtain ⟨frame, rest⟩ := first
          dsimp only [keepFrame]
          rw [ih]
          cases parseBackendFrames.go n rest with
          | error e => rfl
          | ok later => exact congrArg (Scanned.waiting · later.2) (append_assoc kept [frame] _)
  exact hgo buffer.length kept buffer

variable {buffer rest : List Byte} {frames : List BackendFrame}

/-- **The frames of a stream are those of its parts.** -/
theorem parseBackendFrames_append (h : parseBackendFrames buffer = .ok (frames, rest))
    (more : List Byte) :
    parseBackendFrames (buffer ++ more) =
      (parseBackendFrames (rest ++ more)).map fun later => (frames ++ later.1, later.2) := by
  have hscan := backendCutter.scan_append keepFrame [] buffer more
  rw [scan_keepFrame, scan_keepFrame, h] at hscan
  dsimp only at hscan
  rw [scan_keepFrame, nil_append] at hscan
  cases hwhole : parseBackendFrames (buffer ++ more) with
  | error e =>
    rw [hwhole] at hscan
    cases hlater : parseBackendFrames (rest ++ more) with
    | error e' =>
      rw [hlater] at hscan
      rw [Scanned.failed.inj hscan]
      rfl
    | ok later =>
      rw [hlater] at hscan
      cases hscan
  | ok whole =>
    rw [hwhole] at hscan
    cases hlater : parseBackendFrames (rest ++ more) with
    | error e' =>
      rw [hlater] at hscan
      cases hscan
    | ok later =>
      rw [hlater] at hscan
      obtain ⟨hframes, hrest⟩ := Scanned.waiting.inj hscan
      exact congrArg Except.ok (Prod.ext hframes hrest)

/-- The frames of a part of a stream, and those of what is left of it. -/
theorem parseBackendFrames_split {more : List Byte}
    (h : parseBackendFrames (buffer ++ more) = .ok (frames, rest)) :
    ∃ first left later, parseBackendFrames buffer = .ok (first, left) ∧
      parseBackendFrames (left ++ more) = .ok (later, rest) ∧ frames = first ++ later := by
  cases hfirst : parseBackendFrames buffer with
  | error e =>
    have hscan := backendCutter.scan_append keepFrame [] buffer more
    rw [scan_keepFrame, scan_keepFrame, h, hfirst] at hscan
    cases hscan
  | ok parsed =>
    obtain ⟨first, left⟩ := parsed
    rw [parseBackendFrames_append hfirst] at h
    cases hlater : parseBackendFrames (left ++ more) with
    | error e =>
      rw [hlater] at h
      cases h
    | ok parsed =>
      rw [hlater] at h
      cases h
      exact ⟨first, left, parsed.1, rfl, hlater, rfl⟩

variable {frame : BackendFrame}

/-- The first frame of a buffer, and the frames of what is behind it. -/
theorem parseBackendFrames_cons (h : parseBackendFrames buffer = .ok (frame :: frames, rest)) :
    ∃ behind, parseBackendFrame buffer = .ok (some (frame, behind)) ∧
      parseBackendFrames behind = .ok (frames, rest) := by
  have hscan := scan_keepFrame [] buffer
  rw [h, Cutter.scan_eq, backendCutter_cut] at hscan
  cases hcut : parseBackendFrame buffer with
  | error e =>
    rw [hcut] at hscan
    cases hscan
  | ok first =>
    rw [hcut] at hscan
    cases first with
    | none =>
      obtain ⟨hnone, -⟩ := Scanned.waiting.inj hscan
      cases hnone
    | some first =>
      obtain ⟨frame', behind⟩ := first
      dsimp only [keepFrame] at hscan
      rw [scan_keepFrame] at hscan
      cases hlater : parseBackendFrames behind with
      | error e =>
        rw [hlater] at hscan
        cases hscan
      | ok later =>
        rw [hlater] at hscan
        obtain ⟨hframes, hrest⟩ := Scanned.waiting.inj hscan
        obtain ⟨rfl, hlast⟩ := cons.inj hframes
        exact ⟨behind, rfl, hlater.trans (congrArg Except.ok (Prod.ext hlast hrest))⟩

/-- A buffer without a complete frame is what remains of it. -/
theorem eq_of_parse_nil (h : parseBackendFrames buffer = .ok ([], rest)) : rest = buffer := by
  have hscan := scan_keepFrame [] buffer
  rw [h, Cutter.scan_eq, backendCutter_cut] at hscan
  cases hcut : parseBackendFrame buffer with
  | error e =>
    rw [hcut] at hscan
    cases hscan
  | ok first =>
    rw [hcut] at hscan
    cases first with
    | none => exact (Scanned.waiting.inj hscan).2.symm
    | some first =>
      dsimp only [keepFrame] at hscan
      rw [scan_keepFrame] at hscan
      split at hscan
      · obtain ⟨hframes, -⟩ := Scanned.waiting.inj hscan
        cases hframes
      · cases hscan

/-- A buffer that starts with no complete frame holds none. -/
theorem parseBackendFrames_of_cut_none (h : parseBackendFrame buffer = .ok none) :
    parseBackendFrames buffer = .ok ([], buffer) := by
  unfold parseBackendFrames
  cases buffer.length with
  | zero => rfl
  | succ n => rw [parseBackendFrames.go, h]

/-- The frames of a buffer are its first and those behind it. -/
theorem parseBackendFrames_of_cut {behind : List Byte}
    (hcut : parseBackendFrame buffer = .ok (some (frame, behind)))
    (h : parseBackendFrames behind = .ok (frames, rest)) :
    parseBackendFrames buffer = .ok (frame :: frames, rest) := by
  have hscan := scan_keepFrame [] buffer
  rw [Cutter.scan_eq, backendCutter_cut, hcut] at hscan
  dsimp only [keepFrame] at hscan
  rw [scan_keepFrame, h] at hscan
  cases hparse : parseBackendFrames buffer with
  | error e =>
    rw [hparse] at hscan
    cases hscan
  | ok parsed =>
    rw [hparse] at hscan
    obtain ⟨hframes, hrest⟩ := Scanned.waiting.inj hscan
    exact congrArg Except.ok (Prod.ext hframes.symm hrest.symm)

/-- What remains of a buffer holds no complete frame. -/
theorem parseBackendFrames_rest (h : parseBackendFrames buffer = .ok (frames, rest)) :
    parseBackendFrames rest = .ok ([], rest) := by
  have hscan := scan_keepFrame [] buffer
  rw [h] at hscan
  exact parseBackendFrames_of_cut_none (backendCutter.cut_of_waiting keepFrame hscan)

/-! ### The bytes of the frames -/

/-- A length that is valid and not greater than what follows it makes a frame. -/
theorem parseBackendFrame_of_valid {tag b₀ b₁ b₂ b₃ : Byte} {payload : List Byte} {n : Nat}
    (hvalid : ¬i32FromBytes b₀ b₁ b₂ b₃ < 4) (hn : (i32FromBytes b₀ b₁ b₂ b₃ - 4).toNat = n)
    (hcomplete : n ≤ payload.length) :
    parseBackendFrame (tag :: b₀ :: b₁ :: b₂ :: b₃ :: payload) =
      .ok (some (⟨tag, payload.take n⟩, payload.drop n)) := by
  simp only [parseBackendFrame]
  rw [if_neg hvalid, hn, if_neg hcomplete.not_gt]

/-- The bytes of the first frame are a frame of their own. -/
theorem exists_of_cut (h : parseBackendFrame buffer = .ok (some (frame, rest))) :
    ∃ bytes, buffer = bytes ++ rest ∧ parseBackendFrame bytes = .ok (some (frame, [])) := by
  unfold parseBackendFrame at h
  split at h
  · rename_i tag b₀ b₁ b₂ b₃ payload
    dsimp only at h
    split at h
    · cases h
    · rename_i hvalid
      obtain ⟨n, hn⟩ : ∃ n, (i32FromBytes b₀ b₁ b₂ b₃ - 4).toNat = n := ⟨_, rfl⟩
      rw [hn] at h
      split at h
      · cases h
      · rename_i hcomplete
        obtain ⟨rfl, rfl⟩ := Prod.mk.inj (Option.some.inj (Except.ok.inj h))
        have hlength := length_take_of_le (Nat.le_of_not_lt hcomplete)
        refine ⟨tag :: b₀ :: b₁ :: b₂ :: b₃ :: payload.take n, ?_, ?_⟩
        · simp only [cons_append, take_append_drop]
        · rw [parseBackendFrame_of_valid hvalid hn hlength.ge, take_of_length_le hlength.le,
            drop_eq_nil_of_le hlength.le]
  · cases h
/-- The bytes of the frames of a buffer are whole frames. -/
theorem exists_of_parseBackendFrames (h : parseBackendFrames buffer = .ok (frames, rest)) :
    ∃ bytes, buffer = bytes ++ rest ∧ parseBackendFrames bytes = .ok (frames, []) := by
  induction frames generalizing buffer with
  | nil => exact ⟨[], (eq_of_parse_nil h).symm, rfl⟩
  | cons frame frames ih =>
    obtain ⟨behind, hcut, hbehind⟩ := parseBackendFrames_cons h
    obtain ⟨first, rfl, hfirst⟩ := exists_of_cut hcut
    obtain ⟨later, rfl, hlater⟩ := ih hbehind
    refine ⟨first ++ later, (append_assoc _ _ _).symm, ?_⟩
    have hone : parseBackendFrames first = .ok ([frame], []) := parseBackendFrames_of_cut hfirst rfl
    rw [parseBackendFrames_append hone, nil_append, hlater]
    rfl

/-! ### Scans of whole frames -/

section Scan

variable {σ ρ : Type*} (step : σ → BackendFrame → σ ⊕ ρ)

variable {acc : σ}

/-- A scan goes through the frames of a buffer and waits with what remains of it. -/
theorem scan_of_foldUntil_inl {acc' : σ} (h : parseBackendFrames buffer = .ok (frames, rest))
    (hframes : foldUntil step acc frames = .inl acc') :
    backendCutter.scan step acc buffer = .waiting acc' rest := by
  induction frames generalizing acc buffer with
  | nil =>
    obtain rfl := eq_of_parse_nil h
    obtain rfl := Sum.inl.inj hframes
    have hcut : parseBackendFrame rest = .ok none :=
      backendCutter.cut_of_waiting keepFrame ((scan_keepFrame [] rest).trans (by rw [h]))
    rw [Cutter.scan_eq, backendCutter_cut, hcut]
  | cons frame frames ih =>
    obtain ⟨behind, hcut, hlater⟩ := parseBackendFrames_cons h
    rw [Cutter.scan_eq, backendCutter_cut, hcut]
    rw [foldUntil] at hframes
    cases hstep : step acc frame with
    | inl acc₁ =>
      rw [hstep] at hframes
      dsimp only
      rw [hstep]
      exact ih hlater hframes
    | inr result =>
      rw [hstep] at hframes
      cases hframes

/-- **A scan that waits** has gone through the frames of the buffer. -/
theorem foldUntil_of_scan_waiting {acc' : σ}
    (h : backendCutter.scan step acc buffer = .waiting acc' rest) :
    ∃ frames, parseBackendFrames buffer = .ok (frames, rest) ∧
      foldUntil step acc frames = .inl acc' := by
  induction hn : buffer.length using Nat.strongRecOn generalizing acc buffer with
  | ind n ih =>
    rw [Cutter.scan_eq, backendCutter_cut] at h
    split at h
    · cases h
    · rename_i hcut
      obtain ⟨rfl, rfl⟩ := Scanned.waiting.inj h
      exact ⟨[], parseBackendFrames_of_cut_none hcut, rfl⟩
    · rename_i frame behind hcut
      split at h
      · rename_i acc₁ hstep
        obtain ⟨frames, hparse, hframes⟩ := ih behind.length (hn ▸ backendCutter.shorter hcut) h rfl
        refine ⟨frame :: frames, parseBackendFrames_of_cut hcut hparse, ?_⟩
        rw [foldUntil, hstep]
        exact hframes
      · cases h

/-- A scan that ends on a frame of the buffer leaves the frames behind it. -/
theorem scan_of_foldUntil_inr {result : ρ} {later : List BackendFrame}
    (h : parseBackendFrames buffer = .ok (frames, rest))
    (hframes : foldUntil step acc frames = .inr (result, later)) :
    ∃ behind, backendCutter.scan step acc buffer = .done result behind ∧
      parseBackendFrames behind = .ok (later, rest) := by
  induction frames generalizing acc buffer with
  | nil => cases hframes
  | cons frame frames ih =>
    obtain ⟨behind, hcut, hlater⟩ := parseBackendFrames_cons h
    rw [Cutter.scan_eq, backendCutter_cut, hcut]
    rw [foldUntil] at hframes
    cases hstep : step acc frame with
    | inl acc₁ =>
      rw [hstep] at hframes
      dsimp only
      rw [hstep]
      exact ih hlater hframes
    | inr result' =>
      rw [hstep] at hframes
      obtain ⟨rfl, rfl⟩ := Prod.mk.inj (Sum.inr.inj hframes)
      dsimp only
      rw [hstep]
      exact ⟨behind, rfl, hlater⟩

end Scan

end PgKinetic
