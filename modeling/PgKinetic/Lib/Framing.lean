import Mathlib.Data.List.Basic

/-!
# Frames cut from a stream

A **cutter** takes the first frame off a buffer, asks for more, or refuses. What makes it usable on
a stream that arrives in pieces is that later bytes change none of its answers: a frame that is
complete stays the same frame, and an error stays an error.

A **scan** feeds the complete frames of a buffer to a step function, one after the other, until the
step function is done. `scan_append`: where a buffer is divided makes no difference to the scan,
except that what stands behind the last frame it has looked at is left alone.
-/

namespace Framing

open List

/-! ### Loops that stop -/

section FoldUntil

variable {β σ ρ : Type*} (step : σ → β → σ ⊕ ρ)

/-- A loop over a list that stops when the step has a result: where it stands at the end of the
list, or the result with what it has not looked at. -/
def foldUntil : σ → List β → σ ⊕ (ρ × List β)
  | acc, [] => .inl acc
  | acc, x :: xs =>
    match step acc x with
    | .inl acc => foldUntil acc xs
    | .inr result => .inr (result, xs)

theorem foldUntil_append (acc : σ) (xs ys : List β) :
    foldUntil step acc (xs ++ ys) =
      match foldUntil step acc xs with
      | .inl acc => foldUntil step acc ys
      | .inr (result, rest) => .inr (result, rest ++ ys) := by
  induction xs generalizing acc with
  | nil => rfl
  | cons x xs ih =>
    rw [cons_append, foldUntil, foldUntil]
    cases step acc x with
    | inl acc => exact ih acc
    | inr result => rfl

variable {acc : σ} {xs rest : List β} {result : ρ}

/-- A loop that goes through a list goes through each first part of it. -/
theorem foldUntil_inl_of_append {acc' : σ} {ys : List β}
    (h : foldUntil step acc (xs ++ ys) = .inl acc') :
    ∃ acc₁, foldUntil step acc xs = .inl acc₁ ∧ foldUntil step acc₁ ys = .inl acc' := by
  rw [foldUntil_append] at h
  cases hfirst : foldUntil step acc xs with
  | inl acc₁ =>
    rw [hfirst] at h
    exact ⟨acc₁, rfl, h⟩
  | inr result =>
    rw [hfirst] at h
    cases h

/-- A loop that stops has looked at a first part of the list, and at the last of it just now. -/
theorem foldUntil_eq_inr (h : foldUntil step acc xs = .inr (result, rest)) :
    ∃ before x acc', xs = before ++ x :: rest ∧ foldUntil step acc before = .inl acc' ∧
      step acc' x = .inr result := by
  induction xs generalizing acc with
  | nil => cases h
  | cons x xs ih =>
    rw [foldUntil] at h
    cases hstep : step acc x with
    | inl acc₁ =>
      rw [hstep] at h
      obtain ⟨before, y, acc', rfl, hbefore, hlast⟩ := ih h
      refine ⟨x :: before, y, acc', rfl, ?_, hlast⟩
      rw [foldUntil, hstep]
      exact hbefore
    | inr result' =>
      rw [hstep] at h
      obtain ⟨rfl, rfl⟩ := Prod.mk.inj (Sum.inr.inj h)
      exact ⟨[], x, acc, rfl, rfl, hstep⟩

/-- A loop keeps what its steps keep. -/
theorem foldUntil_invariant {I : σ → Prop} {acc' : σ}
    (hI : ∀ acc x acc', I acc → step acc x = .inl acc' → I acc') (hacc : I acc)
    (h : foldUntil step acc xs = .inl acc') : I acc' := by
  induction xs generalizing acc with
  | nil =>
    obtain rfl := Sum.inl.inj h
    exact hacc
  | cons x xs ih =>
    rw [foldUntil] at h
    cases hstep : step acc x with
    | inl acc₁ =>
      rw [hstep] at h
      exact ih (hI _ _ _ hacc hstep) h
    | inr result =>
      rw [hstep] at h
      cases h

/-- **A loop stops with nothing left exactly if it has not stopped before the last one.** -/
theorem foldUntil_rest_eq_nil_iff (h : foldUntil step acc xs = .inr (result, rest)) :
    rest = [] ↔ ∃ acc', foldUntil step acc xs.dropLast = .inl acc' := by
  obtain ⟨before, x, acc', rfl, hbefore, hlast⟩ := foldUntil_eq_inr step h
  refine ⟨fun hrest => ⟨acc', ?_⟩, fun ⟨acc'', hwaits⟩ => ?_⟩
  · rw [hrest, dropLast_concat]
    exact hbefore
  · by_contra hrest
    rw [dropLast_append_of_ne_nil (cons_ne_nil _ _),
      dropLast_cons_of_ne_nil hrest, foldUntil_append, hbefore] at hwaits
    dsimp only at hwaits
    rw [foldUntil, hlast] at hwaits
    cases hwaits

/-- **What stops a loop, said of the list.** If whether the step stops can be told from the elements
before, then a loop goes through a list exactly if no element of it stops. -/
theorem foldUntil_inl_iff_forall {After : List β → σ → Prop} {Stops : List β → β → Prop}
    (hstep : ∀ seen acc x, After seen acc →
      (Stops seen x ∧ ∃ result, step acc x = .inr result) ∨
      (¬ Stops seen x ∧ ∃ acc', step acc x = .inl acc' ∧ After (seen ++ [x]) acc')) {seen : List β}
    (hacc : After seen acc) :
    (∃ acc', foldUntil step acc xs = .inl acc') ↔
      ∀ before x after, xs = before ++ x :: after → ¬ Stops (seen ++ before) x := by
  induction xs generalizing seen acc with
  | nil =>
    refine ⟨fun _ before x after h => ?_, fun _ => ⟨acc, rfl⟩⟩
    cases append_ne_nil_of_right_ne_nil before (cons_ne_nil x after) h.symm
  | cons y xs ih =>
    rw [foldUntil]
    rcases hstep seen acc y hacc with ⟨hstops, result, hresult⟩ | ⟨hgoes, acc₁, hacc₁, hafter⟩
    · rw [hresult]
      refine ⟨fun ⟨_, h⟩ => (by cases h), fun h => ?_⟩
      exact absurd (by rw [append_nil]; exact hstops) (h [] y xs rfl)
    · rw [hacc₁]
      refine (ih hafter).trans ⟨fun h before x after hxs => ?_, fun h before x after hxs => ?_⟩
      · rcases cons_eq_append_iff.1 hxs with ⟨rfl, hhead⟩ | ⟨before', rfl, hxs'⟩
        · obtain ⟨rfl, -⟩ := cons.inj hhead
          rw [append_nil]
          exact hgoes
        · have hnot := h before' x after hxs'
          rwa [append_assoc, singleton_append] at hnot
      · rw [append_assoc, singleton_append]
        exact h (y :: before) x after (by rw [hxs, cons_append])

end FoldUntil

/-! ### Cutters and scans -/

/-- How a stream is cut into frames. -/
structure Cutter (α β ε : Type*) where
  /-- The first frame of the buffer and what is behind it, if the frame is complete. -/
  cut : List α → Except ε (Option (β × List α))
  cut_nil : cut [] = .ok none
  shorter {buffer rest : List α} {frame : β} :
    cut buffer = .ok (some (frame, rest)) → rest.length < buffer.length
  append_frame {buffer rest : List α} {frame : β} (more : List α) :
    cut buffer = .ok (some (frame, rest)) →
      cut (buffer ++ more) = .ok (some (frame, rest ++ more))
  append_error {buffer : List α} {e : ε} (more : List α) :
    cut buffer = .error e → cut (buffer ++ more) = .error e

/-- How a scan ends: it waits for more, it is done, or the stream is no stream of frames. -/
inductive Scanned (α σ ρ ε : Type*) where
  | waiting (acc : σ) (rest : List α)
  | done (result : ρ) (rest : List α)
  | failed (error : ε)

/-- Whether the scan is done. -/
def Scanned.isDone {α σ ρ ε : Type*} : Scanned α σ ρ ε → Bool
  | .done .. => true
  | _ => false

namespace Cutter

variable {α β ε σ ρ : Type*} (C : Cutter α β ε) (step : σ → β → σ ⊕ ρ)

/-- A scan of at most that many frames. -/
def scanFrom : Nat → σ → List α → Scanned α σ ρ ε
  | 0, acc, buffer => .waiting acc buffer
  | n + 1, acc, buffer =>
    match C.cut buffer with
    | .error e => .failed e
    | .ok none => .waiting acc buffer
    | .ok (some (frame, rest)) =>
      match step acc frame with
      | .inl acc => scanFrom n acc rest
      | .inr result => .done result rest

/-- The scan of a buffer: every frame shortens it, so its length bounds their number. -/
def scan (acc : σ) (buffer : List α) : Scanned α σ ρ ε := C.scanFrom step buffer.length acc buffer

theorem scanFrom_nil (n : Nat) (acc : σ) : C.scanFrom step n acc [] = .waiting acc [] := by
  cases n with
  | zero => rfl
  | succ n => rw [scanFrom, C.cut_nil]

variable {acc : σ} {buffer rest : List α} {result : ρ}

/-- A bound that is high enough does not matter. -/
theorem scanFrom_congr {n m : Nat} (hn : buffer.length ≤ n) (hm : buffer.length ≤ m) :
    C.scanFrom step n acc buffer = C.scanFrom step m acc buffer := by
  induction n generalizing m acc buffer with
  | zero =>
    obtain rfl : buffer = [] := eq_nil_of_length_eq_zero (by omega)
    rw [scanFrom_nil, scanFrom_nil]
  | succ n ih =>
    cases m with
    | zero =>
      obtain rfl : buffer = [] := eq_nil_of_length_eq_zero (by omega)
      rw [scanFrom_nil, scanFrom_nil]
    | succ m =>
      rw [scanFrom, scanFrom]
      split
      · rfl
      · rfl
      · rename_i frame rest hcut
        have hshorter := C.shorter hcut
        split
        · exact ih (by omega) (by omega)
        · rfl

/-- **The scan, frame by frame.** -/
theorem scan_eq (acc : σ) (buffer : List α) :
    C.scan step acc buffer =
      match C.cut buffer with
      | .error e => .failed e
      | .ok none => .waiting acc buffer
      | .ok (some (frame, rest)) =>
        match step acc frame with
        | .inl acc => C.scan step acc rest
        | .inr result => .done result rest := by
  have hbound : C.scan step acc buffer = C.scanFrom step (buffer.length + 1) acc buffer :=
    C.scanFrom_congr step (Nat.le_refl _) (Nat.le_succ _)
  rw [hbound, scanFrom]
  split
  · rfl
  · rfl
  · rename_i frame rest hcut
    split
    · exact C.scanFrom_congr step (Nat.le_of_lt (C.shorter hcut)) (Nat.le_refl _)
    · rfl

/-- **Where a buffer is divided makes no difference to the scan.** -/
theorem scan_append (acc : σ) (buffer more : List α) :
    C.scan step acc (buffer ++ more) =
      match C.scan step acc buffer with
      | .waiting acc rest => C.scan step acc (rest ++ more)
      | .done result rest => .done result (rest ++ more)
      | .failed e => .failed e := by
  induction hn : buffer.length using Nat.strongRecOn generalizing acc buffer with
  | ind n ih =>
    cases hcut : C.cut buffer with
    | error e => rw [scan_eq, C.append_error more hcut, scan_eq, hcut]
    | ok first =>
      cases first with
      | none => rw [C.scan_eq step acc buffer, hcut]
      | some first =>
        obtain ⟨frame, rest⟩ := first
        rw [scan_eq, C.append_frame more hcut, C.scan_eq step acc buffer, hcut]
        dsimp only
        cases step acc frame with
        | inl acc => exact ih rest.length (hn ▸ C.shorter hcut) acc rest rfl
        | inr result => rfl

/-- **A scan in two reads.** If the scan of a stream ends, then a first part of the stream either
leaves a scan that ends the same way with what comes later, or ends it already, and then what is
behind the end is what it has left and what comes later. -/
theorem scan_split {more behind : List α}
    (h : C.scan step acc (buffer ++ more) = .done result behind) :
    (∃ acc' rest, C.scan step acc buffer = .waiting acc' rest ∧
      C.scan step acc' (rest ++ more) = .done result behind) ∨
    ∃ rest, C.scan step acc buffer = .done result rest ∧ behind = rest ++ more := by
  rw [scan_append] at h
  cases hfirst : C.scan step acc buffer with
  | waiting acc' rest =>
    rw [hfirst] at h
    exact .inl ⟨acc', rest, rfl, h⟩
  | done result' rest =>
    rw [hfirst] at h
    obtain ⟨rfl, rfl⟩ := Scanned.done.inj h
    exact .inr ⟨rest, rfl, rfl⟩
  | failed e =>
    rw [hfirst] at h
    cases h

section

variable {I : σ → Prop} (hI : ∀ acc frame acc', I acc → step acc frame = .inl acc' → I acc')
include hI

/-- A scan that is done has the result of one of its steps, and keeps up to it what the steps
keep. -/
theorem exists_of_scan_done (hacc : I acc) (h : C.scan step acc buffer = .done result rest) :
    ∃ acc' frame, I acc' ∧ step acc' frame = .inr result := by
  induction hn : buffer.length using Nat.strongRecOn generalizing acc buffer with
  | ind n ih =>
    rw [scan_eq] at h
    split at h
    · cases h
    · cases h
    · rename_i frame behind hcut
      split at h
      · rename_i acc₁ hstep
        exact ih behind.length (hn ▸ C.shorter hcut) (hI _ _ _ hacc hstep) h rfl
      · rename_i hstep
        obtain ⟨rfl, -⟩ := Scanned.done.inj h
        exact ⟨acc, frame, hacc, hstep⟩

/-- A scan that waits has kept what its steps keep. -/
theorem invariant_of_waiting {acc' : σ} (hacc : I acc)
    (h : C.scan step acc buffer = .waiting acc' rest) : I acc' := by
  induction hn : buffer.length using Nat.strongRecOn generalizing acc buffer with
  | ind n ih =>
    rw [scan_eq] at h
    split at h
    · cases h
    · obtain ⟨rfl, -⟩ := Scanned.waiting.inj h
      exact hacc
    · rename_i frame behind hcut
      split at h
      · rename_i acc₁ hstep
        exact ih behind.length (hn ▸ C.shorter hcut) (hI _ _ _ hacc hstep) h rfl
      · cases h

end

/-- What a scan waits with holds no complete frame. -/
theorem cut_of_waiting {acc' : σ} (h : C.scan step acc buffer = .waiting acc' rest) :
    C.cut rest = .ok none := by
  induction hn : buffer.length using Nat.strongRecOn generalizing acc buffer with
  | ind n ih =>
    rw [scan_eq] at h
    split at h
    · cases h
    · rename_i hcut
      obtain ⟨-, rfl⟩ := Scanned.waiting.inj h
      exact hcut
    · rename_i frame rest' hcut
      split at h
      · exact ih rest'.length (hn ▸ C.shorter hcut) h rfl
      · cases h

end Cutter

end Framing
