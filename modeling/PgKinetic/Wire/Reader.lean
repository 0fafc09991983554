import PgKinetic.Wire.Stream

/-!
# Reading frames within a budget

The loops of the proxy that wait for a backend have one shape: read, check the buffer against its
limit, hand the complete frames to the body of the loop, check what remains before the next read.
`readTurn` is one turn of such a loop. It depends on the division into reads only through the limit:
a loop goes through reads exactly if they are `Within` the limit and its body goes through the
frames of the stream (`foldUntil_readTurn_iff`).
-/

namespace PgKinetic

open Framing List

/-- Whether a buffer is over its limit, if there is one. -/
def overLimit : Option Nat → List Byte → Bool
  | none, _ => false
  | some max, buffer => max < buffer.length

/-- Whether a buffer has no room for another read. -/
def atLimit : Option Nat → List Byte → Bool
  | none, _ => false
  | some max, buffer => max ≤ buffer.length

/-- The variables of a loop: those of its body, and the buffer. -/
structure Reading (σ : Type*) where
  acc : σ
  buffer : List Byte := []
  deriving DecidableEq

/-- How a loop ends: at the limit, on bytes that are no frames, or as its body says. -/
inductive ReadEnd (ρ : Type*) where
  | limit
  | wire (error : WireError)
  | done (result : ρ)

section Loop

variable {σ ρ : Type*} (limit : Option Nat) (step : σ → BackendFrame → σ ⊕ ρ)

/-- One turn, with the check before the next read. -/
def readTurn (s : Reading σ) (bytes : List Byte) : Reading σ ⊕ ReadEnd ρ :=
  let buffer := s.buffer ++ bytes
  if overLimit limit buffer then .inr .limit
  else
    match backendCutter.scan step s.acc buffer with
    | .failed e => .inr (.wire e)
    | .waiting acc rest => if atLimit limit rest then .inr .limit else .inl ⟨acc, rest⟩
    | .done result _ => .inr (.done result)

/-- The reads keep within the limit, and so does the incomplete frame between two of them. -/
def Within : List Byte → List (List Byte) → Prop
  | _, [] => True
  | buffer, chunk :: chunks =>
    overLimit limit (buffer ++ chunk) = false ∧
      ∀ frames rest, parseBackendFrames (buffer ++ chunk) = .ok (frames, rest) →
        atLimit limit rest = false ∧ Within rest chunks

/-- Without a limit all reads are within it. -/
theorem within_none (buffer : List Byte) (chunks : List (List Byte)) :
    Within none buffer chunks := by
  induction chunks generalizing buffer with
  | nil => trivial
  | cons chunk chunks ih => exact ⟨rfl, fun _ rest _ => ⟨rfl, ih rest⟩⟩

/-- One read of whole frames within the limit. -/
theorem within_singleton {bytes : List Byte} {frames : List BackendFrame}
    (hparse : parseBackendFrames bytes = .ok (frames, [])) (hover : overLimit limit bytes = false)
    (hat : atLimit limit [] = false) : Within limit [] [bytes] := by
  refine ⟨hover, fun frames' rest hrest => ?_⟩
  obtain ⟨-, rfl⟩ := Prod.mk.inj (Except.ok.inj (hparse.symm.trans hrest))
  exact ⟨hat, trivial⟩

variable {limit step} {s s' : Reading σ} {bytes : List Byte} {chunks : List (List Byte)}

/-- A turn that goes on. -/
theorem readTurn_eq_inl_iff :
    readTurn limit step s bytes = .inl s' ↔
      overLimit limit (s.buffer ++ bytes) = false ∧
        backendCutter.scan step s.acc (s.buffer ++ bytes) = .waiting s'.acc s'.buffer ∧
        atLimit limit s'.buffer = false := by
  rw [readTurn]
  constructor
  · intro h
    split at h
    · cases h
    · rename_i hover
      split at h
      · cases h
      · rename_i hscan
        split at h
        · cases h
        · rename_i hat
          obtain rfl := Sum.inl.inj h
          exact ⟨Bool.of_not_eq_true hover, hscan, Bool.of_not_eq_true hat⟩
      · cases h
  · rintro ⟨hover, hscan, hat⟩
    rw [hover, hscan]
    dsimp only
    rw [hat]
    rfl

/-- A turn that ends as the body says. -/
theorem scan_of_readTurn_done {result : ρ}
    (h : readTurn limit step s bytes = .inr (.done result)) :
    ∃ rest, backendCutter.scan step s.acc (s.buffer ++ bytes) = .done result rest := by
  rw [readTurn] at h
  split at h
  · cases h
  · split at h
    · cases h
    · split at h <;> cases h
    · rename_i rest hscan
      obtain rfl := ReadEnd.done.inj (Sum.inr.inj h)
      exact ⟨rest, hscan⟩

/-- **A loop goes through reads** exactly if they are within the limit and its body goes through the
frames. -/
theorem foldUntil_readTurn_iff (hbuffer : parseBackendFrames s.buffer = .ok ([], s.buffer)) :
    foldUntil (readTurn limit step) s chunks = .inl s' ↔
      Within limit s.buffer chunks ∧
      ∃ frames, parseBackendFrames (s.buffer ++ chunks.flatten) = .ok (frames, s'.buffer) ∧
        foldUntil step s.acc frames = .inl s'.acc := by
  induction chunks generalizing s with
  | nil =>
    rw [flatten_nil, append_nil]
    constructor
    · intro h
      obtain rfl := Sum.inl.inj h
      exact ⟨trivial, [], hbuffer, rfl⟩
    · rintro ⟨-, frames, hparse, hframes⟩
      obtain ⟨rfl, hrest⟩ := Prod.mk.inj (Except.ok.inj (hbuffer.symm.trans hparse))
      have hacc := Sum.inl.inj hframes
      obtain ⟨acc, buffer⟩ := s'
      obtain rfl : s.buffer = buffer := hrest
      obtain rfl : s.acc = acc := hacc
      rfl
  | cons chunk chunks ih =>
    rw [foldUntil, Within, flatten_cons, ← append_assoc]
    constructor
    · intro h
      cases hturn : readTurn limit step s chunk with
      | inr result =>
        rw [hturn] at h
        cases h
      | inl s₁ =>
        rw [hturn] at h
        obtain ⟨hover, hscan, hat⟩ := readTurn_eq_inl_iff.1 hturn
        obtain ⟨first, hfirst, hthrough⟩ := foldUntil_of_scan_waiting _ hscan
        obtain ⟨hwithin, later, hlater, hlast⟩ := (ih (parseBackendFrames_rest hfirst)).1 h
        refine ⟨⟨hover, fun frames rest hparse => ?_⟩, first ++ later, ?_, ?_⟩
        · obtain ⟨-, rfl⟩ := Prod.mk.inj (Except.ok.inj (hfirst.symm.trans hparse))
          exact ⟨hat, hwithin⟩
        · rw [parseBackendFrames_append hfirst, hlater]
          rfl
        · rw [foldUntil_append, hthrough]
          exact hlast
    · rintro ⟨⟨hover, hrest⟩, frames, hparse, hthrough⟩
      obtain ⟨first, left, later, hfirst, hlater, rfl⟩ := parseBackendFrames_split hparse
      obtain ⟨hat, hwithin⟩ := hrest first left hfirst
      obtain ⟨acc₁, hframes, hlast⟩ := foldUntil_inl_of_append _ hthrough
      have hturn : readTurn limit step s chunk = .inl ⟨acc₁, left⟩ :=
        readTurn_eq_inl_iff.2 ⟨hover, scan_of_foldUntil_inl _ hfirst hframes, hat⟩
      rw [hturn]
      exact (ih (parseBackendFrames_rest hfirst)).2 ⟨hwithin, later, hlater, hlast⟩

/-- **A loop whose body ends on the last frame** ends so exactly if the reads are within the
limit. -/
theorem foldUntil_readTurn_done_iff {frames : List BackendFrame} {result result' : ρ}
    (hnonempty : ∀ chunk ∈ chunks, chunk ≠ []) (hlimit : atLimit limit [] = false)
    (hbuffer : parseBackendFrames s.buffer = .ok ([], s.buffer))
    (hparse : parseBackendFrames (s.buffer ++ chunks.flatten) = .ok (frames, []))
    (hlast : foldUntil step s.acc frames = .inr (result, [])) :
    (∃ unread, foldUntil (readTurn limit step) s chunks = .inr (.done result', unread)) ↔
      Within limit s.buffer chunks ∧ result = result' := by
  induction chunks generalizing s frames with
  | nil =>
    rw [flatten_nil, append_nil] at hparse
    obtain ⟨rfl, -⟩ := Prod.mk.inj (Except.ok.inj (hbuffer.symm.trans hparse))
    cases hlast
  | cons chunk chunks ih =>
    rw [flatten_cons, ← append_assoc] at hparse
    obtain ⟨first, left, later, hfirst, hlater, rfl⟩ := parseBackendFrames_split hparse
    have hwithin : Within limit s.buffer (chunk :: chunks) ↔
        overLimit limit (s.buffer ++ chunk) = false ∧ atLimit limit left = false ∧
          Within limit left chunks := by
      refine and_congr_right fun _ => ⟨fun h => h first left hfirst, fun h frames rest hrest => ?_⟩
      obtain ⟨-, rfl⟩ := Prod.mk.inj (Except.ok.inj (hfirst.symm.trans hrest))
      exact h
    rw [hwithin, foldUntil, readTurn]
    rw [foldUntil_append] at hlast
    cases hover : overLimit limit (s.buffer ++ chunk) with
    | true => simp
    | false =>
      cases hloop : foldUntil step s.acc first with
      | inl acc =>
        rw [hloop] at hlast
        have hscan := scan_of_foldUntil_inl step hfirst hloop
        simp only [hscan, Bool.false_eq_true, if_false, true_and]
        cases hat : atLimit limit left with
        | true => simp
        | false =>
          have hih := ih (s := ⟨acc, left⟩) (forall_mem_cons.1 hnonempty).2
            (parseBackendFrames_rest hfirst) hlater hlast
          simpa using hih
      | inr stopped =>
        obtain ⟨result₁, rest⟩ := stopped
        rw [hloop] at hlast
        obtain ⟨rfl, hnil⟩ := Prod.mk.inj (Sum.inr.inj hlast)
        obtain ⟨rfl, rfl⟩ := append_eq_nil_iff.1 hnil
        obtain ⟨rfl, hflat⟩ := append_eq_nil_iff.1 (eq_of_parse_nil hlater).symm
        obtain ⟨behind, hscan, -⟩ := scan_of_foldUntil_inr step hfirst hloop
        have hnone : chunks = [] := by
          refine eq_nil_iff_forall_not_mem.2 fun c hc => ?_
          exact (forall_mem_cons.1 hnonempty).2 c hc (flatten_eq_nil_iff.1 hflat c hc)
        subst hnone
        simp [hscan, hlimit, Within]

/-! ### Reads of nothing -/

/-- What a turn that goes on leaves in the buffer is no complete frame and leaves room. -/
structure Reading.Stands (limit : Option Nat) (s : Reading σ) : Prop where
  incomplete : parseBackendFrames s.buffer = .ok ([], s.buffer)
  room : atLimit limit s.buffer = false

/-- A loop that goes on stands where it can read on. -/
theorem Reading.Stands.of_foldUntil (hs : s.Stands limit)
    (h : foldUntil (readTurn limit step) s chunks = .inl s') : s'.Stands limit := by
  induction chunks generalizing s with
  | nil =>
    obtain rfl := Sum.inl.inj h
    exact hs
  | cons chunk chunks ih =>
    rw [foldUntil] at h
    cases hturn : readTurn limit step s chunk with
    | inr result =>
      rw [hturn] at h
      cases h
    | inl s₁ =>
      rw [hturn] at h
      obtain ⟨-, hscan, hat⟩ := readTurn_eq_inl_iff.1 hturn
      obtain ⟨frames, hparse, -⟩ := foldUntil_of_scan_waiting _ hscan
      exact ih ⟨parseBackendFrames_rest hparse, hat⟩ h

/-- **A read of nothing changes nothing.** -/
theorem readTurn_nil (hs : s.Stands limit) : readTurn limit step s [] = .inl s := by
  have hover : overLimit limit s.buffer = false := by
    have hat := hs.room
    cases limit with
    | none => rfl
    | some max => simp only [overLimit, atLimit, decide_eq_false_iff_not] at hat ⊢; omega
  refine readTurn_eq_inl_iff.2 ?_
  rw [append_nil]
  exact ⟨hover, scan_of_foldUntil_inl step hs.incomplete rfl, hs.room⟩

/-- **At the end of the stream a loop that waits reads nothing for ever.** -/
theorem foldUntil_readTurn_replicate (hs : s.Stands limit) (n : Nat) :
    foldUntil (readTurn limit step) s (List.replicate n []) = .inl s := by
  induction n with
  | zero => rfl
  | succ n ih =>
    rw [replicate_succ, foldUntil, readTurn_nil hs]
    exact ih

end Loop

end PgKinetic
