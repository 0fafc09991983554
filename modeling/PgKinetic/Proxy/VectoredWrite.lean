import PgKinetic.Wire.Frame

/-!
# Vectored writes

`write_all_vectored` writes a list of slices to the client, as much of them at a time as the
transport takes. Its two cursors, `slice_index` and `slice_offset`, are kept as the slices from the
index on and the offset into the first of these. **Whatever the transport takes, it is handed the
concatenation of the slices** (`writeAllVectored_flatten`): one turn of the loop takes off what is
`unwritten` exactly what was written.
-/

namespace PgKinetic.VectoredWrite

open List Option

/-- `skip_empty_vectored_slices`. -/
def skipEmptyVectoredSlices : List (List Byte) → Nat → List (List Byte) × Nat
  | [], offset => ([], offset)
  | slice :: rest, offset =>
    if slice.length ≤ offset then skipEmptyVectoredSlices rest 0 else (slice :: rest, offset)

/-- The slices offered to the transport: what is left of the first, and those of the others that are
not empty. `none` if the first is cut out of range. -/
def remainingSlices (first : List Byte) (others : List (List Byte)) (offset : Nat) :
    Option (List (List Byte)) :=
  if offset ≤ first.length then some (first.drop offset :: others.filter (!·.isEmpty)) else none

/-- The cursors after `remaining` bytes more have been written. `none` if a slice is accessed out of
range. -/
def advance : List (List Byte) → Nat → Nat → Option (List (List Byte) × Nat)
  | slices, offset, 0 => some (slices, offset)
  | [], _, _ + 1 => none
  | slice :: rest, offset, remaining + 1 =>
    if slice.length < offset then none
    else if remaining + 1 < slice.length - offset then
      some (slice :: rest, offset + (remaining + 1))
    -- behind the last slice the function returns `Ok`, as the loop around would
    else if rest.isEmpty then some ([], 0)
    else advance rest 0 (remaining + 1 - (slice.length - offset))

/-- How a call ends. -/
inductive Status where
  | ok
  /-- The transport has taken nothing. -/
  | writeZero
  /-- No end yet. -/
  | writing
  deriving DecidableEq

/-- The loop of `write_all_vectored`, for so many writes at most: how it ends, and the bytes that
the transport has taken. `transport` says how many bytes of the slices it is offered it takes, at
the first write of the loop, the second and so on; `none` is an access out of range. -/
def writeLoop (slices : List (List Byte)) (offset writes : Nat)
    (transport : Nat → List (List Byte) → Nat) : Option (Status × List Byte) :=
  match skipEmptyVectoredSlices slices offset with
  | ([], _) => some (.ok, [])
  | (first :: others, offset) =>
    match writes with
    | 0 => some (.writing, [])
    | writes + 1 => do
      let offered ← remainingSlices first others offset
      let written := transport 0 offered
      if written = 0 then some (.writeZero, [])
      else
        let (slices, offset) ← advance (first :: others) offset written
        let (status, later) ← writeLoop slices offset writes fun call => transport (call + 1)
        some (status, offered.flatten.take written ++ later)

/-- `ClientConnection::write_all_vectored`, with at most so many writes. -/
def writeAllVectored (slices : List (List Byte)) (writes : Nat)
    (transport : Nat → List (List Byte) → Nat) : Option (Status × List Byte) :=
  if slices.isEmpty then some (.ok, []) else writeLoop slices 0 writes transport

/-! ### What is left to write -/

/-- The bytes behind the cursors. -/
def unwritten : List (List Byte) → Nat → List Byte
  | [], _ => []
  | slice :: rest, offset => slice.drop offset ++ rest.flatten

theorem unwritten_zero (slices : List (List Byte)) : unwritten slices 0 = slices.flatten := by
  cases slices <;> rfl

variable {slices : List (List Byte)} {offset written writes : Nat}

/-- Nothing is skipped but empty rests: either nothing is left, or bytes of the first slice are. -/
theorem skipEmptyVectoredSlices_cases (slices : List (List Byte)) (offset : Nat) :
    (unwritten slices offset = [] ∧ ∃ n, skipEmptyVectoredSlices slices offset = ([], n)) ∨
      ∃ first others n, skipEmptyVectoredSlices slices offset = (first :: others, n) ∧
        n < first.length ∧ unwritten (first :: others) n = unwritten slices offset := by
  induction slices generalizing offset with
  | nil => exact .inl ⟨rfl, offset, rfl⟩
  | cons slice rest ih =>
    rw [skipEmptyVectoredSlices]
    split
    · rename_i hend
      have hrest : unwritten (slice :: rest) offset = unwritten rest 0 := by
        rw [unwritten_zero, unwritten, drop_eq_nil_of_le hend, nil_append]
      rw [hrest]
      exact ih 0
    · rename_i hinside
      exact .inr ⟨slice, rest, offset, rfl, Nat.lt_of_not_le hinside, rfl⟩

/-- **One write** within what is left takes exactly that much off, and no slice is accessed out of
range. -/
theorem unwritten_advance (hoffset : ∀ first ∈ slices.head?, offset ≤ first.length)
    (hwritten : written ≤ (unwritten slices offset).length) :
    ∃ after, advance slices offset written = some after ∧
      unwritten after.1 after.2 = (unwritten slices offset).drop written := by
  induction slices generalizing offset written with
  | nil =>
    obtain rfl := Nat.le_zero.1 hwritten
    exact ⟨_, rfl, rfl⟩
  | cons slice rest ih =>
    cases written with
    | zero => exact ⟨_, rfl, rfl⟩
    | succ remaining =>
      have hle : offset ≤ slice.length := hoffset slice rfl
      rw [advance, if_neg (Nat.not_lt.2 hle)]
      simp only [unwritten, length_append, length_drop] at hwritten ⊢
      split
      · rename_i hinside
        refine ⟨_, rfl, ?_⟩
        rw [drop_append_of_le_length (by rw [length_drop]; omega), drop_drop]
      · rename_i hbehind
        rw [drop_append, drop_eq_nil_of_le (by rw [length_drop]; omega), length_drop, nil_append]
        split
        · rename_i hlast
          refine ⟨_, rfl, ?_⟩
          rw [isEmpty_iff.1 hlast]
          exact drop_nil.symm
        · obtain ⟨after, hafter, hrest⟩ := @ih 0 (remaining + 1 - (slice.length - offset))
            (fun _ _ => Nat.zero_le _) (by rw [unwritten_zero]; omega)
          rw [unwritten_zero] at hrest
          exact ⟨after, hafter, hrest⟩

/-! ### The whole call -/

variable {transport : Nat → List (List Byte) → Nat}

/-- **The loop** writes what is left, in as many writes as there are bytes at most. -/
theorem writeLoop_eq (htakes : ∀ call offered, offered.flatten ≠ [] →
      0 < transport call offered ∧ transport call offered ≤ offered.flatten.length)
    (hwrites : (unwritten slices offset).length ≤ writes) :
    writeLoop slices offset writes transport = some (.ok, unwritten slices offset) := by
  induction writes generalizing slices offset transport with
  | zero =>
    rw [length_eq_zero_iff.1 (Nat.le_zero.1 hwrites)]
    rcases skipEmptyVectoredSlices_cases slices offset with ⟨-, n, hskip⟩ |
      ⟨first, others, n, hskip, hlt, hleft⟩
    · rw [writeLoop, hskip]
    · rw [← hleft, unwritten, length_append, length_drop] at hwrites
      omega
  | succ writes ih =>
    rcases skipEmptyVectoredSlices_cases slices offset with ⟨hnil, n, hskip⟩ |
      ⟨first, others, n, hskip, hlt, hleft⟩
    · rw [writeLoop, hskip, hnil]
    · rw [← hleft] at hwrites ⊢
      have hoffered : (first.drop n :: others.filter (!·.isEmpty)).flatten =
          unwritten (first :: others) n := by
        rw [flatten_cons, flatten_filter_not_isEmpty, unwritten]
      have hne : unwritten (first :: others) n ≠ [] := by
        refine append_ne_nil_of_left_ne_nil (fun hnil => ?_) _
        exact absurd (drop_eq_nil_iff.1 hnil) (Nat.not_le.2 hlt)
      obtain ⟨hpos, hle⟩ := htakes 0 _ (hoffered.trans_ne hne)
      rw [hoffered] at hle
      obtain ⟨⟨slices', offset'⟩, hadvance, hrest⟩ := @unwritten_advance (first :: others) n _
        (fun _ hfirst => some.inj hfirst ▸ hlt.le) hle
      -- what is left is shorter by what was written
      have hlater := @ih slices' offset' _ (fun call => htakes (call + 1)) (by
        rw [hrest, length_drop]
        omega)
      rw [writeLoop, hskip]
      simp only [remainingSlices, if_pos hlt.le, bind_eq_bind, bind_some, if_neg hpos.ne', hadvance,
        hlater, hrest, hoffered, take_append_drop]

/-- **Vectored writes are complete.** Whatever slices are written and however many bytes the
transport takes of what it is offered, but always one at least: the call ends with `Ok`, no slice is
accessed out of range, and the transport has taken the concatenation of the slices. -/
theorem writeAllVectored_flatten (slices : List (List Byte))
    (htakes : ∀ call offered, offered.flatten ≠ [] →
      0 < transport call offered ∧ transport call offered ≤ offered.flatten.length)
    (hwrites : slices.flatten.length ≤ writes) :
    writeAllVectored slices writes transport = some (.ok, slices.flatten) := by
  rw [← unwritten_zero] at hwrites ⊢
  rw [writeAllVectored]
  split
  · rename_i hnone
    rw [isEmpty_iff.1 hnone]
    rfl
  · exact writeLoop_eq htakes hwrites

theorem writeAllVectored_bytewise :
    writeAllVectored [[], [1], [], [2, 3]] 3 (fun _ _ => 1) = some (.ok, [1, 2, 3]) :=
  writeAllVectored_flatten [[], [1], [], [2, 3]]
    (fun _ _ hne => ⟨Nat.one_pos, length_pos_iff.2 hne⟩) (by decide)

end PgKinetic.VectoredWrite
