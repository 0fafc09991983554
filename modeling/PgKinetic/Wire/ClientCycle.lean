import PgKinetic.Wire.Stream

/-!
# Taking a cycle off the bytes of a client

`next_client_cycle` reads from the client until the buffer holds a **cycle**: a run of Query frames,
or the frames up to the next Sync or Flush. `take_frontend_cycle_bytes` cuts the cycle off the front
of the buffer; what is behind it stays there.

Frontend frames are laid out as backend frames are, so that the frames of a buffer are those of
`parseBackendFrames`.
-/

namespace PgKinetic

open List

/-- `FrontendTag` as a byte. -/
def FrontendTag.byte : FrontendTag → Byte
  | .query => 81
  | .parse => 80
  | .bind => 66
  | .describe => 68
  | .execute => 69
  | .close => 67
  | .flush => 72
  | .sync => 83
  | .terminate => 88

/-- `is_extended_cycle_boundary`. -/
def isExtendedCycleBoundary (tag : Byte) : Bool :=
  tag == FrontendTag.sync.byte || tag == FrontendTag.flush.byte

/-- `complete_frontend_frame_len`; the error is a length that is not one. -/
def completeFrontendFrameLen : List Byte → Except Int (Option Nat)
  | bytes@(_ :: b₀ :: b₁ :: b₂ :: b₃ :: _) =>
    let length := i32FromBytes b₀ b₁ b₂ b₃
    if length < 4 then .error length
    else
      let totalLen := 1 + length.toNat
      .ok (if totalLen ≤ bytes.length then some totalLen else none)
  | _ => .ok none

/-- `FrontendCycleRead`, with what stays in the buffer. -/
inductive FrontendCycleRead where
  | complete (bytes rest : List Byte)
  | terminate (rest : List Byte)
  | bufferLimitExceeded
  | needMoreBytes
  deriving DecidableEq, Repr

/-- The length of the complete Query frames at the start of the buffer: the loop of
`take_frontend_cycle_bytes` behind a Query. Every frame takes a byte, so the length of the buffer
bounds their number. -/
def queriesLen : Nat → List Byte → Except Int Nat
  | 0, _ => .ok 0
  | n + 1, buffer =>
    match completeFrontendFrameLen buffer with
    | .error e => .error e
    | .ok none => .ok 0
    | .ok (some nextLen) =>
      if buffer.head? = some FrontendTag.query.byte then
        (queriesLen n (buffer.drop nextLen)).map (nextLen + ·)
      else .ok 0

/-- The length of the frames up to the next Sync or Flush, if it has come: the loop of
`take_frontend_cycle_bytes` behind another frame. -/
def boundaryLen : Nat → (lastTag : Byte) → List Byte → Except Int (Option Nat)
  | 0, _, _ => .ok none
  | n + 1, lastTag, buffer =>
    if isExtendedCycleBoundary lastTag then .ok (some 0)
    else
      match completeFrontendFrameLen buffer with
      | .error e => .error e
      | .ok none => .ok none
      | .ok (some nextLen) =>
        (boundaryLen n (buffer.headD 0) (buffer.drop nextLen)).map fun len => len.map (nextLen + ·)

/-- `take_frontend_cycle_bytes`. -/
def takeFrontendCycleBytes (maxClientBufferBytes : Nat) (buffer : List Byte) :
    Except Int FrontendCycleRead :=
  if maxClientBufferBytes < buffer.length then .ok .bufferLimitExceeded
  else
    match completeFrontendFrameLen buffer with
    | .error e => .error e
    | .ok none => .ok .needMoreBytes
    | .ok (some firstLen) =>
      if buffer.head? = some FrontendTag.terminate.byte then
        .ok (.terminate (buffer.drop firstLen))
      else if buffer.head? = some FrontendTag.query.byte then
        (queriesLen buffer.length (buffer.drop firstLen)).map fun len =>
          .complete (buffer.take (firstLen + len)) (buffer.drop (firstLen + len))
      else
        (boundaryLen buffer.length (buffer.headD 0) (buffer.drop firstLen)).map fun
          | none => .needMoreBytes
          | some len => .complete (buffer.take (firstLen + len)) (buffer.drop (firstLen + len))

/-- `ClientCycle`, with the bytes of the frames. -/
inductive ClientCycle where
  | frames (cycle : List Byte)
  | terminate
  | bufferLimitExceeded
  | idleTimeout
  deriving DecidableEq, Repr

/-- `next_client_cycle` on the buffer of the session and the reads that the client's bytes come in:
the cycle, what stays in the buffer, and the reads still to come. The idle timeout strikes where the
reads end. -/
def nextClientCycle (maxClientBufferBytes : Nat) :
    (buffer : List Byte) → (reads : List (List Byte)) →
      Except Int (ClientCycle × List Byte × List (List Byte))
  | buffer, reads =>
    match takeFrontendCycleBytes maxClientBufferBytes buffer with
    | .error e => .error e
    | .ok (.complete cycle rest) => .ok (.frames cycle, rest, reads)
    | .ok (.terminate rest) => .ok (.terminate, rest, reads)
    | .ok .bufferLimitExceeded => .ok (.bufferLimitExceeded, buffer, reads)
    | .ok .needMoreBytes =>
      if maxClientBufferBytes ≤ buffer.length then .ok (.bufferLimitExceeded, buffer, reads)
      else
        match reads with
        | [] => .ok (.idleTimeout, buffer, [])
        | bytes :: reads =>
          if bytes.isEmpty then .ok (.terminate, buffer, reads)
          else if maxClientBufferBytes < (buffer ++ bytes).length then
            .ok (.bufferLimitExceeded, buffer ++ bytes, reads)
          else nextClientCycle maxClientBufferBytes (buffer ++ bytes) reads

/-! ### The frames of a cycle -/

variable {max : Nat} {buffer cycle rest : List Byte}

/-- **Nothing but Query frames**, all of them complete. -/
def QueriesOnly (bytes : List Byte) : Prop :=
  ∃ frames, parseBackendFrames bytes = .ok (frames, []) ∧
    ∀ frame ∈ frames, frame.tag = FrontendTag.query.byte

/-- No complete Query frame at the start. -/
def StartsWithoutQuery (bytes : List Byte) : Prop :=
  ∀ frame rest, parseBackendFrame bytes = .ok (some (frame, rest)) →
    frame.tag ≠ FrontendTag.query.byte

/-- Nothing is left behind the cycle exactly if the buffer had Query frames only. -/
theorem rest_eq_nil_iff (hbuffer : buffer = cycle ++ rest) (hcycle : QueriesOnly cycle)
    (hrest : StartsWithoutQuery rest) : rest = [] ↔ QueriesOnly buffer := by
  constructor
  · rintro rfl
    rw [hbuffer, append_nil]
    exact hcycle
  · rintro ⟨frames, hframes, hqueries⟩
    obtain ⟨first, hfirst, -⟩ := hcycle
    rw [hbuffer, parseBackendFrames_append hfirst, nil_append] at hframes
    cases hparse : parseBackendFrames rest with
    | error e =>
      rw [hparse] at hframes
      cases hframes
    | ok later =>
      rw [hparse] at hframes
      obtain ⟨rfl, hnil⟩ := Prod.mk.inj (Except.ok.inj hframes)
      obtain ⟨frames, rest'⟩ := later
      obtain rfl : rest' = [] := hnil
      cases frames with
      | nil => exact (eq_of_parse_nil hparse).symm
      | cons frame frames =>
        obtain ⟨behind, hcut, -⟩ := parseBackendFrames_cons hparse
        exact absurd (hqueries frame (mem_append_right _ mem_cons_self))
          (hrest frame behind hcut)

/-! ### The reads of a cycle -/

/-- Reads that come behind those of the cycle are not touched. -/
theorem nextClientCycle_append {reads : List (List Byte)} (unread : List (List Byte))
    (h : nextClientCycle max buffer reads = .ok (.frames cycle, rest, [])) :
    nextClientCycle max buffer (reads ++ unread) = .ok (.frames cycle, rest, unread) ∧
      takeFrontendCycleBytes max (buffer ++ reads.flatten) = .ok (.complete cycle rest) := by
  induction reads generalizing buffer with
  | nil =>
    rw [nextClientCycle.eq_def] at h
    dsimp only at h
    rw [nil_append, flatten_nil, append_nil, nextClientCycle.eq_def]
    dsimp only
    split at h
    · cases h
    · next cycle' rest' htake =>
      obtain ⟨hcycle, hrest⟩ := Prod.mk.inj (Except.ok.inj h)
      obtain rfl := ClientCycle.frames.inj hcycle
      obtain ⟨rfl, -⟩ := Prod.mk.inj hrest
      rw [htake]
      exact ⟨rfl, rfl⟩
    · cases h
    · cases h
    · split at h <;> cases h
  | cons bytes reads ih =>
    rw [nextClientCycle.eq_def] at h
    dsimp only at h
    rw [cons_append, flatten_cons, nextClientCycle.eq_def]
    dsimp only
    split at h
    · cases h
    · cases h
    · cases h
    · cases h
    · split at h
      · cases h
      · next hroom =>
        rw [if_neg hroom]
        split at h
        · cases h
        · next hnonempty =>
          rw [if_neg hnonempty]
          split at h
          · cases h
          · next hfits =>
            rw [if_neg hfits, ← append_assoc]
            exact ih h

end PgKinetic
