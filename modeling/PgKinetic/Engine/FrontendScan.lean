import PgKinetic.Engine.ResponseDrain
import PgKinetic.Wire.ClientCycle
import PgKinetic.Wire.FrontendFrame

/-!
# The scanner of the client's bytes

`take_frontend_cycle_bytes` finds the end of a cycle with `complete_frontend_frame_len`; the frames
of the cycle are then parsed with `parse_frontend_frame`. Here both are as the source has them, with
the two places where the scanner would panic: the `unreachable!` behind a length that the parser has
to refuse, and the `expect` on the shape of a cycle.

The two decoders agree (`completeFrontendFrameLen_eq`). So the frames that a cycle was cut at are
those it is parsed into, neither place is reached, and the scanner is the one of
`PgKinetic.takeFrontendCycleBytes` (`takeFrontendCycleBytes_eq`). What it can take off a buffer is
said once, by `CycleTaken`.
-/

namespace PgKinetic

open Framing List

/-! ### The frames of a cycle -/

/-- `parse_frontend_cycle_frames`. Every frame takes a byte, so the length of the buffer bounds
their number. -/
def parseFrontendCycleFrames (bytes : List Byte) : Except Int (List FrontendFrame) :=
  go bytes.length bytes
where
  go : Nat → List Byte → Except Int (List FrontendFrame)
    | 0, _ => .ok []
    | n + 1, bytes =>
      match parseFrontendFrame bytes with
      | .error e => .error e
      | .ok none => .ok []
      | .ok (some (frame, rest)) => (go n rest).map (frame :: ·)

/-- **The frames of a cycle** are what is cut off its bytes. -/
theorem parseFrontendCycleFrames_of_cuts {bytes rest : List Byte} {frames : List FrontendFrame}
    (h : frontendCutter.Cuts bytes frames rest) (hrest : parseFrontendFrame rest = .ok none) :
    parseFrontendCycleFrames bytes = .ok frames := by
  have hgo : ∀ n, bytes.length ≤ n → parseFrontendCycleFrames.go n bytes = .ok frames := by
    intro n
    induction h generalizing n with
    | nil bytes =>
      intro _
      cases n with
      | zero => rfl
      | succ n => rw [parseFrontendCycleFrames.go, hrest]
    | cons hcut _ ih =>
      intro hn
      have hshorter := frontendCutter.shorter hcut
      cases n with
      | zero => omega
      | succ n =>
        have hcut : parseFrontendFrame _ = .ok (some (_, _)) := hcut
        rw [parseFrontendCycleFrames.go, hcut]
        dsimp only
        rw [ih hrest n (by omega)]
        rfl
  exact hgo bytes.length (Nat.le_refl _)

/-! ### The two decoders -/

/-- **The length decoder agrees with the parser**: it has the length of the frame that the parser
cuts off, and refuses what the parser refuses. -/
theorem completeFrontendFrameLen_eq (bytes : List Byte) :
    completeFrontendFrameLen bytes =
      (parseFrontendFrame bytes).map (·.map fun first => bytes.length - first.2.length) := by
  obtain _ | ⟨tag, _ | ⟨b₀, _ | ⟨b₁, _ | ⟨b₂, _ | ⟨b₃, rest⟩⟩⟩⟩⟩ := bytes
  · rfl
  · rfl
  · rfl
  · rfl
  · rfl
  · obtain ⟨length, hlength⟩ : ∃ length, i32FromBytes b₀ b₁ b₂ b₃ = length := ⟨_, rfl⟩
    dsimp only [completeFrontendFrameLen, parseFrontendFrame]
    rw [hlength]
    split
    · rfl
    · obtain ⟨n, hn⟩ : ∃ n, (length - 4).toNat = n := ⟨_, rfl⟩
      have htotal : 1 + length.toNat = n + 5 := by omega
      rw [hn, htotal]
      simp only [length_cons]
      by_cases hcomplete : rest.length < n
      · rw [if_neg (by omega), if_pos hcomplete]
        rfl
      · rw [if_pos (by omega), if_neg hcomplete]
        have hlen : n + 5 = rest.length + 1 + 1 + 1 + 1 + 1 - (rest.drop n).length := by
          rw [length_drop]
          omega
        rw [hlen]
        rfl

variable {bytes buffer rest : List Byte} {frame : FrontendFrame}

/-- Dropping the length of the first frame leaves what is behind it. -/
theorem drop_of_cut (h : parseFrontendFrame bytes = .ok (some (frame, rest))) :
    bytes.drop (bytes.length - rest.length) = rest := by
  obtain ⟨first, rfl, -⟩ := exists_of_cut (parseFrontendFrame_some_iff.1 h)
  rw [length_append, Nat.add_sub_cancel, drop_left]

/-- A frame stands at the start of the buffer, with its tag. -/
theorem head?_of_cut (h : parseFrontendFrame bytes = .ok (some (frame, rest))) :
    bytes.head? = some frame.tag := by
  unfold parseFrontendFrame at h
  split at h
  · dsimp only at h
    split at h
    · cases h
    split at h
    · cases h
    · cases h
      rfl
  · cases h

/-! ### The frames that the loops go through -/

/-- The cycle behind the frame with the first tag ends with its first Sync or Flush. -/
def EndsAtFirstBoundary (tags : List Byte) : Prop :=
  ∃ inner last, tags = inner ++ [last] ∧ isExtendedCycleBoundary last = true ∧
    ∀ tag ∈ inner, isExtendedCycleBoundary tag = false

/-- **What the loop behind a Query goes through**: Query frames, up to a length that is not one or
up to where it stops. -/
theorem queriesLen_cuts {n : Nat} (hn : buffer.length ≤ n) :
    ∃ frames, (∀ frame ∈ frames, frame.tag = FrontendTag.query.byte) ∧
      match queriesLen n buffer with
      | .error e => ∃ rest, frontendCutter.Cuts buffer frames rest ∧
          parseFrontendFrame rest = .error e
      | .ok len => frontendCutter.Cuts buffer frames (buffer.drop len) ∧
          ∀ frame rest, parseFrontendFrame (buffer.drop len) = .ok (some (frame, rest)) →
            frame.tag ≠ FrontendTag.query.byte := by
  induction n generalizing buffer with
  | zero =>
    obtain rfl := length_eq_zero_iff.1 (Nat.le_zero.1 hn)
    exact ⟨[], nofun, .nil _, nofun⟩
  | succ n ih =>
    rw [queriesLen, completeFrontendFrameLen_eq]
    cases hcut : parseFrontendFrame buffer with
    | error e => exact ⟨[], nofun, buffer, .nil _, hcut⟩
    | ok first =>
      obtain _ | ⟨frame, rest⟩ := first
      · exact ⟨[], nofun, .nil _, fun _ _ hcut' => nomatch hcut.symm.trans hcut'⟩
      · dsimp only [Except.map, Option.map]
        by_cases hquery : buffer.head? = some FrontendTag.query.byte
        · rw [if_pos hquery]
          have htag : frame.tag = FrontendTag.query.byte :=
            Option.some.inj ((head?_of_cut hcut).symm.trans hquery)
          have hshorter := frontendCutter.shorter hcut
          obtain ⟨frames, hqueries, hlater⟩ := @ih rest (by omega)
          refine ⟨frame :: frames, forall_mem_cons.2 ⟨htag, hqueries⟩, ?_⟩
          rw [drop_of_cut hcut]
          cases hlen : queriesLen n rest with
          | error e =>
            rw [hlen] at hlater
            obtain ⟨left, hcuts, herror⟩ := hlater
            exact ⟨left, .cons hcut hcuts, herror⟩
          | ok len =>
            rw [hlen] at hlater
            dsimp only
            rw [← drop_drop, drop_of_cut hcut]
            exact ⟨.cons hcut hlater.1, hlater.2⟩
        · rw [if_neg hquery]
          refine ⟨[], nofun, .nil _, fun frame' rest' hcut' htag => hquery ?_⟩
          exact (head?_of_cut hcut').trans (congrArg some htag)

/-- **What the loop behind another frame goes through**: the frames up to the first Sync or Flush,
or, where none has come, frames that are neither. -/
theorem boundaryLen_cuts {n : Nat} {lastTag : Byte} (hn : buffer.length < n) :
    ∃ frames,
      match boundaryLen n lastTag buffer with
      | .error e =>
        (∀ tag ∈ lastTag :: frames.map (·.tag), isExtendedCycleBoundary tag = false) ∧
          ∃ rest, frontendCutter.Cuts buffer frames rest ∧ parseFrontendFrame rest = .error e
      | .ok none =>
        (∀ tag ∈ lastTag :: frames.map (·.tag), isExtendedCycleBoundary tag = false) ∧
          ∃ rest, frontendCutter.Cuts buffer frames rest ∧ parseFrontendFrame rest = .ok none
      | .ok (some len) =>
        EndsAtFirstBoundary (lastTag :: frames.map (·.tag)) ∧
          frontendCutter.Cuts buffer frames (buffer.drop len) := by
  induction n generalizing buffer lastTag with
  | zero => exact absurd hn (Nat.not_lt_zero _)
  | succ n ih =>
    rw [boundaryLen, completeFrontendFrameLen_eq]
    by_cases hlast : isExtendedCycleBoundary lastTag = true
    · rw [if_pos hlast]
      exact ⟨[], ⟨[], lastTag, rfl, hlast, nofun⟩, .nil _⟩
    · have hinner : isExtendedCycleBoundary lastTag = false := Bool.eq_false_iff.2 hlast
      rw [if_neg hlast]
      cases hcut : parseFrontendFrame buffer with
      | error e => exact ⟨[], forall_mem_singleton.2 hinner, buffer, .nil _, hcut⟩
      | ok first =>
        obtain _ | ⟨frame, rest⟩ := first
        · exact ⟨[], forall_mem_singleton.2 hinner, buffer, .nil _, hcut⟩
        · dsimp only [Except.map, Option.map]
          have hshorter := frontendCutter.shorter hcut
          have htag : buffer.headD 0 = frame.tag := by
            rw [headD_eq_head?_getD, head?_of_cut hcut]
            rfl
          obtain ⟨frames, hlater⟩ := @ih rest frame.tag (by omega)
          refine ⟨frame :: frames, ?_⟩
          rw [drop_of_cut hcut, htag]
          cases hlen : boundaryLen n frame.tag rest with
          | error e =>
            rw [hlen] at hlater
            obtain ⟨hopen, left, hcuts, herror⟩ := hlater
            exact ⟨forall_mem_cons.2 ⟨hinner, hopen⟩, left, .cons hcut hcuts, herror⟩
          | ok len =>
            rw [hlen] at hlater
            cases len with
            | none =>
              obtain ⟨hopen, left, hcuts, hnone⟩ := hlater
              exact ⟨forall_mem_cons.2 ⟨hinner, hopen⟩, left, .cons hcut hcuts, hnone⟩
            | some len =>
              obtain ⟨⟨inner, last, htags, hboundary, hbefore⟩, hcuts⟩ := hlater
              refine ⟨⟨lastTag :: inner, last, ?_, hboundary, ?_⟩, .cons hcut ?_⟩
              · rw [cons_append, ← htags]
                rfl
              · exact forall_mem_cons.2 ⟨hinner, hbefore⟩
              · rw [← drop_drop, drop_of_cut hcut]
                exact hcuts

/-! ### What is taken off a buffer -/

/-- **A Query cycle**: Query frames only. -/
def QueryCycle (frames : List FrontendFrame) : Prop :=
  frames ≠ [] ∧ ∀ frame ∈ frames, frame.tag = FrontendTag.query.byte

/-- **An extended cycle** starts with another frame than a Query or a Terminate and ends with its
first Sync or Flush. -/
def ExtendedCycle (frames : List FrontendFrame) : Prop :=
  (∃ first later, frames = first :: later ∧ first.tag ≠ FrontendTag.query.byte ∧
    first.tag ≠ FrontendTag.terminate.byte) ∧ EndsAtFirstBoundary (frames.map (·.tag))

/-- Frames that wait for the end of their cycle. -/
def OpenCycle (frames : List FrontendFrame) : Prop :=
  (∀ frame ∈ frames, isExtendedCycleBoundary frame.tag = false) ∧
    ∀ first ∈ frames.head?, first.tag ≠ FrontendTag.query.byte ∧
      first.tag ≠ FrontendTag.terminate.byte

/-- What `take_frontend_cycle_bytes` can do with a buffer. -/
inductive CycleTaken (max : Nat) (buffer : List Byte) : Except Int FrontendCycleRead → Prop where
  | exceeded : max < buffer.length → CycleTaken max buffer (.ok .bufferLimitExceeded)
  | failed {frames : List FrontendFrame} {rest : List Byte} {e : Int} :
    frontendCutter.Cuts buffer frames rest → parseFrontendFrame rest = .error e →
      CycleTaken max buffer (.error e)
  | waiting {frames : List FrontendFrame} {rest : List Byte} :
    frontendCutter.Cuts buffer frames rest → parseFrontendFrame rest = .ok none →
      OpenCycle frames → CycleTaken max buffer (.ok .needMoreBytes)
  | terminate {frame : FrontendFrame} {rest : List Byte} :
    parseFrontendFrame buffer = .ok (some (frame, rest)) →
      frame.tag = FrontendTag.terminate.byte → CycleTaken max buffer (.ok (.terminate rest))
  | complete {frames : List FrontendFrame} {cycle rest : List Byte} :
    buffer = cycle ++ rest → frontendCutter.Cuts cycle frames [] →
      QueryCycle frames ∨ ExtendedCycle frames →
        CycleTaken max buffer (.ok (.complete cycle rest))

theorem cuts_take {len : Nat} {frames : List FrontendFrame}
    (h : frontendCutter.Cuts buffer frames (buffer.drop len)) :
    frontendCutter.Cuts (buffer.take len) frames [] := by
  obtain ⟨bytes, hbytes, hcuts⟩ := exists_of_cuts h
  rwa [append_cancel_right ((take_append_drop len buffer).trans hbytes)]

/-- Frames that are cut off a buffer make the cycle at its start. -/
theorem CycleTaken.of_cuts {max len : Nat} {frames : List FrontendFrame}
    (h : frontendCutter.Cuts buffer frames (buffer.drop len))
    (hcycle : QueryCycle frames ∨ ExtendedCycle frames) :
    CycleTaken max buffer (.ok (.complete (buffer.take len) (buffer.drop len))) :=
  .complete (take_append_drop len buffer).symm (cuts_take h) hcycle

/-- **What is taken off a buffer.** -/
theorem takeFrontendCycleBytes_taken (max : Nat) (buffer : List Byte) :
    CycleTaken max buffer (PgKinetic.takeFrontendCycleBytes max buffer) := by
  unfold takeFrontendCycleBytes
  split
  · next hexceeded => exact .exceeded hexceeded
  rw [completeFrontendFrameLen_eq]
  cases hcut : parseFrontendFrame buffer with
  | error e => exact .failed (.nil _) hcut
  | ok first =>
    obtain _ | ⟨frame, rest⟩ := first
    · exact .waiting (.nil _) hcut ⟨nofun, nofun⟩
    have hshorter := frontendCutter.shorter hcut
    dsimp only [Except.map, Option.map]
    rw [head?_of_cut hcut, drop_of_cut hcut]
    split
    · next hterminate => exact .terminate hcut (Option.some.inj hterminate)
    next hterminate =>
    split
    · next hquery =>
      obtain ⟨frames, hqueries, hlater⟩ := @queriesLen_cuts rest buffer.length hshorter.le
      have hcycle : QueryCycle (frame :: frames) :=
        ⟨cons_ne_nil _ _, forall_mem_cons.2 ⟨Option.some.inj hquery, hqueries⟩⟩
      cases hlen : queriesLen buffer.length rest with
      | error e =>
        rw [hlen] at hlater
        obtain ⟨left, hcuts, herror⟩ := hlater
        exact .failed (.cons hcut hcuts) herror
      | ok len =>
        rw [hlen] at hlater
        refine .of_cuts (.cons hcut ?_) (.inl hcycle)
        rw [← drop_drop, drop_of_cut hcut]
        exact hlater.1
    · next hquery =>
      have hfirst : frame.tag ≠ FrontendTag.query.byte ∧ frame.tag ≠ FrontendTag.terminate.byte :=
        ⟨fun h => hquery (congrArg some h), fun h => hterminate (congrArg some h)⟩
      have htag : buffer.headD 0 = frame.tag := by
        rw [headD_eq_head?_getD, head?_of_cut hcut]
        rfl
      obtain ⟨frames, hlater⟩ := @boundaryLen_cuts rest buffer.length frame.tag hshorter
      rw [htag]
      cases hlen : boundaryLen buffer.length frame.tag rest with
      | error e =>
        rw [hlen] at hlater
        obtain ⟨-, left, hcuts, herror⟩ := hlater
        exact .failed (.cons hcut hcuts) herror
      | ok len =>
        rw [hlen] at hlater
        cases len with
        | none =>
          obtain ⟨hopen, left, hcuts, hnone⟩ := hlater
          refine .waiting (.cons hcut hcuts) hnone ⟨?_, ?_⟩
          · exact fun frame' hmem => hopen _ (mem_map_of_mem hmem)
          · intro first hmem
            obtain rfl := Option.some.inj hmem
            exact hfirst
        | some len =>
          obtain ⟨hends, hcuts⟩ := hlater
          refine .of_cuts (.cons hcut ?_) (.inr ⟨⟨_, _, rfl, hfirst⟩, hends⟩)
          rw [← drop_drop, drop_of_cut hcut]
          exact hcuts

theorem parseBackendFrames_of_cuts {frames : List FrontendFrame}
    (h : frontendCutter.Cuts bytes frames []) :
    parseBackendFrames bytes = .ok (frames.map (·.toBackend), []) := by
  generalize hrest : ([] : List Byte) = rest at h
  induction h with
  | nil _ =>
    subst hrest
    rfl
  | cons hcut _ ih => exact parseBackendFrames_of_cut (parseFrontendFrame_some_iff.1 hcut) (ih hrest)

/-- **A cycle that starts with a Query** is the run of Query frames at the start of the buffer. -/
theorem takeFrontendCycleBytes_queries {max : Nat} {cycle : List Byte}
    (h : PgKinetic.takeFrontendCycleBytes max buffer = .ok (.complete cycle rest))
    (hquery : buffer.head? = some FrontendTag.query.byte) :
    buffer = cycle ++ rest ∧ cycle ≠ [] ∧ QueriesOnly cycle ∧ StartsWithoutQuery rest := by
  unfold takeFrontendCycleBytes at h
  split at h
  · cases h
  rw [completeFrontendFrameLen_eq] at h
  cases hcut : parseFrontendFrame buffer with
  | error e =>
    rw [hcut] at h
    cases h
  | ok first =>
    rw [hcut] at h
    obtain _ | ⟨frame, behind⟩ := first
    · cases h
    obtain ⟨frames, hqueries, hlater⟩ :=
      @queriesLen_cuts behind buffer.length (frontendCutter.shorter hcut).le
    dsimp only [Except.map, Option.map] at h
    rw [hquery, if_neg (by decide), drop_of_cut hcut] at h
    cases hlen : queriesLen buffer.length behind with
    | error e =>
      rw [hlen] at h
      cases h
    | ok len =>
      rw [hlen] at h hlater
      obtain ⟨rfl, rfl⟩ := FrontendCycleRead.complete.inj (Except.ok.inj h)
      have hdrop : buffer.drop (buffer.length - behind.length + len) = behind.drop len := by
        rw [← drop_drop, drop_of_cut hcut]
      have hcuts := cuts_take (.cons hcut (hdrop ▸ hlater.1))
      refine ⟨(take_append_drop _ _).symm, ?_, ⟨_, parseBackendFrames_of_cuts hcuts, ?_⟩, ?_⟩
      · exact ne_nil_of_length_pos (hcuts.length_lt (cons_ne_nil _ _))
      · refine forall_mem_map.2 (forall_mem_cons.2 ⟨?_, hqueries⟩)
        exact Option.some.inj ((head?_of_cut hcut).symm.trans hquery)
      · intro frame' rest' hcut'
        rw [hdrop] at hcut'
        exact hlater.2 ⟨frame'.tag, frame'.payload⟩ rest' (parseFrontendFrame_some_iff.2 hcut')

/-! ### The scanner with its panics -/

namespace FrontendScan

/-- How the scanner fails: a length that is not one, `unreachable!`, or `expect` on no shape. -/
inductive ScanFault where
  | invalidFrameLength (length : Int)
  | unreachable
  | noFrames
  deriving DecidableEq, Repr

/-- `complete_frontend_frame_len`. -/
def completeFrontendFrameLen : List Byte → Except ScanFault (Option Nat)
  | bytes@(_ :: b₀ :: b₁ :: b₂ :: b₃ :: _) =>
    let length := i32FromBytes b₀ b₁ b₂ b₃
    if length < 4 then
      match parseFrontendFrame bytes with
      | .error length => .error (.invalidFrameLength length)
      | .ok _ => .error .unreachable
    else
      let totalLen := 1 + length.toNat
      .ok (if totalLen ≤ bytes.length then some totalLen else none)
  | _ => .ok none

/-- `expects_backend_completion`, on the tag of a frame. -/
def expectsBackendCompletion (tag : Byte) : Bool :=
  tag == FrontendTag.parse.byte || tag == FrontendTag.bind.byte ||
    tag == FrontendTag.describe.byte || tag == FrontendTag.execute.byte ||
    tag == FrontendTag.close.byte

/-- `FrontendCycleShape::from_frames`, on the frames as they are parsed. -/
def fromFrames (frames : List FrontendFrame) : FrontendCycleShape :=
  let queryCount := frames.countP fun frame => frame.tag == FrontendTag.query.byte
  let endsWithSync := frames.getLast?.any fun frame => frame.tag == FrontendTag.sync.byte
  let expectedReadyCount := queryCount + endsWithSync.toNat
  { expectedReadyCount
    expectedCompletionCount :=
      if expectedReadyCount = 0 then
        frames.countP fun frame => expectsBackendCompletion frame.tag
      else 0
    needsSync := frames.any fun frame => frame.tag != FrontendTag.query.byte }

/-- `FrontendCycleShape::from_wire_bytes`. -/
def fromWireBytes (bytes : List Byte) : Except Int (Option FrontendCycleShape) :=
  (parseFrontendCycleFrames bytes).map fun frames =>
    if frames.isEmpty then none else some (fromFrames frames)

/-- `FrontendCycleRead`, with what stays in the buffer. -/
inductive FrontendCycleRead where
  | complete (bytes : List Byte) (shape : FrontendCycleShape) (rest : List Byte)
  | terminate (bytes rest : List Byte)
  | bufferLimitExceeded
  | needMoreBytes
  deriving DecidableEq, Repr

/-- The loop of `take_frontend_cycle_bytes` behind a Query. -/
def queriesLen : Nat → List Byte → Except ScanFault Nat
  | 0, _ => .ok 0
  | n + 1, buffer =>
    match completeFrontendFrameLen buffer with
    | .error e => .error e
    | .ok none => .ok 0
    | .ok (some nextLen) =>
      if buffer.head? = some FrontendTag.query.byte then
        (queriesLen n (buffer.drop nextLen)).map (nextLen + ·)
      else .ok 0

/-- The loop of `take_frontend_cycle_bytes` behind another frame. -/
def boundaryLen : Nat → (lastTag : Byte) → List Byte → Except ScanFault (Option Nat)
  | 0, _, _ => .ok none
  | n + 1, lastTag, buffer =>
    if isExtendedCycleBoundary lastTag then .ok (some 0)
    else
      match completeFrontendFrameLen buffer with
      | .error e => .error e
      | .ok none => .ok none
      | .ok (some nextLen) =>
        (boundaryLen n (buffer.headD 0) (buffer.drop nextLen)).map fun len => len.map (nextLen + ·)

/-- The end of `take_frontend_cycle_bytes`: the bytes of the cycle, with their shape. -/
def completeCycle (buffer : List Byte) (cycleLen : Nat) : Except ScanFault FrontendCycleRead :=
  match fromWireBytes (buffer.take cycleLen) with
  | .error length => .error (.invalidFrameLength length)
  | .ok none => .error .noFrames
  | .ok (some shape) => .ok (.complete (buffer.take cycleLen) shape (buffer.drop cycleLen))

/-- `take_frontend_cycle_bytes`. -/
def takeFrontendCycleBytes (maxClientBufferBytes : Nat) (buffer : List Byte) :
    Except ScanFault FrontendCycleRead :=
  if maxClientBufferBytes < buffer.length then .ok .bufferLimitExceeded
  else
    match completeFrontendFrameLen buffer with
    | .error e => .error e
    | .ok none => .ok .needMoreBytes
    | .ok (some firstLen) =>
      if buffer.head? = some FrontendTag.terminate.byte then
        .ok (.terminate (buffer.take firstLen) (buffer.drop firstLen))
      else if buffer.head? = some FrontendTag.query.byte then
        match queriesLen buffer.length (buffer.drop firstLen) with
        | .error e => .error e
        | .ok len => completeCycle buffer (firstLen + len)
      else
        match boundaryLen buffer.length (buffer.headD 0) (buffer.drop firstLen) with
        | .error e => .error e
        | .ok none => .ok .needMoreBytes
        | .ok (some len) => completeCycle buffer (firstLen + len)

/-- **`unreachable!` is not reached**: the parser refuses each length that the decoder hands it. -/
theorem completeFrontendFrameLen_eq (bytes : List Byte) :
    completeFrontendFrameLen bytes =
      (PgKinetic.completeFrontendFrameLen bytes).mapError .invalidFrameLength := by
  obtain _ | ⟨tag, _ | ⟨b₀, _ | ⟨b₁, _ | ⟨b₂, _ | ⟨b₃, rest⟩⟩⟩⟩⟩ := bytes
  · rfl
  · rfl
  · rfl
  · rfl
  · rfl
  · dsimp only [completeFrontendFrameLen, PgKinetic.completeFrontendFrameLen]
    by_cases hinvalid : i32FromBytes b₀ b₁ b₂ b₃ < 4
    · rw [if_pos hinvalid, if_pos hinvalid, parseFrontendFrame_of_invalid hinvalid]
      rfl
    · rw [if_neg hinvalid, if_neg hinvalid]
      rfl

theorem queriesLen_eq (n : Nat) (buffer : List Byte) :
    queriesLen n buffer = (PgKinetic.queriesLen n buffer).mapError .invalidFrameLength := by
  induction n generalizing buffer with
  | zero => rfl
  | succ n ih =>
    rw [queriesLen, PgKinetic.queriesLen, completeFrontendFrameLen_eq]
    cases PgKinetic.completeFrontendFrameLen buffer with
    | error e => rfl
    | ok len =>
      cases len with
      | none => rfl
      | some nextLen =>
        dsimp only [Except.mapError]
        split
        · rw [ih]
          cases PgKinetic.queriesLen n (buffer.drop nextLen) <;> rfl
        · rfl

theorem boundaryLen_eq (n : Nat) (lastTag : Byte) (buffer : List Byte) :
    boundaryLen n lastTag buffer =
      (PgKinetic.boundaryLen n lastTag buffer).mapError .invalidFrameLength := by
  induction n generalizing lastTag buffer with
  | zero => rfl
  | succ n ih =>
    rw [boundaryLen, PgKinetic.boundaryLen, completeFrontendFrameLen_eq]
    split
    · rfl
    cases PgKinetic.completeFrontendFrameLen buffer with
    | error e => rfl
    | ok len =>
      cases len with
      | none => rfl
      | some nextLen =>
        dsimp only [Except.mapError]
        rw [ih]
        cases PgKinetic.boundaryLen n (buffer.headD 0) (buffer.drop nextLen) <;> rfl

/-- The read, without the shape and without the bytes of a Terminate. -/
def FrontendCycleRead.erase : FrontendCycleRead → PgKinetic.FrontendCycleRead
  | .complete bytes _ rest => .complete bytes rest
  | .terminate _ rest => .terminate rest
  | .bufferLimitExceeded => .bufferLimitExceeded
  | .needMoreBytes => .needMoreBytes

/-- A cycle that is cut off has a shape: the `expect` holds. -/
theorem completeCycle_of_taken {max : Nat} {buffer : List Byte} {cycleLen : Nat}
    (h : CycleTaken max buffer
      (.ok (.complete (buffer.take cycleLen) (buffer.drop cycleLen)))) :
    (completeCycle buffer cycleLen).map FrontendCycleRead.erase =
      .ok (.complete (buffer.take cycleLen) (buffer.drop cycleLen)) := by
  cases h with
  | complete hbuffer hcuts hcycle =>
    rename_i frames
    have hframes : frames.isEmpty = false := by
      rcases hcycle with ⟨hne, -⟩ | ⟨⟨first, later, rfl, -⟩, -⟩
      · exact isEmpty_eq_false_iff.2 hne
      · rfl
    unfold completeCycle fromWireBytes
    rw [parseFrontendCycleFrames_of_cuts hcuts rfl]
    dsimp only [Except.map]
    rw [hframes]
    rfl

/-- **The scanner does not panic**, and does what it does without its panics. -/
theorem takeFrontendCycleBytes_eq (max : Nat) (buffer : List Byte) :
    (takeFrontendCycleBytes max buffer).map FrontendCycleRead.erase =
      (PgKinetic.takeFrontendCycleBytes max buffer).mapError .invalidFrameLength := by
  have htaken := takeFrontendCycleBytes_taken max buffer
  unfold takeFrontendCycleBytes
  unfold PgKinetic.takeFrontendCycleBytes at htaken ⊢
  rw [completeFrontendFrameLen_eq]
  split at htaken
  · next hexceeded =>
    rw [if_pos hexceeded, if_pos hexceeded]
    rfl
  next hexceeded =>
  rw [if_neg hexceeded, if_neg hexceeded]
  cases hfirst : PgKinetic.completeFrontendFrameLen buffer with
  | error e => rfl
  | ok len =>
    cases len with
    | none => rfl
    | some firstLen =>
      rw [hfirst] at htaken
      dsimp only [Except.mapError] at htaken ⊢
      split at htaken
      · next hterminate =>
        rw [if_pos hterminate, if_pos hterminate]
        rfl
      next hterminate =>
      rw [if_neg hterminate, if_neg hterminate]
      split at htaken
      · next hquery =>
        rw [if_pos hquery, if_pos hquery, queriesLen_eq]
        cases hlen : PgKinetic.queriesLen buffer.length (buffer.drop firstLen) with
        | error e => rfl
        | ok len =>
          rw [hlen] at htaken
          exact completeCycle_of_taken htaken
      · next hquery =>
        rw [if_neg hquery, if_neg hquery, boundaryLen_eq]
        cases hlen : PgKinetic.boundaryLen buffer.length (buffer.headD 0)
            (buffer.drop firstLen) with
        | error e => rfl
        | ok len =>
          rw [hlen] at htaken
          cases len with
          | none => rfl
          | some len => exact completeCycle_of_taken htaken

end FrontendScan

end PgKinetic
