import PgKinetic.Engine.FrontendScan

/-!
# The cycles of a client's stream

A session takes cycles off its buffer with `take_frontend_cycle_bytes` and reads from the client
when the scanner needs more bytes. How many Query frames make a cycle depends on what happens to be
buffered; which frames are handed out does not.

`handedOut` says which frames of a stream those are: the frames up to the last end of a cycle.
`Segmented` says what cutting a stream into cycles comes to, whatever the reads, and
`segment_segmented` that the loop of the session is such a cut.
-/

namespace PgKinetic

open List

namespace Segmentation

open Framing

/-! ### The loop of a session -/

/-- Why the loop has stopped. -/
inductive Stop where
  /-- The client has sent all it has to send; what has not been taken is in the buffer. -/
  | needMoreBytes (buffer : List Byte)
  | terminate
  | bufferLimitExceeded
  | failed (fault : FrontendScan.ScanFault)
  deriving DecidableEq, Repr

/-- The cycles that are taken off a buffer and the reads behind it, and why there are no more. Each
turn of the loop takes a byte off the buffer or a read off the reads. -/
def segmentFrom (max : Nat) : Nat → (buffer : List Byte) → (reads : List (List Byte)) →
    List (List Byte) × Stop
  | 0, buffer, _ => ([], .needMoreBytes buffer)
  | n + 1, buffer, reads =>
    match FrontendScan.takeFrontendCycleBytes max buffer with
    | .error fault => ([], .failed fault)
    | .ok .bufferLimitExceeded => ([], .bufferLimitExceeded)
    | .ok (.terminate _ _) => ([], .terminate)
    | .ok (.complete cycle _ rest) =>
      let later := segmentFrom max n rest reads
      (cycle :: later.1, later.2)
    | .ok .needMoreBytes =>
      match reads with
      | [] => ([], .needMoreBytes buffer)
      | bytes :: reads => segmentFrom max n (buffer ++ bytes) reads

/-- The cycles of a stream that comes in these reads. -/
def segment (max : Nat) (reads : List (List Byte)) : List (List Byte) × Stop :=
  segmentFrom max (reads.flatten.length + reads.length + 1) [] reads

/-- The frames of the cycles, as `parse_frontend_cycle_frames` has them. -/
def framesOf (cycles : List (List Byte)) : Except Int (List FrontendFrame) :=
  (cycles.mapM parseFrontendCycleFrames).map List.flatten

/-! ### The frames that are handed out -/

/-- The frames of a stream that are handed out, and whether a Terminate ends them. Held are the
frames of a cycle whose Sync or Flush has not come. -/
def handedOut : (held frames : List FrontendFrame) → List FrontendFrame × Bool
  | _, [] => ([], false)
  | held, frame :: frames =>
    if held.isEmpty && frame.tag == FrontendTag.terminate.byte then ([], true)
    else if held.isEmpty && frame.tag == FrontendTag.query.byte ||
        isExtendedCycleBoundary frame.tag then
      let later := handedOut [] frames
      (held ++ frame :: later.1, later.2)
    else handedOut (held ++ [frame]) frames

/-- A Query is handed out at once. -/
theorem handedOut_query {frame : FrontendFrame} (h : frame.tag = FrontendTag.query.byte)
    (later : List FrontendFrame) :
    handedOut [] (frame :: later) = (frame :: (handedOut [] later).1, (handedOut [] later).2) := by
  rw [handedOut, h]
  rfl

/-- Frames behind others wait for the first Sync or Flush. -/
theorem handedOut_held {held inner : List FrontendFrame} {last : FrontendFrame}
    (hheld : held.isEmpty = false)
    (hinner : ∀ frame ∈ inner, isExtendedCycleBoundary frame.tag = false)
    (hlast : isExtendedCycleBoundary last.tag = true) (later : List FrontendFrame) :
    handedOut held (inner ++ last :: later) =
      (held ++ (inner ++ last :: (handedOut [] later).1), (handedOut [] later).2) := by
  induction inner generalizing held with
  | nil =>
    rw [nil_append, handedOut, hheld, hlast]
    rfl
  | cons frame inner ih =>
    obtain ⟨hframe, hinner⟩ := forall_mem_cons.1 hinner
    rw [cons_append, handedOut, hheld, hframe, Bool.false_and, Bool.false_and, Bool.false_or,
      if_neg Bool.false_ne_true, if_neg Bool.false_ne_true,
      ih (isEmpty_eq_false_iff.2 (append_ne_nil_of_right_ne_nil _ (cons_ne_nil _ _)))
        hinner, append_assoc]
    rfl

/-- Frames behind others that are no Sync and no Flush are not handed out. -/
theorem handedOut_held_open {held frames : List FrontendFrame} (hheld : held.isEmpty = false)
    (hframes : ∀ frame ∈ frames, isExtendedCycleBoundary frame.tag = false) :
    handedOut held frames = ([], false) := by
  induction frames generalizing held with
  | nil => rfl
  | cons frame frames ih =>
    obtain ⟨hframe, hframes⟩ := forall_mem_cons.1 hframes
    rw [handedOut, hheld, hframe, Bool.false_and, Bool.false_and, Bool.false_or,
      if_neg Bool.false_ne_true, if_neg Bool.false_ne_true]
    exact ih (isEmpty_eq_false_iff.2
      (append_ne_nil_of_right_ne_nil _ (cons_ne_nil _ _))) hframes

/-- The first frame of a cycle that is neither a Query nor a Terminate, nor its end. -/
theorem handedOut_first {first : FrontendFrame} {frames : List FrontendFrame}
    (hfirst : first.tag ≠ FrontendTag.query.byte ∧ first.tag ≠ FrontendTag.terminate.byte)
    (hinner : isExtendedCycleBoundary first.tag = false) :
    handedOut [] (first :: frames) = handedOut [first] frames := by
  rw [handedOut, hinner, beq_eq_false_iff_ne.2 hfirst.1, beq_eq_false_iff_ne.2 hfirst.2]
  rfl

/-- **A cycle at the start of the frames is handed out.** -/
theorem handedOut_cycle {frames : List FrontendFrame}
    (h : QueryCycle frames ∨ ExtendedCycle frames) (later : List FrontendFrame) :
    handedOut [] (frames ++ later) =
      (frames ++ (handedOut [] later).1, (handedOut [] later).2) := by
  rcases h with ⟨-, hqueries⟩ | ⟨⟨first, others, rfl, hfirst⟩, inner, last, htags, hlast, hinner⟩
  · induction frames with
    | nil => rfl
    | cons frame frames ih =>
      obtain ⟨hframe, hqueries⟩ := forall_mem_cons.1 hqueries
      rw [cons_append, handedOut_query hframe, ih hqueries]
      rfl
  · cases inner with
    | nil =>
      -- the first frame is a Sync or a Flush
      obtain ⟨htag, hothers⟩ := cons.inj htags
      obtain rfl := map_eq_nil_iff.1 hothers
      rw [← htag] at hlast
      rw [cons_append, handedOut, hlast, beq_eq_false_iff_ne.2 hfirst.2]
      simp only [Bool.and_false, Bool.or_true, if_true, Bool.false_eq_true, if_false]
      rfl
    | cons tag inner =>
      obtain ⟨htag, hothers⟩ := cons.inj htags
      obtain ⟨before, ends, rfl, rfl, hends⟩ := map_eq_append_iff.1 hothers
      obtain ⟨frame, rfl, rfl⟩ := map_eq_singleton_iff.1 hends
      obtain ⟨hboundary, hbefore⟩ := forall_mem_cons.1 hinner
      rw [← htag] at hboundary
      have hbefore : ∀ frame ∈ before, isExtendedCycleBoundary frame.tag = false :=
        fun frame hmem => hbefore _ (mem_map_of_mem hmem)
      rw [cons_append, handedOut_first hfirst hboundary, append_assoc,
        singleton_append, handedOut_held rfl hbefore hlast]
      simp only [cons_append, nil_append, append_assoc]

/-- Frames that wait for the end of their cycle are not handed out. -/
theorem handedOut_open {frames : List FrontendFrame} (h : OpenCycle frames) :
    handedOut [] frames = ([], false) := by
  obtain ⟨hframes, hfirst⟩ := h
  cases frames with
  | nil => rfl
  | cons first frames =>
    obtain ⟨hboundary, hframes⟩ := forall_mem_cons.1 hframes
    rw [handedOut_first (hfirst first rfl) hboundary]
    exact handedOut_held_open rfl hframes

/-! ### Cutting a stream into cycles -/

/-- **A stream cut into cycles.** The frames are those of the stream and `rest` is behind them. -/
inductive Segmented (rest : List Byte) :
    (stream : List Byte) → List FrontendFrame → (cycles : List (List Byte)) → Stop → Prop where
  | cycle {cycle behind : List Byte} {frames later : List FrontendFrame}
      {cycles : List (List Byte)} {stop : Stop} :
    frontendCutter.Cuts cycle frames [] → QueryCycle frames ∨ ExtendedCycle frames →
      Segmented rest behind later cycles stop →
        Segmented rest (cycle ++ behind) (frames ++ later) (cycle :: cycles) stop
  | waiting {stream : List Byte} {frames : List FrontendFrame} :
    OpenCycle frames → parseFrontendFrame rest = .ok none →
      Segmented rest stream frames [] (.needMoreBytes stream)
  | terminate {stream : List Byte} {frame : FrontendFrame} {frames : List FrontendFrame} :
    frame.tag = FrontendTag.terminate.byte →
      Segmented rest stream (frame :: frames) [] .terminate
  | exceeded (stream : List Byte) (frames : List FrontendFrame) :
    Segmented rest stream frames [] .bufferLimitExceeded
  | failed {stream : List Byte} {frames : List FrontendFrame} {e : Int} :
    parseFrontendFrame rest = .error e →
      Segmented rest stream frames [] (.failed (.invalidFrameLength e))

variable {max n : Nat} {buffer stream rest : List Byte} {reads : List (List Byte)}
  {frames : List FrontendFrame}

/-- What the scanner takes off the buffer, with its panics ruled out. -/
theorem taken_of_take {read : FrontendScan.FrontendCycleRead}
    (h : FrontendScan.takeFrontendCycleBytes max buffer = .ok read) :
    CycleTaken max buffer (.ok read.erase) := by
  have heq := FrontendScan.takeFrontendCycleBytes_eq max buffer
  have htaken := takeFrontendCycleBytes_taken max buffer
  rw [h] at heq
  cases hscan : PgKinetic.takeFrontendCycleBytes max buffer with
  | error e =>
    rw [hscan] at heq
    cases heq
  | ok read' =>
    rw [hscan] at heq htaken
    rw [Except.ok.inj heq]
    exact htaken

/-- The scanner fails on a length that is not one, and never else. -/
theorem taken_of_fault {fault : FrontendScan.ScanFault}
    (h : FrontendScan.takeFrontendCycleBytes max buffer = .error fault) :
    ∃ e, fault = .invalidFrameLength e ∧ CycleTaken max buffer (.error e) := by
  have heq := FrontendScan.takeFrontendCycleBytes_eq max buffer
  have htaken := takeFrontendCycleBytes_taken max buffer
  rw [h] at heq
  cases hscan : PgKinetic.takeFrontendCycleBytes max buffer with
  | error e =>
    rw [hscan] at heq htaken
    exact ⟨e, Except.error.inj heq, htaken⟩
  | ok read =>
    rw [hscan] at heq
    cases heq

/-- **The loop of a session cuts the stream into cycles**, wherever its reads are divided. -/
theorem segmentFrom_segmented (hn : buffer.length + reads.flatten.length + reads.length < n)
    (hframes : frontendCutter.Cuts (buffer ++ reads.flatten) frames rest)
    (hstuck : frontendCutter.Stuck rest) :
    Segmented rest (buffer ++ reads.flatten) frames (segmentFrom max n buffer reads).1
      (segmentFrom max n buffer reads).2 := by
  induction n generalizing buffer reads frames with
  | zero => exact absurd hn (Nat.not_lt_zero _)
  | succ n ih =>
    rw [segmentFrom.eq_def]
    dsimp only
    cases htake : FrontendScan.takeFrontendCycleBytes max buffer with
    | error fault =>
      obtain ⟨e, rfl, htaken⟩ := taken_of_fault htake
      cases htaken with
      | failed hcuts herror =>
        -- the length is the one behind the frames of the stream
        have herror := frontendCutter.append_error reads.flatten herror
        obtain ⟨rfl, rfl⟩ := hframes.unique hstuck (hcuts.append _) (Cutter.stuck_of_error herror)
        exact .failed herror
    | ok read =>
      have htaken := taken_of_take htake
      cases read with
      | bufferLimitExceeded => exact .exceeded _ _
      | terminate bytes behind =>
        cases htaken with
        | terminate hcut htag =>
          have hfirst := Cutter.Cuts.cons (frontendCutter.append_frame reads.flatten hcut) (.nil _)
          obtain ⟨others, rfl, -⟩ := hframes.first_part hstuck hfirst
          exact .terminate htag
      | complete cycle shape behind =>
        cases htaken with
        | complete hbuffer hcuts hcycle =>
          subst hbuffer
          have hcycleFirst := hcuts.append (behind ++ reads.flatten)
          rw [append_assoc] at hframes ⊢
          obtain ⟨others, rfl, hothers⟩ := hframes.first_part hstuck hcycleFirst
          refine .cycle hcuts hcycle (ih ?_ hothers)
          have hne : cycle ≠ [] := by
            rintro rfl
            have hlength := hcuts.length_lt (by
              rcases hcycle with ⟨hne, -⟩ | ⟨⟨first, later, rfl, -⟩, -⟩
              · exact hne
              · exact cons_ne_nil _ _)
            exact absurd hlength (Nat.not_lt_zero _)
          have hpos := length_pos_iff.2 hne
          rw [length_append] at hn
          omega
      | needMoreBytes =>
        cases htaken with
        | waiting hcuts hnone hopen =>
          cases reads with
          | nil =>
            rw [flatten_nil, append_nil] at hframes ⊢
            obtain ⟨rfl, rfl⟩ := hframes.unique hstuck hcuts (Cutter.stuck_of_incomplete hnone)
            exact .waiting hopen hnone
          | cons bytes reads =>
            rw [flatten_cons, ← append_assoc] at hframes ⊢
            refine ih ?_ hframes
            simp only [flatten_cons, length_cons, length_append] at hn ⊢
            omega

/-- The cycles of a stream are a cut of it. -/
theorem segment_segmented (max : Nat) (reads : List (List Byte))
    (hframes : frontendCutter.Cuts reads.flatten frames rest)
    (hstuck : frontendCutter.Stuck rest) :
    Segmented rest reads.flatten frames (segment max reads).1 (segment max reads).2 := by
  have hn : ([] : List Byte).length + reads.flatten.length + reads.length <
      reads.flatten.length + reads.length + 1 := by
    rw [length_nil]
    omega
  exact segmentFrom_segmented hn hframes hstuck

/-! ### What holds of every cut -/

section Cut

variable {cycles : List (List Byte)} {stop : Stop}

/-- Nothing is lost, duplicated or reordered. -/
theorem Segmented.flatten_prefix (h : Segmented rest stream frames cycles stop) :
    cycles.flatten <+: stream := by
  induction h with
  | cycle _ _ _ ih =>
    exact (prefix_append_right_inj _).2 ih
  | waiting _ _ | terminate _ | exceeded _ _ | failed _ => exact nil_prefix

/-- What is not handed out is kept. -/
theorem Segmented.eq_flatten_append {buffer : List Byte}
    (h : Segmented rest stream frames cycles (.needMoreBytes buffer)) :
    stream = cycles.flatten ++ buffer := by
  generalize hstop : Stop.needMoreBytes buffer = stop at h
  induction h with
  | cycle _ _ _ ih => rw [flatten_cons, append_assoc, ← ih hstop]
  | waiting _ _ => exact (Stop.needMoreBytes.inj hstop).symm
  | terminate _ | exceeded _ _ | failed _ => cases hstop

section

variable (h : Segmented rest stream frames cycles stop)
include h

/-- Each cycle is made of whole frames, and is a Query cycle or an extended one. -/
theorem Segmented.cuts_of_mem {cycle : List Byte}
    (hmem : cycle ∈ cycles) :
    ∃ frames, frontendCutter.Cuts cycle frames [] ∧ (QueryCycle frames ∨ ExtendedCycle frames) := by
  induction h with
  | cycle hcuts hcycle _ ih =>
    rcases mem_cons.1 hmem with rfl | hmem
    · exact ⟨_, hcuts, hcycle⟩
    · exact ih hmem
  | waiting _ _ | terminate _ | exceeded _ _ | failed _ => cases hmem

/-- **The frames of the cycles are those that are handed out.** -/
theorem Segmented.framesOf_eq
    (hrest : parseFrontendFrame rest = .ok none) (hstop : stop ≠ .bufferLimitExceeded) :
    framesOf cycles = .ok (handedOut [] frames).1 := by
  induction h with
  | cycle hcuts hcycle _ ih =>
    have hlater := ih hstop
    rw [handedOut_cycle hcycle]
    rw [framesOf] at hlater ⊢
    rw [mapM_cons, parseFrontendCycleFrames_of_cuts hcuts rfl]
    cases hmap : List.mapM parseFrontendCycleFrames _ with
    | error e =>
      rw [hmap] at hlater
      cases hlater
    | ok later =>
      rw [hmap] at hlater
      have hflatten : later.flatten = _ := Except.ok.inj hlater
      rw [← hflatten]
      rfl
  | waiting hopen _ =>
    rw [handedOut_open hopen]
    rfl
  | terminate htag =>
    rw [handedOut, htag]
    rfl
  | exceeded _ _ => exact absurd rfl hstop
  | failed herror => cases hrest.symm.trans herror

/-- Why the cut has stopped. -/
theorem Segmented.stop_eq
    (hstop : stop ≠ .bufferLimitExceeded) :
    if stop = .terminate then (handedOut [] frames).2 = true
    else match parseFrontendFrame rest with
      | .error e => stop = .failed (.invalidFrameLength e)
      | .ok _ => (handedOut [] frames).2 = false ∧ ∃ buffer, stop = .needMoreBytes buffer := by
  induction h with
  | cycle _ hcycle _ ih =>
    rw [handedOut_cycle hcycle]
    exact ih hstop
  | waiting hopen hnone =>
    rw [if_neg (nomatch ·), hnone, handedOut_open hopen]
    exact ⟨rfl, _, rfl⟩
  | terminate htag =>
    rw [if_pos rfl, handedOut, htag]
    rfl
  | exceeded _ _ => exact absurd rfl hstop
  | failed herror => rw [if_neg (nomatch ·), herror]

end

end Cut

/-! ### Every split of a stream -/

/-- The reads stay within the buffer limit. -/
def WithinLimit (max : Nat) (reads : List (List Byte)) : Prop :=
  (segment max reads).2 ≠ .bufferLimitExceeded

instance (max : Nat) (reads : List (List Byte)) : Decidable (WithinLimit max reads) :=
  inferInstanceAs (Decidable (_ ≠ _))

/-- **What a cut of a stream keeps**: the bytes, the frames they are made of, and the kinds of
cycles. -/
structure Faithful (stream : List Byte) (cycles : List (List Byte)) (stop : Stop) : Prop where
  flatten_prefix : cycles.flatten <+: stream
  kept : ∀ buffer, stop = .needMoreBytes buffer → stream = cycles.flatten ++ buffer
  whole : ∀ cycle ∈ cycles, ∃ frames, frontendCutter.Cuts cycle frames [] ∧
    parseFrontendCycleFrames cycle = .ok frames ∧ (QueryCycle frames ∨ ExtendedCycle frames)

theorem Segmented.faithful {cycles : List (List Byte)} {stop : Stop}
    (h : Segmented rest stream frames cycles stop) : Faithful stream cycles stop where
  flatten_prefix := h.flatten_prefix
  kept buffer hstop := by
    subst hstop
    exact h.eq_flatten_append
  whole cycle hmem := by
    obtain ⟨frames, hcuts, hcycle⟩ := h.cuts_of_mem hmem
    exact ⟨frames, hcuts, parseFrontendCycleFrames_of_cuts hcuts rfl, hcycle⟩

/-- **Segmentation.** Let a stream be well-formed frames, the last of them perhaps not complete.
However it comes in reads, within the buffer limit, the session takes cycles off it without a
failure: their bytes are a first part of the stream and the rest is kept, each is a Query cycle or
ends with its first Sync or Flush, and their frames are those that are handed out, which no split
has a part in. Behind a length that is not one the session fails with that length, unless a
Terminate has ended it. On no buffer does the scanner reach `unreachable!` or fail to `expect`. -/
theorem segment_eq_handedOut :
    (∀ (stream rest : List Byte) (frames : List FrontendFrame),
      frontendCutter.Cuts stream frames rest → parseFrontendFrame rest = .ok none →
      ∀ (max : Nat) (reads : List (List Byte)), reads.flatten = stream → WithinLimit max reads →
        Faithful stream (segment max reads).1 (segment max reads).2 ∧
        framesOf (segment max reads).1 = .ok (handedOut [] frames).1 ∧
        if (handedOut [] frames).2 then (segment max reads).2 = .terminate
        else ∃ buffer, (segment max reads).2 = .needMoreBytes buffer) ∧
    (∀ (stream rest : List Byte) (frames : List FrontendFrame) (length : Int),
      frontendCutter.Cuts stream frames rest → parseFrontendFrame rest = .error length →
      ∀ (max : Nat) (reads : List (List Byte)), reads.flatten = stream → WithinLimit max reads →
        Faithful stream (segment max reads).1 (segment max reads).2 ∧
        ((segment max reads).2 = .failed (.invalidFrameLength length) ∨
          (segment max reads).2 = .terminate ∧ (handedOut [] frames).2 = true)) ∧
    ∀ (max : Nat) (buffer : List Byte) (fault : FrontendScan.ScanFault),
      FrontendScan.takeFrontendCycleBytes max buffer = .error fault →
        ∃ length, fault = .invalidFrameLength length := by
  refine ⟨?_, ?_, ?_⟩
  · rintro stream rest frames hframes hrest max reads rfl hlimit
    have hsegmented := segment_segmented max reads hframes (Cutter.stuck_of_incomplete hrest)
    have hstop := hsegmented.stop_eq hlimit
    rw [hrest] at hstop
    refine ⟨hsegmented.faithful, hsegmented.framesOf_eq hrest hlimit, ?_⟩
    split at hstop
    · next hterminate => rwa [hstop, if_pos rfl]
    · obtain ⟨hout, hwaiting⟩ := hstop
      rwa [hout, if_neg Bool.false_ne_true]
  · rintro stream rest frames length hframes hrest max reads rfl hlimit
    have hsegmented := segment_segmented max reads hframes (Cutter.stuck_of_error hrest)
    have hstop := hsegmented.stop_eq hlimit
    rw [hrest] at hstop
    refine ⟨hsegmented.faithful, ?_⟩
    split at hstop
    · next hterminate => exact .inr ⟨hterminate, hstop⟩
    · exact .inl hstop
  · intro max buffer fault hfault
    obtain ⟨length, rfl, -⟩ := taken_of_fault hfault
    exact ⟨length, rfl⟩

/-- Parse, Sync and a Query in two reads, the first of which ends in the middle of the Sync; and a
Query in front of a length that is not one. -/
theorem segment_splitInSync :
    framesOf (segment 64 [[80, 0, 0, 0, 4, 83, 0], [0, 0, 4, 81, 0, 0, 0, 4]]).1 =
        .ok [⟨80, []⟩, ⟨83, []⟩, ⟨81, []⟩] ∧
      (segment 64 [[81, 0, 0, 0, 4, 80, 0], [0, 0, 3]]).2 = .failed (.invalidFrameLength 3) := by
  have hcut : ∀ (tag : Byte) (rest : List Byte),
      frontendCutter.cut (tag :: 0 :: 0 :: 0 :: 4 :: rest) = .ok (some (⟨tag, []⟩, rest)) := by
    intro tag rest
    have hlength : i32FromBytes 0 0 0 4 = 4 := by decide
    simp only [frontendCutter, parseFrontendFrame, hlength]
    rfl
  have hwhole := segment_eq_handedOut.1 _ [] [⟨80, []⟩, ⟨83, []⟩, ⟨81, []⟩]
    (.cons (hcut _ _) (.cons (hcut _ _) (.cons (hcut _ _) (.nil _)))) rfl 64
    [[80, 0, 0, 0, 4, 83, 0], [0, 0, 4, 81, 0, 0, 0, 4]] rfl (by decide +kernel)
  have hinvalid : parseFrontendFrame [80, 0, 0, 0, 3] = .error 3 := by
    have hlength : i32FromBytes 0 0 0 3 = 3 := by decide
    rw [parseFrontendFrame_of_invalid (by rw [hlength]; decide), hlength]
  have hmalformed := segment_eq_handedOut.2.1 _ [80, 0, 0, 0, 3] [⟨81, []⟩] 3
    (.cons (hcut _ _) (.nil _)) hinvalid 64 [[81, 0, 0, 0, 4, 80, 0], [0, 0, 3]] rfl
    (by decide +kernel)
  refine ⟨hwhole.2.1, hmalformed.2.resolve_right ?_⟩
  rintro ⟨-, hterminate⟩
  cases hterminate

end Segmentation

end PgKinetic
