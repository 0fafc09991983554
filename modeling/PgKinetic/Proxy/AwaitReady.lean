import PgKinetic.Proxy.Recovery
import PgKinetic.Wire.Stream

/-!
# Waiting for ReadyForQuery, read by read

`await_ready_status` reads into a buffer of its own, goes through **all** complete frames of the
buffer after every read, and returns after the first read that has shown it a ReadyForQuery, with
the status of the last one. It counts nothing and looks at no other frame.

`execute_backend_batch` writes its frames and waits so, once. A batch of several queries is
answered with as many responses, each with a ReadyForQuery of its own; how many of them the wait
has read when it returns is a matter of how the stream was divided into reads
(`batch_synchronous_iff`).
-/

namespace PgKinetic

open Framing List

/-! ### The loop -/

/-- One read from a backend: the bytes, none of them at the end of the stream, or an error. -/
abbrev BackendRead := Option (List Byte)

/-- The errors of `await_ready_status`. -/
inductive AwaitError where
  | bufferLimit
  | disconnected
  | read
  | wire (error : WireError)
  deriving DecidableEq, Repr

/-- The last ready status among the frames. -/
def lastReady (frames : List BackendFrame) : Option ReadyStatus :=
  (frames.filterMap BackendFrame.readyStatus).getLast?

/-- One turn of the loop of `await_ready_status`, with the check of the buffer before the next read:
the buffer for the next turn, or what is returned. -/
def awaitTurn (maxBackendBufferBytes : Nat) (buffer : List Byte) :
    BackendRead → List Byte ⊕ Except AwaitError ReadyStatus
  | none => .inr (.error .read)
  | some [] => .inr (.error .disconnected)
  | some (byte :: bytes) =>
    let buffer := buffer ++ byte :: bytes
    if maxBackendBufferBytes < buffer.length then .inr (.error .bufferLimit)
    else
      match parseBackendFrames buffer with
      | .error e => .inr (.error (.wire e))
      | .ok (frames, rest) =>
        match lastReady frames with
        | some status => .inr (.ok status)
        | none =>
          if maxBackendBufferBytes ≤ rest.length then .inr (.error .bufferLimit) else .inl rest

/-- `await_ready_status` on the reads to come: still waiting, or what is returned with the reads it
has left. -/
def awaitReadyStatus (maxBackendBufferBytes : Nat) (reads : List BackendRead) :
    List Byte ⊕ (Except AwaitError ReadyStatus × List BackendRead) :=
  if maxBackendBufferBytes = 0 then .inr (.error .bufferLimit, reads)
  else foldUntil (awaitTurn maxBackendBufferBytes) [] reads

/-- The outcome, as the callers distinguish it. -/
def batchReply : Except AwaitError ReadyStatus → BatchReply
  | .ok status => .ready status
  | .error .bufferLimit => .bufferLimit
  | .error _ => .failed

/-- A batch that must leave the backend `Idle` succeeds only with that status. -/
theorem eq_idle_of_executeToIdle {backend backend' : Backend}
    {result : Except AwaitError ReadyStatus}
    (h : executeToIdle backend (batchReply result) = .ok backend') : result = .ok .idle := by
  cases result with
  | ok status =>
    simp only [executeToIdle, batchReply, executeBackendBatch] at h
    split at h
    · rename_i hidle
      exact congrArg Except.ok hidle
    · cases h
  | error e => cases e <;> cases h

/-! ### What has been read -/

theorem lastReady_append (frames later : List BackendFrame) :
    lastReady (frames ++ later) = (lastReady later).or (lastReady frames) := by
  rw [lastReady, filterMap_append, getLast?_append]
  rfl

variable {frames : List BackendFrame} {read : BackendRead} {r : BatchResponse}

/-- Frames without a last ready status have none at all. -/
theorem lastReady_eq_none_iff :
    lastReady frames = none ↔ ∀ frame ∈ frames, frame.readyStatus = none := by
  rw [lastReady, getLast?_eq_none_iff, filterMap_eq_nil_iff]

variable {maxBytes : Nat} {buffer rest : List Byte} {chunks : List (List Byte)}

/-- A turn that goes on has seen no ReadyForQuery. -/
theorem awaitTurn_inl (h : awaitTurn maxBytes buffer read = .inl rest) :
    ∃ bytes frames, read = some bytes ∧ parseBackendFrames (buffer ++ bytes) = .ok (frames, rest) ∧
      lastReady frames = none := by
  unfold awaitTurn at h
  split at h
  · cases h
  · cases h
  · rename_i byte bytes
    dsimp only at h
    split at h
    · cases h
    · split at h
      · cases h
      · rename_i frames _ hparse
        split at h
        · cases h
        · rename_i hnone
          split at h
          · cases h
          · obtain rfl := Sum.inl.inj h
            exact ⟨byte :: bytes, frames, rfl, hparse, hnone⟩

variable {status : ReadyStatus} {unread : List BackendRead} {responses : List BatchResponse}

/-- A turn that returns a status has seen it last. -/
theorem awaitTurn_ok (h : awaitTurn maxBytes buffer read = .inr (.ok status)) :
    ∃ bytes frames rest, read = some bytes ∧
      parseBackendFrames (buffer ++ bytes) = .ok (frames, rest) ∧
      lastReady frames = some status := by
  unfold awaitTurn at h
  split at h
  · cases h
  · cases h
  · rename_i byte bytes
    dsimp only at h
    split at h
    · cases h
    · split at h
      · cases h
      · rename_i frames rest hparse
        split at h
        · rename_i hstatus
          obtain rfl := Except.ok.inj (Sum.inr.inj h)
          exact ⟨byte :: bytes, frames, rest, rfl, hparse, hstatus⟩
        · split at h <;> cases h

/-- A wait that returns a status is the loop. -/
theorem foldUntil_of_await_ok {reads : List BackendRead}
    (h : awaitReadyStatus maxBytes reads = .inr (.ok status, unread)) :
    foldUntil (awaitTurn maxBytes) [] reads = .inr (.ok status, unread) := by
  unfold awaitReadyStatus at h
  split at h
  · cases h
  · exact h

/-- **A wait that goes on** has seen no ReadyForQuery in all it has read. -/
theorem await_inl (hbuffer : parseBackendFrames buffer = .ok ([], buffer))
    (h : foldUntil (awaitTurn maxBytes) buffer (chunks.map some) = .inl rest) :
    ∃ frames, parseBackendFrames (buffer ++ chunks.flatten) = .ok (frames, rest) ∧
      lastReady frames = none := by
  induction chunks generalizing buffer with
  | nil =>
    obtain rfl := Sum.inl.inj h
    exact ⟨[], by rw [flatten_nil, append_nil]; exact hbuffer, rfl⟩
  | cons chunk chunks ih =>
    rw [map_cons, foldUntil] at h
    cases hturn : awaitTurn maxBytes buffer (some chunk) with
    | inr result =>
      rw [hturn] at h
      cases h
    | inl buffer' =>
      rw [hturn] at h
      obtain ⟨bytes, frames, hread, hparse, hnone⟩ := awaitTurn_inl hturn
      obtain rfl := Option.some.inj hread
      obtain ⟨later, hlater, hlaterNone⟩ := ih (parseBackendFrames_rest hparse) h
      refine ⟨frames ++ later, ?_, ?_⟩
      · rw [flatten_cons, ← append_assoc, parseBackendFrames_append hparse, hlater]
        rfl
      · rw [lastReady_append, hnone, hlaterNone]
        rfl

/-- **A wait that returns a status** has seen it last in all it has read. -/
theorem await_ok (h : awaitReadyStatus maxBytes (chunks.map some) = .inr (.ok status, unread)) :
    ∃ taken left frames rest, chunks = taken ++ left ∧ unread = left.map some ∧
      parseBackendFrames taken.flatten = .ok (frames, rest) ∧ lastReady frames = some status := by
  obtain ⟨before, read, buffer, hreads, hbefore, hlast⟩ :=
    foldUntil_eq_inr _ (foldUntil_of_await_ok h)
  obtain ⟨taken, left', rfl, rfl, hleft'⟩ := map_eq_append_iff.1 hreads
  obtain ⟨bytes, left, rfl, rfl, rfl⟩ := map_eq_cons_iff.1 hleft'
  obtain ⟨frames, hparse, hnone⟩ := await_inl rfl hbefore
  obtain ⟨bytes', later, rest, hread, hlater, hstatus⟩ := awaitTurn_ok hlast
  obtain rfl := Option.some.inj hread
  refine ⟨taken ++ [bytes], left, frames ++ later, rest, ?_, rfl, ?_, ?_⟩
  · rw [append_assoc, singleton_append]
  · rw [flatten_append, flatten_singleton]
    rw [nil_append] at hparse
    rw [parseBackendFrames_append hparse, hlater]
    rfl
  · rw [lastReady_append, hstatus]
    rfl

/-! ### Responses -/

/-- A response: whole frames, and behind them its only ReadyForQuery. -/
structure BatchResponse where
  bytes : List Byte
  frames : List BackendFrame
  ready : BackendFrame
  status : ReadyStatus
  parses : parseBackendFrames bytes = .ok (frames ++ [ready], [])
  ready_status : ready.readyStatus = some status
  not_ready : ∀ frame ∈ frames, frame.readyStatus = none

namespace BatchResponse

/-- The statement was answered with an ErrorResponse. -/
def failed (r : BatchResponse) : Bool := r.frames.any (·.hasTag .errorResponse)

/-- The frames of the response, its ReadyForQuery among them. -/
def allFrames (r : BatchResponse) : List BackendFrame := r.frames ++ [r.ready]

theorem lastReady_allFrames (r : BatchResponse) : lastReady r.allFrames = some r.status := by
  have hready : lastReady [r.ready] = some r.status := by
    rw [lastReady, filterMap_cons_some r.ready_status]
    rfl
  rw [allFrames, lastReady_append, hready]
  rfl

/-- Part of a response, without its end, holds no ReadyForQuery. -/
theorem lastReady_of_append {r : BatchResponse} {first more : List Byte}
    {frames : List BackendFrame} {rest : List Byte} (hsplit : first ++ more = r.bytes)
    (hmore : more ≠ []) (hparse : parseBackendFrames first = .ok (frames, rest)) :
    lastReady frames = none := by
  have hwhole := r.parses
  rw [← hsplit] at hwhole
  obtain ⟨frames', left, later, hfirst, hlater, hframes⟩ := parseBackendFrames_split hwhole
  obtain ⟨rfl, rfl⟩ := Prod.mk.inj (Except.ok.inj (hparse.symm.trans hfirst))
  have hne : later ≠ [] := by
    rintro rfl
    have hnil := eq_of_parse_nil hlater
    exact hmore (append_eq_nil_iff.1 hnil.symm).2
  -- the last of the frames is still to come, so the first ones are none but those before it
  obtain ⟨before, last, rfl⟩ : ∃ before last, later = before ++ [last] :=
    ⟨_, _, (dropLast_append_getLast hne).symm⟩
  rw [← append_assoc] at hframes
  obtain ⟨hbefore, -⟩ := append_inj' hframes rfl
  refine lastReady_eq_none_iff.2 fun frame hframe => r.not_ready frame ?_
  rw [hbefore]
  exact mem_append_left _ hframe

end BatchResponse

/-- The stream of several responses. -/
def replyStream (responses : List BatchResponse) : List Byte :=
  responses.flatMap BatchResponse.bytes

theorem parse_replyStream (responses : List BatchResponse) :
    parseBackendFrames (replyStream responses) =
      .ok (responses.flatMap BatchResponse.allFrames, []) := by
  induction responses with
  | nil => rfl
  | cons r responses ih =>
    rw [replyStream, flatMap_cons, parseBackendFrames_append r.parses, nil_append]
    replace ih : parseBackendFrames (responses.flatMap BatchResponse.bytes) = _ := ih
    rw [ih]
    rfl

theorem lastReady_flatMap (responses : List BatchResponse) :
    lastReady (responses.flatMap BatchResponse.allFrames) =
      responses.getLast?.map BatchResponse.status := by
  induction responses using reverseRecOn with
  | nil => rfl
  | append_singleton responses r _ =>
    rw [flatMap_append, flatMap_singleton, lastReady_append, r.lastReady_allFrames, getLast?_concat]
    rfl

/-- **A part of the stream holds a ReadyForQuery exactly if it holds the first response.** -/
theorem lastReady_eq_none_iff_length_lt {first more rest : List Byte}
    (hsplit : first ++ more = replyStream (r :: responses))
    (hparse : parseBackendFrames first = .ok (frames, rest)) :
    lastReady frames = none ↔ first.length < r.bytes.length := by
  rcases append_eq_append_iff.1 hsplit with ⟨left, hleft, -⟩ | ⟨left, hleft, -⟩
  · by_cases hnil : left = []
    · obtain rfl := hnil
      rw [append_nil] at hleft
      subst hleft
      obtain ⟨rfl, -⟩ := Prod.mk.inj (Except.ok.inj (hparse.symm.trans r.parses))
      have hsome := r.lastReady_allFrames
      rw [BatchResponse.allFrames] at hsome
      rw [hsome]
      exact ⟨nofun, fun h => absurd h (Nat.lt_irrefl _)⟩
    · have hlength := congrArg length hleft
      rw [length_append] at hlength
      have hpos := length_pos_of_ne_nil hnil
      refine ⟨fun _ => by omega, fun _ => ?_⟩
      exact BatchResponse.lastReady_of_append hleft.symm hnil hparse
  · subst hleft
    rw [parseBackendFrames_append r.parses, nil_append] at hparse
    have hlength : ¬ (r.bytes ++ left).length < r.bytes.length := by
      rw [length_append]
      omega
    cases hlater : parseBackendFrames left with
    | error e =>
      rw [hlater] at hparse
      cases hparse
    | ok parsed =>
      rw [hlater] at hparse
      cases hparse
      have hsome := r.lastReady_allFrames
      rw [BatchResponse.allFrames] at hsome
      refine ⟨fun hnone => ?_, fun h => absurd h hlength⟩
      rw [lastReady_append, Option.or_eq_none_iff, hsome] at hnone
      exact absurd hnone.2 nofun

/-! ### What a wait leaves unread -/

/-- The reads before the last hold no ReadyForQuery. -/
def QuietBefore (chunks : List (List Byte)) : Prop :=
  ∃ frames rest, parseBackendFrames chunks.dropLast.flatten = .ok (frames, rest) ∧
    lastReady frames = none

/-- **A wait that returns a status has read everything** exactly if the reads before the last hold
no ReadyForQuery. -/
theorem await_unread_eq_nil_iff
    (h : awaitReadyStatus maxBytes (chunks.map some) = .inr (.ok status, unread)) :
    unread = [] ↔ QuietBefore chunks := by
  refine ⟨fun hunread => ?_, fun ⟨frames, rest, hparse, hnone⟩ => ?_⟩
  · obtain ⟨buffer, hwaits⟩ :=
      (foldUntil_rest_eq_nil_iff _ (foldUntil_of_await_ok h)).1 hunread
    rw [← map_dropLast] at hwaits
    obtain ⟨frames, hparse, hnone⟩ := await_inl rfl hwaits
    exact ⟨frames, buffer, hparse, hnone⟩
  · obtain ⟨taken, left, seen, rest', rfl, rfl, hseen, hstatus⟩ := await_ok h
    by_contra hleft
    have hne : left ≠ [] := fun hnil => hleft (by rw [hnil]; rfl)
    -- what the wait has read is part of the reads before the last
    rw [dropLast_append_of_ne_nil hne, flatten_append] at hparse
    obtain ⟨first, _, later, hfirst, -, rfl⟩ := parseBackendFrames_split hparse
    obtain ⟨rfl, -⟩ := Prod.mk.inj (Except.ok.inj (hseen.symm.trans hfirst))
    rw [lastReady_append, Option.or_eq_none_iff, hstatus] at hnone
    exact absurd hnone.2 nofun

/-- The reads before the last are part of the stream. -/
theorem dropLast_flatten_append {α : Type*} (lists : List (List α)) :
    ∃ last, lists.dropLast.flatten ++ last = lists.flatten := by
  induction lists using reverseRecOn with
  | nil => exact ⟨[], rfl⟩
  | append_singleton lists list _ =>
    exact ⟨list, by rw [dropLast_concat, flatten_append, flatten_singleton]⟩

/-- The reads of a stream of responses are quiet before the last if they are shorter than the first
response. -/
theorem quietBefore_iff (hsplit : chunks.flatten = replyStream (r :: responses)) :
    QuietBefore chunks ↔ chunks.dropLast.flatten.length < r.bytes.length := by
  obtain ⟨last, hlast⟩ := dropLast_flatten_append chunks
  rw [hsplit] at hlast
  have hwhole := parse_replyStream (r :: responses)
  rw [← hlast] at hwhole
  obtain ⟨frames, rest, -, hparse, -, -⟩ := parseBackendFrames_split hwhole
  rw [← lastReady_eq_none_iff_length_lt hlast hparse]
  refine ⟨fun ⟨frames', rest', hparse', hnone⟩ => ?_, fun hnone => ⟨frames, rest, hparse, hnone⟩⟩
  obtain ⟨rfl, -⟩ := Prod.mk.inj (Except.ok.inj (hparse.symm.trans hparse'))
  exact hnone

/-- A wait that has read all responses returns the status of the last. -/
theorem await_status_of_unread_nil (hsplit : chunks.flatten = replyStream responses)
    (h : awaitReadyStatus maxBytes (chunks.map some) = .inr (.ok status, [])) :
    responses.getLast?.map BatchResponse.status = some status := by
  obtain ⟨taken, left, frames, rest, rfl, hleft, hparse, hstatus⟩ := await_ok h
  obtain rfl : left = [] := map_eq_nil_iff.1 hleft.symm
  rw [append_nil] at hsplit
  rw [hsplit, parse_replyStream] at hparse
  cases hparse
  rw [← lastReady_flatMap, hstatus]

/-! ### Batches -/

/-- A Query frame of a batch, by its SQL, and the response to it. -/
abbrev BatchQuery := Text × BatchResponse

/-- The reply stream of a batch. -/
def batchStream (batch : List BatchQuery) : List Byte := replyStream (batch.map Prod.snd)

/-- The status the backend is in when it has answered the whole batch. -/
def batchStatus (batch : List BatchQuery) : Option ReadyStatus :=
  batch.getLast?.map fun q => q.2.status

/-- **When a batch is synchronous.** `execute_backend_batch` has read all the responses of the
batch when it returns a status, and returns `Idle` only if no query of the batch has failed, exactly
if the reads before the last are shorter than the first response, and no query has failed unless
the backend is not idle in the end. -/
theorem batch_synchronous_iff {maxBytes : Nat} {q : BatchQuery} {batch : List BatchQuery}
    {chunks : List (List Byte)} {status : ReadyStatus} {unread : List BackendRead}
    (hsplit : chunks.flatten = batchStream (q :: batch))
    (h : awaitReadyStatus maxBytes (chunks.map some) = .inr (.ok status, unread)) :
    (unread = [] ∧ (status = .idle → ∀ p ∈ q :: batch, p.2.failed = false)) ↔
      chunks.dropLast.flatten.length < q.2.bytes.length ∧
        (batchStatus (q :: batch) = some .idle → ∀ p ∈ q :: batch, p.2.failed = false) := by
  have hquiet : QuietBefore chunks ↔ chunks.dropLast.flatten.length < q.2.bytes.length :=
    quietBefore_iff hsplit
  rw [await_unread_eq_nil_iff h, hquiet]
  refine and_congr_right fun hshort => ?_
  -- all responses have been read, so the status is that of the last
  have hunread : unread = [] := (await_unread_eq_nil_iff h).2 (hquiet.2 hshort)
  have hstatus := await_status_of_unread_nil hsplit (hunread ▸ h)
  rw [getLast?_map, Option.map_map] at hstatus
  have heq : batchStatus (q :: batch) = some status := hstatus
  rw [heq, Option.some.injEq]

/-- The response to a `SET`: CommandComplete and ReadyForQuery. -/
def setResponse : BatchResponse where
  bytes := [67, 0, 0, 0, 8, 83, 69, 84, 0] ++ readyForQuery .idle
  frames := [⟨67, [83, 69, 84, 0]⟩]
  ready := ⟨90, [73]⟩
  status := .idle
  parses := by decide +kernel
  ready_status := readyStatus_idle
  not_ready := forall_mem_singleton.2 (by decide)

/-- The response to a query that fails. -/
def errorResponse : BatchResponse where
  bytes := [69, 0, 0, 0, 5, 0] ++ readyForQuery .idle
  frames := [⟨69, [0]⟩]
  ready := ⟨90, [73]⟩
  status := .idle
  parses := by decide +kernel
  ready_status := by decide
  not_ready := forall_mem_singleton.2 (by decide)

/-- A replay of two settings. -/
def twoSettings : List BatchQuery := [("SET a = 1", setResponse), ("SET b = 2", setResponse)]

/-- Both responses arrive before the wait has read the first. -/
theorem batch_synchronous_readTogether :
    awaitReadyStatus 1024 ([[67, 0, 0, 0, 8], [83, 69, 84, 0] ++ readyForQuery .idle ++
      setResponse.bytes].map some) = .inr (.ok .idle, []) ∧
    ∀ p ∈ twoSettings, p.2.failed = false := by
  have hrun : awaitReadyStatus 1024 ([[67, 0, 0, 0, 8], [83, 69, 84, 0] ++ readyForQuery .idle ++
      setResponse.bytes].map some) = .inr (.ok .idle, []) := by decide +kernel
  have hsplit : [[67, 0, 0, 0, 8], [83, 69, 84, 0] ++ readyForQuery .idle ++
      setResponse.bytes].flatten = batchStream twoSettings := by decide +kernel
  exact ⟨hrun, ((batch_synchronous_iff hsplit hrun).2 (by decide +kernel)).2 rfl⟩

/-- **A replay that is not synchronous.** The responses arrive one by one: the second is unread when
the batch returns. And a setting that fails leaves the backend `Idle`, which is all the replay asks
for. -/
theorem batch_returns_early :
    (awaitReadyStatus 1024 [some setResponse.bytes, some setResponse.bytes] =
      .inr (.ok .idle, [some setResponse.bytes]) ∧
      setResponse.bytes ++ setResponse.bytes = batchStream twoSettings) ∧
    awaitReadyStatus 1024 [some errorResponse.bytes] = .inr (.ok .idle, []) ∧
      errorResponse.bytes = batchStream [("SET c = 3", errorResponse)] ∧
      errorResponse.failed = true := by
  refine ⟨⟨by decide +kernel, by decide +kernel⟩, by decide +kernel, by decide +kernel, by decide⟩

end PgKinetic
