import PgKinetic.Cluster.Lsn
import PgKinetic.Proxy.AwaitReady
import PgKinetic.Proxy.ClientSession
import PgKinetic.Wire.Reader

/-!
# The freshness probe and the backend it leaves

After a committed write `finish_ready_backend` asks the backend for its position in the log.
`probe_read_after_write_requirement` returns with the position at ReadyForQuery, but gives up
before that on an ErrorResponse, on a row it cannot read, over the buffer budget, at the end of the
stream and when its time is up. The caller then marks the freshness unknown and goes on as if the
response had been read: the backend is released or kept, unless the session is to be reset, and then
the reset query waits for the first ReadyForQuery that comes, whose ever it is.
-/

namespace PgKinetic

open Framing List

/-! ### The probe -/

/-- How the probe gives up. -/
inductive FreshnessError where
  | bufferLimit
  | read
  | disconnected
  | wire (error : WireError)
  | notUtf8
  | lsn (error : LsnParseError)
  | errorResponse
  | noLsn
  deriving DecidableEq, Repr

/-- `parse_read_after_write_lsn`: the first column. -/
def parseReadAfterWriteLsn : List Byte → Except FreshnessError (Option PgLsn)
  | c₀ :: c₁ :: b₀ :: b₁ :: b₂ :: b₃ :: payload =>
    let length := i32FromBytes b₀ b₁ b₂ b₃
    if i16FromBytes c₀ c₁ ≤ 0 ∨ length < 0 ∨ payload.length < length.toNat then .ok none
    else
      match decodeUtf8 (payload.take length.toNat) with
      | none => .error .notUtf8
      | some value =>
        match PgLsn.fromStr value with
        | .ok lsn => .ok (some lsn)
        | .error e => .error (.lsn e)
  | _ => .ok none

/-- The probe on one frame. -/
def freshnessFrame (lsn : Option PgLsn) (frame : BackendFrame) :
    Option PgLsn ⊕ Except FreshnessError PgLsn :=
  if frame.hasTag .dataRow && lsn.isNone then
    match parseReadAfterWriteLsn frame.payload with
    | .ok lsn => .inl lsn
    | .error e => .inr (.error e)
  else if frame.hasTag .errorResponse then .inr (.error .errorResponse)
  else if frame.hasTag .readyForQuery then
    match lsn with
    | some lsn => .inr (.ok lsn)
    | none => .inr (.error .noLsn)
  else .inl lsn

/-- The variables of the probe's loop. -/
abbrev FreshnessState := Reading (Option PgLsn)

/-- One turn of the probe's loop. -/
def freshnessTurn (maxBackendBufferBytes : Nat) (st : FreshnessState) :
    BackendRead → FreshnessState ⊕ Except FreshnessError PgLsn
  | none => .inr (.error .read)
  | some [] => .inr (.error .disconnected)
  | some (byte :: bytes) =>
    match readTurn (some maxBackendBufferBytes) freshnessFrame st (byte :: bytes) with
    | .inl st => .inl st
    | .inr .limit => .inr (.error .bufferLimit)
    | .inr (.wire e) => .inr (.error (.wire e))
    | .inr (.done result) => .inr result

/-- `probe_read_after_write_requirement` on the reads until its time is up. -/
def freshnessProbe (maxBackendBufferBytes : Nat) (reads : List BackendRead) :
    FreshnessState ⊕ (Except FreshnessError PgLsn × List BackendRead) :=
  if maxBackendBufferBytes = 0 then .inr (.error .bufferLimit, reads)
  else foldUntil (freshnessTurn maxBackendBufferBytes) ⟨none, []⟩ reads

/-- What the caller makes of the probe: a position, or nothing. -/
def probedLsn : FreshnessState ⊕ (Except FreshnessError PgLsn × List BackendRead) → Option PgLsn
  | .inr (.ok lsn, _) => some lsn
  | _ => none

/-! ### The bytes it has read -/

/-- The bytes of reads. -/
def bytesOf (reads : List BackendRead) : List Byte := (reads.map fun read => read.getD []).flatten

/-- The reads the probe has made. -/
def probeTaken (maxBackendBufferBytes : Nat) (reads : List BackendRead) : List BackendRead :=
  match freshnessProbe maxBackendBufferBytes reads with
  | .inl _ => reads
  | .inr (_, unread) => reads.take (reads.length - unread.length)

/-- What the backend answers once the cycle is over: to the probe, and to the reset query if there
is one. -/
structure FreshnessEnv where
  response : BatchResponse
  /-- The probe's reads, until its time is up. -/
  reads : List BackendRead
  reset : BatchResponse
  /-- The reads of the reset query. -/
  resetReads : List (List Byte)

namespace FreshnessEnv

variable (env : FreshnessEnv) (maxBackendBufferBytes : Nat)

/-- What the probe has not read of its response. -/
def left : List Byte :=
  env.response.bytes.drop (bytesOf (probeTaken maxBackendBufferBytes env.reads)).length

/-- The reads are those of the responses: the probe reads of its own, and the reset query what the
probe has left and then its own. -/
structure Conforms : Prop where
  response : ∃ missing, bytesOf env.reads ++ missing = env.response.bytes
  reset : env.resetReads.flatten = env.left maxBackendBufferBytes ++ env.reset.bytes
  nonempty : ∀ chunk ∈ env.resetReads, chunk ≠ []

/-- The wait of the reset query. -/
def resetWait : List Byte ⊕ (Except AwaitError ReadyStatus × List BackendRead) :=
  awaitReadyStatus maxBackendBufferBytes (env.resetReads.map some)

/-- The environment of the cleanup. -/
def dispose : DisposeEnv where
  cleanup :=
    match env.resetWait maxBackendBufferBytes with
    | .inl _ => .failed
    | .inr (result, _) => batchReply result

end FreshnessEnv

/-- The cleanup `finish_ready_backend` decides on after a probe. -/
def probedAction (cfg : SessionConfig) (st : SessionState) (env : FreshnessEnv) : CleanupAction :=
  readyAction cfg
    { st with
      session := readySession cfg st.session .idle true
        (probedLsn (freshnessProbe cfg.maxBackendBufferBytes env.reads)) }
    .idle

/-- `finish_ready_backend` after a committed write, with the probe. -/
def finishProbed (cfg : SessionConfig) (st : SessionState) (backend : Backend)
    (env : FreshnessEnv) : Outcome :=
  finishReadyBackend cfg st backend .idle true
    (probedLsn (freshnessProbe cfg.maxBackendBufferBytes env.reads))
    (env.dispose cfg.maxBackendBufferBytes)

/-- What is left on the connection of the replies to the probe and to the reset query. -/
def outstanding (cfg : SessionConfig) (st : SessionState) (env : FreshnessEnv) : List Byte :=
  match probedAction cfg st env with
  | .resetThenReuse =>
    match env.resetWait cfg.maxBackendBufferBytes with
    | .inl _ => []
    | .inr (_, unread) => bytesOf unread
  | _ => env.left cfg.maxBackendBufferBytes

/-- The backend is released or kept. -/
def Outcome.KeepsBackend (outcome : Outcome) : Prop :=
  ∀ id, SessionEvent.discarded id ∉ outcome.events

/-! ### When the probe reads its response -/

/-- The rows are readable up to the first that has a position. -/
def RowsReadable : List BackendFrame → Prop
  | [] => True
  | frame :: frames =>
    if frame.hasTag .dataRow then
      match parseReadAfterWriteLsn frame.payload with
      | .ok none => RowsReadable frames
      | .ok (some _) => True
      | .error _ => False
    else RowsReadable frames

/-- Frames that do not end a probe which has seen no position yet. -/
structure Uneventful (frames : List BackendFrame) : Prop where
  quiet : ∀ frame ∈ frames,
    frame.hasTag .errorResponse = false ∧ frame.hasTag .readyForQuery = false
  rows : RowsReadable frames

/-- The whole response comes in time, and what comes before the last read of it does not end the
probe. -/
structure ReadsResponse (maxBackendBufferBytes : Nat) (env : FreshnessEnv)
    (chunks : List (List Byte)) (after : List BackendRead) : Prop where
  reads : env.reads = chunks.map some ++ after
  whole : chunks.flatten = env.response.bytes
  nonempty : ∀ chunk ∈ chunks, chunk ≠ []
  pos : 0 < maxBackendBufferBytes
  budget : Within (some maxBackendBufferBytes) [] chunks.dropLast
  frames : ∃ frames rest, parseBackendFrames chunks.dropLast.flatten = .ok (frames, rest) ∧
    Uneventful frames

/-- Whether `finish_ready_backend` resets the session. -/
def resetsAfterReady (cfg : SessionConfig) (st : SessionState) : Prop :=
  readyAction cfg { st with session := st.session.markReadyAfterCopy } .idle = .resetThenReuse

section Reads

variable {maxBytes : Nat} {st : FreshnessState} {chunks : List (List Byte)}

/-- **The frames a probe goes through.** -/
theorem foldUntil_freshnessFrame_iff {lsn : Option PgLsn} {frames : List BackendFrame} :
    (∃ lsn', foldUntil freshnessFrame lsn frames = .inl lsn') ↔
      (∀ frame ∈ frames,
        frame.hasTag .errorResponse = false ∧ frame.hasTag .readyForQuery = false) ∧
      (lsn = none → RowsReadable frames) := by
  induction frames generalizing lsn with
  | nil => exact ⟨fun _ => ⟨forall_mem_nil _, fun _ => trivial⟩, fun _ => ⟨lsn, rfl⟩⟩
  | cons frame frames ih =>
    rw [foldUntil, forall_mem_cons, RowsReadable, freshnessFrame.eq_def]
    cases hdata : frame.hasTag .dataRow with
    | true =>
      have herror := BackendFrame.hasTag_eq_false hdata .errorResponse (by decide)
      have hready := BackendFrame.hasTag_eq_false hdata .readyForQuery (by decide)
      cases lsn with
      | none =>
        rw [herror, hready]
        cases hrow : parseReadAfterWriteLsn frame.payload with
        | error e => simp
        | ok lsn =>
          cases lsn with
          | none => simpa using @ih none
          | some lsn => simpa using @ih (some lsn)
      | some lsn =>
        rw [herror, hready]
        simpa using @ih (some lsn)
    | false =>
      cases herror : frame.hasTag .errorResponse with
      | true => simp
      | false =>
        cases hready : frame.hasTag .readyForQuery with
        | true => cases lsn <;> simp
        | false => simpa using @ih lsn

variable {st' : FreshnessState}

/-- A turn that goes on. -/
theorem freshnessTurn_eq_inl_iff {read : BackendRead} :
    freshnessTurn maxBytes st read = .inl st' ↔ ∃ chunk, read = some chunk ∧ chunk ≠ [] ∧
      readTurn (some maxBytes) freshnessFrame st chunk = .inl st' := by
  constructor
  · intro h
    unfold freshnessTurn at h
    split at h
    · cases h
    · cases h
    · rename_i byte bytes
      split at h
      · rename_i hturn
        obtain rfl := Sum.inl.inj h
        exact ⟨byte :: bytes, rfl, cons_ne_nil _ _, hturn⟩
      all_goals cases h
  · rintro ⟨chunk, rfl, hne, hturn⟩
    obtain ⟨byte, bytes, rfl⟩ := exists_cons_of_ne_nil hne
    rw [freshnessTurn, hturn]

/-- The reads a probe goes through have all brought bytes. -/
theorem foldUntil_freshnessTurn_iff :
    foldUntil (freshnessTurn maxBytes) st (chunks.map some) = .inl st' ↔
      (∀ chunk ∈ chunks, chunk ≠ []) ∧
        foldUntil (readTurn (some maxBytes) freshnessFrame) st chunks = .inl st' := by
  induction chunks generalizing st with
  | nil =>
    refine ⟨fun h => ⟨nofun, congrArg Sum.inl (Sum.inl.inj h)⟩, fun h => ?_⟩
    exact congrArg Sum.inl (Sum.inl.inj h.2)
  | cons chunk chunks ih =>
    rw [map_cons, foldUntil, foldUntil, forall_mem_cons]
    constructor
    · intro h
      cases hturn : freshnessTurn maxBytes st (some chunk) with
      | inr result =>
        rw [hturn] at h
        cases h
      | inl st₁ =>
        rw [hturn] at h
        obtain ⟨_, hread, hne, hread₁⟩ := freshnessTurn_eq_inl_iff.1 hturn
        obtain rfl := Option.some.inj hread
        obtain ⟨hnonempty, hlater⟩ := ih.1 h
        rw [hread₁]
        exact ⟨⟨hne, hnonempty⟩, hlater⟩
    · rintro ⟨⟨hne, hnonempty⟩, h⟩
      cases hturn : readTurn (some maxBytes) freshnessFrame st chunk with
      | inr result =>
        rw [hturn] at h
        cases h
      | inl st₁ =>
        rw [hturn] at h
        rw [freshnessTurn_eq_inl_iff.2 ⟨chunk, rfl, hne, hturn⟩]
        exact ih.2 ⟨hnonempty, h⟩

/-- **The reads a probe goes through.** -/
theorem freshness_waits_iff :
    (∃ st', foldUntil (freshnessTurn maxBytes) ⟨none, []⟩ (chunks.map some) = .inl st') ↔
      (∀ chunk ∈ chunks, chunk ≠ []) ∧ Within (some maxBytes) [] chunks ∧
      ∃ frames rest, parseBackendFrames chunks.flatten = .ok (frames, rest) ∧
        Uneventful frames := by
  constructor
  · rintro ⟨st', h⟩
    obtain ⟨hnonempty, hloop⟩ := foldUntil_freshnessTurn_iff.1 h
    obtain ⟨hwithin, frames, hparse, hframes⟩ := (foldUntil_readTurn_iff rfl).1 hloop
    obtain ⟨hquiet, hrows⟩ := foldUntil_freshnessFrame_iff.1 ⟨_, hframes⟩
    exact ⟨hnonempty, hwithin, frames, _, hparse, hquiet, hrows rfl⟩
  · rintro ⟨hnonempty, hwithin, frames, rest, hparse, hquiet, hrows⟩
    obtain ⟨lsn, hframes⟩ := foldUntil_freshnessFrame_iff.2 ⟨hquiet, fun _ => hrows⟩
    refine ⟨⟨lsn, rest⟩, foldUntil_freshnessTurn_iff.2 ⟨hnonempty, ?_⟩⟩
    exact (foldUntil_readTurn_iff rfl).2 ⟨hwithin, frames, hparse, hframes⟩

/-- No read a probe goes through has failed. -/
theorem exists_chunks_of_waits {reads : List BackendRead}
    (h : foldUntil (freshnessTurn maxBytes) st reads = .inl st') :
    ∃ chunks : List (List Byte), reads = chunks.map some := by
  induction reads generalizing st with
  | nil => exact ⟨[], rfl⟩
  | cons read reads ih =>
    rw [foldUntil] at h
    cases hturn : freshnessTurn maxBytes st read with
    | inr result =>
      rw [hturn] at h
      cases h
    | inl st₁ =>
      rw [hturn] at h
      obtain ⟨chunk, rfl, -⟩ := freshnessTurn_eq_inl_iff.1 hturn
      obtain ⟨chunks, rfl⟩ := ih h
      exact ⟨chunk :: chunks, rfl⟩

/-- A probe that goes through reads goes through all but the last. -/
theorem waits_dropLast (h : foldUntil (freshnessTurn maxBytes) st (chunks.map some) = .inl st') :
    ∃ st₁, foldUntil (freshnessTurn maxBytes) st (chunks.dropLast.map some) = .inl st₁ := by
  rcases eq_nil_or_concat' chunks with rfl | ⟨chunks, chunk, rfl⟩
  · exact ⟨st', h⟩
  · rw [dropLast_concat]
    rw [map_append] at h
    obtain ⟨st₁, hfirst, -⟩ := foldUntil_inl_of_append _ h
    exact ⟨st₁, hfirst⟩

end Reads

/-! ### What is left -/

theorem bytesOf_append (reads more : List BackendRead) :
    bytesOf (reads ++ more) = bytesOf reads ++ bytesOf more := by
  rw [bytesOf, map_append, flatten_append]
  rfl

theorem bytesOf_map_some (chunks : List (List Byte)) :
    bytesOf (chunks.map some) = chunks.flatten := by
  rw [bytesOf, map_map]
  exact congrArg List.flatten (map_id' chunks)

theorem BatchResponse.bytes_ne_nil (r : BatchResponse) : r.bytes ≠ [] := by
  intro hnil
  have hparses := r.parses
  rw [hnil] at hparses
  obtain ⟨hframes, -⟩ := Prod.mk.inj (Except.ok.inj hparses)
  exact append_ne_nil_of_right_ne_nil _ (cons_ne_nil _ _) hframes.symm

section Left

variable {maxBytes : Nat} {reads unread : List BackendRead}

theorem freshnessProbe_of_pos (hpos : 0 < maxBytes) :
    freshnessProbe maxBytes reads = foldUntil (freshnessTurn maxBytes) ⟨none, []⟩ reads :=
  if_neg (Nat.ne_of_gt hpos)

/-- The reads a probe has made are those before the ones it has left. -/
theorem probeTaken_of_inr {taken : List BackendRead} {result : Except FreshnessError PgLsn}
    (h : freshnessProbe maxBytes (taken ++ unread) = .inr (result, unread)) :
    probeTaken maxBytes (taken ++ unread) = taken := by
  rw [probeTaken, h]
  dsimp only
  rw [length_append, Nat.add_sub_cancel]
  exact take_left

/-- **The reads a probe has made**: all but the last of those that brought bytes are reads it has
gone through. -/
theorem exists_probeTaken (hpos : 0 < maxBytes) (reads : List BackendRead) :
    ∃ (chunks : List (List Byte)) (after : List BackendRead), reads = chunks.map some ++ after ∧
      bytesOf (probeTaken maxBytes reads) = chunks.flatten ∧ (∀ chunk ∈ chunks, chunk ≠ []) ∧
      ∃ st, foldUntil (freshnessTurn maxBytes) ⟨none, []⟩ (chunks.dropLast.map some) = .inl st := by
  have hprobe : freshnessProbe maxBytes reads = _ := freshnessProbe_of_pos hpos
  cases hloop : foldUntil (freshnessTurn maxBytes) ⟨none, []⟩ reads with
  | inl st =>
    obtain ⟨chunks, rfl⟩ := exists_chunks_of_waits hloop
    refine ⟨chunks, [], (append_nil _).symm, ?_, (freshness_waits_iff.1 ⟨st, hloop⟩).1,
      waits_dropLast hloop⟩
    rw [probeTaken, hprobe, hloop]
    exact bytesOf_map_some chunks
  | inr stopped =>
    obtain ⟨result, unread⟩ := stopped
    obtain ⟨before, read, st, rfl, hbefore, -⟩ := foldUntil_eq_inr _ hloop
    rw [hloop, append_cons] at hprobe
    have htaken := probeTaken_of_inr hprobe
    rw [← append_cons] at htaken
    obtain ⟨chunks, rfl⟩ := exists_chunks_of_waits hbefore
    have hnonempty := (freshness_waits_iff.1 ⟨st, hbefore⟩).1
    rw [htaken, bytesOf_append, bytesOf_map_some]
    -- the last read counts if it has brought bytes
    by_cases hread : read.getD [] = []
    · refine ⟨chunks, read :: unread, rfl, ?_, hnonempty, waits_dropLast hbefore⟩
      rw [bytesOf, map_singleton, hread, flatten_singleton, append_nil]
    · obtain ⟨chunk, rfl⟩ : ∃ chunk, read = some chunk := by
        cases read with
        | none => exact absurd rfl hread
        | some chunk => exact ⟨chunk, rfl⟩
      refine ⟨chunks ++ [chunk], unread, ?_, ?_, ?_, st, ?_⟩
      · rw [map_append, append_assoc]
        rfl
      · rw [flatten_append]
        rfl
      · exact forall_mem_append.2 ⟨hnonempty, forall_mem_singleton.2 hread⟩
      · rw [dropLast_concat]
        exact hbefore

/-- A probe that goes through the reads before one has made this one too. -/
theorem probeTaken_of_waits (hpos : 0 < maxBytes) {before : List BackendRead} {read : BackendRead}
    {after : List BackendRead} {st : FreshnessState}
    (hbefore : foldUntil (freshnessTurn maxBytes) ⟨none, []⟩ before = .inl st) :
    ∃ more, probeTaken maxBytes (before ++ read :: after) = before ++ read :: more := by
  have hprobe : freshnessProbe maxBytes (before ++ read :: after) = _ := freshnessProbe_of_pos hpos
  rw [foldUntil_append, hbefore] at hprobe
  dsimp only at hprobe
  cases hlater : foldUntil (freshnessTurn maxBytes) st (read :: after) with
  | inl st' =>
    rw [hlater] at hprobe
    rw [probeTaken, hprobe]
    exact ⟨after, rfl⟩
  | inr stopped =>
    obtain ⟨seen, last, -, hreads, -, -⟩ := foldUntil_eq_inr _ hlater
    rw [hlater, hreads, append_cons, ← append_assoc] at hprobe
    have htaken := probeTaken_of_inr hprobe
    rw [hreads, append_cons, ← append_assoc, htaken]
    cases seen with
    | nil =>
      obtain ⟨rfl, -⟩ := cons.inj hreads
      exact ⟨[], rfl⟩
    | cons _ seen =>
      obtain ⟨rfl, -⟩ := cons.inj hreads
      exact ⟨seen ++ [last], rfl⟩

/-- **When nothing is left of the probe's response.** -/
theorem left_eq_nil_iff {env : FreshnessEnv}
    (hresponse : ∃ missing, bytesOf env.reads ++ missing = env.response.bytes) :
    env.left maxBytes = [] ↔ ∃ chunks after, ReadsResponse maxBytes env chunks after := by
  obtain ⟨missing, hmissing⟩ := hresponse
  rw [FreshnessEnv.left, drop_eq_nil_iff]
  constructor
  · intro hall
    have hpos : 0 < maxBytes := by
      refine Nat.pos_of_ne_zero fun hzero => env.response.bytes_ne_nil ?_
      have htaken : probeTaken maxBytes env.reads = [] := by
        rw [probeTaken, freshnessProbe, if_pos hzero]
        dsimp only
        rw [Nat.sub_self, take_zero]
      rw [htaken] at hall
      exact length_eq_zero_iff.1 (Nat.le_zero.1 hall)
    obtain ⟨chunks, after, hreads, hbytes, hnonempty, hwaits⟩ := exists_probeTaken hpos env.reads
    obtain ⟨-, hbudget, hframes⟩ := freshness_waits_iff.1 hwaits
    refine ⟨chunks, after, hreads, ?_, hnonempty, hpos, hbudget, hframes⟩
    rw [hbytes] at hall
    rw [hreads, bytesOf_append, bytesOf_map_some, append_assoc] at hmissing
    have hfirst : chunks.flatten <+: env.response.bytes := ⟨_, hmissing⟩
    exact hfirst.eq_of_length_le hall
  · rintro ⟨chunks, after, h⟩
    obtain ⟨st, hwaits⟩ := freshness_waits_iff.2
      ⟨fun chunk hchunk => h.nonempty chunk (dropLast_subset _ hchunk), h.budget, h.frames⟩
    rcases eq_nil_or_concat' chunks with rfl | ⟨chunks, chunk, rfl⟩
    · exact absurd h.whole.symm env.response.bytes_ne_nil
    · rw [dropLast_concat] at hwaits
      obtain ⟨more, htaken⟩ := probeTaken_of_waits h.pos hwaits
      have hreads := h.reads
      rw [map_append, append_assoc, map_singleton, singleton_append] at hreads
      have hbytes : bytesOf (chunks.map some ++ some chunk :: more) =
          (chunks ++ [chunk]).flatten ++ bytesOf more := by
        rw [← bytesOf_map_some (chunks ++ [chunk]), ← bytesOf_append, map_append, append_assoc]
        rfl
      rw [hreads, htaken, ← h.whole, hbytes, length_append]
      exact Nat.le_add_right _ _

end Left

/-! ### The backend afterwards -/

section Cleanup

variable {cfg : SessionConfig} {st : SessionState} {backend : Backend} {env : FreshnessEnv}

variable (cfg st env) in
/-- What the probe has found makes no difference to the cleanup. -/
theorem probedAction_eq : probedAction cfg st env =
    readyAction cfg { st with session := st.session.markReadyAfterCopy } .idle := by
  unfold probedAction readySession
  split <;> rfl

/-- A backend that is kept after a reset has answered the wait. -/
theorem resetWait_of_keeps (hreset : probedAction cfg st env = .resetThenReuse)
    (hkeeps : (finishProbed cfg st backend env).KeepsBackend) :
    ∃ unread, env.resetWait cfg.maxBackendBufferBytes = .inr (.ok .idle, unread) := by
  have houtcome : finishProbed cfg st backend env = performCleanup cfg _ backend
      (env.dispose cfg.maxBackendBufferBytes) (probedAction cfg st env) := rfl
  rw [houtcome, hreset] at hkeeps
  unfold performCleanup at hkeeps
  dsimp only at hkeeps
  split at hkeeps
  · rename_i hidle
    rw [FreshnessEnv.dispose] at hidle
    split at hidle
    · cases hidle
    · rename_i result unread hwait
      obtain rfl := eq_idle_of_executeToIdle hidle
      exact ⟨unread, hwait⟩
  · exact absurd (mem_append_right _ (mem_singleton_self _)) (hkeeps backend.id)

variable {chunks : List (List Byte)}

/-- Reads that have all brought bytes are none if they have brought none. -/
theorem bytesOf_eq_nil_iff (hnonempty : ∀ chunk ∈ chunks, chunk ≠ []) :
    bytesOf (chunks.map some) = [] ↔ chunks = [] := by
  rw [bytesOf_map_some, flatten_eq_nil_iff]
  refine ⟨fun hempty => eq_nil_iff_forall_not_mem.2 fun chunk hchunk => ?_, ?_⟩
  · exact hnonempty chunk hchunk (hempty chunk hchunk)
  · rintro rfl
    exact nofun

/-- What is outstanding after a reset is what its wait has left. -/
theorem outstanding_of_reset (henv : env.Conforms cfg.maxBackendBufferBytes)
    (hreset : probedAction cfg st env = .resetThenReuse) {unread : List BackendRead}
    (hwait : env.resetWait cfg.maxBackendBufferBytes = .inr (.ok .idle, unread)) :
    outstanding cfg st env = [] ↔ QuietBefore env.resetReads := by
  have hbytes : outstanding cfg st env = bytesOf unread := by
    rw [outstanding, hreset]
    rw [hwait]
  obtain ⟨taken, left, -, -, hchunks, rfl, -, -⟩ := await_ok hwait
  have hnonempty : ∀ chunk ∈ left, chunk ≠ [] := fun chunk hchunk =>
    henv.nonempty chunk (hchunks ▸ mem_append_right _ hchunk)
  rw [hbytes, bytesOf_eq_nil_iff hnonempty, ← await_unread_eq_nil_iff hwait, map_eq_nil_iff]

/-- The reads of one response hold no ReadyForQuery before the last. -/
theorem quietBefore_of_response {r : BatchResponse} (hnonempty : ∀ chunk ∈ chunks, chunk ≠ [])
    (hwhole : chunks.flatten = r.bytes) : QuietBefore chunks := by
  have hsplit : chunks.flatten = replyStream [r] := by rw [hwhole, replyStream, flatMap_singleton]
  rw [quietBefore_iff hsplit, ← hwhole]
  rcases eq_nil_or_concat' chunks with rfl | ⟨chunks, chunk, rfl⟩
  · exact absurd hwhole.symm r.bytes_ne_nil
  · rw [dropLast_concat, flatten_append, flatten_singleton, length_append]
    have hpos := length_pos_of_ne_nil
      (hnonempty chunk (mem_append_right _ (mem_singleton_self _)))
    omega

/-- **When the probe is answered.** Whatever the backend answers to the probe and however that is
divided into reads and cut off by the time: a backend that is kept after the probe has no reply on
its connection exactly if the whole response comes in time and nothing before the last read of it
ends the probe, or the session is reset and the reads of the reset query before the last hold no
ReadyForQuery. -/
theorem probe_answered_iff (henv : env.Conforms cfg.maxBackendBufferBytes)
    (hkeeps : (finishProbed cfg st backend env).KeepsBackend) :
    outstanding cfg st env = [] ↔
      (∃ chunks after, ReadsResponse cfg.maxBackendBufferBytes env chunks after) ∨
        (resetsAfterReady cfg st ∧ QuietBefore env.resetReads) := by
  rw [← left_eq_nil_iff henv.response, resetsAfterReady, ← probedAction_eq cfg st env]
  by_cases hreset : probedAction cfg st env = .resetThenReuse
  · obtain ⟨unread, hwait⟩ := resetWait_of_keeps hreset hkeeps
    rw [outstanding_of_reset henv hreset hwait]
    refine ⟨fun hquiet => .inr ⟨hreset, hquiet⟩, fun hor => ?_⟩
    rcases hor with hleft | ⟨-, hquiet⟩
    · have hsplit := henv.reset
      rw [hleft, nil_append] at hsplit
      exact quietBefore_of_response henv.nonempty hsplit
    · exact hquiet
  · have hleft : outstanding cfg st env = env.left cfg.maxBackendBufferBytes := by
      unfold outstanding
      split
      · rename_i h
        exact absurd h hreset
      · rfl
    rw [hleft]
    exact ⟨.inl, fun hor => hor.elim id fun h => absurd h.1 hreset⟩

end Cleanup

/-- A row with the position `0/10`. -/
def lsnRow : List Byte := [68, 0, 0, 0, 14, 0, 1, 0, 0, 0, 4, 48, 47, 49, 48]

/-- The response to the probe of a primary. -/
def lsnResponse : BatchResponse where
  bytes := lsnRow ++ readyForQuery .idle
  frames := [⟨68, [0, 1, 0, 0, 0, 4, 48, 47, 49, 48]⟩]
  ready := ⟨90, [73]⟩
  status := .idle
  parses := by decide +kernel
  ready_status := readyStatus_idle
  not_ready := List.forall_mem_singleton.2 (by decide)

/-- The row and the ReadyForQuery arrive in a read each. -/
def answeredProbe : FreshnessEnv where
  response := lsnResponse
  reads := [some lsnRow, some (readyForQuery .idle)]
  reset := setResponse
  resetReads := [setResponse.bytes]

/-- The probe is refused, and the ReadyForQuery arrives later. -/
def refusedProbe : FreshnessEnv where
  response := errorResponse
  reads := [some [69, 0, 0, 0, 5, 0], some (readyForQuery .idle)]
  reset := setResponse
  resetReads := [readyForQuery .idle, setResponse.bytes]

/-- A session whose committed writes are probed. -/
def probedConfig : SessionConfig := { readAfterWriteProtection := true }

/-- Whether an outcome keeps the backend can be read off its events. -/
theorem keepsBackend_of_events {outcome : Outcome} {released : Release}
    (h : outcome.events = [.released released]) : outcome.KeepsBackend := by
  intro id hid
  rw [h] at hid
  cases mem_singleton.1 hid

theorem probe_answered_inTwoReads : outstanding probedConfig (.initial 0) answeredProbe = [] := by
  have hrow : parseBackendFrames lsnRow =
      .ok ([⟨68, [0, 1, 0, 0, 0, 4, 48, 47, 49, 48]⟩], []) := by decide +kernel
  have hreads : ReadsResponse probedConfig.maxBackendBufferBytes answeredProbe
      [lsnRow, readyForQuery .idle] [] := by
    refine ⟨rfl, rfl, by decide +kernel, by decide, ⟨by decide +kernel, ?_⟩, ?_⟩
    · intro frames rest hparse
      obtain ⟨-, rfl⟩ := Prod.mk.inj (Except.ok.inj (hrow.symm.trans hparse))
      exact ⟨by decide, trivial⟩
    · exact ⟨_, _, hrow, by decide +kernel, trivial⟩
  have henv : answeredProbe.Conforms probedConfig.maxBackendBufferBytes :=
    ⟨⟨[], by decide +kernel⟩, by decide +kernel, by decide +kernel⟩
  have hkeeps : (finishProbed probedConfig (.initial 0) ⟨7, .idle⟩ answeredProbe).KeepsBackend :=
    keepsBackend_of_events rfl
  exact (probe_answered_iff henv hkeeps).2 (.inl ⟨_, _, hreads⟩)

/-- **A refused probe.** The ErrorResponse arrives in a read of its own. The backend goes back to
the pool with the ReadyForQuery of the probe on its connection. -/
theorem released_with_unread_probe :
    refusedProbe.Conforms probedConfig.maxBackendBufferBytes ∧
    (∃ released, (finishProbed probedConfig (.initial 0) ⟨7, .idle⟩ refusedProbe).events =
      [.released released]) ∧
    outstanding probedConfig (.initial 0) refusedProbe = readyForQuery .idle := by
  refine ⟨⟨⟨[], by decide +kernel⟩, by decide +kernel, by decide +kernel⟩, ⟨_, rfl⟩, ?_⟩
  decide +kernel

end PgKinetic
