import PgKinetic.Engine.FrontendScan
import PgKinetic.Proxy.RelayBytes

/-!
# The client's bytes during a copy

When the backend asks the client for data, `forward_message_cycle` reads the client's socket itself
and writes what it reads to the backend as it is. It reads into a buffer of its own. What the
session has read from the client before, behind the Query that started the copy, is in another
buffer, and stays there until the next cycle.

So the bytes that are written to the backend continue those of the Query only if there was nothing
behind it: if what had been read when the cycle was taken were **Query frames only**.
-/

namespace PgKinetic

open List

/-! ### What is written during the copy -/

/-- The read from the client that a turn of the loop makes, if it makes one whose bytes are then
written to the backend: its bytes, and the reads still to come. -/
def RelayState.copyRead (maxBuffer : Nat) (r : RelayState) (event : WireEvent)
    (unread : List (List Byte)) : List Byte × List (List Byte) :=
  match event, unread with
  | .clientCopyRead .done, bytes :: unread =>
    if r.backendRead.length < maxBuffer ∧ r.clientDrivesCopy = true then (bytes, unread)
    else ([], bytes :: unread)
  | _, unread => ([], unread)

/-- The client's bytes that the loop of `forward_message_cycle` writes to the backend; `unread` are
the reads that the client's bytes come in. -/
def relayUploaded (shape : FrontendCycleShape) (maxBuffer : Nat) :
    RelayState → List WireEvent → (unread : List (List Byte)) → List Byte
  | _, [], _ => []
  | r, event :: events, unread =>
    let (bytes, unread) := r.copyRead maxBuffer event unread
    bytes ++
      match r.onEvent shape maxBuffer event with
      | (_, some _) => []
      | (r, none) => relayUploaded shape maxBuffer r events unread

/-- `parse_simple_query` on the payload of a Query frame. -/
def simpleQuery (payload : List Byte) : FrontendMessage :=
  match if 0 ∈ payload then decodeUtf8 (payload.takeWhile (· != 0)) else none with
  | some sql => .query sql
  | none => .malformed .query

/-- The messages of a cycle of Query frames. -/
def queryMessages (cycle : List Byte) : List FrontendMessage :=
  match parseBackendFrames cycle with
  | .ok (frames, _) => frames.map fun frame => simpleQuery frame.payload
  | .error _ => []

/-- What a cycle is forwarded with: the session, the backend, and what the peers do. -/
structure CopyContext where
  maxBuffer : Nat
  session : VirtualSession
  prepared : PreparedCatalog
  backend : Backend
  backendRead : List Byte
  commands : List SqlCommand
  env : ForwardEnv

/-- The client's bytes that `forward_message_cycle` writes to the backend behind those of the
cycle. -/
def CopyContext.uploaded (ctx : CopyContext) (frames : List FrontendMessage)
    (unread : List (List Byte)) : List Byte :=
  match planFrontendCycle ctx.backend.id ctx.session ctx.prepared ctx.commands frames with
  | none => []
  | some planned =>
    let shape := FrontendCycleShape.fromFrames frames
    if ctx.env.backendWrite = .done ∧ !shape.expectsNoResponse then
      relayUploaded shape ctx.maxBuffer (planned.relayStart ctx.backend ctx.backendRead)
        ctx.env.events unread
    else []

/-- **The upload is in order**: the next cycle being taken from the buffer of the session and the
reads, what is written to the backend during its copy are the client's bytes behind the cycle, from
the first one on. -/
def UploadsInOrder (ctx : CopyContext) (maxClientBuffer : Nat) (buffer : List Byte)
    (reads : List (List Byte)) : Prop :=
  ∀ cycle surplus unread,
    nextClientCycle maxClientBuffer buffer reads = .ok (.frames cycle, surplus, unread) →
    ctx.uploaded (queryMessages cycle) unread <+: (buffer ++ reads.flatten).drop cycle.length

/-! ### What is written was read during the copy -/

theorem RelayState.copyRead_append (maxBuffer : Nat) (r : RelayState) (event : WireEvent)
    (unread : List (List Byte)) :
    (r.copyRead maxBuffer event unread).1 ++ (r.copyRead maxBuffer event unread).2.flatten =
      unread.flatten := by
  unfold RelayState.copyRead
  split
  · split
    · rfl
    · rfl
  · rfl

/-- A step of the upload takes from the front of what was unread, a run does. -/
theorem relayUploaded_prefix (shape : FrontendCycleShape) (maxBuffer : Nat) (r : RelayState)
    (events : List WireEvent) (unread : List (List Byte)) :
    relayUploaded shape maxBuffer r events unread <+: unread.flatten := by
  induction events generalizing r unread with
  | nil => exact nil_prefix
  | cons event events ih =>
    rw [relayUploaded, ← r.copyRead_append maxBuffer event unread]
    refine prefix_append_right_inj _ |>.2 ?_
    split
    · exact nil_prefix
    · exact ih _ _

theorem CopyContext.uploaded_prefix (ctx : CopyContext) (frames : List FrontendMessage)
    (unread : List (List Byte)) : ctx.uploaded frames unread <+: unread.flatten := by
  unfold CopyContext.uploaded
  split
  · exact nil_prefix
  · dsimp only
    split
    · exact relayUploaded_prefix _ _ _ _ _
    · exact nil_prefix

/-! ### A copy that starts -/

theorem tag_simpleQuery (payload : List Byte) : (simpleQuery payload).tag = some .query := by
  unfold simpleQuery
  split <;> rfl

/-- The messages of a cycle of Query frames are queries. -/
theorem queryMessages_of_queriesOnly {cycle : List Byte} (h : QueriesOnly cycle)
    (hne : cycle ≠ []) :
    queryMessages cycle ≠ [] ∧ ∀ frame ∈ queryMessages cycle, frame.tag = some .query := by
  obtain ⟨frames, hparse, -⟩ := h
  rw [queryMessages, hparse]
  refine ⟨fun hnil => hne ?_, ?_⟩
  · rw [map_eq_nil_iff.1 hnil] at hparse
    exact (eq_of_parse_nil hparse).symm
  · intro message hmessage
    obtain ⟨frame, -, rfl⟩ := mem_map.1 hmessage
    exact tag_simpleQuery frame.payload

variable {frames : List FrontendMessage}

/-- A cycle of queries is planned, whatever their texts are. -/
theorem exists_plan_of_queries {backendId : BackendId} {session : VirtualSession}
    {prepared : PreparedCatalog} {commands : List SqlCommand}
    (hqueries : ∀ frame ∈ frames, frame.tag = some .query)
    (hcommands : commands.length = frames.length) :
    ∃ planned, planFrontendCycle backendId session prepared commands frames = some planned := by
  induction frames generalizing session commands with
  | nil => exact ⟨_, rfl⟩
  | cons frame frames ih =>
    obtain ⟨command, commands, rfl⟩ : ∃ command commands', commands = command :: commands' :=
      exists_cons_of_length_eq_add_one hcommands
    have htag := hqueries frame mem_cons_self
    have hframe : prepareFrameForBackend backendId prepared frame =
        some (prepared, [⟨frame, false⟩]) := by
      cases frame with
      | query sql => rfl
      | malformed tag =>
        obtain rfl := Option.some.inj htag
        rfl
      | other tag => cases htag
      | _ => cases Option.some.inj htag
    obtain ⟨rest, hrest⟩ : ∃ rest, planFrontendCycle backendId
        (updateVirtualSessionFromFrame session command) prepared commands frames = some rest :=
      ih (fun f hf => hqueries f (mem_cons_of_mem _ hf)) (Nat.succ.inj hcommands)
    rw [planFrontendCycle, hframe]
    dsimp only
    rw [if_pos htag, hrest]
    exact ⟨_, rfl⟩

/-- `CopyInResponse` for text without columns. -/
def copyInResponse : List Byte := [71, 0, 0, 0, 7, 0, 0, 0]

/-- A backend that asks for data at once, and then one read from the client. -/
def copyStarts (commands : List SqlCommand) : CopyContext where
  maxBuffer := 4096
  session := {}
  prepared := .new 1
  backend := ⟨7, .idle⟩
  backendRead := []
  commands
  env := ⟨.done, [.backendRead copyInResponse .done, .clientCopyRead .done]⟩

/-- The request for data is forwarded, and from then on the client drives the copy. -/
theorem onEvent_copyInResponse {shape : FrontendCycleShape} {r : RelayState}
    (hbuffer : r.backendRead = []) (hready : shape.expectsReady = true) :
    ∃ r', r.onEvent shape 4096 (.backendRead copyInResponse .done) = (r', none) ∧
      r'.backendRead = [] ∧ r'.clientDrivesCopy = true := by
  have hparse : parseBackendFrames copyInResponse = .ok ([⟨71, [0, 0, 0]⟩], []) := by decide +kernel
  have hswallows : r.progress.swallows ⟨71, [0, 0, 0]⟩ = false := by
    rw [BackendCycleProgress.swallows, Bool.and_eq_false_iff]
    exact .inr (by decide)
  unfold RelayState.onEvent
  rw [hbuffer, if_neg (by decide)]
  dsimp only
  rw [if_neg (by decide), nil_append, if_neg (by decide), hparse]
  simp only [drainWith, hswallows, Bool.false_eq_true, if_false]
  refine ⟨_, Prod.ext rfl ?_, rfl, ?_⟩
  · simp [RelayState.resultAfterRead, Drained.cycleReady, BackendFrame.readyStatus, hready]
  · rw [RelayState.afterRead, Bool.or_eq_true]
    exact .inr rfl

/-- A cycle of queries waits for their ReadyForQuery. -/
theorem expectsReady_of_queries (hne : frames ≠ [])
    (hqueries : ∀ frame ∈ frames, frame.tag = some .query) :
    (FrontendCycleShape.fromFrames frames).expectsReady = true := by
  obtain ⟨frame, hframe⟩ := exists_mem_of_ne_nil frames hne
  have hcount : 0 < frames.countP fun frame => frame.tag == some .query :=
    countP_pos_iff.2 ⟨frame, hframe, beq_iff_eq.2 (hqueries frame hframe)⟩
  exact decide_eq_true (Nat.lt_of_lt_of_le hcount (Nat.le_add_right _ _))

/-- The next read from the client is written to the backend. -/
theorem uploaded_copyStarts (hne : frames ≠ [])
    (hqueries : ∀ frame ∈ frames, frame.tag = some .query) (byte : Byte) :
    (copyStarts (frames.map fun _ => .copy)).uploaded frames [[byte]] = [byte] := by
  obtain ⟨planned, hplan⟩ : ∃ planned, planFrontendCycle 7 {} (.new 1)
      (frames.map fun _ => SqlCommand.copy) frames = some planned :=
    exists_plan_of_queries hqueries (length_map _)
  have hready := expectsReady_of_queries hne hqueries
  have hresponse : (FrontendCycleShape.fromFrames frames).expectsNoResponse = false := by
    rw [FrontendCycleShape.expectsNoResponse, Bool.and_eq_false_iff]
    exact .inl (beq_false_of_ne (Nat.ne_of_gt (of_decide_eq_true hready)))
  obtain ⟨r, hevent, hbuffer, hdrives⟩ :=
    @onEvent_copyInResponse (.fromFrames frames) (planned.relayStart ⟨7, .idle⟩ []) rfl hready
  have hcopy : r.copyRead 4096 (.clientCopyRead .done) [[byte]] = ([byte], []) := by
    simp [RelayState.copyRead, hbuffer, hdrives]
  have hrun : relayUploaded (.fromFrames frames) 4096 (planned.relayStart ⟨7, .idle⟩ [])
      [.backendRead copyInResponse .done, .clientCopyRead .done] [[byte]] = [byte] := by
    rw [relayUploaded, hevent]
    change [] ++ relayUploaded _ 4096 r [.clientCopyRead .done] [[byte]] = [byte]
    rw [nil_append, relayUploaded, hcopy]
    dsimp only
    split <;> rfl
  have hplan' : planFrontendCycle (copyStarts (frames.map fun _ => .copy)).backend.id
      (copyStarts (frames.map fun _ => .copy)).session
      (copyStarts (frames.map fun _ => .copy)).prepared
      (copyStarts (frames.map fun _ => .copy)).commands frames = some planned := hplan
  rw [CopyContext.uploaded, hplan']
  dsimp only
  rw [if_pos ⟨rfl, by rw [hresponse]; rfl⟩]
  exact hrun

/-! ### The condition -/

/-- **The copy is in order when nothing was read behind its Query.** A cycle that starts with a
Query having been taken from the reads, what is written during its copy continues it, whatever the
backend and the client do, exactly if Query frames are all that had been read. -/
theorem uploadsInOrder_iff {maxClientBuffer : Nat} {buffer cycle surplus : List Byte}
    {reads : List (List Byte)}
    (hcycle : nextClientCycle maxClientBuffer buffer reads = .ok (.frames cycle, surplus, []))
    (hquery : (buffer ++ reads.flatten).head? = some FrontendTag.query.byte) :
    (∀ ctx unread, UploadsInOrder ctx maxClientBuffer buffer (reads ++ unread)) ↔
      QueriesOnly (buffer ++ reads.flatten) := by
  have htake := (nextClientCycle_append [] hcycle).2
  obtain ⟨hbytes, hne, hqueries, hstart⟩ := takeFrontendCycleBytes_queries htake hquery
  rw [← rest_eq_nil_iff hbytes hqueries hstart]
  constructor
  · intro h
    by_contra hsurplus
    obtain ⟨first, later, rfl⟩ := exists_cons_of_ne_nil hsurplus
    obtain ⟨hmessages, htags⟩ := queryMessages_of_queriesOnly hqueries hne
    -- The copy starts, and the client then sends a byte that is not the first one of the surplus.
    have hprefix := h (copyStarts ((queryMessages cycle).map fun _ => .copy)) [[first + 1]]
      cycle _ _ (nextClientCycle_append [[first + 1]] hcycle).1
    rw [uploaded_copyStarts hmessages htags, flatten_append, ← append_assoc, hbytes,
      append_assoc, drop_left, cons_append, cons_prefix_cons] at hprefix
    exact absurd hprefix.1 (by simp)
  · rintro rfl ctx unread cycle' surplus' unread' hcycle'
    obtain ⟨hframes, hrest⟩ :=
      Prod.mk.inj (Except.ok.inj (hcycle'.symm.trans (nextClientCycle_append unread hcycle).1))
    obtain rfl := ClientCycle.frames.inj hframes
    obtain ⟨rfl, rfl⟩ := Prod.mk.inj hrest
    rw [flatten_append, ← append_assoc, hbytes, append_nil, drop_left]
    exact ctx.uploaded_prefix _ _

/-- The Query frame of `COPY t FROM STDIN`. -/
def copyFromStdin : List Byte :=
  [81, 0, 0, 0, 22] ++ "COPY t FROM STDIN".toList.map Char.toUInt8 ++ [0]

/-- A CopyData frame with the line `1`, and a CopyDone frame. -/
def copyLine : List Byte := [100, 0, 0, 0, 6, 49, 10]

def copyDone : List Byte := [99, 0, 0, 0, 4]

/-- The Query came in a read of its own: everything the client sends then is written in order. -/
theorem uploadsInOrder_of_ownRead :
    QueriesOnly copyFromStdin ∧
      ∀ ctx unread, UploadsInOrder ctx 4096 [] ([copyFromStdin] ++ unread) := by
  have hqueries : QueriesOnly copyFromStdin :=
    ⟨[⟨81, copyFromStdin.drop 5⟩], by decide +kernel, by decide +kernel⟩
  have hcycle : nextClientCycle 4096 [] [copyFromStdin] = .ok (.frames copyFromStdin, [], []) := by
    decide +kernel
  refine ⟨hqueries, (uploadsInOrder_iff hcycle rfl).2 ?_⟩
  exact hqueries

/-- The first line came in the read of the Query: what is written first is the CopyDone frame that
the client sent behind it. -/
theorem not_uploadsInOrder_sameRead :
    ¬UploadsInOrder (copyStarts [.copy]) 4096 [] [copyFromStdin ++ copyLine, copyDone] := by
  intro h
  have hcycle : nextClientCycle 4096 [] [copyFromStdin ++ copyLine, copyDone] =
      .ok (.frames copyFromStdin, copyLine, [copyDone]) := by decide +kernel
  have hprefix := h _ _ _ hcycle
  have hbytes : (copyStarts [.copy]).uploaded (queryMessages copyFromStdin) [copyDone] =
      copyDone := by decide +kernel
  revert hprefix
  decide +kernel

end PgKinetic
