import PgKinetic.Proxy.CycleEnd
import PgKinetic.Proxy.Transparency

/-!
# Pipelines that are delimited by Flush

A client of the extended protocol may end a cycle with Flush and go on before it sends Sync. The
backend then answers what it got so far. After an ErrorResponse it **skips** everything up to the
next Sync, over all the Flush messages on the way, and simple queries too: they get no
ReadyForQuery.

`forward_message_cycle` knows nothing of the cycles before: it counts the frames of its own cycle
and waits for as many replies. Its relay takes exactly the replies to the cycle, however they are
cut into reads, exactly if no Query of the cycle is skipped, and a cycle that ends with Flush is
either empty, or ends with a Query in front of the Flush, or has no Query and meets a backend that
does not skip (`Pipeline.endsExactly_iff_meets`).

The backend here is coarser than `Answers`: before the frame that ends a reply there may be any
frames that neither complete a message nor fail it.
-/

namespace PgKinetic

open List Option BackendCycleProgress FrontendCycleShape

namespace Pipeline

/-! ### The backend -/

/-- A frame that neither completes a message nor fails it: rows and what belongs to them, and what
a backend may send at any time. -/
def isQuiet (frame : BackendFrame) : Bool :=
  !isBackendCycleCompletion frame && !frame.hasTag .errorResponse && !frame.hasTag .readyForQuery

/-- The frame that completes the reply to a message of the extended protocol. -/
def completes (message : FrontendMessage) (frame : BackendFrame) : Bool :=
  match message.tag with
  | some .parse => frame.hasTag .parseComplete
  | some .bind => frame.hasTag .bindComplete
  | some .describe => frame.hasTag .rowDescription || frame.hasTag .noData
  | some .execute =>
    frame.hasTag .commandComplete || frame.hasTag .emptyQueryResponse ||
      frame.hasTag .portalSuspended
  | some .close => frame.hasTag .closeComplete
  | _ => false

/-- Frames of which the last one is as `last` says and the others as `before` does. -/
def closedBy (before last : BackendFrame → Bool) (reply : List BackendFrame) : Bool :=
  reply.getLast?.any last && reply.dropLast.all before

/-- A reply that ends with its only ReadyForQuery. -/
def endsWithReady (reply : List BackendFrame) : Bool :=
  closedBy (fun frame => !frame.hasTag .readyForQuery) (·.readyStatus.isSome) reply

/-- **The replies of a conforming backend** to one message. -/
def conforms (skipping : Bool) (message : FrontendMessage) (reply : List BackendFrame) : Bool :=
  match message.tag with
  | some .sync => endsWithReady reply
  | some .flush => reply.isEmpty
  | some .query => if skipping then reply.isEmpty else endsWithReady reply
  | _ =>
    if skipping then reply.isEmpty
    else
      closedBy isQuiet (fun frame => completes message frame || frame.hasTag .errorResponse) reply

/-- Whether the backend skips after a message. An error in a simple query ends with its
ReadyForQuery. -/
def skipsAfter (skipping : Bool) (message : FrontendMessage) (reply : List BackendFrame) : Bool :=
  match message.tag with
  | some .sync => false
  | some .query => skipping
  | _ => skipping || reply.any (·.hasTag .errorResponse)

/-- The backend on the messages of a cycle: whether it skips after them, `none` if the replies are
not those of a conforming backend. -/
def answer : Bool → List PlannedFrame → List (List BackendFrame) → Option Bool
  | skipping, [], [] => some skipping
  | skipping, sent :: later, reply :: replies =>
    if conforms skipping sent.message reply then
      answer (skipsAfter skipping sent.message reply) later replies
    else none
  | _, _, _ => none

/-- No Query reaches the backend while it skips. -/
def queriesReached : Bool → List PlannedFrame → List (List BackendFrame) → Bool
  | skipping, sent :: later, reply :: replies =>
    !(sent.message.tag == some .query && skipping) &&
      queriesReached (skipsAfter skipping sent.message reply) later replies
  | _, _, _ => true

/-! ### Cycles -/

/-- What ends a cycle: Flush, Sync, or nothing, if it consists of queries. -/
inductive Boundary where
  | flush
  | sync
  | queries
  deriving DecidableEq, Repr

def Boundary.frames : Boundary → List FrontendMessage
  | .flush => [.flush]
  | .sync => [.sync]
  | .queries => []

/-- One cycle of a pipeline: what it is planned with, its frames, and what the backend replies to
each of the frames it is sent. -/
structure Cycle where
  session : VirtualSession
  prepared : PreparedCatalog
  backend : Backend
  commands : List SqlCommand
  body : List FrontendMessage
  boundary : Boundary
  replies : List (List BackendFrame)
  /-- The replies on the wire. -/
  bytes : List Byte

namespace Cycle

variable (c : Cycle)

def frames : List FrontendMessage := c.body ++ c.boundary.frames

def isQuery (frame : FrontendMessage) : Bool := frame.tag == some .query

/-- The messages of the extended protocol, and simple queries; queries only if nothing ends the
cycle. -/
def wellFormed : Bool :=
  c.body.all (fun frame => expectsBackendCompletion frame || isQuery frame) &&
    (c.boundary != .queries || !c.body.isEmpty && c.body.all isQuery)

/-- `plan_frontend_cycle`. -/
def planned : Option PlannedCycle :=
  planFrontendCycle c.backend.id c.session c.prepared c.commands c.frames

/-- The frames that are sent to the backend. -/
def sent : List PlannedFrame := c.planned.elim [] (·.frames)

/-- `forward_message_cycle`, with an empty read buffer. -/
def forward (maxBuffer : Nat) (events : List WireEvent) : Forwarded :=
  forwardMessageCycle maxBuffer c.session c.prepared c.backend [] c.frames c.commands
    ⟨.done, events⟩

/-- **The loop ends exactly with the replies.** However they are cut into reads, and whatever the
client sends in between if there is a copy, it waits for the rest of them, and it has ended when all
of them are there, with nothing left in its buffer; unless a frame does not fit into that. -/
def EndsExactly : Prop :=
  ∀ maxBuffer events, (∀ event ∈ events, WireEvent.Succeeds event) →
    (receivedBytes events <+: c.bytes → receivedBytes events ≠ c.bytes →
      (c.forward maxBuffer events).result.Waits) ∧
    (receivedBytes events = c.bytes →
      (c.forward maxBuffer events).result = .bufferLimitExceeded ∨
        (c.forward maxBuffer events).result.Completes ∧
          (c.forward maxBuffer events).backendRead = [])

/-- **What the loop needs**: that no Query is skipped, and that a cycle with Flush at its end is
empty, or has a Query right in front of the Flush, or has no Query and meets a backend that does not
skip. -/
def Counted (skipping : Bool) : Prop :=
  queriesReached skipping c.sent c.replies = true ∧
    (c.boundary = .flush → c.body = [] ∨ c.body.getLast?.any isQuery = true ∨
      skipping = false ∧ c.body.any isQuery = false)

instance (skipping : Bool) : Decidable (c.Counted skipping) :=
  inferInstanceAs (Decidable (_ ∧ (_ → _ ∨ _ ∨ _ ∧ _)))

end Cycle

/-- The cycles of a pipeline, one after the other; the state is whether the backend skips. -/
def step (skipping : Bool) (c : Cycle) : Option (Bool × List Cycle) :=
  if c.wellFormed && c.planned.isSome &&
      decide (parseBackendFrames c.bytes = .ok (c.replies.flatten, [])) then
    (answer skipping c.sent c.replies).map fun after => (after, [c])
  else none

def machine : EventMachine.Machine Bool Cycle Cycle := ⟨step⟩

/-! ### What is sent -/

/-- The frames that are sent for the frames of the client: one for each, under the same tag, with a
Parse of the proxy's in front of some that expect a completion themselves. -/
inductive PlannedAs : List FrontendMessage → List PlannedFrame → Prop where
  | nil : PlannedAs [] []
  | own {frame message : FrontendMessage} {frames : List FrontendMessage}
    {sent : List PlannedFrame} (htag : message.tag = frame.tag) (hrest : PlannedAs frames sent) :
    PlannedAs (frame :: frames) (⟨message, false⟩ :: sent)
  | injected {parse frame message : FrontendMessage} {frames : List FrontendMessage}
    {sent : List PlannedFrame} (hparse : parse.tag = some .parse)
    (htag : message.tag = frame.tag) (hexpects : expectsBackendCompletion frame = true)
    (hrest : PlannedAs frames sent) :
    PlannedAs (frame :: frames) (⟨parse, true⟩ :: ⟨message, false⟩ :: sent)

variable {frames : List FrontendMessage} {sent : List PlannedFrame} {reply : List BackendFrame}
  {frame : BackendFrame} {message : FrontendMessage} {skipping after : Bool}
  {replies : List (List BackendFrame)} {shape : FrontendCycleShape}

variable {backendId : BackendId} {prepared : PreparedCatalog} {acc : Bool}
  {progress : BackendCycleProgress} {bytes : List Byte}

theorem plannedAs_prepareFrameForBackend {prepared' : PreparedCatalog} {frame : FrontendMessage}
    {group : List PlannedFrame}
    (h : prepareFrameForBackend backendId prepared frame = some (prepared', group))
    (hrest : PlannedAs frames sent) : PlannedAs (frame :: frames) (group ++ sent) := by
  have hone : ∀ {prepared₁ message},
      some (prepared₁, [PlannedFrame.mk message false]) = some (prepared', group) →
        message.tag = frame.tag → PlannedAs (frame :: frames) (group ++ sent) := by
    intro prepared₁ message heq htag
    obtain rfl : _ = group := congrArg Prod.snd (some.inj heq)
    exact .own htag hrest
  have huse : ∀ {statement message},
      some (prepareStatementUse backendId prepared statement message) = some (prepared', group) →
        message.tag = frame.tag → expectsBackendCompletion frame = true →
          PlannedAs (frame :: frames) (group ++ sent) := by
    intro statement message heq htag hexpects
    obtain rfl : _ = group := congrArg Prod.snd (some.inj heq)
    unfold prepareStatementUse
    split
    · exact .own htag hrest
    · exact .injected rfl htag hexpects hrest
  unfold prepareFrameForBackend at h
  split at h
  · exact hone h rfl
  · split at h
    · exact huse h rfl rfl
    · exact hone h rfl
  · split at h
    · exact huse h rfl rfl
    · exact hone h rfl
  · split at h
    · exact hone h rfl
    · exact hone h rfl
  all_goals first | exact hone h rfl | cases h

theorem plannedAs_planFrontendCycle {session : VirtualSession} {commands : List SqlCommand}
    {planned : PlannedCycle}
    (h : planFrontendCycle backendId session prepared commands frames = some planned) :
    PlannedAs frames planned.frames := by
  induction frames generalizing session prepared commands planned with
  | nil =>
    obtain rfl := some.inj h
    exact .nil
  | cons frame frames ih =>
    obtain ⟨_, _, _, _, rest, hframe, -, hrest, rfl⟩ := planFrontendCycle_cons_eq_some h
    exact plannedAs_prepareFrameForBackend hframe (ih hrest)

/-! ### Counting ReadyForQuery -/

/-- The messages that are answered with ReadyForQuery. -/
def asksReady (message : FrontendMessage) : Bool :=
  message.tag == some .query || message.tag == some .sync

theorem exists_of_closedBy {before last : BackendFrame → Bool}
    (h : closedBy before last reply = true) :
    ∃ init frame, reply = init ++ [frame] ∧ last frame = true ∧ ∀ f ∈ init, before f = true := by
  rw [closedBy, Bool.and_eq_true, List.all_eq_true] at h
  obtain ⟨hlast, hbefore⟩ := h
  rcases eq_nil_or_concat reply with rfl | ⟨init, frame, rfl⟩
  · cases hlast
  · rw [concat_eq_append, getLast?_concat] at hlast
    rw [concat_eq_append, dropLast_concat] at hbefore
    exact ⟨init, frame, concat_eq_append, hlast, hbefore⟩

theorem readyStatus_of_not_ready (h : frame.hasTag .readyForQuery = false) :
    frame.readyStatus = none := by
  rw [BackendFrame.readyStatus, h]
  rfl

/-- The frame that completes a reply is one the proxy counts. -/
theorem isBackendCycleCompletion_of_completes (h : completes message frame = true) :
    isBackendCycleCompletion frame = true := by
  unfold completes at h
  split at h
  · simp [isBackendCycleCompletion, h]
  · simp [isBackendCycleCompletion, h]
  · rcases Bool.or_eq_true_iff.1 h with h | h <;> simp [isBackendCycleCompletion, h]
  · simp only [Bool.or_eq_true] at h
    rcases h with (h | h) | h <;> simp [isBackendCycleCompletion, h]
  · simp [isBackendCycleCompletion, h]
  · cases h

/-- A frame that the proxy counts is neither an error nor a ReadyForQuery. -/
theorem hasTag_of_completion (h : isBackendCycleCompletion frame = true) :
    frame.hasTag .errorResponse = false ∧ frame.hasTag .readyForQuery = false := by
  simp only [isBackendCycleCompletion, Bool.or_eq_true] at h
  rcases h with ((((((h | h) | h) | h) | h) | h) | h) | h <;>
    exact ⟨BackendFrame.hasTag_eq_false h _ (by decide),
      BackendFrame.hasTag_eq_false h _ (by decide)⟩

/-- What a conforming backend replies to a message of the extended protocol. -/
theorem conforms_extended (h : conforms skipping message reply = true)
    (hasks : asksReady message = false) (hflush : message.tag ≠ some .flush) :
    skipping = true ∧ reply = [] ∨ skipping = false ∧ ∃ init frame, reply = init ++ [frame] ∧
      (completes message frame = true ∨ frame.hasTag .errorResponse = true) ∧
      ∀ f ∈ init, isQuiet f = true := by
  have hextended : conforms skipping message reply =
      if skipping then reply.isEmpty
      else closedBy isQuiet
        (fun frame => completes message frame || frame.hasTag .errorResponse) reply := by
    unfold conforms
    split
    · rename_i htag
      simp [asksReady, htag] at hasks
    · rename_i htag
      exact absurd htag hflush
    · rename_i htag
      simp [asksReady, htag] at hasks
    · rfl
  rw [hextended] at h
  cases skipping with
  | true => exact .inl ⟨rfl, isEmpty_iff.1 h⟩
  | false =>
    obtain ⟨init, frame, rfl, hlast, hinit⟩ := exists_of_closedBy h
    exact .inr ⟨rfl, init, frame, rfl, Bool.or_eq_true_iff.1 hlast, hinit⟩

/-- There is no ReadyForQuery in such a reply. -/
theorem readyStatus_of_extended {init : List BackendFrame}
    (hlast : completes message frame = true ∨ frame.hasTag .errorResponse = true)
    (hinit : ∀ f ∈ init, isQuiet f = true) : ∀ f ∈ init ++ [frame], f.readyStatus = none := by
  intro f hf
  refine readyStatus_of_not_ready ?_
  rcases mem_append.1 hf with hf | hf
  · have hquiet := hinit f hf
    simp only [isQuiet, Bool.and_eq_true, Bool.not_eq_eq_eq_not, Bool.not_true] at hquiet
    exact hquiet.2
  · rw [mem_singleton.1 hf]
    rcases hlast with hlast | hlast
    · exact (hasTag_of_completion (isBackendCycleCompletion_of_completes hlast)).2
    · exact BackendFrame.hasTag_eq_false hlast _ (by decide)

/-- What it replies to a message that asks for ReadyForQuery. -/
theorem conforms_asksReady (h : conforms skipping message reply = true)
    (hasks : asksReady message = true) :
    (message.tag = some .query ∧ skipping = true) ∧ reply = [] ∨
      ¬(message.tag = some .query ∧ skipping = true) ∧ ∃ init frame, reply = init ++ [frame] ∧
        frame.readyStatus.isSome = true ∧ ∀ f ∈ init, f.readyStatus = none := by
  have hends : endsWithReady reply = true → ∃ init frame, reply = init ++ [frame] ∧
      frame.readyStatus.isSome = true ∧ ∀ f ∈ init, f.readyStatus = none := by
    intro hends
    obtain ⟨init, frame, rfl, hlast, hinit⟩ := exists_of_closedBy hends
    refine ⟨init, frame, rfl, hlast, fun f hf => readyStatus_of_not_ready ?_⟩
    exact (Bool.not_eq_eq_eq_not.1 (hinit f hf) : _ = !true)
  rw [asksReady, Bool.or_eq_true, beq_iff_eq, beq_iff_eq] at hasks
  unfold conforms at h
  rcases hasks with htag | htag
  · rw [htag] at h
    cases skipping with
    | true => exact .inl ⟨⟨htag, rfl⟩, isEmpty_iff.1 h⟩
    | false => exact .inr ⟨fun hquery => (nomatch hquery.2), hends h⟩
  · rw [htag] at h
    exact .inr ⟨fun hquery => (nomatch htag.symm.trans hquery.1), hends h⟩

theorem conforms_flush (h : conforms skipping message reply = true)
    (hflush : message.tag = some .flush) : reply = [] := by
  unfold conforms at h
  rw [hflush] at h
  exact isEmpty_iff.1 h

theorem answer_nil (h : answer skipping [] replies = some after) : replies = [] := by
  cases replies with
  | nil => rfl
  | cons reply replies => cases h

theorem answer_cons {sent : PlannedFrame} {later : List PlannedFrame}
    (h : answer skipping (sent :: later) replies = some after) :
    ∃ reply replies', replies = reply :: replies' ∧
      conforms skipping sent.message reply = true ∧
      answer (skipsAfter skipping sent.message reply) later replies' = some after := by
  cases replies with
  | nil => cases h
  | cons reply replies =>
    rw [answer] at h
    split at h
    · rename_i hconforms
      exact ⟨reply, replies, rfl, hconforms, h⟩
    · cases h

/-- The backend sends one ReadyForQuery for each message that asks for it, unless it is a Query
that it skips. -/
theorem countP_ready_conforms (h : conforms skipping message reply = true) :
    reply.countP (·.readyStatus.isSome) =
      (asksReady message && !(message.tag == some .query && skipping)).toNat := by
  have hzero : ∀ frames : List BackendFrame, (∀ f ∈ frames, f.readyStatus = none) →
      frames.countP (·.readyStatus.isSome) = 0 := by
    intro frames hframes
    rw [countP_eq_zero]
    intro f hf
    rw [hframes f hf]
    exact Bool.false_ne_true
  cases hasks : asksReady message with
  | true =>
    rcases conforms_asksReady h hasks with ⟨⟨htag, rfl⟩, rfl⟩ |
      ⟨hnot, init, frame, rfl, hlast, hinit⟩
    · rw [htag]
      rfl
    · have hreached : (message.tag == some .query && skipping) = false := by
        rw [Bool.eq_false_iff]
        intro hskipped
        rw [Bool.and_eq_true, beq_iff_eq] at hskipped
        exact hnot hskipped
      rw [countP_append, hzero init hinit, countP_singleton, if_pos hlast, hreached]
      rfl
  | false =>
    by_cases hflush : message.tag = some .flush
    · rw [conforms_flush h hflush]
      rfl
    · rcases conforms_extended h hasks hflush with ⟨-, rfl⟩ |
        ⟨-, init, frame, rfl, hlast, hinit⟩
      · rfl
      · exact hzero _ (readyStatus_of_extended hlast hinit)

/-- There are at most as many as are asked for, and as many exactly if no Query is skipped. -/
theorem countP_ready_answer (h : answer skipping sent replies = some after) :
    replies.flatten.countP (·.readyStatus.isSome) ≤ sent.countP (asksReady ·.message) ∧
      (replies.flatten.countP (·.readyStatus.isSome) = sent.countP (asksReady ·.message) ↔
        queriesReached skipping sent replies = true) := by
  induction sent generalizing skipping replies with
  | nil =>
    rw [answer_nil h]
    exact ⟨Nat.le_refl _, fun _ => rfl, fun _ => rfl⟩
  | cons sent later ih =>
    obtain ⟨reply, replies, rfl, hconforms, hlater⟩ := answer_cons h
    obtain ⟨hle, hiff⟩ := ih hlater
    rw [flatten_cons, countP_append, countP_ready_conforms hconforms, countP_cons,
      queriesReached, Bool.and_eq_true, ← hiff]
    have hquery : (sent.message.tag == some .query && skipping) = true →
        asksReady sent.message = true := by
      intro hskipped
      rw [asksReady, (Bool.and_eq_true_iff.1 hskipped).1, Bool.true_or]
    cases hskipped : sent.message.tag == some .query && skipping with
    | true =>
      rw [hquery hskipped]
      simp only [Bool.not_true, Bool.and_false, Bool.toNat_false, if_true, Bool.false_eq_true,
        false_and, iff_false]
      omega
    | false =>
      cases asksReady sent.message <;>
        simp only [Bool.not_false, Bool.and_true, Bool.toNat_false, Bool.toNat_true,
          Bool.false_eq_true, if_true, if_false, true_and] <;> omega

/-! ### The last frame -/

/-- Whether the last of the frames is a ReadyForQuery; `acc` if there is none. -/
def readyLast (acc : Bool) (frames : List BackendFrame) : Bool :=
  frames.foldl (fun _ frame => frame.readyStatus.isSome) acc

/-- Whether the last of the messages that are answered asks for ReadyForQuery. -/
def asksLast (acc : Bool) (messages : List FrontendMessage) : Bool :=
  messages.foldl (fun acc message => if message.tag = some .flush then acc else asksReady message)
    acc

theorem readyLast_concat (acc : Bool) (init : List BackendFrame) (frame : BackendFrame) :
    readyLast acc (init ++ [frame]) = frame.readyStatus.isSome := by
  rw [readyLast, foldl_append]
  rfl

/-- A message that asks for ReadyForQuery and gets it leaves a backend that does not skip. -/
theorem skipsAfter_asksReady (reply : List BackendFrame) (hasks : asksReady message = true)
    (hreached : ¬(message.tag = some .query ∧ skipping = true)) :
    skipsAfter skipping message reply = false := by
  rw [asksReady, Bool.or_eq_true, beq_iff_eq, beq_iff_eq] at hasks
  unfold skipsAfter
  rcases hasks with htag | htag
  · rw [htag]
    exact Bool.eq_false_iff.2 fun hskipping => hreached ⟨htag, hskipping⟩
  · rw [htag]

/-- One message: a backend that skips has sent an error last. -/
theorem readyLast_conforms (h : conforms skipping message reply = true)
    (hreached : ¬(message.tag = some .query ∧ skipping = true))
    (hacc : skipping = true → acc = false) :
    readyLast acc reply = (if message.tag = some .flush then acc else asksReady message) ∧
      (skipsAfter skipping message reply = true → readyLast acc reply = false) := by
  cases hasks : asksReady message with
  | true =>
    have hflush : message.tag ≠ some .flush := by
      intro hflush
      rw [asksReady, hflush] at hasks
      exact absurd hasks (by decide)
    rcases conforms_asksReady h hasks with ⟨hskipped, -⟩ | ⟨-, init, frame, rfl, hlast, -⟩
    · exact absurd hskipped hreached
    · rw [readyLast_concat, hlast, if_neg hflush, skipsAfter_asksReady _ hasks hreached]
      exact ⟨rfl, nofun⟩
  | false =>
    by_cases hflush : message.tag = some .flush
    · rw [conforms_flush h hflush, if_pos hflush]
      refine ⟨rfl, fun hskips => hacc ?_⟩
      rw [skipsAfter, hflush] at hskips
      exact (Bool.or_eq_true_iff.1 hskips).resolve_right Bool.false_ne_true
    · rw [if_neg hflush]
      rcases conforms_extended h hasks hflush with ⟨hskipping, rfl⟩ |
        ⟨-, init, frame, rfl, hlast, hinit⟩
      · exact ⟨hacc hskipping, fun _ => hacc hskipping⟩
      · have hnone : frame.readyStatus = none :=
          readyStatus_of_extended hlast hinit frame (mem_append_right _ mem_cons_self)
        rw [readyLast_concat, hnone]
        exact ⟨rfl, fun _ => rfl⟩

/-- If no Query is skipped, the last frame of the replies is a ReadyForQuery exactly if the last
message that is answered asks for it. -/
theorem readyLast_answer (h : answer skipping sent replies = some after)
    (hreached : queriesReached skipping sent replies = true) (hacc : skipping = true → acc = false)
    :
    readyLast acc replies.flatten = asksLast acc (sent.map (·.message)) := by
  induction sent generalizing skipping replies acc with
  | nil =>
    rw [answer_nil h]
    rfl
  | cons sent later ih =>
    obtain ⟨reply, replies, rfl, hconforms, hlater⟩ := answer_cons h
    rw [queriesReached, Bool.and_eq_true] at hreached
    have hquery : ¬(sent.message.tag = some .query ∧ skipping = true) := by
      rintro ⟨htag, hskipping⟩
      rw [htag, hskipping] at hreached
      exact Bool.false_ne_true hreached.1
    obtain ⟨hlast, hskips⟩ := readyLast_conforms hconforms hquery hacc
    have hsplit : readyLast acc (reply :: replies).flatten =
        readyLast (readyLast acc reply) replies.flatten := by
      rw [flatten_cons, readyLast, foldl_append]
      rfl
    rw [hsplit, ih hlater hreached.2 hskips, hlast]
    rfl

/-! ### A cycle with ReadyForQuery -/

/-- The counters of a cycle that expects ReadyForQuery are complete after the last frame and not
before, exactly if all of those expected are there and the last frame is one. -/
theorem endsAt_ready_iff {frames : List BackendFrame} (hexpects : shape.expectsReady = true)
    (hstart : progress.readyCount = 0)
    (hle : frames.countP (·.readyStatus.isSome) ≤ shape.expectedReadyCount) :
    shape.EndsAt progress frames ↔
      frames.countP (·.readyStatus.isSome) = shape.expectedReadyCount ∧
        readyLast false frames = true := by
  have hcompleted : ∀ frames : List BackendFrame,
      shape.completedBy (frames.foldl absorb progress) =
        decide (shape.expectedReadyCount ≤ frames.countP (·.readyStatus.isSome)) := by
    intro frames
    rw [completedBy, if_pos hexpects, readyCount_foldl, hstart, Nat.zero_add]
  have hpos : 0 < shape.expectedReadyCount := of_decide_eq_true hexpects
  rcases eq_nil_or_concat frames with rfl | ⟨init, frame, rfl⟩
  · rw [EndsAt, hcompleted, decide_eq_true_iff, countP_nil]
    constructor
    · rintro ⟨-, hzero⟩
      omega
    · rintro ⟨hzero, -⟩
      omega
  · rw [concat_eq_append] at hle ⊢
    rw [readyLast_concat, EndsAt, hcompleted, decide_eq_true_iff]
    rw [countP_append, countP_singleton] at hle ⊢
    constructor
    · rintro ⟨hwaits, henough⟩
      have hinit := waitsFor_iff.1 hwaits init [frame] rfl (cons_ne_nil _ _)
      rw [hcompleted, decide_eq_false_iff_not] at hinit
      cases hready : frame.readyStatus.isSome with
      | true =>
        rw [hready, if_pos rfl] at henough
        exact ⟨by rw [if_pos rfl]; omega, rfl⟩
      | false =>
        rw [hready, if_neg Bool.false_ne_true] at henough
        exact absurd henough hinit
    · rintro ⟨hcount, hready⟩
      refine ⟨waitsFor_iff.2 fun first later hsplit hlater => ?_, hcount.ge⟩
      obtain ⟨later, last, rfl⟩ := (eq_nil_or_concat later).resolve_left hlater
      rw [concat_eq_append, ← append_assoc] at hsplit
      obtain ⟨hinit, -⟩ := append_inj' hsplit rfl
      rw [hcompleted, decide_eq_false_iff_not]
      rw [hready, if_pos rfl, hinit, countP_append] at hcount
      omega

/-! ### A cycle that is only flushed -/

/-- The counters while the replies come in: `own` of the client's messages are completed, and
`owed` injected ones are not. The drain swallows ParseCompletes in advance, those of the client's
Parses before those of injected ones that are still to come. -/
structure Owes (own owed : Nat) (progress : BackendCycleProgress) : Prop where
  count : progress.completionCount + owed = own + progress.injectedParseCompletes
  bound : progress.injectedParseCompletes ≤ owed
  noError : progress.sawError = false

section

variable {own owed : Nat} {progress : BackendCycleProgress} {frame : BackendFrame}

theorem absorb_of_not_parse (h : frame.hasTag .parseComplete = false) :
    progress.absorb frame = progress.forward frame := by
  rw [absorb, swallows, h, Bool.and_false, if_neg Bool.false_ne_true]

theorem Owes.quiet (h : Owes own owed progress) (hquiet : isQuiet frame = true) :
    Owes own owed (progress.absorb frame) := by
  simp only [isQuiet, Bool.and_eq_true, Bool.not_eq_eq_eq_not, Bool.not_true] at hquiet
  obtain ⟨⟨hcompletion, herror⟩, -⟩ := hquiet
  have hparse : frame.hasTag .parseComplete = false := by
    simp only [isBackendCycleCompletion, Bool.or_eq_false_iff] at hcompletion
    exact hcompletion.1.1.1.1.1.1.1
  rw [absorb_of_not_parse hparse]
  refine ⟨?_, h.bound, ?_⟩
  · rw [forward, hcompletion]
    exact h.count
  · rw [forward, herror, h.noError]
    rfl

theorem Owes.foldl_quiet {frames : List BackendFrame} (h : Owes own owed progress)
    (hquiet : ∀ frame ∈ frames, isQuiet frame = true) :
    Owes own owed (frames.foldl absorb progress) := by
  induction frames generalizing progress with
  | nil => exact h
  | cons frame frames ih =>
    rw [forall_mem_cons] at hquiet
    exact ih (h.quiet hquiet.1) hquiet.2

/-- A message of the client's is completed. -/
theorem Owes.completed (h : Owes own owed progress)
    (hcompletion : isBackendCycleCompletion frame = true) :
    Owes (own + 1) owed (progress.absorb frame) := by
  obtain ⟨hcount, hbound, hnoError⟩ := h
  rw [absorb]
  split
  · rename_i hswallows
    have hpos : 0 < progress.injectedParseCompletes :=
      of_decide_eq_true (Bool.and_eq_true_iff.1 hswallows).1
    refine ⟨?_, ?_, hnoError⟩ <;> dsimp only <;> omega
  · refine ⟨?_, hbound, ?_⟩
    · rw [forward, hcompletion, Bool.toNat_true]
      dsimp only
      omega
    · rw [forward, hnoError, (hasTag_of_completion hcompletion).1]
      rfl

/-- An injected Parse is completed. -/
theorem Owes.injected (h : Owes own (owed + 1) progress)
    (hparse : frame.hasTag .parseComplete = true) : Owes own owed (progress.absorb frame) := by
  obtain ⟨hcount, hbound, hnoError⟩ := h
  have hcompletion : isBackendCycleCompletion frame = true := by
    rw [isBackendCycleCompletion, hparse]
    rfl
  rw [absorb]
  split
  · rename_i hswallows
    have hpos : 0 < progress.injectedParseCompletes :=
      of_decide_eq_true (Bool.and_eq_true_iff.1 hswallows).1
    refine ⟨?_, ?_, hnoError⟩ <;> dsimp only <;> omega
  · rename_i hforwarded
    have hzero : progress.injectedParseCompletes = 0 := by
      rw [swallows, hparse, Bool.and_true, decide_eq_true_iff] at hforwarded
      omega
    refine ⟨?_, ?_, ?_⟩
    · rw [forward, hcompletion, Bool.toNat_true]
      dsimp only
      omega
    · rw [forward]
      dsimp only
      omega
    · rw [forward, hnoError, (hasTag_of_completion hcompletion).1]
      rfl

variable {shape : FrontendCycleShape}

theorem Owes.completedBy_eq (h : Owes own owed progress) (hexpects : shape.expectsReady = false) :
    shape.completedBy progress =
      decide (shape.expectedCompletionCount ≤ progress.completionCount) := by
  rw [completedBy, hexpects, if_neg Bool.false_ne_true,
    flushCycleComplete, h.noError, Bool.false_or]

/-- As long as a message of the client's is not completed, the counters are not complete. -/
theorem Owes.not_completedBy (h : Owes own owed progress)
    (hexpects : shape.expectsReady = false) (hown : own < shape.expectedCompletionCount) :
    shape.completedBy progress = false := by
  rw [h.completedBy_eq hexpects, decide_eq_false_iff_not]
  have hcount := h.count
  have hbound := h.bound
  omega

/-- The quiet frames of a reply and its last frame are waited for. -/
theorem Owes.waitsFor {frames : List BackendFrame} (h : Owes own owed progress)
    (hexpects : shape.expectsReady = false) (hown : own < shape.expectedCompletionCount)
    (hquiet : ∀ frame ∈ frames, isQuiet frame = true) :
    shape.WaitsFor progress (frames ++ [frame]) := by
  induction frames generalizing progress with
  | nil => exact ⟨h.not_completedBy hexpects hown, trivial⟩
  | cons quiet frames ih =>
    rw [forall_mem_cons] at hquiet
    exact ⟨h.not_completedBy hexpects hown, ih (h.quiet hquiet.1) hquiet.2⟩

/-- An error completes the counters. -/
theorem completedBy_error (hexpects : shape.expectsReady = false)
    (herror : frame.hasTag .errorResponse = true) :
    shape.completedBy (progress.absorb frame) = true := by
  rw [absorb_of_not_parse (BackendFrame.hasTag_eq_false herror _ (by decide)),
    completedBy, hexpects, if_neg Bool.false_ne_true,
    flushCycleComplete, forward, herror, Bool.or_true,
    Bool.true_or]

end

/-- A backend that skips replies to nothing up to Sync. -/
theorem flatten_of_skipping (h : answer true sent replies = some after)
    (hsync : ∀ frame ∈ sent, frame.message.tag ≠ some .sync) : replies.flatten = [] := by
  induction sent generalizing replies with
  | nil =>
    rw [answer_nil h]
    rfl
  | cons sent later ih =>
    obtain ⟨reply, replies, rfl, hconforms, hlater⟩ := answer_cons h
    rw [forall_mem_cons] at hsync
    have hreply : reply = [] := by
      cases hasks : asksReady sent.message with
      | true =>
        rcases conforms_asksReady hconforms hasks with ⟨-, hreply⟩ | ⟨hnot, -⟩
        · exact hreply
        · rw [asksReady, Bool.or_eq_true, beq_iff_eq, beq_iff_eq] at hasks
          exact absurd ⟨hasks.resolve_right hsync.1, rfl⟩ hnot
      | false =>
        by_cases hflush : sent.message.tag = some .flush
        · exact conforms_flush hconforms hflush
        · rcases conforms_extended hconforms hasks hflush with ⟨-, hreply⟩ | ⟨hskipping, -⟩
          · exact hreply
          · cases hskipping
    have hskips : skipsAfter true sent.message reply = true := by
      unfold skipsAfter
      split
      · rename_i htag
        exact absurd htag hsync.1
      · rfl
      · rfl
    rw [hskips] at hlater
    rw [flatten_cons, hreply, ih hlater hsync.2]
    rfl

/-- A frame that is sent has the tag of a frame of the client's, or is a Parse. -/
theorem PlannedAs.tag_mem (h : PlannedAs frames sent) : ∀ planned ∈ sent,
      planned.message.tag = some .parse ∨ ∃ frame ∈ frames, planned.message.tag = frame.tag := by
  induction h with
  | nil => nofun
  | own htag _ ih =>
    refine forall_mem_cons.2 ⟨.inr ⟨_, mem_cons_self, htag⟩, fun planned hplanned => ?_⟩
    exact (ih planned hplanned).imp_right fun ⟨f, hf, hftag⟩ => ⟨f, mem_cons_of_mem _ hf, hftag⟩
  | injected hparse htag _ _ ih =>
    refine forall_mem_cons.2 ⟨.inl hparse, forall_mem_cons.2
      ⟨.inr ⟨_, mem_cons_self, htag⟩, fun planned hplanned => ?_⟩⟩
    exact (ih planned hplanned).imp_right fun ⟨f, hf, hftag⟩ => ⟨f, mem_cons_of_mem _ hf, hftag⟩

theorem skipsAfter_extended (reply : List BackendFrame) (hasks : asksReady message = false) :
    skipsAfter skipping message reply = (skipping || reply.any (·.hasTag .errorResponse)) := by
  unfold skipsAfter
  split
  · rename_i htag
    simp [asksReady, htag] at hasks
  · rename_i htag
    simp [asksReady, htag] at hasks
  · rfl

section

variable {own owed : Nat} {progress : BackendCycleProgress} {shape : FrontendCycleShape}
  {message : FrontendMessage} {reply : List BackendFrame} {replies : List (List BackendFrame)}
  {later : List PlannedFrame} {after : Bool}

/-- The reply to one message of a flushed cycle: either it is completed, and `hdone` says what
follows, or it fails, and nothing follows. -/
theorem Owes.endsAt_cons (h : Owes own owed progress) (hexpects : shape.expectsReady = false)
    (hown : own < shape.expectedCompletionCount) (hasks : asksReady message = false)
    (hflush : message.tag ≠ some .flush) (hconforms : conforms false message reply = true)
    (hlater : answer (skipsAfter false message reply) later replies = some after)
    (hsync : ∀ frame ∈ later, frame.message.tag ≠ some .sync)
    (hdone : ∀ progress frame, Owes own owed progress → completes message frame = true →
      answer false later replies = some after →
        shape.EndsAt (progress.absorb frame) replies.flatten) :
    shape.EndsAt progress (reply ++ replies.flatten) := by
  obtain ⟨hskipping, -⟩ | ⟨-, init, frame, rfl, hlast, hquiet⟩ :=
    conforms_extended hconforms hasks hflush
  · cases hskipping
  rw [skipsAfter_extended _ hasks, Bool.false_or, any_append] at hlater
  have hinit : init.any (·.hasTag .errorResponse) = false := by
    rw [List.any_eq_false]
    intro f hf
    have hf := hquiet f hf
    simp only [isQuiet, Bool.and_eq_true, Bool.not_eq_eq_eq_not, Bool.not_true] at hf
    rw [hf.1.2]
    exact Bool.false_ne_true
  have hsame : (init ++ [frame]).foldl absorb progress =
      (init.foldl absorb progress).absorb frame := by
    rw [foldl_append]
    rfl
  rw [endsAt_append, hsame]
  refine ⟨h.waitsFor hexpects hown hquiet, ?_⟩
  rcases hlast with hcompletes | herror
  · have hnoError := (hasTag_of_completion (isBackendCycleCompletion_of_completes hcompletes)).1
    rw [hinit, any_cons, hnoError] at hlater
    exact hdone _ frame (h.foldl_quiet hquiet) hcompletes hlater
  · rw [any_cons, herror, Bool.true_or, Bool.or_true] at hlater
    rw [flatten_of_skipping hlater hsync]
    exact ⟨trivial, completedBy_error hexpects herror⟩

end

theorem asksReady_of_expects {frame : FrontendMessage} (htag : message.tag = frame.tag)
    (h : expectsBackendCompletion frame = true) :
    asksReady message = false ∧ message.tag ≠ some .flush := by
  rw [expectsBackendCompletion] at h
  rw [asksReady, htag]
  split at h
  all_goals first | (rename_i hframe; rw [hframe]; exact ⟨rfl, nofun⟩) | cases h

/-- **A flushed cycle ends exactly**: if the backend does not skip when the cycle comes, the
counters are complete after its last reply and not before, whether it succeeds or fails. -/
theorem Owes.endsAt (hplanned : PlannedAs frames sent) (hexpects : shape.expectsReady = false)
    (hframes : ∀ frame ∈ frames, expectsBackendCompletion frame = true ∨ frame.tag = some .flush)
    (hanswer : answer false sent replies = some after) {own : Nat}
    (howes : Owes own (sent.countP (·.injected)) progress)
    (hcount : shape.expectedCompletionCount = own + frames.countP expectsBackendCompletion) :
    shape.EndsAt progress replies.flatten := by
  have hsync : ∀ {frames : List FrontendMessage} {sent : List PlannedFrame},
      PlannedAs frames sent →
      (∀ frame ∈ frames, expectsBackendCompletion frame = true ∨ frame.tag = some .flush) →
      ∀ planned ∈ sent, planned.message.tag ≠ some .sync := by
    intro frames sent hplanned hframes planned hmem htag
    rcases hplanned.tag_mem planned hmem with hparse | ⟨frame, hframe, hsame⟩
    · cases hparse.symm.trans htag
    · rcases hframes frame hframe with hcompletion | hflush
      · rw [expectsBackendCompletion, ← hsame, htag] at hcompletion
        cases hcompletion
      · cases (htag.symm.trans hsame).trans hflush
  induction hplanned generalizing own progress replies with
  | nil =>
    rw [answer_nil hanswer]
    refine ⟨trivial, ?_⟩
    have hsum := howes.count
    have hbound := howes.bound
    rw [countP_nil] at hsum hbound hcount
    rw [flatten_nil, foldl_nil, howes.completedBy_eq hexpects, decide_eq_true_iff]
    omega
  | @own frame message frames sent htag hrest ih =>
    obtain ⟨reply, replies, rfl, hconforms, hlater⟩ := answer_cons hanswer
    rw [forall_mem_cons] at hframes
    rw [flatten_cons]
    rcases hframes.1 with hcompletion | hflush
    · obtain ⟨hasks, hnotFlush⟩ := asksReady_of_expects htag hcompletion
      rw [countP_cons_of_pos hcompletion] at hcount
      refine howes.endsAt_cons hexpects (by omega) hasks hnotFlush hconforms hlater
        (hsync hrest hframes.2) fun progress last howes hcompletes hlater => ?_
      exact ih hframes.2 hlater
        (howes.completed (isBackendCycleCompletion_of_completes hcompletes)) (by omega)
    · have hmessage : message.tag = some .flush := htag.trans hflush
      have hnone : expectsBackendCompletion frame = false := by
        rw [expectsBackendCompletion, hflush]
      rw [countP_cons_of_neg (by rw [hnone]; exact Bool.false_ne_true)] at hcount
      obtain rfl := conforms_flush hconforms hmessage
      rw [skipsAfter, hmessage] at hlater
      exact ih hframes.2 hlater howes hcount
  | @injected parse frame message frames sent hparse htag hcompletion hrest ih =>
    obtain ⟨parseReply, replies, rfl, hparseConforms, hlater⟩ := answer_cons hanswer
    rw [forall_mem_cons] at hframes
    rw [countP_cons_of_pos rfl, countP_cons_of_neg Bool.false_ne_true] at howes
    rw [countP_cons_of_pos hcompletion] at hcount
    obtain ⟨hasks, hnotFlush⟩ := asksReady_of_expects htag hcompletion
    have hlaterSync := hsync hrest hframes.2
    have hmessageSync : message.tag ≠ some .sync := by
      intro hmessage
      rw [asksReady, hmessage] at hasks
      cases hasks
    -- The reply to the injected Parse, then the one to the client's message.
    refine howes.endsAt_cons hexpects (by omega) (by rw [asksReady, hparse]; rfl)
      (by rw [hparse]; nofun) hparseConforms hlater
      (forall_mem_cons.2 ⟨hmessageSync, hlaterSync⟩)
      fun progress last howes hcompletes hlater => ?_
    rw [completes, hparse] at hcompletes
    obtain ⟨reply, replies, rfl, hconforms, hlater⟩ := answer_cons hlater
    refine (howes.injected hcompletes).endsAt_cons hexpects (by omega) hasks hnotFlush hconforms
      hlater hlaterSync fun progress last howes hcompletes hlater => ?_
    exact ih hframes.2 hlater
      (howes.completed (isBackendCycleCompletion_of_completes hcompletes)) (by omega)

/-! ### The whole loop -/

/-- The bytes of the first frames and those of the later ones. -/
theorem exists_split_of_parse {first later : List BackendFrame}
    (h : parseBackendFrames bytes = .ok (first ++ later, [])) :
    ∃ front back, bytes = front ++ back ∧ parseBackendFrames front = .ok (first, []) ∧
      parseBackendFrames back = .ok (later, []) := by
  induction first generalizing bytes with
  | nil => exact ⟨[], bytes, rfl, rfl, h⟩
  | cons frame first ih =>
    obtain ⟨behind, hcut, hbehind⟩ := parseBackendFrames_cons h
    obtain ⟨head, rfl, hhead⟩ := exists_of_cut hcut
    obtain ⟨front, back, rfl, hfront, hback⟩ := ih hbehind
    refine ⟨head ++ front, back, (append_assoc _ _ _).symm, ?_, hback⟩
    have hone : parseBackendFrames head = .ok ([frame], []) := parseBackendFrames_of_cut hhead rfl
    rw [parseBackendFrames_append hone, nil_append, hfront]
    rfl

/-- One read of whole frames, into an empty buffer that is large enough. -/
theorem relay_read {r : RelayState} {frames : List BackendFrame} {maxBuffer : Nat}
    (hbuffer : r.backendRead = []) (hne : bytes ≠ []) (hfits : bytes.length ≤ maxBuffer)
    (hparse : parseBackendFrames bytes = .ok (frames, []))
    (hready : shape.expectsReady = false → ∀ frame ∈ frames, frame.readyStatus = none)
    (hbefore : shape.completedBy r.progress = false) :
    shape.completedBy (frames.foldl absorb r.progress) = false ∧
        (∃ started, (relay shape maxBuffer r [.backendRead bytes .done]).2 = .timedOut started) ∨
      shape.completedBy (frames.foldl absorb r.progress) = true ∧
        (relay shape maxBuffer r [.backendRead bytes .done]).2.Completes := by
  have hpos : 0 < bytes.length := length_pos_of_ne_nil hne
  obtain ⟨hprogress, hresult⟩ := @RelayState.resultAfterRead_done shape r frames [] hbefore hready
  have hturn : r.onEvent shape maxBuffer (.backendRead bytes .done) =
      let drained := drainWith (ForwardCycleState.onFrame r.backend.id) r.progress r.state frames
      let r' := r.afterRead drained [] .done
      (r', r'.resultAfterRead shape drained .done) := by
    unfold RelayState.onEvent
    rw [hbuffer, if_neg (by rw [length_nil]; omega)]
    dsimp only
    rw [if_neg (by simpa using hne), nil_append, if_neg (by omega), hparse]
  rw [RelayState.relay_cons, hturn]
  dsimp only
  rw [← hprogress]
  rcases hresult with ⟨hnot, hnone⟩ | ⟨hcompleted, result, hsome, hcompletes⟩
  · rw [hnone]
    exact .inl ⟨hnot, _, rfl⟩
  · rw [hsome]
    exact .inr ⟨hcompleted, hcompletes⟩

theorem not_completes_of_waits {result : ForwardResult} (hwaits : result.Waits) :
    ¬result.Completes := by
  rcases hwaits with ⟨started, rfl⟩ | rfl
  · exact id
  · exact id

namespace Cycle

variable {c : Cycle} {planned : PlannedCycle}

theorem forward_of_noResponse (hplan : c.planned = some planned)
    (hshape : (fromFrames c.frames).expectsNoResponse = true)
    (maxBuffer : Nat) (events : List WireEvent) :
    (c.forward maxBuffer events).result = .flushed ∧
      (c.forward maxBuffer events).backendRead = [] := by
  rw [Cycle.planned] at hplan
  rw [forward, forwardMessageCycle, hplan]
  dsimp only
  rw [if_pos hshape]
  exact ⟨rfl, rfl⟩

theorem forward_of_response (hplan : c.planned = some planned)
    (hshape : (fromFrames c.frames).expectsNoResponse = false)
    (maxBuffer : Nat) (events : List WireEvent) :
    let ended := relay (.fromFrames c.frames) maxBuffer (planned.relayStart c.backend []) events
    (c.forward maxBuffer events).result = ended.2 ∧
      (c.forward maxBuffer events).backendRead = ended.1.backendRead := by
  rw [Cycle.planned] at hplan
  rw [forward, forwardMessageCycle, hplan]
  dsimp only
  rw [if_neg (by rw [hshape]; exact Bool.false_ne_true)]
  exact ⟨rfl, rfl⟩

/-- Counters that have seen nothing are not complete, if something is expected. -/
theorem completedBy_start {shape : FrontendCycleShape} (h : shape.expectsNoResponse = false)
    (injectedParseCompletes : Nat) : shape.completedBy { injectedParseCompletes } = false := by
  rw [completedBy]
  split
  · rename_i hexpects
    have hpos : 0 < shape.expectedReadyCount := of_decide_eq_true hexpects
    exact decide_eq_false (Nat.not_le.2 hpos)
  · rename_i hexpects
    have hready : shape.expectedReadyCount = 0 := by
      rw [expectsReady, decide_eq_true_iff] at hexpects
      omega
    rw [expectsNoResponse, hready] at h
    refine decide_eq_false fun hle => ?_
    rw [Nat.le_zero.1 hle] at h
    exact absurd h (by decide)

section

variable {shape : FrontendCycleShape} {frames : List BackendFrame}

/-- A loop that ends exactly with the replies has complete counters after the last frame, since it
may get all of them in one read, and not before, since a read may end there. -/
theorem EndsExactly.endsAt (h : c.EndsExactly) (hplan : c.planned = some planned)
    (hs : fromFrames c.frames = shape)
    (hparse : parseBackendFrames c.bytes = .ok (frames, []))
    (hready : shape.expectsReady = false → ∀ frame ∈ frames, frame.readyStatus = none)
    (hshape : shape.expectsNoResponse = false) :
    shape.EndsAt { injectedParseCompletes := planned.injectedParseCompletes } frames := by
  subst hs
  have hforward := forward_of_response hplan hshape
  have hstart := completedBy_start hshape planned.injectedParseCompletes
  refine ⟨waitsFor_iff.2 fun first later hsplit hlater => ?_, ?_⟩
  · subst hsplit
    obtain ⟨front, back, hbytes, hfront, hback⟩ := exists_split_of_parse hparse
    have hbackNe : back ≠ [] := by
      rintro rfl
      exact hlater (Prod.mk.inj (Except.ok.inj hback)).1.symm
    by_cases hfrontNil : front = []
    · rw [hfrontNil] at hfront
      rw [← (Prod.mk.inj (Except.ok.inj hfront)).1]
      exact hstart
    · have hreceived : receivedBytes [.backendRead front .done] = front := append_nil _
      have hne : receivedBytes [.backendRead front .done] ≠ c.bytes := by
        rw [hreceived, hbytes]
        exact fun heq => hbackNe (append_right_eq_self.1 heq.symm)
      have hprefix : receivedBytes [.backendRead front .done] <+: c.bytes := by
        rw [hreceived, hbytes]
        exact prefix_append _ _
      have hwaits := (h front.length [.backendRead front .done]
        (forall_mem_singleton.2 ⟨hfrontNil, rfl⟩)).1 hprefix hne
      rw [(hforward _ _).1] at hwaits
      have hreadyFirst := fun hexpects frame hframe =>
        hready hexpects frame (mem_append_left later hframe)
      rcases @relay_read _ front (planned.relayStart c.backend []) first front.length rfl hfrontNil
        (Nat.le_refl _) hfront hreadyFirst hstart with ⟨hnot, -⟩ | ⟨-, hcompletes⟩
      · exact hnot
      · exact absurd hcompletes (not_completes_of_waits hwaits)
  · by_cases hbytes : c.bytes = []
    · have hended := (h 1 [] nofun).2 hbytes.symm
      rw [(hforward 1 []).1] at hended
      rcases hended with hlimit | ⟨hcompletes, -⟩
      · cases hlimit
      · exact hcompletes.elim
    · have hreceived : receivedBytes [.backendRead c.bytes .done] = c.bytes := append_nil _
      have hended := (h c.bytes.length [.backendRead c.bytes .done]
        (forall_mem_singleton.2 ⟨hbytes, rfl⟩)).2 hreceived
      rw [(hforward _ _).1] at hended
      rcases @relay_read _ c.bytes (planned.relayStart c.backend []) frames c.bytes.length rfl
        hbytes (Nat.le_refl _) hparse hready hstart with ⟨-, started, htimedOut⟩ | ⟨hcompleted, -⟩
      · rw [htimedOut] at hended
        rcases hended with hlimit | ⟨hcompletes, -⟩
        · cases hlimit
        · exact hcompletes.elim
      · exact hcompleted

theorem endsExactly_of_endsAt (hplan : c.planned = some planned)
    (hs : fromFrames c.frames = shape)
    (hparse : parseBackendFrames c.bytes = .ok (frames, []))
    (hready : shape.expectsReady = false → ∀ frame ∈ frames, frame.readyStatus = none)
    (hshape : shape.expectsNoResponse = false)
    (hends : shape.EndsAt { injectedParseCompletes := planned.injectedParseCompletes } frames) :
    c.EndsExactly := by
  subst hs
  have hstart := completedBy_start hshape planned.injectedParseCompletes
  intro maxBuffer events hevents
  obtain ⟨hresult, hread⟩ := forward_of_response hplan hshape maxBuffer events
  rw [hresult, hread]
  refine ⟨?_, fun hall => ?_⟩
  · rintro ⟨more, hmore⟩ hne
    have hmoreNe : more ≠ [] := by
      rintro rfl
      exact hne (by rw [← hmore, append_nil])
    rw [← hmore] at hparse
    obtain ⟨first, left, later, hfirst, hlater, rfl⟩ := parseBackendFrames_split hparse
    have hlaterNe : later ≠ [] := by
      rintro rfl
      exact hmoreNe (append_eq_nil_iff.1 (eq_of_parse_nil hlater).symm).2
    refine (relay_of_waitsFor (r := planned.relayStart c.backend []) hevents rfl hfirst
      (fun hexpects frame hframe => hready hexpects frame (mem_append_left _ hframe)) hstart
      (waitsFor_append.1 hends.1).1).1 ?_
    exact waitsFor_iff.1 hends.1 first later rfl hlaterNe
  · exact (relay_of_waitsFor (r := planned.relayStart c.backend []) hevents rfl (hall.symm ▸ hparse)
      hready hstart hends.1).2 hends.2 rfl

end

/-- A loop that waits for nothing ends exactly with the replies if there are none. -/
theorem endsExactly_of_noResponse (hplan : c.planned = some planned)
    (hshape : (fromFrames c.frames).expectsNoResponse = true)
    (hbytes : c.bytes = []) : c.EndsExactly := by
  intro maxBuffer events _
  obtain ⟨hresult, hread⟩ := forward_of_noResponse hplan hshape maxBuffer events
  rw [hresult, hread, hbytes]
  refine ⟨fun hprefix hne => ?_, fun _ => .inr ⟨trivial, rfl⟩⟩
  exact absurd (prefix_nil.1 hprefix) hne

end Cycle

/-! ### The frames of a cycle -/

theorem asksReady_congr {frame : FrontendMessage} (h : message.tag = frame.tag) :
    asksReady message = asksReady frame := by
  rw [asksReady, asksReady, h]

theorem PlannedAs.countP_asksReady (h : PlannedAs frames sent) :
    sent.countP (asksReady ·.message) = frames.countP asksReady := by
  induction h with
  | nil => rfl
  | own htag _ ih => rw [countP_cons, countP_cons, ih, asksReady_congr htag]
  | @injected parse _ _ _ _ hparse htag _ _ ih =>
    have hnot : asksReady parse = false := by
      rw [asksReady, hparse]
      rfl
    rw [countP_cons_of_neg (by rw [hnot]; exact Bool.false_ne_true), countP_cons,
      countP_cons, ih, asksReady_congr htag]

theorem PlannedAs.asksLast_eq (h : PlannedAs frames sent) (acc : Bool) :
    asksLast acc (sent.map (·.message)) = asksLast acc frames := by
  induction h generalizing acc with
  | nil => rfl
  | own htag _ ih =>
    rw [map_cons, asksLast, foldl_cons, htag, asksReady_congr htag]
    exact ih _
  | injected hparse htag hexpects _ ih =>
    obtain ⟨-, hflush⟩ := asksReady_of_expects htag hexpects
    rw [map_cons, map_cons, asksLast, foldl_cons, foldl_cons,
      if_neg hflush, asksReady_congr htag, asksLast, foldl_cons, if_neg (htag ▸ hflush)]
    exact ih _

namespace Cycle

variable {c : Cycle}

theorem body_of_wellFormed (h : c.wellFormed = true) :
    ∀ frame ∈ c.body, expectsBackendCompletion frame = true ∨ isQuery frame = true := by
  intro frame hframe
  have hbody := List.all_eq_true.1 (Bool.and_eq_true_iff.1 h).1 frame hframe
  exact Bool.or_eq_true_iff.1 hbody

theorem queries_of_wellFormed (h : c.wellFormed = true) (hboundary : c.boundary = .queries) :
    c.body ≠ [] ∧ ∀ frame ∈ c.body, isQuery frame = true := by
  have hqueries := (Bool.and_eq_true_iff.1 h).2
  rw [hboundary] at hqueries
  simp only [bne_self_eq_false, Bool.false_or, Bool.and_eq_true, Bool.not_eq_eq_eq_not,
    Bool.not_true, isEmpty_eq_false_iff, List.all_eq_true] at hqueries
  exact hqueries

theorem asksReady_of_isQuery {frame : FrontendMessage} (h : isQuery frame = true) :
    asksReady frame = true := by
  rw [asksReady, show (frame.tag == some .query) = true from h, Bool.true_or]

/-- In the body of a cycle, the queries ask for ReadyForQuery and nothing else does. -/
theorem asksReady_body (h : c.wellFormed = true) :
    ∀ frame ∈ c.body, frame.tag ≠ some .flush ∧ asksReady frame = isQuery frame := by
  intro frame hframe
  rcases body_of_wellFormed h frame hframe with hexpects | hquery
  · obtain ⟨hasks, hflush⟩ := asksReady_of_expects rfl hexpects
    refine ⟨hflush, hasks.trans ?_⟩
    rw [asksReady, Bool.or_eq_false_iff] at hasks
    exact hasks.1.symm
  · refine ⟨fun hflush => ?_, (asksReady_of_isQuery hquery).trans hquery.symm⟩
    rw [isQuery, hflush] at hquery
    exact absurd hquery (by decide)

/-- The proxy expects one ReadyForQuery for each frame that asks for it. -/
theorem expectedReadyCount_eq (h : c.wellFormed = true) :
    (fromFrames c.frames).expectedReadyCount = c.frames.countP asksReady := by
  have hbody : c.body.countP (fun frame => frame.tag == some .query) = c.body.countP asksReady :=
    countP_congr fun frame hframe => by rw [(asksReady_body h frame hframe).2]; rfl
  rw [fromFrames, frames]
  dsimp only
  rw [countP_append, countP_append, hbody]
  cases hboundary : c.boundary with
  | flush | sync =>
    rw [Boundary.frames, getLast?_concat]
    rfl
  | queries =>
    obtain ⟨hne, hqueries⟩ := queries_of_wellFormed h hboundary
    have hlast : (c.body.getLast?.any fun frame => frame.tag == some .sync) = false := by
      rw [getLast?_eq_getLast_of_ne_nil hne]
      have hquery := beq_iff_eq.1 (hqueries _ (getLast_mem hne))
      rw [any_some, hquery]
      rfl
    rw [Boundary.frames, append_nil, hlast]
    rfl

/-- The last frame of a body that is answered. -/
theorem asksLast_body (h : c.wellFormed = true) :
    asksLast false c.body = c.body.getLast?.any isQuery := by
  rcases eq_nil_or_concat c.body with hbody | ⟨init, frame, hbody⟩
  · rw [hbody]
    rfl
  · rw [concat_eq_append] at hbody
    obtain ⟨hflush, hasks⟩ := asksReady_body h frame (hbody ▸ mem_append_right _
      mem_cons_self)
    rw [hbody, asksLast, foldl_append, getLast?_concat, foldl_cons, if_neg hflush]
    exact hasks

variable {skipping after : Bool}

variable {planned : PlannedCycle}

/-- A cycle that expects ReadyForQuery. -/
theorem endsExactly_iff_of_ready (hwell : c.wellFormed = true) (hplan : c.planned = some planned)
    (hparse : parseBackendFrames c.bytes = .ok (c.replies.flatten, []))
    (hanswer : answer skipping planned.frames c.replies = some after)
    (hexpects : (fromFrames c.frames).expectsReady = true) :
    c.EndsExactly ↔ queriesReached skipping planned.frames c.replies = true ∧
      asksLast false c.frames = true := by
  have hplanned := plannedAs_planFrontendCycle hplan
  have hresponse : (fromFrames c.frames).expectsNoResponse = false := by
    rw [expectsNoResponse, Bool.and_eq_false_iff]
    exact .inl (beq_false_of_ne (Nat.ne_of_gt (of_decide_eq_true hexpects)))
  have hready : (fromFrames c.frames).expectsReady = false →
      ∀ frame ∈ c.replies.flatten, frame.readyStatus = none :=
    fun hnot => absurd (hexpects.symm.trans hnot) (by decide)
  have hends : c.EndsExactly ↔ (fromFrames c.frames).EndsAt
      { injectedParseCompletes := planned.injectedParseCompletes } c.replies.flatten :=
    ⟨fun h => h.endsAt hplan rfl hparse hready hresponse,
      endsExactly_of_endsAt hplan rfl hparse hready hresponse⟩
  obtain ⟨hle, hiff⟩ := countP_ready_answer hanswer
  rw [hplanned.countP_asksReady, ← expectedReadyCount_eq hwell] at hle hiff
  rw [hends, endsAt_ready_iff hexpects rfl hle, hiff]
  refine and_congr_right fun hreached => ?_
  rw [readyLast_answer hanswer hreached fun _ => rfl, hplanned.asksLast_eq]

/-- A cycle that does not: it ends with Flush, and there is no Query in it. -/
theorem flush_of_not_ready (hwell : c.wellFormed = true)
    (hexpects : (fromFrames c.frames).expectsReady = false) :
    c.boundary = .flush ∧ ∀ frame ∈ c.body, expectsBackendCompletion frame = true ∧
      isQuery frame = false := by
  have hzero : c.frames.countP asksReady = 0 := by
    rw [expectsReady, expectedReadyCount_eq hwell, decide_eq_false_iff_not]
      at hexpects
    omega
  rw [countP_eq_zero, frames, forall_mem_append] at hzero
  have hquery : ∀ frame ∈ c.body, isQuery frame = false := by
    intro frame hframe
    exact Bool.eq_false_iff.2 fun hquery => hzero.1 frame hframe (asksReady_of_isQuery hquery)
  refine ⟨?_, fun frame hframe => ⟨?_, hquery frame hframe⟩⟩
  · cases hboundary : c.boundary with
    | flush => rfl
    | sync =>
      rw [hboundary] at hzero
      exact absurd rfl (hzero.2 .sync mem_cons_self)
    | queries =>
      obtain ⟨hne, hqueries⟩ := queries_of_wellFormed hwell hboundary
      obtain ⟨frame, hframe⟩ := exists_mem_of_ne_nil _ hne
      exact absurd ((hqueries frame hframe).symm.trans (hquery frame hframe)) (by decide)
  · rcases body_of_wellFormed hwell frame hframe with hcompletion | hisQuery
    · exact hcompletion
    · exact absurd (hisQuery.symm.trans (hquery frame hframe)) (by decide)

/-- A Flush alone is not answered. -/
theorem flatten_of_flush {sent : List PlannedFrame} {replies : List (List BackendFrame)}
    (hplanned : PlannedAs [.flush] sent) (hanswer : answer skipping sent replies = some after) :
    replies.flatten = [] := by
  cases hplanned with
  | own htag hrest =>
    cases hrest
    obtain ⟨reply, replies, rfl, hconforms, hlater⟩ := answer_cons hanswer
    rw [conforms_flush hconforms htag, answer_nil hlater]
    rfl
  | injected _ _ hexpects _ => cases hexpects

theorem endsExactly_iff_of_not_ready (hwell : c.wellFormed = true)
    (hplan : c.planned = some planned)
    (hparse : parseBackendFrames c.bytes = .ok (c.replies.flatten, []))
    (hanswer : answer skipping planned.frames c.replies = some after)
    (hexpects : (fromFrames c.frames).expectsReady = false) :
    c.EndsExactly ↔ c.body = [] ∨ skipping = false := by
  obtain ⟨hflush, hbody⟩ := flush_of_not_ready hwell hexpects
  have hplanned := plannedAs_planFrontendCycle hplan
  have hframes : c.frames = c.body ++ [.flush] := by rw [frames, hflush, Boundary.frames]
  have hzero : (fromFrames c.frames).expectedReadyCount = 0 := by
    rw [expectsReady, decide_eq_false_iff_not] at hexpects
    omega
  have hcount : (fromFrames c.frames).expectedCompletionCount =
      c.frames.countP expectsBackendCompletion := if_pos hzero
  have hlength : c.frames.countP expectsBackendCompletion = c.body.length := by
    rw [hframes, countP_append, countP_eq_length.2 fun frame hframe => (hbody frame hframe).1]
    rfl
  by_cases hnil : c.body = []
  · have hshape : (fromFrames c.frames).expectsNoResponse = true := by
      rw [expectsNoResponse, hzero, hcount, hlength, hnil]
      rfl
    rw [hframes, hnil, nil_append] at hplanned
    rw [flatten_of_flush hplanned hanswer] at hparse
    exact iff_of_true (endsExactly_of_noResponse hplan hshape (eq_of_parse_nil hparse).symm)
      (.inl hnil)
  · have hshape : (fromFrames c.frames).expectsNoResponse = false := by
      rw [expectsNoResponse, hcount, hlength, Bool.and_eq_false_iff]
      exact .inr (beq_false_of_ne (mt length_eq_zero_iff.1 hnil))
    have hready : (fromFrames c.frames).expectsReady = false →
        ∀ frame ∈ c.replies.flatten, frame.readyStatus = none := by
      intro _ frame hframe
      have hnone := (countP_ready_answer hanswer).1
      rw [hplanned.countP_asksReady, ← expectedReadyCount_eq hwell, hzero, Nat.le_zero,
        countP_eq_zero] at hnone
      exact not_isSome_iff_eq_none.1 (hnone frame hframe)
    cases skipping with
    | false =>
      refine iff_of_true (endsExactly_of_endsAt hplan rfl hparse hready hshape ?_) (.inr rfl)
      refine Owes.endsAt hplanned hexpects ?_ hanswer ⟨rfl, Nat.le_refl _, rfl⟩
        (hcount.trans (Nat.zero_add _).symm)
      rw [hframes, forall_mem_append, forall_mem_singleton]
      exact ⟨fun frame hframe => .inl (hbody frame hframe).1, .inr rfl⟩
    | true =>
      -- Nothing comes, and the counters are not complete.
      refine iff_of_false (fun h => ?_) (by simp [hnil])
      have hsync : ∀ frame ∈ planned.frames, frame.message.tag ≠ some .sync := by
        intro frame hframe htag
        have hasks : 0 < planned.frames.countP (asksReady ·.message) :=
          countP_pos_iff.2 ⟨frame, hframe, by rw [asksReady, htag]; rfl⟩
        rw [hplanned.countP_asksReady, ← expectedReadyCount_eq hwell, hzero] at hasks
        exact absurd hasks (Nat.lt_irrefl 0)
      have hends := h.endsAt hplan rfl hparse hready hshape
      rw [flatten_of_skipping hanswer hsync] at hends
      exact absurd (hends.2.symm.trans (completedBy_start hshape _)) (by decide)

/-- **When the loop ends exactly with the replies.** -/
theorem endsExactly_iff (hwell : c.wellFormed = true) (hplan : c.planned.isSome = true)
    (hparse : parseBackendFrames c.bytes = .ok (c.replies.flatten, []))
    (hanswer : answer skipping c.sent c.replies = some after) :
    c.EndsExactly ↔ c.Counted skipping := by
  obtain ⟨planned, hplan⟩ := isSome_iff_exists.1 hplan
  have hsent : c.sent = planned.frames := by
    rw [sent, hplan]
    rfl
  rw [hsent] at hanswer
  rw [Counted, hsent]
  cases hexpects : (fromFrames c.frames).expectsReady with
  | true =>
    rw [endsExactly_iff_of_ready hwell hplan hparse hanswer hexpects, frames]
    refine and_congr_right fun _ => ?_
    cases hboundary : c.boundary with
    | sync =>
      rw [Boundary.frames, asksLast, foldl_append]
      exact iff_of_true rfl nofun
    | queries =>
      obtain ⟨hne, hqueries⟩ := queries_of_wellFormed hwell hboundary
      rw [Boundary.frames, append_nil, asksLast_body hwell, getLast?_eq_getLast_of_ne_nil hne]
      exact iff_of_true (hqueries _ (getLast_mem hne)) nofun
    | flush =>
      -- A Query is expected to be answered, so there is one in the body.
      have hquery : c.body.any isQuery = true := by
        rw [expectsReady, expectedReadyCount_eq hwell, frames, hboundary,
          decide_eq_true_iff, countP_append, Boundary.frames] at hexpects
        obtain ⟨frame, hframe, hasks⟩ := countP_pos_iff.1 (show 0 < _ from hexpects)
        exact any_eq_true.2 ⟨frame, hframe, (asksReady_body hwell frame hframe).2 ▸ hasks⟩
      have hne : c.body ≠ [] := by
        intro hnil
        rw [hnil] at hquery
        cases hquery
      have hlast : asksLast false (c.body ++ Boundary.flush.frames) = asksLast false c.body := by
        rw [Boundary.frames, asksLast, foldl_append]
        rfl
      rw [hlast, asksLast_body hwell, hquery]
      simp [hne]
  | false =>
    rw [endsExactly_iff_of_not_ready hwell hplan hparse hanswer hexpects]
    obtain ⟨hflush, hbody⟩ := flush_of_not_ready hwell hexpects
    have hquery : c.body.any isQuery = false := by
      rw [List.any_eq_false]
      exact fun frame hframe => Bool.eq_false_iff.1 (hbody frame hframe).2
    have hlast : c.body.getLast?.any isQuery = false := by
      rw [← asksLast_body hwell]
      by_contra hasks
      rw [asksLast_body hwell, Bool.not_eq_false] at hasks
      obtain ⟨hsome, hisQuery⟩ := (any_eq_true_iff_get _ _).1 hasks
      have hmem := mem_of_getLast? (some_get hsome).symm
      exact absurd (hisQuery.symm.trans (hbody _ hmem).2) (by decide)
    have hreached : queriesReached skipping planned.frames c.replies = true := by
      obtain ⟨hle, hiff⟩ := countP_ready_answer hanswer
      have hzero : planned.frames.countP (asksReady ·.message) = 0 := by
        rw [expectsReady, expectedReadyCount_eq hwell,
          ← (plannedAs_planFrontendCycle hplan).countP_asksReady, decide_eq_false_iff_not]
          at hexpects
        omega
      exact hiff.1 (by omega)
    simp only [hreached, hflush, hquery, hlast, true_and, forall_const, Bool.false_eq_true,
      false_or, and_true]

end Cycle

theorem step_eq_some {c : Cycle} {es : List Cycle} (h : step skipping c = some (after, es)) :
    es = [c] ∧ c.wellFormed = true ∧ c.planned.isSome = true ∧
      parseBackendFrames c.bytes = .ok (c.replies.flatten, []) ∧
      answer skipping c.sent c.replies = some after := by
  unfold step at h
  split at h
  · rename_i hcycle
    rw [Bool.and_eq_true, Bool.and_eq_true, decide_eq_true_iff] at hcycle
    obtain ⟨after', hanswer, hstep⟩ := map_eq_some_iff.1 h
    obtain ⟨rfl, rfl⟩ := Prod.mk.inj hstep
    exact ⟨rfl, hcycle.1.1, hcycle.1.2, hcycle.2, hanswer⟩
  · cases h

/-- A run emits its cycles. -/
theorem run_events {cycles es : List Cycle}
    (hrun : machine.run skipping cycles = some (after, es)) : es = cycles := by
  induction cycles generalizing skipping es with
  | nil => exact (Prod.mk.inj (some.inj hrun)).2.symm
  | cons c cycles ih =>
    obtain ⟨skipping', es₁, es₂, hstep, hrest, rfl⟩ := machine.run_cons_eq_some hrun
    rw [(step_eq_some hstep).1, ih hrest]
    rfl

/-- **Pipelines.** In a run of cycles against a conforming backend, the loop of every cycle ends
exactly with the replies to it, if and only if every cycle is counted right: with what the backend
skips when the cycle comes, no Query of it is skipped, and a cycle with Flush at its end is empty,
or has a Query in front of the Flush, or has no Query and meets a backend that does not skip. -/
theorem endsExactly_iff_meets {skipping after : Bool} {cycles es : List Cycle}
    (hrun : machine.run skipping cycles = some (after, es)) :
    (∀ c ∈ cycles, c.EndsExactly) ↔
      machine.Meets (fun skipping c => c.Counted skipping) skipping cycles := by
  have hstep : ∀ skipping c after es, True → machine.step skipping c = some (after, es) →
      (c.Counted skipping ↔ ∀ e ∈ es, Cycle.EndsExactly e) ∧ (c.Counted skipping → True) := by
    intro skipping c after es _ hstep
    obtain ⟨rfl, hwell, hplan, hparse, hanswer⟩ := step_eq_some hstep
    rw [forall_mem_singleton]
    exact ⟨(Cycle.endsExactly_iff hwell hplan hparse hanswer).symm, fun _ => trivial⟩
  rw [EventMachine.Machine.meets_iff_of_step machine hstep trivial hrun, run_events hrun]

/-- A cycle of a session without settings and statements. -/
def freshCycle (body : List FrontendMessage) (boundary : Boundary)
    (replies : List (List BackendFrame)) (bytes : List Byte) : Cycle where
  session := {}
  prepared := .new 1
  backend := ⟨7, .idle⟩
  commands := []
  body
  boundary
  replies
  bytes

/-- Parse and Bind, flushed, and then Execute with Sync. -/
def parseThenExecute : List Cycle :=
  [freshCycle [.parse "s" "SELECT 1" [], .bind "s"] .flush [[⟨49, []⟩], [⟨50, []⟩], []]
      [49, 0, 0, 0, 4, 50, 0, 0, 0, 4],
    freshCycle [.execute] .sync [[⟨67, [0]⟩], [⟨90, [73]⟩]]
      [67, 0, 0, 0, 5, 0, 90, 0, 0, 0, 5, 73]]

theorem endsExactly_parseThenExecute :
    (∃ after es, machine.run false parseThenExecute = some (after, es)) ∧
      machine.Meets (fun skipping c => c.Counted skipping) false parseThenExecute ∧
      ∀ c ∈ parseThenExecute, c.EndsExactly := by
  have hsome : (machine.run false parseThenExecute).isSome = true := by decide +kernel
  obtain ⟨⟨after, es⟩, hrun⟩ := isSome_iff_exists.1 hsome
  have hmeets : machine.Meets (fun skipping c => c.Counted skipping) false parseThenExecute := by
    decide +kernel
  exact ⟨⟨after, es, hrun⟩, hmeets, (endsExactly_iff_meets hrun).2 hmeets⟩

/-- A Parse that fails, flushed, and then Bind and Execute, flushed: the backend skips them. -/
def failedParseThenBind : List Cycle :=
  [freshCycle [.parse "s" "SELEC 1" []] .flush [[⟨69, [0]⟩], []] [69, 0, 0, 0, 5, 0],
    freshCycle [.bind "p", .execute] .flush [[], [], []] []]

/-- **A reply that is never sent.** The loop of the second cycle waits for two replies. -/
theorem not_endsExactly_failedParseThenBind :
    (∃ after es, machine.run false failedParseThenBind = some (after, es)) ∧
      ¬∀ c ∈ failedParseThenBind, c.EndsExactly := by
  have hsome : (machine.run false failedParseThenBind).isSome = true := by decide +kernel
  obtain ⟨⟨after, es⟩, hrun⟩ := isSome_iff_exists.1 hsome
  refine ⟨⟨after, es, hrun⟩, fun h => ?_⟩
  have hended := (h _ (mem_cons_of_mem _ mem_cons_self) 4096 [] nofun).2 rfl
  have hresult : ((freshCycle [.bind "p", .execute] .flush [[], [], []] []).forward 4096
      []).result = .timedOut false := by decide +kernel
  rcases hended with hlimit | ⟨hcompletes, -⟩
  · cases hlimit
  · exact hcompletes

end Pipeline

end PgKinetic
