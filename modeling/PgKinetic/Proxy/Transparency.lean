import PgKinetic.Lib.EraseFirst
import PgKinetic.Proxy.Forwarding

/-!
# Response transparency

The proxy may inject Parse messages into a cycle, and the client must not see their replies. The
drain only counts the injected messages and swallows **the first that many** ParseComplete frames.
Against the answers of a conforming backend (`Answers`), in which each reply is known to belong to
an injected message or not, what the drain forwards is exactly the backend's frames without the
replies to injected messages if and only if these replies come in order (`InjectedInOrder`): a
ParseComplete of the client's own is otherwise swallowed in place of a later one.
-/

namespace PgKinetic

open List BackendFrame BackendCycleProgress

/-- What the drain takes for the reply to a Parse. -/
def BackendFrame.isParseComplete (frame : BackendFrame) : Bool := frame.hasTag .parseComplete

/-! ### The drain over several reads -/

section Drain

variable {σ : Type} (onFrame : σ → BackendFrame → σ)

/-- The frames the drain forwards, read by read. -/
def drainReads : BackendCycleProgress → σ → List (List BackendFrame) → List BackendFrame
  | _, _, [] => []
  | progress, acc, frames :: reads =>
    let drained := drainWith onFrame progress acc frames
    drained.forwarded ++ drainReads drained.progress drained.acc reads

variable (progress : BackendCycleProgress)

/-- Where a read ends makes no difference to the drain. -/
theorem drainWith_append (acc : σ) (l₁ l₂ : List BackendFrame) :
    (drainWith onFrame progress acc (l₁ ++ l₂)).forwarded =
      (drainWith onFrame progress acc l₁).forwarded ++
        (drainWith onFrame (drainWith onFrame progress acc l₁).progress
          (drainWith onFrame progress acc l₁).acc l₂).forwarded := by
  induction l₁ generalizing progress acc with
  | nil => rfl
  | cons frame l₁ ih =>
    rw [cons_append]
    by_cases hswallow : progress.swallows frame
    · simp only [drainWith, hswallow, if_true, ih]
    · simp only [drainWith, hswallow, Bool.false_eq_true, if_false, ih, cons_append]

theorem drainReads_eq (acc : σ) (reads : List (List BackendFrame)) :
    drainReads onFrame progress acc reads =
      (drainWith onFrame progress acc reads.flatten).forwarded := by
  induction reads generalizing progress acc with
  | nil => rfl
  | cons frames reads ih => rw [drainReads, flatten_cons, drainWith_append, ih]

/-- **The drain erases the first ParseCompletes**, as many as it was told to expect. -/
theorem drainWith_forwarded (acc : σ) (frames : List BackendFrame) :
    (drainWith onFrame progress acc frames).forwarded =
      (eraseP isParseComplete)^[progress.injectedParseCompletes] frames := by
  induction frames generalizing progress acc with
  | nil => rw [EraseFirst.iterate_eraseP_nil]; rfl
  | cons frame frames ih =>
    cases htag : frame.isParseComplete with
    | false =>
      rw [EraseFirst.iterate_eraseP_cons_of_neg htag]
      rw [isParseComplete] at htag
      simp only [drainWith, swallows, htag, Bool.and_false, Bool.false_eq_true,
        if_false, ih, forward]
    | true =>
      cases hcount : progress.injectedParseCompletes with
      | zero =>
        simp only [drainWith, swallows, hcount, ih, forward]
        rfl
      | succ k =>
        rw [EraseFirst.iterate_eraseP_cons_of_pos htag]
        rw [isParseComplete] at htag
        simp only [drainWith, swallows, hcount, htag, ih, Nat.zero_lt_succ,
          decide_true, Bool.and_self, if_true, Nat.add_sub_cancel]

end Drain

/-! ### A conforming backend -/

/-- A frame a backend may send at any time: NoticeResponse, ParameterStatus or
NotificationResponse. -/
def BackendFrame.isAsync (frame : BackendFrame) : Bool :=
  frame.hasTag .parameterStatus || frame.tag == 'N'.toUInt8 || frame.tag == 'A'.toUInt8

/-- A frame of a result before its end: a row, or one of a copy. -/
def BackendFrame.isResult (frame : BackendFrame) : Bool :=
  frame.hasTag .dataRow || frame.hasTag .copyInResponse || frame.hasTag .copyBothResponse ||
    frame.tag == 'H'.toUInt8 || frame.tag == 'd'.toUInt8 || frame.tag == 'c'.toUInt8

/-- ParseComplete has no payload. -/
def parseCompleteFrame : BackendFrame := ⟨BackendTag.parseComplete.byte, []⟩

/-- The frames with which a backend answers a message it has processed. -/
inductive Answered : FrontendMessage → List BackendFrame → Prop where
  | parse {name query : Text} {oids : List Int} :
    Answered (.parse name query oids) [parseCompleteFrame]
  | bind {name : Text} {f : BackendFrame} (h : f.hasTag .bindComplete) : Answered (.bind name) [f]
  | describeStatement {name : Text} {f g : BackendFrame} (hf : f.hasTag .parameterDescription)
    (hg : g.hasTag .rowDescription ∨ g.hasTag .noData) :
    Answered (.describe (.statement name)) [f, g]
  | describePortal {name : Text} {f : BackendFrame}
    (h : f.hasTag .rowDescription ∨ f.hasTag .noData) : Answered (.describe (.portal name)) [f]
  | execute {rows : List BackendFrame} {f : BackendFrame} (hrows : ∀ row ∈ rows, row.isResult)
    (h : f.hasTag .commandComplete ∨ f.hasTag .emptyQueryResponse ∨ f.hasTag .portalSuspended) :
    Answered .execute (rows ++ [f])
  | close {target : StatementTarget} {f : BackendFrame} (h : f.hasTag .closeComplete) :
    Answered (.close target) [f]
  | flush : Answered .flush []

/-- A frame of the backend, with whether it answers an injected message. -/
structure Reply where
  frame : BackendFrame
  toInjected : Bool
  deriving DecidableEq

/-- **The answers of a conforming backend** to the frames it is sent: one after the other, until
one fails (after a part of its result, if it is an Execute); then everything up to `Sync` is
skipped. The commit at `Sync` may fail as well. -/
inductive Answers : (skipping : Bool) → List PlannedFrame → List Reply → Prop where
  | nil {skipping : Bool} : Answers skipping [] []
  | done {m : PlannedFrame} {ms : List PlannedFrame} {frames : List BackendFrame} {rs : List Reply}
    (h : Answered m.message frames) (hrest : Answers false ms rs) :
    Answers false (m :: ms) (frames.map (⟨·, m.injected⟩) ++ rs)
  | failed {m : PlannedFrame} {ms : List PlannedFrame} {rows : List BackendFrame}
    {error : BackendFrame} {rs : List Reply} (h : m.message ≠ .sync)
    (hrows : ∀ row ∈ rows, row.isResult) (hexecute : rows ≠ [] → m.message = .execute)
    (herror : error.hasTag .errorResponse) (hrest : Answers true ms rs) :
    Answers false (m :: ms) ((rows ++ [error]).map (⟨·, m.injected⟩) ++ rs)
  | skipped {m : PlannedFrame} {ms : List PlannedFrame} {rs : List Reply}
    (h : m.message ≠ .sync) (hrest : Answers true ms rs) : Answers true (m :: ms) rs
  | sync {skipping : Bool} {m : PlannedFrame} {ms : List PlannedFrame}
    {errors : List BackendFrame} {ready : BackendFrame} {rs : List Reply} (h : m.message = .sync)
    (herrors : ∀ error ∈ errors, error.hasTag .errorResponse)
    (hready : ready.hasTag .readyForQuery) (hrest : Answers false ms rs) :
    Answers skipping (m :: ms) ((errors ++ [ready]).map (⟨·, m.injected⟩) ++ rs)
  | async {skipping : Bool} {ms : List PlannedFrame} {frame : BackendFrame} {rs₁ rs₂ : List Reply}
    (h : frame.isAsync) (hrest : Answers skipping ms (rs₁ ++ rs₂)) :
    Answers skipping ms (rs₁ ++ ⟨frame, false⟩ :: rs₂)

theorem BackendTag.byte_injective : Function.Injective BackendTag.byte := by
  intro tag tag' h
  cases tag <;> cases tag' <;> first | rfl | exact absurd h (by decide)

variable {f : BackendFrame} {m : FrontendMessage} {rs : List Reply} {skipping injected : Bool}
  {ms : List PlannedFrame}

theorem BackendFrame.isParseComplete_of_hasTag {tag : BackendTag} (h : f.hasTag tag = true)
    (htag : tag ≠ .parseComplete) : f.isParseComplete = false := by
  by_contra hparse
  have hbyte : tag.byte = BackendTag.parseComplete.byte := by
    simp only [isParseComplete, hasTag, beq_iff_eq, Bool.not_eq_false] at h hparse
    exact h.symm.trans hparse
  exact htag (BackendTag.byte_injective hbyte)

theorem BackendFrame.isParseComplete_of_isAsync (h : f.isAsync = true) :
    f.isParseComplete = false := by
  simp only [isAsync, isParseComplete, hasTag, Bool.or_eq_true, beq_iff_eq] at h ⊢
  rcases h with (h | h) | h <;> rw [h] <;> decide

theorem BackendFrame.isParseComplete_of_isResult (h : f.isResult = true) :
    f.isParseComplete = false := by
  simp only [isResult, isParseComplete, hasTag, Bool.or_eq_true, beq_iff_eq] at h ⊢
  rcases h with ((((h | h) | h) | h) | h) | h <;> rw [h] <;> decide

/-- Only a Parse is answered with ParseComplete. -/
theorem Answered.parseComplete_or {frames : List BackendFrame} (h : Answered m frames)
    (hf : f ∈ frames) : f = parseCompleteFrame ∨ f.isParseComplete = false := by
  cases h with
  | parse => exact .inl (mem_singleton.1 hf)
  | bind h | close h =>
    rw [mem_singleton.1 hf]
    exact .inr (isParseComplete_of_hasTag h (by simp))
  | describeStatement h hg =>
    right
    rcases mem_cons.1 hf with rfl | hf
    · exact isParseComplete_of_hasTag h (by simp)
    · rw [mem_singleton.1 hf]
      rcases hg with hg | hg <;> exact isParseComplete_of_hasTag hg (by simp)
  | describePortal h =>
    right
    rw [mem_singleton.1 hf]
    rcases h with h | h <;> exact isParseComplete_of_hasTag h (by simp)
  | execute hrows h =>
    right
    rcases mem_append.1 hf with hf | hf
    · exact isParseComplete_of_isResult (hrows f hf)
    · rw [mem_singleton.1 hf]
      rcases h with h | h | h <;> exact isParseComplete_of_hasTag h (by simp)
  | flush => cases hf

/-- All ParseCompletes of a conforming backend look the same. -/
theorem Answers.parseComplete_or (h : Answers skipping ms rs) :
    ∀ r ∈ rs, r.frame = parseCompleteFrame ∨ r.frame.isParseComplete = false := by
  have herror : ∀ {f : BackendFrame}, f.hasTag .errorResponse = true → f.isParseComplete = false :=
    fun h => isParseComplete_of_hasTag h (by simp)
  induction h with
  | nil => simp
  | @done m ms frames rs h _ ih =>
    intro r hr
    rcases mem_append.1 hr with hr | hr
    · obtain ⟨f, hf, rfl⟩ := mem_map.1 hr
      exact h.parseComplete_or hf
    · exact ih r hr
  | failed _ hrows _ hfail _ ih =>
    intro r hr
    rcases mem_append.1 hr with hr | hr
    · obtain ⟨f, hf, rfl⟩ := mem_map.1 hr
      right
      rcases mem_append.1 hf with hf | hf
      · exact isParseComplete_of_isResult (hrows f hf)
      · rw [mem_singleton.1 hf]
        exact herror hfail
    · exact ih r hr
  | skipped _ _ ih => exact ih
  | sync _ herrors hready _ ih =>
    intro r hr
    rcases mem_append.1 hr with hr | hr
    · obtain ⟨f, hf, rfl⟩ := mem_map.1 hr
      right
      rcases mem_append.1 hf with hf | hf
      · exact herror (herrors f hf)
      · rw [mem_singleton.1 hf]
        exact isParseComplete_of_hasTag hready (by simp)
    · exact ih r hr
  | async h _ ih =>
    intro r hr
    rcases mem_append.1 hr with hr | hr
    · exact ih r (mem_append_left _ hr)
    · rcases mem_cons.1 hr with rfl | hr
      · exact .inr (isParseComplete_of_isAsync h)
      · exact ih r (mem_append_right _ hr)

/-- The frames of a cycle of which only Parses are injected. -/
def InjectsParses (ms : List PlannedFrame) : Prop :=
  ∀ m ∈ ms, m.injected = true → ∃ name query oids, m.message = .parse name query oids

theorem countP_toInjected_map (frames : List BackendFrame) (injected : Bool) :
    (frames.map (⟨·, injected⟩ : BackendFrame → Reply)).countP (·.toInjected) =
      if injected then frames.length else 0 := by
  rw [countP_map]
  cases injected with
  | true => exact countP_eq_length.2 (by simp)
  | false => exact countP_eq_zero.2 (by simp)

/-- An injected Parse has at most one reply. -/
theorem Answers.countP_toInjected_le (h : Answers skipping ms rs) (hms : InjectsParses ms) :
    rs.countP (·.toInjected) ≤ ms.countP (·.injected) := by
  induction h with
  | nil => simp
  | @done m ms frames rs h _ ih =>
    have hrest := ih fun m' hm' => hms m' (mem_cons_of_mem m hm')
    rw [countP_append, countP_cons, countP_toInjected_map]
    cases hm : m.injected with
    | false => simpa using hrest
    | true =>
      obtain ⟨name, query, oids, hparse⟩ := hms m mem_cons_self hm
      rw [hparse] at h
      -- an injected message is a Parse, with one ParseComplete to it
      cases h
      simp only [length_singleton, if_true]
      omega
  | @failed m ms rows error rs _ _ hexecute _ _ ih =>
    have hrest := ih fun m' hm' => hms m' (mem_cons_of_mem m hm')
    rw [countP_append, countP_cons, countP_toInjected_map]
    cases hm : m.injected with
    | false => simpa using hrest
    | true =>
      obtain ⟨name, query, oids, hparse⟩ := hms m mem_cons_self hm
      -- only an Execute fails after a part of its result
      have hrows : rows = [] := by
        by_contra hrows
        rw [hexecute hrows] at hparse
        cases hparse
      subst hrows
      simp only [nil_append, length_singleton, if_true]
      omega
  | @skipped m ms rs _ _ ih =>
    have hrest := ih fun m' hm' => hms m' (mem_cons_of_mem m hm')
    rw [countP_cons]
    omega
  | @sync skipping m ms errors ready rs h _ _ _ ih =>
    have hrest := ih fun m' hm' => hms m' (mem_cons_of_mem m hm')
    -- the proxy injects no Sync
    have hm : m.injected = false := by
      by_contra hm
      obtain ⟨name, query, oids, hparse⟩ := hms m mem_cons_self (by simpa using hm)
      rw [h] at hparse
      cases hparse
    rw [countP_append, countP_cons, countP_toInjected_map, hm]
    simpa using hrest
  | async _ _ ih =>
    have hrest := ih hms
    rw [countP_append] at hrest ⊢
    exact hrest

/-! ### Planned cycles -/

theorem injectsParses_append {ms₁ ms₂ : List PlannedFrame} (h₁ : InjectsParses ms₁)
    (h₂ : InjectsParses ms₂) : InjectsParses (ms₁ ++ ms₂) := by
  intro m hm
  rcases mem_append.1 hm with hm | hm
  · exact h₁ m hm
  · exact h₂ m hm

theorem injectsParses_singleton (frame : FrontendMessage) : InjectsParses [⟨frame, false⟩] := by
  simp [InjectsParses]

theorem injectsParses_prepareStatementUse (backendId : BackendId) (prepared : PreparedCatalog)
    (statement : PreparedStatement) (frame : FrontendMessage) :
    InjectsParses (prepareStatementUse backendId prepared statement frame).2 := by
  unfold prepareStatementUse
  split
  · exact injectsParses_singleton frame
  · simp [InjectsParses]

/-- `prepare_frame_for_backend` injects nothing but Parses. -/
theorem injectsParses_prepareFrameForBackend {backendId : BackendId}
    {prepared prepared' : PreparedCatalog} {frame : FrontendMessage} {planned : List PlannedFrame}
    (h : prepareFrameForBackend backendId prepared frame = some (prepared', planned)) :
    InjectsParses planned := by
  have huse : ∀ statement frame,
      some (prepareStatementUse backendId prepared statement frame) = some (prepared', planned) →
        InjectsParses planned := by
    intro statement frame heq
    obtain rfl : _ = planned := congrArg Prod.snd (Option.some.inj heq)
    exact injectsParses_prepareStatementUse _ _ _ _
  have hone : ∀ prepared₁ frame, some (prepared₁, [PlannedFrame.mk frame false]) =
      some (prepared', planned) → InjectsParses planned := by
    intro prepared₁ frame heq
    obtain rfl : _ = planned := congrArg Prod.snd (Option.some.inj heq)
    exact injectsParses_singleton frame
  unfold prepareFrameForBackend at h
  split at h
  · exact hone _ _ h
  · split at h
    · exact huse _ _ h
    · exact hone _ _ h
  · split at h
    · exact huse _ _ h
    · exact hone _ _ h
  · split at h
    · exact hone _ _ h
    · exact hone _ _ h
  all_goals first | exact hone _ _ h | cases h

theorem injectsParses_planFrontendCycle {backendId : BackendId} {session : VirtualSession}
    {prepared : PreparedCatalog} {commands : List SqlCommand} {frames : List FrontendMessage}
    {planned : PlannedCycle}
    (h : planFrontendCycle backendId session prepared commands frames = some planned) :
    InjectsParses planned.frames := by
  induction frames generalizing session prepared commands planned with
  | nil =>
    cases h
    simp [InjectsParses]
  | cons frame frames ih =>
    obtain ⟨_, _, _, _, rest, hframe, -, hrest, rfl⟩ := planFrontendCycle_cons_eq_some h
    exact injectsParses_append (injectsParses_prepareFrameForBackend hframe) (ih hrest)

/-! ### What the client sees -/

/-- **The replies to injected messages come in order**: they are ParseCompletes, and either there
is no other ParseComplete, or all `count` injected messages have got theirs and none of them comes
after a ParseComplete of the client's own that another frame has followed. -/
def InjectedInOrder (count : Nat) (rs : List Reply) : Prop :=
  (∀ r ∈ rs, r.toInjected = true → r.frame.isParseComplete = true) ∧
    ((∀ r ∈ rs, r.frame.isParseComplete = true → r.toInjected = true) ∨
      (rs.countP (·.toInjected) = count ∧
        EraseFirst.Separated isParseComplete Reply.frame Reply.toInjected rs))

/-- **Response transparency.** Whatever cycle is planned, whatever a conforming backend answers
and however its frames arrive, the drain forwards exactly the frames that are not replies to
injected Parses, in their order, if and only if the replies to injected Parses come in order. -/
theorem drainReads_transparent_iff (backendId : BackendId) (session : VirtualSession)
    (prepared : PreparedCatalog) (commands : List SqlCommand) (frames : List FrontendMessage)
    (planned : PlannedCycle)
    (hplanned : planFrontendCycle backendId session prepared commands frames = some planned)
    (rs : List Reply) (hrs : Answers false planned.frames rs) {σ : Type}
    (onFrame : σ → BackendFrame → σ) (acc : σ) (reads : List (List BackendFrame))
    (hreads : reads.flatten = rs.map Reply.frame) :
    drainReads onFrame { injectedParseCompletes := planned.injectedParseCompletes } acc reads =
        (rs.filter fun r => !r.toInjected).map Reply.frame ↔
      InjectedInOrder planned.injectedParseCompletes rs := by
  have hsame : ∀ r ∈ rs, r.frame.isParseComplete = true → r.frame = parseCompleteFrame := by
    intro r hr hparse
    rcases hrs.parseComplete_or r hr with h | h
    · exact h
    · rw [h] at hparse
      cases hparse
  have hcount := hrs.countP_toInjected_le (injectsParses_planFrontendCycle hplanned)
  rw [drainReads_eq, hreads, drainWith_forwarded]
  exact EraseFirst.iterate_eraseP_eq_filter_iff hsame rfl hcount

/-- An Execute of an empty query. -/
theorem Answered.execute_empty (h : f.hasTag .emptyQueryResponse) :
    Answered .execute [f] := @Answered.execute [] f (by simp) (.inr (.inl h))

/-- A message answered with one frame. -/
theorem Answers.one (h : Answered m [f]) (hrest : Answers false ms rs) :
    Answers false (⟨m, injected⟩ :: ms) (⟨f, injected⟩ :: rs) :=
  @Answers.done ⟨m, injected⟩ ms [f] rs h hrest

/-- A message answered with two frames. -/
theorem Answers.two {g : BackendFrame} (h : Answered m [f, g]) (hrest : Answers false ms rs) :
    Answers false (⟨m, injected⟩ :: ms) (⟨f, injected⟩ :: ⟨g, injected⟩ :: rs) :=
  @Answers.done ⟨m, injected⟩ ms [f, g] rs h hrest

/-- A `Sync` at which no commit fails. -/
theorem Answers.sync_ready {ready : BackendFrame} (hready : ready.hasTag .readyForQuery)
    (hrest : Answers false ms rs) :
    Answers skipping (⟨.sync, injected⟩ :: ms) (⟨ready, injected⟩ :: rs) :=
  @Answers.sync skipping ⟨.sync, injected⟩ ms [] ready rs rfl (by simp) hready hrest

/-- A catalog with the empty statement `s1`, which is materialized nowhere. -/
def catalogWithS1 : PreparedCatalog := (PreparedCatalog.new 1).upsert "s1" "" []

/-- BindComplete. -/
def bindCompleteFrame : BackendFrame := ⟨BackendTag.bindComplete.byte, []⟩

/-- The description of no parameters. -/
def noParametersFrame : BackendFrame := ⟨BackendTag.parameterDescription.byte, [0, 0]⟩

/-- NoData. -/
def noDataFrame : BackendFrame := ⟨BackendTag.noData.byte, []⟩

/-- EmptyQueryResponse. -/
def emptyQueryFrame : BackendFrame := ⟨BackendTag.emptyQueryResponse.byte, []⟩

/-- ReadyForQuery with the status `Idle`. -/
def readyIdleFrame : BackendFrame := ⟨BackendTag.readyForQuery.byte, [ReadyStatus.idle.byte]⟩

/-- A client that binds `s1`, executes it and then parses a statement of its own. -/
def bindThenParse : List FrontendMessage :=
  [.bind "s1", .execute, .parse "s2" "SET a = 1" [], .sync]

/-- The answer to it, with that to the injected Parse of `s1` first. -/
def bindThenParseReplies : List Reply :=
  [⟨parseCompleteFrame, true⟩, ⟨bindCompleteFrame, false⟩,
    ⟨emptyQueryFrame, false⟩, ⟨parseCompleteFrame, false⟩,
    ⟨readyIdleFrame, false⟩]

/-- A client that parses and describes a statement of its own and then binds `s1`. -/
def parseThenBind : List FrontendMessage :=
  [.parse "s2" "SET a = 1" [], .describe (.statement "s2"), .bind "s1", .sync]

/-- The answer to it; the injected Parse of `s1` comes before its Bind. -/
def parseThenBindReplies : List Reply :=
  [⟨parseCompleteFrame, false⟩, ⟨noParametersFrame, false⟩,
    ⟨noDataFrame, false⟩, ⟨parseCompleteFrame, true⟩,
    ⟨bindCompleteFrame, false⟩, ⟨readyIdleFrame, false⟩]

theorem drainReads_transparent_bindThenParse :
    ∃ planned, planFrontendCycle 7 {} catalogWithS1 [] bindThenParse = some planned ∧
      Answers false planned.frames bindThenParseReplies ∧
      (drainReads (fun _ _ => ()) { injectedParseCompletes := planned.injectedParseCompletes } ()
          [bindThenParseReplies.map Reply.frame] =
        (bindThenParseReplies.filter fun r => !r.toInjected).map Reply.frame ↔
        InjectedInOrder planned.injectedParseCompletes bindThenParseReplies) := by
  have hplanned : (planFrontendCycle 7 {} catalogWithS1 [] bindThenParse).map (·.frames) =
      some [⟨.parse (backendStatementName 1 1) "" [], true⟩,
        ⟨.bind (backendStatementName 1 1), false⟩, ⟨.execute, false⟩,
        ⟨.parse (backendStatementName 1 2) "SET a = 1" [], false⟩, ⟨.sync, false⟩] := by
    decide +kernel
  obtain ⟨planned, hplan, hframes⟩ := Option.map_eq_some_iff.1 hplanned
  have hanswers : Answers false planned.frames bindThenParseReplies := by
    rw [hframes]
    refine .one .parse (.one (.bind ?_) (.one (.execute_empty ?_) (.one .parse
      (.sync_ready ?_ .nil)))) <;> decide
  exact ⟨planned, hplan, hanswers, drainReads_transparent_iff 7 {} catalogWithS1 [] bindThenParse
    planned hplan _ hanswers _ _ _ (append_nil _)⟩

/-- **A ParseComplete of the client's own is moved behind the description that followed it**: the
drain swallows it in place of the reply to the injected Parse. -/
theorem drainReads_not_transparent_parseThenBind :
    ∃ planned, planFrontendCycle 7 {} catalogWithS1 [] parseThenBind = some planned ∧
      Answers false planned.frames parseThenBindReplies ∧
      drainReads (fun _ _ => ()) { injectedParseCompletes := planned.injectedParseCompletes } ()
          [parseThenBindReplies.map Reply.frame] =
        [noParametersFrame, noDataFrame, parseCompleteFrame,
          bindCompleteFrame, readyIdleFrame] ∧
      (parseThenBindReplies.filter fun r => !r.toInjected).map Reply.frame =
        [parseCompleteFrame, noParametersFrame, noDataFrame,
          bindCompleteFrame, readyIdleFrame] := by
  have hplanned : (planFrontendCycle 7 {} catalogWithS1 [] parseThenBind).map (·.frames) =
      some [⟨.parse (backendStatementName 1 2) "SET a = 1" [], false⟩,
        ⟨.describe (.statement (backendStatementName 1 2)), false⟩,
        ⟨.parse (backendStatementName 1 1) "" [], true⟩,
        ⟨.bind (backendStatementName 1 1), false⟩, ⟨.sync, false⟩] := by
    decide +kernel
  obtain ⟨planned, hplan, hframes⟩ := Option.map_eq_some_iff.1 hplanned
  refine ⟨planned, hplan, ?_, ?_, by decide⟩
  · rw [hframes]
    refine .one .parse (.two (.describeStatement ?_ (.inr ?_)) (.one .parse (.one (.bind ?_)
      (.sync_ready ?_ .nil)))) <;> decide
  · have hcount : planned.injectedParseCompletes = 1 := by
      rw [PlannedCycle.injectedParseCompletes, hframes]
      decide
    rw [hcount]
    decide

end PgKinetic
