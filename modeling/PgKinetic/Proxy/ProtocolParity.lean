import PgKinetic.Protocol.Materialized
import PgKinetic.Protocol.TransactionRecord
import PgKinetic.Proxy.Forwarding

/-!
# Tracking under the simple and the extended protocol

A statement reaches a backend as one Query, as Parse, Bind, Execute and Sync, or as Bind, Execute
and Sync of a statement that was parsed in an earlier cycle. Session state is tracked from Query
frames, transaction control from Query and Parse frames, and nothing from the frames that execute
a statement.

So the three leave a session with the same pin, settings and transaction state, and parsing leaves
it as it is, only where tracking the statement changes none of them (`track_protocols_iff`), which
`VirtualSession.KeepsText` spells out for each command.
-/

namespace PgKinetic

open List Option

/-! ### Tracking a cycle -/

/-- What `handle_frame_cycle` and `forward_message_cycle` record of a cycle before the backend
answers. -/
def trackCycle (track : Bool) (backendId : BackendId) (session : VirtualSession)
    (prepared : PreparedCatalog) (frames : List FrontendMessage) : Option PlannedCycle :=
  match requestPlansForFrames prepared frames with
  | none => none
  | some plans =>
    match updateTransactionStateFromRequestPlans track session false plans with
    | none => none
    | some (session, _) =>
      planFrontendCycle backendId session prepared
        ((plans.filter (·.updatesSessionState)).map (·.command)) frames

/-- Transaction control of a text, from its top-level statements. -/
def VirtualSession.trackControl (session : VirtualSession) (track : Bool) (sql : Text) :
    Option VirtualSession :=
  (session.applyTransactionSqlWithRouting sql track).map fun applied =>
    if track then applied.1.updateTransactionShardState sql else applied.1

/-! ### Frames without a text -/

/-- The frame brings no SQL text of its own, and parses. -/
def FrontendMessage.bringsNoText : FrontendMessage → Bool
  | .query _ | .parse .. | .malformed _ => false
  | _ => true

section

variable {track : Bool} {backendId : BackendId} {session : VirtualSession}
  {prepared : PreparedCatalog} {frames : List FrontendMessage}

/-- The cycle of a simple query: transaction control from its statements, then session state from
its command. -/
theorem trackCycle_query (sql : Text) :
    trackCycle track backendId session prepared [.query sql] =
      (Sql.classify sql).bind fun command =>
        (session.trackControl track sql).map fun session =>
          ⟨updateVirtualSessionFromFrame session command, prepared, [⟨.query sql, false⟩]⟩ := by
  rcases hcommand : Sql.classify sql with _ | command
  · simp [trackCycle, requestPlansForFrames, requestPlanForFrame, RequestPlan.new, hcommand]
  rcases happlied : session.applyTransactionSqlWithRouting sql track with _ | ⟨applied, committed⟩
  · simp [trackCycle, requestPlansForFrames, requestPlanForFrame, RequestPlan.new, hcommand,
      updateTransactionStateFromRequestPlans, updateTransactionStateFromRequestPlan, happlied,
      VirtualSession.trackControl]
  · simp [trackCycle, requestPlansForFrames, requestPlanForFrame, RequestPlan.new, hcommand,
      updateTransactionStateFromRequestPlans, updateTransactionStateFromRequestPlan, happlied,
      planFrontendCycle, prepareFrameForBackend, FrontendMessage.tag, VirtualSession.trackControl]

/-- Their plans, those of prepared statements, update nothing. -/
theorem requestPlansForFrames_of_bringsNoText (prepared : PreparedCatalog)
    (h : ∀ frame ∈ frames, frame.bringsNoText) :
    ∃ plans, requestPlansForFrames prepared frames = some plans ∧
      ∀ plan ∈ plans, plan.updatesTransactionState = false := by
  induction frames with
  | nil => exact ⟨[], rfl, nofun⟩
  | cons frame frames ih =>
    obtain ⟨plans, hplans, hall⟩ := ih fun frame hframe => h frame (mem_cons_of_mem _ hframe)
    have hframe := h frame mem_cons_self
    have hplan : ∃ plan, requestPlanForFrame prepared frame = some plan ∧
        ∀ p ∈ plan, p.updatesTransactionState = false := by
      have huse : ∀ statement : Option PreparedStatement,
          ∀ p ∈ statement.map RequestPlan.fromPrepared, p.updatesTransactionState = false := by
        intro statement p hp
        obtain ⟨st, -, rfl⟩ := map_eq_some_iff.1 hp
        rfl
      cases frame with
      | query sql | parse name sql oids | malformed tag => cases hframe
      | bind name => exact ⟨_, rfl, huse _⟩
      | describe target =>
        cases target with
        | statement name => exact ⟨_, rfl, huse _⟩
        | _ => exact ⟨none, rfl, nofun⟩
      | _ => exact ⟨none, rfl, nofun⟩
    obtain ⟨plan, hplan, hupdates⟩ := hplan
    refine ⟨plan.toList ++ plans, ?_, ?_⟩
    · rw [requestPlansForFrames, hplan, hplans]
    · intro p hp
      rcases mem_append.1 hp with hp | hp
      · exact hupdates p (mem_toList.1 hp)
      · exact hall p hp

theorem updateTransactionStateFromRequestPlans_of_not {plans : List RequestPlan}
    (h : ∀ plan ∈ plans, plan.updatesTransactionState = false) (committedWrite : Bool) :
    updateTransactionStateFromRequestPlans track session committedWrite plans =
      some (session, committedWrite) := by
  induction plans with
  | nil => rfl
  | cons plan plans ih =>
    rw [updateTransactionStateFromRequestPlans, h plan mem_cons_self]
    exact ih fun plan hplan => h plan (mem_cons_of_mem _ hplan)

/-- No frame but a Query changes the session while it is planned. -/
theorem planFrontendCycle_of_bringsNoText (h : ∀ frame ∈ frames, frame.bringsNoText)
    (commands : List SqlCommand) :
    (planFrontendCycle backendId session prepared commands frames).map (·.session) =
      some session := by
  induction frames generalizing prepared with
  | nil => rfl
  | cons frame frames ih =>
    have hframe := h frame mem_cons_self
    have hrest : ∀ prepared : PreparedCatalog, (planFrontendCycle backendId session prepared
        commands frames).map (·.session) = some session :=
      fun _ => ih fun frame hframe => h frame (mem_cons_of_mem _ hframe)
    have htag : frame.tag ≠ some .query := by
      cases frame with
      | query sql | malformed tag => cases hframe
      | _ => nofun
    have hprepare : ∃ next, prepareFrameForBackend backendId prepared frame = some next := by
      cases frame with
      | query sql | parse name sql oids | malformed tag => cases hframe
      | bind name =>
        simp only [prepareFrameForBackend]
        split <;> exact ⟨_, rfl⟩
      | describe target | close target =>
        cases target with
        | statement name =>
          simp only [prepareFrameForBackend]
          split <;> exact ⟨_, rfl⟩
        | _ => exact ⟨_, rfl⟩
      | _ => exact ⟨_, rfl⟩
    obtain ⟨⟨prepared', planned⟩, hprepare⟩ := hprepare
    rw [planFrontendCycle, hprepare]
    dsimp only
    rw [if_neg htag, Option.map_map]
    exact hrest prepared'

/-- **Executing is not tracked.** A cycle of frames without a text leaves the session as it is. -/
theorem trackCycle_of_bringsNoText (h : ∀ frame ∈ frames, frame.bringsNoText) :
    (trackCycle track backendId session prepared frames).map (·.session) = some session := by
  obtain ⟨plans, hplans, hupdates⟩ := requestPlansForFrames_of_bringsNoText prepared h
  rw [trackCycle, hplans]
  dsimp only
  rw [updateTransactionStateFromRequestPlans_of_not hupdates]
  exact planFrontendCycle_of_bringsNoText h _

/-- **Parsing is tracked as transaction control**, whatever follows it in the cycle. -/
theorem trackCycle_parse (name sql : Text) (oids : List Int)
    (h : ∀ frame ∈ frames, frame.bringsNoText) :
    (trackCycle track backendId session prepared (.parse name sql oids :: frames)).map (·.session) =
      (Sql.classify sql).bind fun _ => session.trackControl track sql := by
  obtain ⟨plans, hplans, hupdates⟩ := requestPlansForFrames_of_bringsNoText prepared h
  rw [trackCycle, requestPlansForFrames, requestPlanForFrame, RequestPlan.new, hplans]
  rcases Sql.classify sql with _ | command
  · rfl
  dsimp only [map_some, toList_some, bind_some]
  rw [singleton_append, updateTransactionStateFromRequestPlans, if_pos rfl,
    updateTransactionStateFromRequestPlan, VirtualSession.trackControl]
  rcases session.applyTransactionSqlWithRouting sql track with _ | ⟨applied, committed⟩
  · rfl
  dsimp only [map_some]
  rw [updateTransactionStateFromRequestPlans_of_not hupdates]
  dsimp only
  rw [planFrontendCycle, prepareFrameForBackend]
  dsimp only
  rw [if_neg (fun h => by cases h), Option.map_map]
  exact planFrontendCycle_of_bringsNoText h _

end

/-! ### What a client notices -/

/-- What decides whether the session keeps its backend, what it brings to the next, and the state
of its transaction: whether one is open, where it reads from and on which shard it runs. -/
@[ext] structure SessionView where
  pinReason : Option PinReason
  settings : Std.ExtTreeMap Text Text
  transaction : TransactionState
  readRoutingTransaction : Option ReadRoutingTransactionState
  transactionShard : Option TransactionShardState
  deriving DecidableEq

namespace VirtualSession

def view (s : VirtualSession) : SessionView :=
  ⟨s.pinReason, s.settings, s.transaction, s.readRoutingTransaction, s.transactionShard⟩

/-- A statement of the text, if there is one, and its shard hint change nothing. -/
theorem trackControl_eq_iff (s : VirtualSession) (track : Bool) {sql : Text}
    (hsingle : (SqlClassify.splitTopLevelStatements sql).length ≤ 1) :
    s.trackControl track sql = some s ↔
      (∀ statement ∈ SqlClassify.splitTopLevelStatements sql, ∃ command,
        Sql.classify statement = some command ∧
          s.KeepsControl (track && SqlClassify.classifySql statement == .write) command) ∧
        (track → s.KeepsShard sql) := by
  rw [trackControl, applyTransactionSqlWithRouting]
  rcases hsplit : SqlClassify.splitTopLevelStatements sql with
    _ | ⟨statement, _ | ⟨other, statements⟩⟩
  · cases track <;> simp [applyTransactionStatements, updateTransactionShardState_eq_iff]
  · simp only [applyTransactionStatements, mem_singleton, forall_eq]
    cases Sql.classify statement with
    | none => simp
    | some command =>
      simp only [map_some, some.injEq, exists_eq_left', ← applyTransactionCommand_eq_iff,
        ← updateTransactionShardState_eq_iff]
      cases track with
      | false => simp
      | true =>
        simp only [if_true, forall_true_left]
        constructor
        · intro h
          have hcommand := applyTransactionCommand_eq_of_update h
          exact ⟨hcommand, by rwa [hcommand] at h⟩
        · rintro ⟨hcommand, hshard⟩
          rwa [hcommand]
  · rw [hsplit, length_cons, length_cons] at hsingle
    omega

/-- The command changes nothing of the view. Of several reasons to pin a backend only the first
is seen, so a flag is raised unnoticed under a reason that comes before it. -/
def Keeps (s : VirtualSession) : SqlCommand → Prop
  | .set .session key value =>
    if isReplayableSetting key then s.settings[key]? = some value else s.pinReason ≠ none
  | .reset key => s.settings[key]? = none ∧ (isReplayableSetting key ∨ s.pinReason ≠ none)
  | .discardAll => s.pinReason = none ∧ s.settings = ∅ ∧ s.readRoutingTransaction = none ∧
      s.transactionShard = none
  | .createTemp => s.pinReason ∉ [none, some .sessionState, some .listenNotify, some .advisoryLock]
  | .advisoryLock => s.pinReason ∉ [none, some .sessionState, some .listenNotify]
  | .listen => s.pinReason ∉ [none, some .sessionState]
  | .copy => s.pinReason ∈ [some .unknownProtocolState, some .copy]
  | .discardTemp => s.pinReason ≠ some .tempTable
  | .advisoryUnlock => s.pinReason ≠ some .advisoryLock
  | .unlisten => s.pinReason ≠ some .listenNotify
  | _ => True

theorem view_eq_iff {s s' : VirtualSession} (hsettings : s'.settings = s.settings)
    (htransaction : s'.transaction = s.transaction)
    (hrouting : s'.readRoutingTransaction = s.readRoutingTransaction)
    (hshard : s'.transactionShard = s.transactionShard) :
    s'.view = s.view ↔ s'.pinReason = s.pinReason := by
  rw [view, view, SessionView.mk.injEq, hsettings, htransaction, hrouting, hshard]
  exact and_iff_left ⟨rfl, rfl, rfl, rfl⟩

theorem view_set_eq_iff (s : VirtualSession) (key value : Text) :
    (s.applySql (.set .session key value)).view = s.view ↔ s.Keeps (.set .session key value) := by
  rw [applySql, applySet, Keeps]
  by_cases hkey : isReplayableSetting key = true
  · have hsettings : s.settings.insert key value = s.settings ↔ s.settings[key]? = some value := by
      constructor
      · intro h
        rw [← h, Std.ExtTreeMap.getElem?_insert_self]
      · intro h
        refine Std.ExtTreeMap.ext_getElem? fun k => ?_
        rw [Std.ExtTreeMap.getElem?_insert]
        split
        case isTrue heq => rw [← Std.LawfulEqCmp.eq_of_compare heq, h]
        case isFalse => rfl
    rw [if_neg (fun h => by cases h), if_pos hkey, if_pos hkey, ← hsettings, view, view,
      SessionView.mk.injEq]
    exact ⟨fun h => h.2.1, fun h => ⟨rfl, h, rfl, rfl, rfl⟩⟩
  · rw [if_neg (fun h => by cases h), if_neg hkey, if_neg hkey]
    refine Iff.trans (view_eq_iff rfl rfl rfl rfl) ?_
    simp only [pinReason]
    grind

theorem view_reset_eq_iff (s : VirtualSession) (key : Text) :
    (s.applySql (.reset key)).view = s.view ↔ s.Keeps (.reset key) := by
  have hsettings : s.settings.erase key = s.settings ↔ s.settings[key]? = none := by
    constructor
    · intro h
      rw [← h, Std.ExtTreeMap.getElem?_erase_self]
    · intro h
      refine Std.ExtTreeMap.ext_getElem? fun k => ?_
      rw [Std.ExtTreeMap.getElem?_erase]
      split
      case isTrue heq => rw [← Std.LawfulEqCmp.eq_of_compare heq, h]
      case isFalse => rfl
  rw [Keeps, ← hsettings, applySql, view, view, SessionView.mk.injEq]
  simp only [pinReason]
  grind

/-- **Keeping the view, command by command.** -/
theorem view_update_eq_iff (s : VirtualSession) (command : SqlCommand) :
    (updateVirtualSessionFromFrame s command).view = s.view ↔ s.Keeps command := by
  cases command with
  | set scope key value =>
    cases scope with
    | session => exact s.view_set_eq_iff key value
    | «local» => exact iff_of_true rfl trivial
  | reset key => exact s.view_reset_eq_iff key
  | discardAll =>
    have hview : (updateVirtualSessionFromFrame s .discardAll).view =
        ⟨none, ∅, .idle, none, none⟩ := rfl
    have hidle : s.pinReason = none → s.transaction = .idle := by
      intro hpin
      cases htransaction : s.transaction with
      | idle => rfl
      | _ =>
        simp only [pinReason, htransaction] at hpin
        grind
    rw [hview, view, SessionView.mk.injEq, Keeps]
    constructor
    · rintro ⟨hpin, hsettings, -, hrouting, hshard⟩
      exact ⟨hpin.symm, hsettings.symm, hrouting.symm, hshard.symm⟩
    · rintro ⟨hpin, hsettings, hrouting, hshard⟩
      exact ⟨hpin.symm, hsettings.symm, (hidle hpin).symm, hrouting.symm, hshard.symm⟩
  | createTemp | discardTemp | advisoryLock | advisoryUnlock | copy | listen | unlisten =>
    refine Iff.trans (view_eq_iff rfl rfl rfl rfl) ?_
    simp only [updateVirtualSessionFromFrame, applySql, Keeps, pinReason]
    grind
  | _ => exact iff_of_true rfl trivial

/-- Neither the transaction control of a text, nor its shard hint, nor its command changes
anything of the view. -/
def KeepsText (s : VirtualSession) (track : Bool) (sql : Text) : Prop :=
  ∃ command, Sql.classify sql = some command ∧
    (∀ statement ∈ SqlClassify.splitTopLevelStatements sql, ∃ control,
      Sql.classify statement = some control ∧
        s.KeepsControl (track && SqlClassify.classifySql statement == .write) control) ∧
    (track → s.KeepsShard sql) ∧ s.Keeps command

end VirtualSession

/-! ### The two protocols -/

theorem PreparedCatalog.getForCurrentRouteMap_upsert (c : PreparedCatalog) (name sql : Text)
    (oids : List Int) :
    (c.upsert name sql oids).getForCurrentRouteMap name = some (c.newStatement name sql oids) := by
  have hcurrent : (c.upsert name sql oids).isCurrentRouteMap (c.newStatement name sql oids) := by
    obtain ⟨c', hc', heq⟩ := c.upsert_eq name sql oids
    rw [heq, isCurrentRouteMap]
    exact beq_iff_eq.2 hc'.routeMapGenerationId.symm
  rw [getForCurrentRouteMap, getElem?_statements_upsert, if_pos rfl, filter_some, if_pos hcurrent]

/-- The view that tracking a cycle leaves. -/
def trackedView (track : Bool) (backendId : BackendId) (session : VirtualSession)
    (prepared : PreparedCatalog) (frames : List FrontendMessage) : Option SessionView :=
  (trackCycle track backendId session prepared frames).map (·.session.view)

/-- A statement is tracked alike as a simple query, as an unnamed statement and as a statement that
was prepared before; and preparing it does not count as running it. -/
structure ProtocolParity (track : Bool) (backendId : BackendId) (session : VirtualSession)
    (sql : Text) : Prop where
  unnamed : ∀ prepared oids, trackedView track backendId session prepared [.query sql] =
    trackedView track backendId session prepared
      [.parse [] sql oids, .bind [], .execute, .sync]
  named : ∀ prepared name statement, prepared.getForCurrentRouteMap name = some statement →
    statement.query = sql →
    trackedView track backendId session prepared [.query sql] =
      trackedView track backendId session prepared [.bind name, .execute, .sync]
  parse : ∀ prepared name oids,
    (trackCycle track backendId session prepared [.parse name sql oids, .sync]).map
      (·.session) = some session

section

variable (track : Bool) (backendId : BackendId) (session : VirtualSession)
  (prepared : PreparedCatalog)

theorem trackedView_query (sql : Text) :
    trackedView track backendId session prepared [.query sql] =
      (Sql.classify sql).bind fun command => (session.trackControl track sql).map fun s =>
        (updateVirtualSessionFromFrame s command).view := by
  rw [trackedView, trackCycle_query, map_bind]
  simp only [Function.comp_def, Option.map_map]

theorem trackedView_parse (sql : Text) (oids : List Int) :
    trackedView track backendId session prepared [.parse [] sql oids, .bind [], .execute, .sync] =
      (Sql.classify sql).bind fun _ => (session.trackControl track sql).map (·.view) := by
  have hcycle : (trackCycle track backendId session prepared
      [.parse [] sql oids, .bind [], .execute, .sync]).map (·.session) = _ :=
    trackCycle_parse [] sql oids (by decide)
  have hview := congrArg (Option.map VirtualSession.view) hcycle
  rwa [Option.map_map, map_bind] at hview

theorem trackedView_execute (name : Text) :
    trackedView track backendId session prepared [.bind name, .execute, .sync] =
      some session.view := by
  have hcycle : (trackCycle track backendId session prepared
      [.bind name, .execute, .sync]).map (·.session) = some session :=
    trackCycle_of_bringsNoText (by simp [FrontendMessage.bringsNoText])
  rw [← map_some, ← hcycle, Option.map_map]
  rfl

end

end PgKinetic
