import PgKinetic.Proxy.CheckoutTarget
import PgKinetic.Proxy.CommittedWrite
import PgKinetic.Proxy.NextCycle
import PgKinetic.Proxy.SessionRule

/-!
# Read your writes

A session that has committed a write at some position of the primary's log must not read from a
replica that has not replayed that far. `RoutedState` puts the session loop next to what the
guarantee is about: the primary's position, the positions of the replicas, and those of the
writes the session has committed. What the proxy sees of them, cached health and its own probe,
is an old truth about these (`RoutedState.allows`).

The guarantee rests on the probe that follows a commit the proxy has noticed, and on nothing in
between taking its answer away. **It holds in every run whose commits are noticed and probed**
(`readYourWrites_of_protected`), and fails for the first autocommitted write.
-/

namespace PgKinetic

open EventMachine ReadRouting List Option VirtualSession

/-! ### Positions the session requires -/

/-- A replica that satisfies what the session requires has replayed the position. -/
def ReadAfterWriteState.Covers (position : PgLsn) : ReadAfterWriteState → Prop
  | .disabled => False
  | .required lsn => position ≤ lsn
  | .unknown => True

instance (position : PgLsn) : ∀ state, Decidable (ReadAfterWriteState.Covers position state)
  | .disabled => .isFalse nofun
  | .required lsn => inferInstanceAs (Decidable (position ≤ lsn))
  | .unknown => .isTrue trivial

/-- The session requires all of the positions. -/
def VirtualSession.CoversAll (positions : List PgLsn) (s : VirtualSession) : Prop :=
  ∀ position ∈ positions, s.readAfterWrite.Covers position

/-! ### The session among its replicas -/

/-- Where a backend connects to. -/
inductive Endpoint where
  | primary
  | replica (id : Nat)
  deriving DecidableEq, Repr

/-- The pool `RoutePools::checkout_target` takes a backend from, if it takes one. -/
def ReadRouting.RoutingTarget.endpoint : RoutingTarget → Option Endpoint
  | .primary _ => some .primary
  | .replica candidate _ => some (.replica candidate.replicaId)
  | .wait _ | .reject _ => none

/-- The configuration of a routed session; `RoutePolicy::from_route_config` derives the fields
that the loop and the planner share from one route. -/
structure RoutedConfig where
  session : SessionConfig
  planner : Planner
  /-- Backend ids come from one counter, so each belongs to one pool. -/
  endpointOf : BackendId → Endpoint
  analysis : session.fullRoutingAnalysis = (planner.readRoutingMode != .off)
  protection : session.readAfterWriteProtection = planner.freshnessPolicy.requiresSessionWriteLsn

/-- The session loop, the primary and the replicas. -/
structure RoutedState where
  base : SessionState
  /-- The position of the primary's log. -/
  wal : PgLsn
  /-- What each replica has replayed. -/
  replayed : Nat → PgLsn
  /-- Positions at which the session's writes are known to be in the log. -/
  committed : List PgLsn := []

/-- A cycle, with the looks at the replicas it is routed by, and the position of the write that
it commits, if it commits one. -/
structure RoutedCycle where
  frames : List FrontendMessage
  env : CycleEnv
  poll : Poll := {}
  polls : List Poll := []
  commits : Option PgLsn := none

/-- What happens next. -/
inductive RoutedInput where
  | cycle (cycle : RoutedCycle)
  /-- A turn of the loop that is no cycle. -/
  | turn (input : SessionInput)
  | replays (replica : Nat) (lsn : PgLsn)

/-- What the guarantee is about. -/
inductive RoutedEvent where
  /-- A cycle is sent to a replica, which has replayed that far. -/
  | ranOnReplica (replica : Nat) (replayed : PgLsn) (committed : List PgLsn)
  /-- A cycle has committed a write that is in the log at the position, and the session goes on
  with the state. -/
  | committedWrite (state : ReadAfterWriteState) (position : PgLsn)
  deriving DecidableEq, Repr

/-- The selection of a cycle, which is made once its transaction control has been tracked. -/
def RoutedState.selection (cfg : RoutedConfig) (st : RoutedState)
    (frames : List FrontendMessage) : Option ReadRoutingSelection :=
  match requestPlansForFrames st.base.prepared frames with
  | none => none
  | some plans =>
    (updateTransactionStateFromRequestPlans cfg.session.fullRoutingAnalysis st.base.session false
      plans).map fun tracked => ⟨cfg.planner, tracked.1, plans.head?⟩

/-- Where the backends of a cycle are checked out. -/
def RoutedState.target (cfg : RoutedConfig) (st : RoutedState) (c : RoutedCycle) :
    Option Endpoint :=
  (st.selection cfg c.frames).bind fun selection =>
    (selection.checkoutTarget st.base.heldBackend.isSome c.poll c.polls).endpoint

/-- The position of the log once the cycle is over: that of the probe, if there is one. -/
def RoutedCycle.position (c : RoutedCycle) (wal : PgLsn) : PgLsn :=
  c.env.probe.getD (c.commits.getD wal)

/-- The cycle can happen here. Logs only grow: health that was once observed is not ahead of the
replica, a commit not behind the log and a probe not behind the commit. Backends come from the
pool of the target. -/
def RoutedState.allows (cfg : RoutedConfig) (st : RoutedState) (c : RoutedCycle) : Bool :=
  ((c.poll :: c.polls).all fun poll => poll.health.all fun candidate =>
      candidate.replayLsn.all (· ≤ st.replayed candidate.replicaId)) &&
    c.commits.all (st.wal ≤ ·) && c.env.probe.all (c.commits.getD st.wal ≤ ·) &&
    (st.base.heldBackend.isSome ||
      match c.env.checkout with
      | .leased id => st.target cfg c == some (cfg.endpointOf id)
      | _ => true) &&
    c.env.reconnect.all fun id => st.target cfg c == some (cfg.endpointOf id)

/-- The endpoints the client's cycle is sent to. -/
def sentTo (cfg : RoutedConfig) (events : List SessionEvent) : List Endpoint :=
  events.filterMap fun event =>
    match event with
    | .forwarded backend _ => some (cfg.endpointOf backend.id)
    | _ => none

/-- The events of a cycle that is sent to the endpoints. -/
def RoutedState.replicaEvents (st : RoutedState) (endpoints : List Endpoint) : List RoutedEvent :=
  endpoints.filterMap fun endpoint =>
    match endpoint with
    | .primary => none
    | .replica id => some (.ranOnReplica id (st.replayed id) st.committed)

/-- A cycle of the session among its replicas. A standby is read-only: what commits a write is
sent to the primary and nowhere else. -/
def RoutedState.runCycle (cfg : RoutedConfig) (st : RoutedState) (c : RoutedCycle) :
    Option (RoutedState × List RoutedEvent) :=
  if st.allows cfg c then
    match sessionStep cfg.session st.base (.frames c.frames c.env) with
    | none => none
    | some (base, events) =>
      let position := c.position st.wal
      if c.commits = none then
        some ({ st with base, wal := position }, st.replicaEvents (sentTo cfg events))
      else if sentTo cfg events ≠ [] ∧ ∀ endpoint ∈ sentTo cfg events, endpoint = .primary then
        some ({ st with base, wal := position, committed := position :: st.committed },
          if base.finished then [] else [.committedWrite base.session.readAfterWrite position])
      else none
  else none

/-- One step of the session among its replicas. -/
def RoutedState.step (cfg : RoutedConfig) (st : RoutedState) :
    RoutedInput → Option (RoutedState × List RoutedEvent)
  | .cycle c => st.runCycle cfg c
  | .turn (.frames _ _) => none
  | .turn input =>
    (sessionStep cfg.session st.base input).map fun (base, _) => ({ st with base }, [])
  | .replays replica lsn =>
    if st.replayed replica ≤ lsn then
      some ({ st with replayed := Function.update st.replayed replica lsn }, [])
    else none

/-- The session among its replicas as a machine. -/
def routedMachine (cfg : RoutedConfig) : Machine RoutedState RoutedInput RoutedEvent where
  step := RoutedState.step cfg

/-- A session that begins, wherever the logs are. -/
def RoutedState.initial (sessionId : Nat) (wal : PgLsn) (replayed : Nat → PgLsn) : RoutedState :=
  { base := .initial sessionId, wal, replayed }

/-- The guarantee: a replica that serves the session has replayed all its writes, and a session
that has committed a write requires it from then on. -/
def RoutedEvent.HonoursWrites : RoutedEvent → Prop
  | .ranOnReplica _ replayed committed => ∀ position ∈ committed, position ≤ replayed
  | .committedWrite state position => state.Covers position

/-! ### Runs that are protected -/

/-- The session goes on after such a result, and no probe is made. -/
def ForwardResult.skipsProbe : ForwardResult → Bool
  | .ready status => status != .idle
  | .flushed | .timedOut false => true
  | _ => false

/-- The proxy's probe follows the cycle, if the cycle has a result and the session goes on. -/
def RoutedState.probes (cfg : RoutedConfig) (st : RoutedState) (c : RoutedCycle) : Bool :=
  match attemptCycle cfg.session { st.base with waitForClientActivity := false } c.frames
      c.env with
  | .ended _ => true
  | .forwarded _ fwd _ _ => !fwd.result.skipsProbe

/-- The frame is a simple query that is `DISCARD ALL`. -/
def FrontendMessage.discardsAll : FrontendMessage → Bool
  | .query sql => Sql.classify sql == some .discardAll
  | _ => false

/-- The text a cycle is routed by. -/
def routedText (prepared : PreparedCatalog) (frames : List FrontendMessage) : Text :=
  ((((requestPlansForFrames prepared frames).getD []).head?).map (·.sql)).getD []

/-- The condition on a step. A write is committed by statements that the proxy sees commit it, in
a cycle whose answer it probes after; and once one is committed, no `DISCARD ALL` makes the proxy
forget it, and no hint `stale-ok` waives it. -/
def RoutedState.Protected (cfg : RoutedConfig) (st : RoutedState) : RoutedInput → Prop
  | .cycle c =>
    (c.commits ≠ none → cfg.planner.readRoutingMode ≠ .off ∧
      commitsWrite st.base.session.openWrite (cycleStatements c.frames) = true ∧
      st.probes cfg c = true) ∧
    (st.committed ≠ [] → c.frames.all (fun frame => !frame.discardsAll) = true ∧
      (RoutingHint.extract (routedText st.base.prepared c.frames) = .staleOk →
        cfg.planner.freshnessPolicy ≠ .sessionWriteLsnAndMaxLag))
  | _ => True

instance (cfg : RoutedConfig) (st : RoutedState) :
    ∀ input, Decidable (st.Protected cfg input)
  | .cycle _ => inferInstanceAs (Decidable (_ ∧ _))
  | .turn _ | .replays _ _ => .isTrue trivial

/-! ### What a cycle leaves required -/

namespace VirtualSession

variable {positions : List PgLsn} {s : VirtualSession}

theorem ignoresTransaction_coversAll : IgnoresTransaction (CoversAll positions) :=
  fun _ _ _ _ h => h

theorem coversAll_updateVirtualSessionFromFrame {command : SqlCommand}
    (hcommand : command ≠ .discardAll) (h : s.CoversAll positions) :
    (updateVirtualSessionFromFrame s command).CoversAll positions := by
  cases command with
  | discardAll => exact absurd rfl hcommand
  | set scope key value =>
    change (s.applySet scope key value).CoversAll positions
    unfold applySet
    repeat' split
    all_goals exact h
  | _ => exact h

/-- The session of a ready backend requires what it did before, and what a probe covers. -/
theorem coversAll_readySession {cfg : SessionConfig} {status : ReadyStatus}
    {committedWrite : Bool} {probe : Option PgLsn}
    (hprobe : ∀ lsn, probe = some lsn → ∀ position ∈ positions, position ≤ lsn)
    (h : s.CoversAll positions ∨
      (committedWrite && cfg.readAfterWriteProtection && status == .idle) = true) :
    (readySession cfg s status committedWrite probe).CoversAll positions := by
  unfold readySession
  split
  · intro position hposition
    cases probe with
    | none => exact trivial
    | some lsn => exact hprobe lsn rfl position hposition
  · rename_i hskipped
    rcases h with h | h
    · exact h
    · exact absurd h hskipped

end VirtualSession

section

variable {cfg : SessionConfig} {st st' : SessionState} {frames : List FrontendMessage}
  {env : CycleEnv} {es : List SessionEvent} {positions : List PgLsn}

/-- A cycle leaves required what was required before. -/
theorem coversAll_of_cycle
    (hprobe : ∀ lsn, env.probe = some lsn → ∀ position ∈ positions, position ≤ lsn)
    (hframes : ∀ frame ∈ frames, frame.discardsAll = false)
    (h : st.session.CoversAll positions)
    (hstep : sessionStep cfg st (.frames frames env) = some (st', es)) :
    st'.session.CoversAll positions := by
  have hattempt : (attemptCycle cfg { st with waitForClientActivity := false } frames
      env).session.CoversAll positions := by
    refine rule_attemptCycle ignoresTransaction_coversAll ?_ h
    intro sql hsql command hcommand s hs
    refine coversAll_updateVirtualSessionFromFrame ?_ hs
    rintro rfl
    have hdiscards := hframes _ hsql
    rw [FrontendMessage.discardsAll, hcommand] at hdiscards
    cases hdiscards
  obtain ⟨-, rfl, -⟩ := frames_of_sessionStep hstep
  rw [session_close]
  unfold handleFrameCycle
  generalize attemptCycle cfg { st with waitForClientActivity := false } frames env = attempt
    at hattempt
  cases attempt with
  | ended o => exact hattempt
  | forwarded st₁ fwd committedWrite events =>
    refine rule_handleForwardResult ignoresTransaction_coversAll ?_ ?_
    · exact fun status _ => coversAll_readySession hprobe (.inl hattempt)
    · exact fun _ => hattempt

theorem finished_of_flow {o : Outcome} (h : o.flow ≠ .continue) : o.close.1.finished = true := by
  rw [Outcome.close, if_neg h]

/-- A cycle that was sent, in a session that goes on, has a result. -/
theorem forwarded_of_goes (hstep : sessionStep cfg st (.frames frames env) = some (st', es))
    (hgoes : st'.finished = false) (hsent : ∃ b written, .forwarded b written ∈ es) :
    ∃ st₁ fwd committedWrite events,
      attemptCycle cfg { st with waitForClientActivity := false } frames env =
        .forwarded st₁ fwd committedWrite events := by
  obtain ⟨rest, hevents, hrest⟩ := sessionStep_frames_events hstep
  cases hattempt : attemptCycle cfg { st with waitForClientActivity := false } frames env with
  | forwarded st₁ fwd committedWrite events => exact ⟨st₁, fwd, committedWrite, events, rfl⟩
  | ended o =>
    exfalso
    obtain ⟨-, rfl, -⟩ := frames_of_sessionStep hstep
    unfold handleFrameCycle at hgoes
    rw [hattempt] at hgoes hevents
    rcases attemptCycle_cases cfg { st with waitForClientActivity := false } frames env with
      hrejected | hquiet
    · obtain ⟨b, written, hmem⟩ := hsent
      rw [hattempt] at hrejected
      obtain rfl := Attempt.ended.inj hrejected
      rw [hevents] at hmem
      rcases mem_append.1 hmem with hmem | hmem
      · simp [Attempt.events] at hmem
      · exact hrest (fun _ => False) b written hmem
    · rw [hattempt] at hquiet
      cases hquiet with
      | ended _ hended =>
        rw [finished_of_flow hended] at hgoes
        cases hgoes

/-- **A write that the proxy has seen committed is required from then on.** -/
theorem coversAll_of_commit
    (hprobe : ∀ lsn, env.probe = some lsn → ∀ position ∈ positions, position ≤ lsn)
    (hprotection : cfg.readAfterWriteProtection = true)
    {st₁ : SessionState} {fwd : Forwarded} {events : List SessionEvent}
    (hattempt : attemptCycle cfg { st with waitForClientActivity := false } frames env =
      .forwarded st₁ fwd true events) (hresult : fwd.result.skipsProbe = false)
    (hstep : sessionStep cfg st (.frames frames env) = some (st', es)) :
    st'.finished = true ∨ st'.session.CoversAll positions := by
  obtain ⟨-, rfl, -⟩ := frames_of_sessionStep hstep
  unfold handleFrameCycle
  rw [hattempt]
  dsimp only
  by_cases hflow : (handleForwardResult cfg (st₁.afterForward fwd) fwd.backend fwd.result true
      env).flow = .continue
  · right
    rw [session_close]
    -- of the results the session goes on after, only `Idle` does not skip the probe
    have hidle : fwd.result = .ready .idle := by
      rcases ((handleForwardResult_ends ..).continues hflow).1 with
        ⟨status, hready⟩ | hflushed | htimeout
      · rw [hready] at hresult ⊢
        cases status with
        | idle => rfl
        | _ => cases hresult
      · rw [hflushed] at hresult
        cases hresult
      · rw [htimeout] at hresult
        cases hresult
    rw [hidle]
    refine rule_handleForwardResult ignoresTransaction_coversAll ?_ ?_
    · intro status hstatus
      have hstatus : status = .idle := by
        rcases hstatus with hstatus | hstatus
        · exact (ForwardResult.ready.inj hstatus).symm
        · cases hstatus
      refine coversAll_readySession hprobe (.inr ?_)
      rw [hprotection, hstatus]
      rfl
    · exact fun hother => absurd rfl (hother .idle).1
  · exact .inl (finished_of_flow hflow)

end

/-! ### The invariant -/

namespace RoutedState

variable {cfg : RoutedConfig} {st st' : RoutedState} {c : RoutedCycle}

/-- The endpoint, if it is a replica, has replayed everything the session has committed. -/
def CaughtUp (st : RoutedState) (endpoint : Endpoint) : Prop :=
  ∀ id, endpoint = .replica id → ∀ position ∈ st.committed, position ≤ st.replayed id

/-- **The invariant of a protected run.** What the session has committed is in the log, a session
that goes on requires it, and a backend it holds has it. -/
structure Inv (cfg : RoutedConfig) (st : RoutedState) : Prop where
  behind : ∀ position ∈ st.committed, position ≤ st.wal
  required : st.base.finished = false → st.base.session.CoversAll st.committed
  held : ∀ b, st.base.heldBackend = some b → st.CaughtUp (cfg.endpointOf b.id)

theorem Inv.initial (sessionId : Nat) (wal : PgLsn) (replayed : Nat → PgLsn) :
    Inv cfg (.initial sessionId wal replayed) where
  behind := nofun
  required _ := nofun
  held _ h := nomatch h

/-- What `allows` checks. -/
theorem of_allows (h : st.allows cfg c = true) :
    (∀ poll ∈ c.poll :: c.polls, ∀ candidate ∈ poll.health, ∀ lsn,
      candidate.replayLsn = some lsn → lsn ≤ st.replayed candidate.replicaId) ∧
    (∀ lsn, c.env.probe = some lsn → c.position st.wal = lsn) ∧ st.wal ≤ c.position st.wal ∧
    (st.base.heldBackend = none → ∀ id, c.env.checkout = .leased id →
      st.target cfg c = some (cfg.endpointOf id)) ∧
    ∀ id, c.env.reconnect = some id → st.target cfg c = some (cfg.endpointOf id) := by
  rw [allows, Bool.and_eq_true, Bool.and_eq_true, Bool.and_eq_true, Bool.and_eq_true] at h
  obtain ⟨⟨⟨⟨hhealth, hcommits⟩, hprobe⟩, hleased⟩, hreconnect⟩ := h
  refine ⟨?_, ?_, ?_, ?_, ?_⟩
  · intro poll hpoll candidate hcandidate lsn hlsn
    have hbound := all_eq_true.1 (all_eq_true.1 hhealth poll hpoll) candidate hcandidate
    rw [hlsn] at hbound
    exact of_decide_eq_true hbound
  · intro lsn hlsn
    rw [RoutedCycle.position, hlsn, getD_some]
  · have hcommit : st.wal ≤ c.commits.getD st.wal := by
      cases hc : c.commits with
      | none => exact le_rfl
      | some position =>
        rw [hc] at hcommits
        exact of_decide_eq_true hcommits
    rw [RoutedCycle.position]
    cases hp : c.env.probe with
    | none => exact hcommit
    | some lsn =>
      rw [hp] at hprobe
      exact hcommit.trans (of_decide_eq_true hprobe)
  · intro hnone id hid
    rw [hnone, hid] at hleased
    exact eq_of_beq hleased
  · intro id hid
    rw [hid] at hreconnect
    exact eq_of_beq hreconnect

/-- A candidate that satisfies what a session requires has replayed what it covers. -/
theorem le_replayed_of_satisfies {state : ReadAfterWriteState} {candidate : ReplicaCandidate}
    {position replayed : PgLsn} (hcovers : state.Covers position)
    (hsatisfies : candidate.satisfiesSessionWrite state = true)
    (hreplayed : ∀ lsn, candidate.replayLsn = some lsn → lsn ≤ replayed) :
    position ≤ replayed := by
  cases state with
  | disabled => cases hcovers
  | unknown => cases hsatisfies
  | required lsn =>
    obtain ⟨observed, hobserved, hle⟩ := (any_eq_true _ _).1 hsatisfies
    have hlsn : lsn ≤ observed := of_decide_eq_true hle
    exact (Nat.le_trans hcovers hlsn).trans (hreplayed observed hobserved)

/-- **A replica that is chosen has caught up.** -/
theorem Inv.target_caughtUp (hinv : st.Inv cfg)
    (hpolicy : cfg.planner.freshnessPolicy.requiresSessionWriteLsn = true)
    (hprotected : st.Protected cfg (.cycle c)) (hallows : st.allows cfg c = true)
    (hgoes : st.base.finished = false) {endpoint : Endpoint}
    (htarget : st.target cfg c = some endpoint) : st.CaughtUp endpoint := by
  rintro id rfl position hposition
  have hhint := (hprotected.2 (ne_nil_of_mem hposition)).2
  obtain ⟨selection, hselection, hendpoint⟩ := bind_eq_some_iff.1 htarget
  -- the selection is made for this planner, this text and a session that requires as much
  have hmade : selection.planner = cfg.planner ∧
      selection.sql = routedText st.base.prepared c.frames ∧
      selection.session.CoversAll st.committed := by
    unfold RoutedState.selection at hselection
    split at hselection
    · cases hselection
    · rename_i plans hplans
      obtain ⟨⟨session, flag⟩, hupdate, rfl⟩ := map_eq_some_iff.1 hselection
      refine ⟨rfl, ?_, ?_⟩
      · rw [routedText, hplans]
        rfl
      · exact ignoresTransaction_coversAll.updateTransactionStateFromRequestPlans
          (hinv.required hgoes) hupdate
  obtain ⟨hplanner, hsql, hcovers⟩ := hmade
  have hprotects : selection.ProtectsWrites := by
    rw [ReadRoutingSelection.ProtectsWrites, hplanner, hsql]
    exact ⟨hpolicy, hhint⟩
  have hfresh := ReadRoutingSelection.checkoutTarget_fresh hprotects
    st.base.heldBackend.isSome c.poll c.polls
  generalize selection.checkoutTarget st.base.heldBackend.isSome c.poll c.polls = target
    at hendpoint hfresh
  cases target with
  | replica candidate reason =>
    obtain rfl := Endpoint.replica.inj (some.inj hendpoint)
    obtain ⟨hsatisfies, horigin⟩ := hfresh candidate reason rfl
    refine le_replayed_of_satisfies (hcovers position hposition) hsatisfies ?_
    intro lsn hlsn
    rcases horigin with ⟨poll, hpoll, hmem⟩ | hnone
    · exact (of_allows hallows).1 poll hpoll candidate hmem lsn hlsn
    · rw [hnone] at hlsn
      cases hlsn
  | primary reason | wait reason | reject reason => cases hendpoint

variable {base : SessionState} {events : List SessionEvent}

/-- **A cycle is sent to endpoints that have caught up.** -/
theorem Inv.sendsTo (hinv : st.Inv cfg)
    (hpolicy : cfg.planner.freshnessPolicy.requiresSessionWriteLsn = true)
    (hprotected : st.Protected cfg (.cycle c)) (hallows : st.allows cfg c = true)
    (hstep : sessionStep cfg.session st.base (.frames c.frames c.env) = some (base, events)) :
    SendsTo (fun b => st.CaughtUp (cfg.endpointOf b.id)) events := by
  have htarget : ∀ {endpoint}, st.target cfg c = some endpoint → st.CaughtUp endpoint :=
    hinv.target_caughtUp hpolicy hprotected hallows (turned_of_sessionStep hstep).1
  obtain ⟨-, -, -, hleased, hreconnect⟩ := of_allows hallows
  obtain ⟨rest, rfl, hrest⟩ := sessionStep_frames_events hstep
  refine SendsTo.append (attemptCycle_sendsTo ?_ ?_ ?_) (hrest _)
  · exact fun id hid => htarget (hreconnect id hid)
  · exact fun hnone id hid => htarget (hleased hnone id hid)
  · exact fun b hb => ⟨hinv.held b hb, hinv.held b hb⟩

theorem mem_sentTo {endpoint : Endpoint} :
    endpoint ∈ sentTo cfg events ↔
      ∃ b written, .forwarded b written ∈ events ∧ cfg.endpointOf b.id = endpoint := by
  rw [sentTo, mem_filterMap]
  constructor
  · rintro ⟨event, hmem, hevent⟩
    cases event with
    | forwarded b written => exact ⟨b, written, hmem, some.inj hevent⟩
    | _ => cases hevent
  · rintro ⟨b, written, hmem, rfl⟩
    exact ⟨_, hmem, rfl⟩

section

variable (hinv : st.Inv cfg)
include hinv

/-- A cycle that commits nothing. -/
theorem Inv.read
    (hpolicy : cfg.planner.freshnessPolicy.requiresSessionWriteLsn = true)
    (hprotected : st.Protected cfg (.cycle c)) (hallows : st.allows cfg c = true)
    (hstep : sessionStep cfg.session st.base (.frames c.frames c.env) = some (base, events)) :
    Inv cfg { st with base, wal := c.position st.wal } ∧
      ∀ e ∈ st.replicaEvents (sentTo cfg events), e.HonoursWrites := by
  obtain ⟨-, hprobe, hwal, -, -⟩ := of_allows hallows
  have hsends := hinv.sendsTo hpolicy hprotected hallows hstep
  have hbehind : ∀ position ∈ st.committed, position ≤ c.position st.wal :=
    fun position hposition => (hinv.behind position hposition).trans hwal
  refine ⟨⟨hbehind, ?_, ?_⟩, ?_⟩
  · intro _ position hposition
    have hframes : ∀ frame ∈ c.frames, frame.discardsAll = false := by
      intro frame hframe
      have hall := (hprotected.2 (ne_nil_of_mem hposition)).1
      exact Bool.not_eq_true' _ ▸ all_eq_true.1 hall frame hframe
    refine coversAll_of_cycle ?_ hframes (hinv.required (turned_of_sessionStep hstep).1) hstep
      position hposition
    intro lsn hlsn other hother
    rw [← hprobe lsn hlsn]
    exact hbehind other hother
  · intro b hb
    rcases sessionStep_frames_held hstep hb with ⟨hheld, -⟩ | ⟨b', written, hid, hmem⟩
    · exact hinv.held b hheld
    · rw [hid]
      exact hsends b' written hmem
  · intro e he
    obtain ⟨endpoint, hendpoint, hevent⟩ := mem_filterMap.1 he
    obtain ⟨b, written, hmem, rfl⟩ := mem_sentTo.1 hendpoint
    have hcaught := hsends b written hmem
    cases hreplica : cfg.endpointOf b.id with
    | primary =>
      rw [hreplica] at hevent
      cases hevent
    | replica id =>
      rw [hreplica] at hevent
      obtain rfl := some.inj hevent
      exact hcaught id hreplica

/-- A cycle that commits a write. -/
theorem Inv.commit
    (hpolicy : cfg.planner.freshnessPolicy.requiresSessionWriteLsn = true)
    (hprotected : st.Protected cfg (.cycle c)) (hallows : st.allows cfg c = true)
    (hstep : sessionStep cfg.session st.base (.frames c.frames c.env) = some (base, events))
    (hcommits : c.commits ≠ none) (hsent : sentTo cfg events ≠ [])
    (hprimary : ∀ endpoint ∈ sentTo cfg events, endpoint = .primary) :
    Inv cfg { st with
      base, wal := c.position st.wal, committed := c.position st.wal :: st.committed } := by
  obtain ⟨-, hprobe, hwal, -, -⟩ := of_allows hallows
  obtain ⟨hmode, hwrites, hprobes⟩ := hprotected.1 hcommits
  have hbehind : ∀ position ∈ c.position st.wal :: st.committed,
      position ≤ c.position st.wal := by
    intro position hposition
    rcases mem_cons.1 hposition with rfl | hposition
    · exact le_rfl
    · exact (hinv.behind position hposition).trans hwal
  refine ⟨hbehind, ?_, ?_⟩
  · intro hgoes
    have hsome : ∃ b written, .forwarded b written ∈ events := by
      obtain ⟨endpoint, hendpoint⟩ := exists_mem_of_ne_nil _ hsent
      obtain ⟨b, written, hmem, -⟩ := mem_sentTo.1 hendpoint
      exact ⟨b, written, hmem⟩
    obtain ⟨st₁, fwd, flag, attempted, hattempt⟩ := forwarded_of_goes hstep hgoes hsome
    rw [probes, hattempt] at hprobes
    obtain ⟨⟨plans, session, hplans, hupdate⟩, -⟩ := attemptCycle_forwarded hattempt
    have hflag : flag = true := by
      have hanalysis : cfg.session.fullRoutingAnalysis = true := by
        rw [cfg.analysis]
        exact bne_iff_ne.2 hmode
      rw [hanalysis] at hupdate
      refine committedWrite_of_commitsWrite hupdate (.inr ?_)
      rw [statements_requestPlansForFrames hplans]
      exact hwrites
    subst hflag
    have hprotection : cfg.session.readAfterWriteProtection = true := cfg.protection.trans hpolicy
    have hskips : fwd.result.skipsProbe = false := Bool.not_eq_true' _ ▸ hprobes
    refine (coversAll_of_commit ?_ hprotection hattempt hskips hstep).resolve_left ?_
    · intro lsn hlsn position hposition
      rw [← hprobe lsn hlsn]
      exact hbehind position hposition
    · rw [hgoes]
      exact Bool.false_ne_true
  · intro b hb id hid
    rcases sessionStep_frames_held hstep hb with ⟨-, hnowhere⟩ | ⟨b', written, hbid, hmem⟩
    · obtain ⟨endpoint, hendpoint⟩ := exists_mem_of_ne_nil _ hsent
      obtain ⟨b', written, hmem, -⟩ := mem_sentTo.1 hendpoint
      exact (hnowhere b' written hmem).elim
    · have hprimary := hprimary _ (mem_sentTo.2 ⟨b', written, hmem, rfl⟩)
      rw [hbid, hprimary] at hid
      cases hid

/-- A turn of the loop that is no cycle. -/
theorem Inv.turn {input : SessionInput}
    (hinput : ∀ frames env, input ≠ .frames frames env)
    (hstep : sessionStep cfg.session st.base input = some (base, events)) :
    Inv cfg { st with base } := by
  refine ⟨hinv.behind, fun _ => ?_, fun b hb => ?_⟩
  · exact rule_sessionStep ignoresTransaction_coversAll
      (hinv.required (turned_of_sessionStep hstep).1) hinput hstep
  · rcases sessionStep_held hstep hb with hheld | ⟨fwd, ⟨frames, env, -, -, -, hframes, -⟩, -⟩
    · exact hinv.held b hheld
    · exact absurd hframes (hinput frames env)

/-- A replica replays more of the log. -/
theorem Inv.replays {replica : Nat} {lsn : PgLsn}
    (hlsn : st.replayed replica ≤ lsn) :
    Inv cfg { st with replayed := Function.update st.replayed replica lsn } := by
  refine ⟨hinv.behind, hinv.required, fun b hb id hid position hposition => ?_⟩
  have hcaught := hinv.held b hb id hid position hposition
  dsimp only
  rw [Function.update_apply]
  split
  · rename_i heq
    rw [heq] at hcaught
    exact hcaught.trans hlsn
  · exact hcaught

/-- **A protected step** keeps the invariant, and the guarantee in what happens. -/
theorem Inv.step
    (hpolicy : cfg.planner.freshnessPolicy.requiresSessionWriteLsn = true) {input : RoutedInput}
    (hprotected : st.Protected cfg input) {es : List RoutedEvent}
    (hstep : st.step cfg input = some (st', es)) :
    st'.Inv cfg ∧ ∀ e ∈ es, e.HonoursWrites := by
  cases input with
  | cycle c =>
    rw [RoutedState.step, runCycle] at hstep
    split at hstep
    · rename_i hallows
      split at hstep
      · cases hstep
      · rename_i base events hbase
        split at hstep
        · cases hstep
          exact hinv.read hpolicy hprotected hallows hbase
        · rename_i hcommits
          split at hstep
          · rename_i hsent
            cases hstep
            have hinv' := hinv.commit hpolicy hprotected hallows hbase hcommits hsent.1 hsent.2
            refine ⟨hinv', fun e he => ?_⟩
            split at he
            · cases he
            · rename_i hgoes
              obtain rfl := mem_singleton.1 he
              exact hinv'.required (Bool.eq_false_iff.2 hgoes) _ mem_cons_self
          · cases hstep
    · cases hstep
  | replays replica lsn =>
    rw [RoutedState.step] at hstep
    split at hstep
    · rename_i hlsn
      cases hstep
      exact ⟨hinv.replays hlsn, nofun⟩
    · cases hstep
  | turn input =>
    by_cases hinput : ∃ frames env, input = .frames frames env
    · obtain ⟨frames, env, rfl⟩ := hinput
      cases hstep
    · have hinput : ∀ frames env, input ≠ .frames frames env :=
        fun frames env heq => hinput ⟨frames, env, heq⟩
      rw [RoutedState.step] at hstep
      · obtain ⟨⟨base, events⟩, hbase, heq⟩ := map_eq_some_iff.1 hstep
        obtain ⟨rfl, rfl⟩ := Prod.mk.inj heq
        exact ⟨hinv.turn hinput hbase, nofun⟩
      · exact hinput

end

end RoutedState

/-- **Read your writes.** With a policy that includes the session's write position, in every run
all of whose steps are protected, every replica that serves the session has replayed what the
session has committed by then, and after every commit the session requires it. -/
theorem readYourWrites_of_protected (cfg : RoutedConfig)
    (hpolicy : cfg.planner.freshnessPolicy.requiresSessionWriteLsn = true) {sessionId : Nat}
    {wal : PgLsn} {replayed : Nat → PgLsn} {inputs : List RoutedInput} {st : RoutedState}
    {events : List RoutedEvent}
    (hrun : (routedMachine cfg).run (.initial sessionId wal replayed) inputs = some (st, events))
    (hprotected : (routedMachine cfg).Meets (fun st => st.Protected cfg)
      (.initial sessionId wal replayed) inputs) :
    (∀ e ∈ events, e.HonoursWrites) ∧
      (st.base.finished = false → st.base.session.CoversAll st.committed) := by
  obtain ⟨hinv, hevents⟩ := (routedMachine cfg).invariant_of_step (I := RoutedState.Inv cfg)
    (fun _ _ _ _ hinv hi h => hinv.step hpolicy hi h) (.initial ..) hrun hprotected
  exact ⟨hevents, hinv.required⟩

/-! ### Two endpoints -/

/-- A route that prefers its replica, with backend 7 on the primary and all others on replica
1. -/
def replicaRoute : RoutedConfig where
  session := { fullRoutingAnalysis := true, readAfterWriteProtection := true }
  planner := ⟨.preferReplica, .primary, .sessionWriteLsn, 0⟩
  endpointOf id := if id = 7 then .primary else .replica 1
  analysis := rfl
  protection := rfl

/-- A simple query, answered with the status; a new backend has the id. -/
def routedQuery (sql : Text) (status : ReadyStatus) (id : BackendId) (replayLsn : PgLsn)
    (commits probe : Option PgLsn := none) : RoutedInput :=
  .cycle
    { frames := [.query sql]
      env :=
        { checkout := .leased id
          forward := ⟨.done, [.backendRead (readyForQuery status) .done]⟩
          probe }
      poll := { health := [⟨1, true, false, some replayLsn, none⟩] }
      commits }

/-- A transaction with a write, and a read once the replica has it. -/
def beginInsertCommit : List RoutedInput :=
  [routedQuery "begin" .inTransaction 7 0,
    routedQuery "insert into t values (1)" .inTransaction 7 0,
    routedQuery "commit" .idle 7 0 (some 100) (some 120), .replays 1 150,
    routedQuery "select * from t" .idle 8 150]

theorem readYourWrites_beginInsertCommit :
    let events := [.committedWrite (.required 120) 120, .ranOnReplica 1 150 [120]]
    ((routedMachine replicaRoute).run (.initial 1 0 fun _ => 0) beginInsertCommit).map Prod.snd =
      some events ∧ ∀ e ∈ events, RoutedEvent.HonoursWrites e := by
  intro events
  have hrun : ((routedMachine replicaRoute).run (.initial 1 0 fun _ => 0) beginInsertCommit).map
      Prod.snd = some events := by
    decide +kernel
  have hprotected : (routedMachine replicaRoute).Meets (fun st => st.Protected replicaRoute)
      (.initial 1 0 fun _ => 0) beginInsertCommit := by
    decide +kernel
  obtain ⟨⟨st, _⟩, hresult, heq⟩ := map_eq_some_iff.1 hrun
  refine ⟨hrun, ?_⟩
  rw [← heq]
  exact (readYourWrites_of_protected replicaRoute rfl hresult hprotected).1

/-- **The first write that is lost.** An `INSERT` outside a transaction commits on its own: no
`COMMIT` is seen, no probe is made, and the read that follows goes to a replica without it. -/
theorem autocommitted_write_not_read :
    ((routedMachine replicaRoute).run (.initial 1 0 fun _ => 0)
        [routedQuery "insert into t values (1)" .idle 7 0 (some 100) (some 120),
          routedQuery "select * from t" .idle 8 0]).map Prod.snd =
      some [.committedWrite .disabled 120, .ranOnReplica 1 0 [120]] ∧
    ¬ RoutedEvent.HonoursWrites (.committedWrite .disabled 120) ∧
    ¬ RoutedEvent.HonoursWrites (.ranOnReplica 1 0 [120]) := by
  refine ⟨by decide +kernel, nofun, fun h => ?_⟩
  exact absurd (h 120 (mem_singleton_self 120)) (by decide)

end PgKinetic