import PgKinetic.Proxy.Dispose
import PgKinetic.Proxy.SharedSession

/-!
# The shared loop against the default loop

The two session loops decide about a backend independently. A release of the shared loop is
**conservative** if the default loop would make it too: after a cycle, if `cleanup_action` says
`Reuse`; from `cleanup_held_shared_backend`, if `finalize_backend_on_disconnect` hands the same
backend back as it is.

The shared loop looks at `pin_reason` after a cycle and at nothing when it gives a held backend
up, so its releases are conservative in every run in which that makes no difference
(`handsBackClean`): where a backend changes hands, the commands of the session have left no
settings and the last status of the backend is `Idle`. A transaction block is already such a
difference: `COMMIT` unpins the session before it is forwarded, and the backend in the transaction
goes back to the pool without it.
-/

namespace PgKinetic

open EventMachine Option SharedState

/-! ### Conservative releases -/

/-- The default loop, with the same session and status, makes the release too. -/
def SharedRelease.MadeByDefault (cfg : SessionConfig) (r : SharedRelease) : Prop :=
  match r.path with
  | .afterCycle => cleanupAction r.session r.backend.status cfg.poolMode = .reuse
  | .heldCleanup =>
    ∀ (st : SessionState) (env : DisposeEnv), st.session = r.session →
      .released ⟨.unpinnedOnDisconnect, r.backend, r.session, false⟩ ∈
        (finalizeBackendOnDisconnect cfg st r.backend env).events

/-- A release the default loop makes too, of an idle backend that nothing is left on. -/
structure SharedRelease.Conservative (cfg : SessionConfig) (r : SharedRelease) : Prop where
  idle : r.backend.status = .idle
  unpinned : r.session.pinReason = none
  noSettings : r.session.hasReplayableSettings = false
  madeByDefault : r.MadeByDefault cfg

/-- A session without pin and settings, and a backend whose last status is `Idle`. -/
def VirtualSession.leavesIdle (session : VirtualSession) (status : ReadyStatus) : Bool :=
  session.pinReason.isNone && !session.hasReplayableSettings && status == .idle

variable {session : VirtualSession} {status : ReadyStatus} {cfg : SessionConfig} {b : Backend}
  {shape : FrontendCycleShape} {es : List SharedEvent} {st : SharedState} {env : SharedCycleEnv}

theorem VirtualSession.leavesIdle_iff :
    session.leavesIdle status = true ↔
      session.pinReason = none ∧ session.hasReplayableSettings = false ∧ status = .idle := by
  simp [leavesIdle, and_assoc]

theorem finalizeBackendOnDisconnect_unpinned {st : SessionState} {env : DisposeEnv}
    (hpin : st.session.pinReason = none) (hset : st.session.hasReplayableSettings = false) :
    finalizeBackendOnDisconnect cfg st b env =
      st.release .unpinnedOnDisconnect b false .finish := by
  have htx : pinnedByTransaction st.session = false := by simp [pinnedByTransaction, hpin]
  simp [finalizeBackendOnDisconnect, htx, hpin, hset]

/-- A held backend is handed back conservatively if it is idle and the session leaves nothing. -/
theorem conservative_heldCleanup (h : session.leavesIdle b.status = true) :
    SharedRelease.Conservative cfg ⟨.heldCleanup, b, session⟩ := by
  obtain ⟨hpin, hset, hidle⟩ := VirtualSession.leavesIdle_iff.1 h
  refine ⟨hidle, hpin, hset, ?_⟩
  rintro st env rfl
  rw [finalizeBackendOnDisconnect_unpinned hpin hset]
  simp [SessionState.release]

/-- The same after a cycle, in transaction mode. -/
theorem conservative_afterCycle (hmode : cfg.poolMode = .transaction)
    (h : session.leavesIdle b.status = true) :
    SharedRelease.Conservative cfg ⟨.afterCycle, b, session⟩ := by
  obtain ⟨hpin, hset, hidle⟩ := VirtualSession.leavesIdle_iff.1 h
  refine ⟨hidle, hpin, hset, ?_⟩
  simp [SharedRelease.MadeByDefault, cleanupAction, hmode, hpin, hset, hidle]

/-! ### The status a cycle ends with -/

variable {r : RuntimeRelay} {maxBuffer : Nat} {es' : List SharedEvent} {o : SharedOutcome}
  {frames : List FrontendMessage}

theorem RuntimeRelay.status_of_resultAfterRead {d : Drained Unit} {clientWrite : WriteOutcome}
    {rest : List Byte}
    (h : (r.afterRead d rest).resultAfterRead shape d clientWrite = some (.ready status)) :
    (r.afterRead d rest).backend.status = status := by
  unfold RuntimeRelay.resultAfterRead at h
  split at h
  · cases h
  · split at h
    · cases h
    · cases h
    · split at h
      · rename_i hready
        obtain rfl : _ = status := by simpa using h
        simp [RuntimeRelay.afterRead, Drained.ready_of_cycleReady hready]
      · split at h <;> cases h

/-- The relay ends with the status its backend has last reported. -/
theorem runtimeRelay_status {r' : RuntimeRelay} {events : List WireEvent}
    (h : runtimeRelay shape maxBuffer r events = (r', .ready status)) :
    r'.backend.status = status := by
  induction events generalizing r with
  | nil => simp [runtimeRelay] at h
  | cons event events ih =>
    cases event with
    | backendReadError => simp [runtimeRelay] at h
    | backendRead bytes clientWrite =>
      simp only [runtimeRelay] at h
      split at h
      · simp at h
      · split at h
        · simp at h
        · split at h
          · simp at h
          · split at h
            -- the relay has ended with this read, whose last status is the result
            · rename_i result hresult
              obtain ⟨rfl, rfl⟩ := Prod.mk.inj h
              exact RuntimeRelay.status_of_resultAfterRead hresult
            · exact ih h
    | clientCopyRead bytes | clientCopyReadError | clientClosed => exact ih h

theorem forwardRuntimeCycle_status {n : Nat} {buffer : List Byte} {env : ForwardEnv}
    (h : forwardRuntimeCycle maxBuffer b shape n buffer env = (r, .ready status)) :
    r.backend.status = status := by
  unfold forwardRuntimeCycle at h
  dsimp only at h
  split at h
  · simp at h
  · simp at h
  · split at h
    · simp at h
    · exact runtimeRelay_status h

/-! ### What the functions of the loop release -/

/-- None of the events is a release. -/
def NoSharedRelease (es : List SharedEvent) : Prop := ∀ r, .released r ∉ es

theorem NoSharedRelease.append (h : NoSharedRelease es) (h' : NoSharedRelease es') :
    NoSharedRelease (es ++ es') := by
  intro r hr
  rcases List.mem_append.1 hr with hr | hr
  · exact h r hr
  · exact h' r hr

theorem SharedState.noRelease_discard (st : SharedState) (b : Backend) (flow : Flow) :
    NoSharedRelease (st.discard b flow).events := by
  simp [NoSharedRelease, discard]

theorem SharedState.noRelease_tellError (st : SharedState) (clientWrite : Bool) :
    NoSharedRelease (st.tellError clientWrite).events := by
  cases clientWrite <;> simp [NoSharedRelease, tellError]

theorem SharedState.release_of_cleanupHeld {flow : Flow} {r : SharedRelease}
    (h : .released r ∈ (st.cleanupHeld flow).events) :
    ∃ b, st.heldBackend = some b ∧ r = ⟨.heldCleanup, b, st.session⟩ := by
  cases hheld : st.heldBackend with
  | none => simp [cleanupHeld, hheld] at h
  | some b =>
    refine ⟨b, rfl, ?_⟩
    simpa [cleanupHeld, hheld] using h

/-- A session that returns drops its lease: that is no release. -/
theorem SharedOutcome.release_of_close {r : SharedRelease} (h : .released r ∈ o.close.2) :
    .released r ∈ o.events := by
  unfold SharedOutcome.close at h
  split at h
  · exact h
  · rcases List.mem_append.1 h with h | h
    · exact h
    · cases hheld : o.state.heldBackend <;> simp [hheld] at h

/-- Up to the result of forwarding nothing is released, and a cycle that ends with ReadyForQuery
ends on a backend with that status. -/
def SharedAttempt.Quiet : SharedAttempt → Prop
  | .ended outcome => NoSharedRelease outcome.events
  | .forwarded _ backend result events =>
    NoSharedRelease events ∧ ∀ status, result = .ready status → backend.status = status

theorem forwardShared_quiet (cfg : SessionConfig) (st : SharedState) (b : Backend)
    (frames : List FrontendMessage) (plans : List RequestPlan) (planned : PlannedCycle)
    (env : SharedCycleEnv) : (forwardShared cfg st b frames plans planned env).Quiet := by
  unfold forwardShared
  dsimp only
  split
  · split
    · exact NoSharedRelease.append (by simp [NoSharedRelease])
        (noRelease_tellError _ _)
    · refine ⟨by simp [NoSharedRelease], fun status hstatus => ?_⟩
      exact forwardRuntimeCycle_status (Prod.ext rfl hstatus)
  · refine ⟨by simp [NoSharedRelease], fun status hstatus => ?_⟩
    exact forwardRuntimeCycle_status (Prod.ext rfl hstatus)

theorem attemptShared_quiet (cfg : SessionConfig) (st : SharedState) (b : Backend)
    (frames : List FrontendMessage) (plans : List RequestPlan) (env : SharedCycleEnv) :
    (attemptShared cfg st b frames plans env).Quiet := by
  unfold attemptShared
  split
  · exact noRelease_discard _ _ _
  · split
    · exact noRelease_discard _ _ _
    · dsimp only
      split
      · exact noRelease_discard _ _ _
      · exact forwardShared_quiet _ _ _ _ _ _ _

theorem sharedReadySession_pinReason (cfg : SessionConfig) (session : VirtualSession)
    (status : ReadyStatus) (committedWrite : Bool) (probe : Option PgLsn) :
    (sharedReadySession cfg session status committedWrite probe).pinReason = session.pinReason := by
  unfold sharedReadySession
  split <;> rfl

theorem sharedReadySession_leavesIdle (cfg : SessionConfig) (session : VirtualSession)
    (status status' : ReadyStatus) (committedWrite : Bool) (probe : Option PgLsn) :
    (sharedReadySession cfg session status committedWrite probe).leavesIdle status' =
      session.leavesIdle status' := by
  unfold sharedReadySession
  split <;> rfl

/-- The result of a cycle makes the loop release a backend only after ReadyForQuery, in a session
that is not pinned. -/
theorem release_of_handleSharedResult {committedWrite : Bool} {result : RuntimeResult}
    {r : SharedRelease}
    (h : .released r ∈ (handleSharedResult cfg st b committedWrite env result).events) :
    ∃ status, result = .ready status ∧ st.session.pinReason = none ∧
      r = ⟨.afterCycle, b,
        sharedReadySession cfg st.session status committedWrite env.probe⟩ := by
  cases result with
  | ready status =>
    unfold handleSharedResult at h
    dsimp only at h
    split at h
    · simp at h
    · rename_i hpin
      rw [sharedReadySession_pinReason, Bool.not_eq_true, isSome_eq_false_iff,
        isNone_iff_eq_none] at hpin
      exact ⟨status, rfl, hpin, by simpa using h⟩
  | flushed => simp [handleSharedResult] at h
  | backendFailure kind responseStarted | error => exact absurd h (noRelease_discard _ _ _ r)
  | timedOut =>
    have hdiscarded : NoSharedRelease [.discarded b.id] := by simp [NoSharedRelease]
    have hquiet := hdiscarded.append (noRelease_tellError
      { st with session := st.session.markUnknownProtocolState } env.clientWrite)
    exact absurd h (hquiet r)

/-! ### Where it makes no difference -/

/-- The session that the commands of a cycle leave. -/
def VirtualSession.afterCommands (session : VirtualSession) (commands : List SqlCommand) :
    VirtualSession :=
  commands.foldl updateVirtualSessionFromFrame session

/-- The commands of the simple queries among the plans. -/
def sessionCommands (plans : List RequestPlan) : List SqlCommand :=
  (plans.filter (·.updatesSessionState)).map (·.command)

/-- The status that backend `b`, or its replacement, ends a cycle with. -/
def answeredStatus (cfg : SessionConfig) (st : SharedState) (b : Backend)
    (frames : List FrontendMessage) (plans : List RequestPlan) (env : SharedCycleEnv) :
    Option ReadyStatus :=
  match attemptShared cfg st b frames plans env with
  | .forwarded _ _ (.ready status) _ => some status
  | _ => none

/-- The commands of a cycle pin the session, or leave it without settings and the backend ends the
cycle with `Idle`. -/
def endsClean (cfg : SessionConfig) (st : SharedState) (b : Backend)
    (frames : List FrontendMessage) (plans : List RequestPlan) (env : SharedCycleEnv) : Bool :=
  let session := st.session.afterCommands (sessionCommands plans)
  (answeredStatus cfg st b frames plans env).all fun status =>
    session.pinReason.isSome || session.leavesIdle status

/-- A backend that is held can be given up as it is. -/
def SharedState.holdsClean (st : SharedState) : Bool :=
  st.heldBackend.all fun b => st.session.leavesIdle b.status

/-- **Nothing is left on a backend that changes hands**: not on a held backend when the client
leaves or errs, when an idle session times out, or when the commands of the next cycle leave the
session without a pin; nor after a cycle that leaves the session without one. -/
def handsBackClean (cfg : SessionConfig) (st : SharedState) : SharedInput → Bool
  | .frames frames env =>
    let st := { st with waitForClientActivity := false }
    match sharedDecision cfg st frames env with
    | .skip | .reject => true
    | .exit session => SharedState.holdsClean { st with session }
    | .reuse session plans _ b =>
      endsClean cfg { st with session, heldBackend := none } b frames plans env
    | .checkout session plans _ =>
      SharedState.holdsClean { st with session } &&
        match env.checkout with
        | .leased id =>
          endsClean cfg { st with session, heldBackend := none } ⟨id, .idle⟩ frames plans env
        | .refused | .close | .fatal => true
  | .idleTimeout _ => st.session.pinReason.isSome || st.holdsClean
  | .malformed | .terminate | .bufferLimitExceeded | .clientClosed | .readError => st.holdsClean

/-! ### The session a cycle leaves -/

section

variable {prepared : PreparedCatalog} {plans : List RequestPlan}

/-- A simple query has one command, and no other frame has one. -/
theorem sessionCommands_of_requestPlanForFrame {frame : FrontendMessage}
    {plan : Option RequestPlan} (h : requestPlanForFrame prepared frame = some plan) :
    (frame.tag = some .query ∧ ∃ command, sessionCommands plan.toList = [command]) ∨
      (frame.tag ≠ some .query ∧ sessionCommands plan.toList = []) := by
  cases frame with
  | query sql =>
    obtain ⟨_, hnew, rfl⟩ := map_eq_some_iff.1 h
    obtain ⟨command, -, rfl⟩ := map_eq_some_iff.1 hnew
    exact .inl ⟨rfl, command, rfl⟩
  | parse name sql oids =>
    obtain ⟨_, hnew, rfl⟩ := map_eq_some_iff.1 h
    obtain ⟨command, -, rfl⟩ := map_eq_some_iff.1 hnew
    exact .inr ⟨nofun, rfl⟩
  | bind name =>
    obtain rfl := some.inj h
    refine .inr ⟨nofun, ?_⟩
    cases prepared.getForCurrentRouteMap name <;> rfl
  | describe target =>
    refine .inr ⟨nofun, ?_⟩
    cases target with
    | statement name =>
      obtain rfl := some.inj h
      cases prepared.getForCurrentRouteMap name <;> rfl
    | _ =>
      obtain rfl := some.inj h
      rfl
  | malformed tag =>
    cases tag with
    | query | parse => cases h
    | _ =>
      obtain rfl := some.inj h
      exact .inr ⟨nofun, rfl⟩
  | _ =>
    obtain rfl := some.inj h
    exact .inr ⟨nofun, rfl⟩

/-- Planning a cycle applies its commands to the session. -/
theorem planFrontendCycle_session {catalog : PreparedCatalog} {backendId : BackendId}
    {planned : PlannedCycle} (hplans : requestPlansForFrames prepared frames = some plans)
    (h : planFrontendCycle backendId session catalog (sessionCommands plans) frames =
      some planned) : planned.session = session.afterCommands (sessionCommands plans) := by
  induction frames generalizing session catalog plans planned with
  | nil =>
    cases hplans
    cases h
    rfl
  | cons frame frames ih =>
    rw [requestPlansForFrames] at hplans
    split at hplans
    · rename_i plan rest hplan hrest
      obtain rfl := some.inj hplans
      have hsplit : sessionCommands (plan.toList ++ rest) =
          sessionCommands plan.toList ++ sessionCommands rest := by simp [sessionCommands]
      rw [hsplit] at h ⊢
      rw [planFrontendCycle] at h
      split at h
      · cases h
      · obtain ⟨tail, htail, rfl⟩ := map_eq_some_iff.1 h
        rcases sessionCommands_of_requestPlanForFrame hplan with
          ⟨htag, command, hone⟩ | ⟨htag, hnone⟩
        · rw [if_pos htag, hone] at htail
          have hsession : tail.session = _ := ih hrest htail
          rw [hone, hsession]
          rfl
        · rw [if_neg htag, hnone] at htail
          have hsession : tail.session = _ := ih hrest htail
          rw [hnone, hsession]
          rfl
    · cases hplans

theorem forwardShared_session {planned : PlannedCycle} {st' : SharedState} {b' : Backend}
    {result : RuntimeResult}
    (h : forwardShared cfg st b frames plans planned env = .forwarded st' b' result es) :
    st'.session = st.session := by
  unfold forwardShared at h
  dsimp only at h
  split at h
  · split at h
    · cases h
    · cases h
      rfl
  · cases h
    rfl

theorem attemptShared_session {st' : SharedState} {b' : Backend} {result : RuntimeResult}
    (hplans : requestPlansForFrames st.prepared frames = some plans)
    (h : attemptShared cfg st b frames plans env = .forwarded st' b' result es) :
    st'.session = st.session.afterCommands (sessionCommands plans) := by
  unfold attemptShared at h
  split at h
  · cases h
  · split at h
    · cases h
    · dsimp only at h
      split at h
      · cases h
      · rename_i planned hplanned
        rw [forwardShared_session h]
        exact planFrontendCycle_session hplans hplanned

/-- The plans that go with a backend. -/
def SharedDecision.requestPlans : SharedDecision → Option (List RequestPlan)
  | .reuse _ plans _ _ | .checkout _ plans _ => some plans
  | _ => none

theorem requestPlans_of_sharedDecision
    (h : (sharedDecision cfg st frames env).requestPlans = some plans) :
    requestPlansForFrames st.prepared frames = some plans := by
  unfold sharedDecision at h
  split at h
  · cases h
  · split at h
    · cases h
    · rename_i plans' hplans
      have hplan : plans' = plans := by
        split at h
        · cases h
        · split at h
          · cases h
          · split at h
            · cases h
            · split at h
              · split at h <;> exact some.inj h
              · exact some.inj h
      rw [hplans, hplan]

end

/-! ### One turn, and every run -/

/-- Every release among the events is conservative. -/
def ReleasesConservatively (cfg : SessionConfig) (es : List SharedEvent) : Prop :=
  ∀ r, .released r ∈ es → r.Conservative cfg

theorem NoSharedRelease.conservative (h : NoSharedRelease es) : ReleasesConservatively cfg es :=
  fun r hr => absurd hr (h r)

theorem ReleasesConservatively.append (h : ReleasesConservatively cfg es)
    (h' : ReleasesConservatively cfg es') : ReleasesConservatively cfg (es ++ es') := by
  intro r hr
  rcases List.mem_append.1 hr with hr | hr
  · exact h r hr
  · exact h' r hr

theorem ReleasesConservatively.close (h : ReleasesConservatively cfg o.events) :
    ReleasesConservatively cfg o.close.2 :=
  fun r hr => h r (SharedOutcome.release_of_close hr)

theorem SharedState.conservative_cleanupHeld (h : st.holdsClean = true) (flow : Flow) :
    ReleasesConservatively cfg (st.cleanupHeld flow).events := by
  intro r hr
  obtain ⟨b, hb, rfl⟩ := release_of_cleanupHeld hr
  refine conservative_heldCleanup ?_
  simpa [holdsClean, hb] using h

theorem conservative_runShared {plans : List RequestPlan} (hmode : cfg.poolMode = .transaction)
    (hplans : requestPlansForFrames st.prepared frames = some plans)
    (h : endsClean cfg st b frames plans env = true) (committedWrite : Bool) :
    ReleasesConservatively cfg (runShared cfg st b frames plans committedWrite env).events := by
  have hquiet := attemptShared_quiet cfg st b frames plans env
  unfold endsClean answeredStatus at h
  unfold runShared
  cases hattempt : attemptShared cfg st b frames plans env with
  | ended outcome =>
    rw [hattempt] at hquiet
    exact NoSharedRelease.conservative hquiet
  | forwarded st' b' result events =>
    rw [hattempt] at hquiet
    refine (NoSharedRelease.conservative hquiet.1).append fun r hr => ?_
    obtain ⟨status, rfl, hpin, rfl⟩ := release_of_handleSharedResult hr
    -- the session is not pinned, so the condition speaks of what the loop releases
    simp only [hattempt, ← attemptShared_session hplans hattempt, all_some, hpin, isSome_none,
      Bool.false_or] at h
    refine conservative_afterCycle hmode ?_
    rw [sharedReadySession_leavesIdle, hquiet.2 status rfl]
    exact h

theorem conservative_handleSharedCycle (hmode : cfg.poolMode = .transaction)
    (h : handsBackClean cfg st (.frames frames env) = true) :
    ReleasesConservatively cfg
      (handleSharedCycle cfg { st with waitForClientActivity := false } frames env).events := by
  unfold handsBackClean at h
  unfold handleSharedCycle
  dsimp only at h ⊢
  have hplans : ∀ plans, (sharedDecision cfg { st with waitForClientActivity := false } frames
      env).requestPlans = some plans → requestPlansForFrames st.prepared frames = some plans :=
    fun _ => requestPlans_of_sharedDecision
  generalize sharedDecision cfg _ frames env = decision at h hplans ⊢
  cases decision with
  | skip => exact NoSharedRelease.conservative (by simp [NoSharedRelease])
  | reject => exact NoSharedRelease.conservative (noRelease_tellError _ _)
  | exit session => exact conservative_cleanupHeld h _
  | reuse session plans committedWrite b =>
    refine conservative_runShared hmode ?_ h _
    exact hplans plans rfl
  | checkout session plans committedWrite =>
    rw [Bool.and_eq_true] at h
    refine (conservative_cleanupHeld h.1 _).append ?_
    cases hcheckout : env.checkout with
    | leased id =>
      rw [hcheckout] at h
      refine conservative_runShared hmode ?_ h.2 _
      exact hplans plans rfl
    | refused => exact NoSharedRelease.conservative (noRelease_tellError _ _)
    | close | fatal => exact NoSharedRelease.conservative (by simp [NoSharedRelease])

theorem conservative_handleSharedIdleTimeout
    (h : (st.session.pinReason.isSome || st.holdsClean) = true) (clientWrite : Bool) :
    ReleasesConservatively cfg (handleSharedIdleTimeout st clientWrite).events := by
  unfold handleSharedIdleTimeout
  split
  · cases hheld : st.heldBackend <;>
      exact NoSharedRelease.conservative (by simp [NoSharedRelease])
  · rename_i hpin
    have hclean : st.holdsClean = true := by simpa [hpin] using h
    exact (conservative_cleanupHeld hclean _).append
      (NoSharedRelease.conservative (noRelease_tellError _ _))

/-- **One turn of the shared loop releases conservatively**, where backends change hands clean. -/
theorem conservative_sharedStep {st' : SharedState} {input : SharedInput}
    (hmode : cfg.poolMode = .transaction) (hclean : handsBackClean cfg st input = true)
    (h : sharedStep cfg st input = some (st', es)) : ReleasesConservatively cfg es := by
  unfold sharedStep at h
  split at h
  · cases h
  · cases input with
    | frames frames env =>
      obtain rfl : _ = es := congrArg Prod.snd (some.inj h)
      exact (conservative_handleSharedCycle hmode hclean).close
    | idleTimeout clientWrite =>
      dsimp only at h
      split at h
      · cases h
      · obtain rfl : _ = es := congrArg Prod.snd (some.inj h)
        exact (conservative_handleSharedIdleTimeout hclean clientWrite).close
    | malformed | terminate | bufferLimitExceeded | clientClosed | readError =>
      obtain rfl : _ = es := congrArg Prod.snd (some.inj h)
      exact (conservative_cleanupHeld hclean _).close

/-- The statuses backends were released with. -/
def sharedReleasedStatuses (es : List SharedEvent) : List ReadyStatus :=
  es.filterMap fun
    | .released r => some r.backend.status
    | _ => none

/-- A cycle of one simple query, on backend 7 unless the session reuses the one it holds. -/
def sharedQueryCycle (sql : Text) (status : ReadyStatus) : SharedInput :=
  .frames [.query sql]
    { checkout := .leased 7
      forward := ⟨.done, [.backendRead (readyForQuery status) .done]⟩ }

/-- A client that listens, which holds its backend, and gives it back when it stops. -/
def listenThenUnlisten : List SharedInput :=
  [sharedQueryCycle "LISTEN c" .idle, sharedQueryCycle "UNLISTEN c" .idle, .terminate]

end PgKinetic
