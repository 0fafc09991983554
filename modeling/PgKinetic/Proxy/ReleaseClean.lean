import PgKinetic.Proxy.Turn

/-!
# Session state and released backends

A session leaves temporary tables, advisory locks, channel registrations, unreplayable settings
or a copy on its backend, and `pin_reason` keeps such a backend from the pool. But `pin_reason`
names only the first reason, and an open or failed transaction comes before all of these: the
release paths that end a transaction do not look at what it **masks**. A release leaks nothing
(`Release.LeaksNothing`) in every run in which those paths find the rest of the session clean
(`maskedClean`); a failed transaction in a session with a temporary table is a leak.
-/

namespace PgKinetic

open EventMachine VirtualSession Release

/-! ### What a session leaves on a backend -/

/-- The session has left nothing on its backend that outlives a transaction. -/
def VirtualSession.leavesNothing (session : VirtualSession) : Bool :=
  !session.hasTempTable && !session.hasAdvisoryLock && !session.hasListen &&
    !session.hasUnsafeSessionState && !session.inCopy

/-- The session has left nothing on its backend, not even settings. -/
def VirtualSession.isClean (session : VirtualSession) : Bool :=
  session.leavesNothing && !session.hasReplayableSettings

/-- A backend is released with no state of the session on it that the reset query, if it has been
run, does not remove. -/
structure Release.LeaksNothing (r : Release) : Prop where
  hasTempTable : r.session.hasTempTable = false
  hasAdvisoryLock : r.session.hasAdvisoryLock = false
  hasListen : r.session.hasListen = false
  hasUnsafeSessionState : r.session.hasUnsafeSessionState = false
  inCopy : r.session.inCopy = false
  settings : r.session.hasReplayableSettings = true → r.afterReset = true

variable {r : Release} {cfg : SessionConfig} {st : SessionState} {input : SessionInput}

theorem Release.leaksNothing_of_leavesNothing (h : r.session.leavesNothing = true)
    (hset : r.session.hasReplayableSettings = true → r.afterReset = true) : r.LeaksNothing := by
  simp only [leavesNothing, Bool.and_eq_true, Bool.not_eq_true'] at h
  obtain ⟨⟨⟨⟨htemp, hlock⟩, hlisten⟩, hunsafe⟩, hcopy⟩ := h
  exact ⟨htemp, hlock, hlisten, hunsafe, hcopy, hset⟩

theorem Release.leaksNothing_of_isClean (h : r.session.isClean = true) : r.LeaksNothing := by
  simp only [isClean, Bool.and_eq_true, Bool.not_eq_true'] at h
  exact leaksNothing_of_leavesNothing h.1 (by simp [h.2])

/-- Without a pin reason nothing is masked. -/
theorem VirtualSession.leavesNothing_of_pinReason {session : VirtualSession}
    (h : session.pinReason = none) : session.leavesNothing = true := by
  unfold pinReason at h
  unfold leavesNothing
  grind

/-- A rollback removes nothing but the transaction. -/
theorem VirtualSession.isClean_of_recovered {s s' : VirtualSession}
    (h : s' = s ∨ s' = s.endTransaction) : s'.isClean = s.isClean := by
  rcases h with rfl | rfl <;> rfl

theorem pinnedByTransaction_endTransaction (session : VirtualSession) :
    pinnedByTransaction session.endTransaction = false := by
  simp only [pinnedByTransaction, pinReason, endTransaction]
  grind

/-- Reading the position of a committed write leaves the rest of the session alone. -/
theorem readySession_isClean (cfg : SessionConfig) (session : VirtualSession)
    (status : ReadyStatus) (committedWrite : Bool) (probe : Option PgLsn) :
    (readySession cfg session status committedWrite probe).isClean =
      session.markReadyAfterCopy.isClean := by
  unfold readySession
  split <;> rfl

theorem readySession_pinReason (cfg : SessionConfig) (session : VirtualSession)
    (status : ReadyStatus) (committedWrite : Bool) (probe : Option PgLsn) :
    (readySession cfg session status committedWrite probe).pinReason =
      session.markReadyAfterCopy.pinReason := by
  unfold readySession
  split <;> rfl

/-! ### The paths that end a transaction -/

/-- The session with which a backend may be released after `result` without regard to its pin
reason: rolled back after a failed transaction, or recovered after the client has left, has
stopped reading or was too slow. -/
def maskedSession (cfg : SessionConfig) (session : VirtualSession) :
    ForwardResult → Option VirtualSession
  | .ready .failedTransaction =>
    if cfg.poolMode = .transaction then some session.markReadyAfterCopy else none
  | .clientDisconnectedAfterReady .failedTransaction =>
    if cfg.poolMode = .transaction then some session.markReadyAfterCopy else none
  | .clientDisconnectedAfterReady _ =>
    if pinnedByTransaction session.markReadyAfterCopy && cfg.recoveryMode != .drop then
      some session.markReadyAfterCopy
    else none
  | .abandonedResponse _ => if cfg.recoveryMode = .recover then some session else none
  | .timedOut _ =>
    if cfg.poolMode = .transaction ∧
        recoveryAction (timeoutTrigger session) cfg.recoveryMode ≠ .discard then
      some session
    else none
  | _ => none

/-- **Nothing is masked** where the loop is about to end a transaction and release its backend. -/
def maskedClean (cfg : SessionConfig) (st : SessionState) : SessionInput → Bool
  | .frames frames env =>
    match attemptCycle cfg { st with waitForClientActivity := false } frames env with
    | .forwarded _ fwd _ _ => (maskedSession cfg fwd.session fwd.result).all VirtualSession.isClean
    | .ended _ => true
  | .terminate _ | .bufferLimitExceeded _ | .idleTimeout _ _ =>
    st.heldBackend.isNone || !pinnedByTransaction st.session || cfg.recoveryMode == .drop ||
      st.session.isClean
  | .clientError | .backendClosed | .backendAsync _ => true

theorem isClean_of_finalizes (h : maskedClean cfg st input = true) (hinput : input.Finalizes)
    {b : Backend} (hb : st.heldBackend = some b) (htx : pinnedByTransaction st.session = true)
    (hmode : cfg.recoveryMode ≠ .drop) : st.session.isClean = true := by
  have hheld : (st.heldBackend.isNone || !pinnedByTransaction st.session ||
      cfg.recoveryMode == .drop || st.session.isClean) = true := by
    cases input <;> first | exact h | exact hinput.elim
  simpa [hb, htx, hmode] using hheld

theorem isClean_of_forwards (h : maskedClean cfg st input = true) {fwd : Forwarded}
    (hfwd : input.Forwards cfg st fwd) {session : VirtualSession}
    (hmasked : maskedSession cfg fwd.session fwd.result = some session) :
    session.isClean = true := by
  obtain ⟨frames, env, st', committedWrite, events, rfl, hattempt⟩ := hfwd
  simpa [maskedClean, hattempt, hmasked] using h

/-! ### One release -/

section

variable {cfg : SessionConfig} {session : VirtualSession} {b : Backend} {r : Release}

theorem FinalRelease.leaksNothing (h : FinalRelease cfg session b r)
    (hmasked : pinnedByTransaction session = true → cfg.recoveryMode ≠ .drop →
      session.isClean = true) : r.LeaksNothing := by
  cases h with
  | recovered htx hmode hsession =>
    refine leaksNothing_of_isClean ?_
    rw [isClean_of_recovered hsession]
    exact hmasked htx hmode
  | reset hpin =>
    exact leaksNothing_of_leavesNothing (leavesNothing_of_pinReason hpin)
      fun _ => rfl
  | unpinned hpin hset =>
    exact leaksNothing_of_leavesNothing (leavesNothing_of_pinReason hpin)
      (by simp [hset])

theorem ReadyRelease.leaksNothing {status : ReadyStatus} (h : ReadyRelease cfg session b status r)
    (hmasked : status = .failedTransaction → cfg.poolMode = .transaction →
      session.isClean = true) : r.LeaksNothing := by
  cases h with
  | reuse _ hpin hset =>
    exact leaksNothing_of_leavesNothing (leavesNothing_of_pinReason hpin)
      (by simp [hset])
  | reset _ hpin =>
    exact leaksNothing_of_leavesNothing (leavesNothing_of_pinReason hpin)
      fun _ => rfl
  | rollback hfailed hmode => exact leaksNothing_of_isClean (hmasked hfailed hmode)

/-- After a cycle a release leaks nothing, if nothing is masked. -/
theorem ResultRelease.leaksNothing {result : ForwardResult}
    (h : ResultRelease cfg session b result r)
    (hmasked : ∀ s, maskedSession cfg session result = some s → s.isClean = true) :
    r.LeaksNothing := by
  cases h with
  | ready h | leaving h =>
    refine h.leaksNothing fun hfailed hmode => ?_
    subst hfailed
    rw [readySession_isClean]
    exact hmasked _ (by simp [maskedSession, hmode])
  | @left status _ _ _ hstatus h =>
    refine h.leaksNothing fun htx hmode => ?_
    rw [readySession_isClean]
    -- the pin that counts is the one after the cycle, which keeps a transaction's
    have htx' : pinnedByTransaction session.markReadyAfterCopy = true := by
      simpa only [pinnedByTransaction, readySession_pinReason] using htx
    refine hmasked _ ?_
    cases status with
    | failedTransaction => exact absurd rfl hstatus
    | idle | inTransaction => simp [maskedSession, htx', hmode]
  | leftRolledBack h =>
    refine h.leaksNothing fun htx _ => ?_
    -- the rollback has ended the transaction, so nothing is left to recover
    rw [pinnedByTransaction_endTransaction] at htx
    cases htx
  | abandoned hmode hsession =>
    have hclean := hmasked session (by simp [maskedSession, hmode])
    refine leaksNothing_of_isClean ?_
    rw [isClean_of_recovered hsession]
    exact hclean
  | timedOut haction hmode hsession =>
    have hclean := hmasked session (by simp [maskedSession, hmode, haction])
    refine leaksNothing_of_isClean ?_
    rw [isClean_of_recovered hsession]
    exact hclean

end

/-! ### Every run -/

/-- **One turn of the loop leaks nothing**, where nothing is masked. -/
theorem leaksNothing_of_sessionStep_release {st' : SessionState} {es : List SessionEvent}
    (hclean : maskedClean cfg st input = true) (h : sessionStep cfg st input = some (st', es))
    (hr : .released r ∈ es) : r.LeaksNothing := by
  rcases sessionStep_release h hr with ⟨hinput, b, hb, hfinal⟩ | ⟨fwd, hfwd, hresult⟩
  · exact hfinal.leaksNothing (isClean_of_finalizes hclean hinput hb)
  · exact hresult.leaksNothing fun _ => isClean_of_forwards hclean hfwd

/-- **No session state leaks through the pool**, in every run of a session in which the paths that
end a transaction find the rest of the session clean. -/
theorem leaksNothing_of_maskedClean (cfg : SessionConfig) (sessionId : Nat)
    (inputs : List SessionInput) (st : SessionState) (es : List SessionEvent)
    (hrun : (sessionMachine cfg).run (.initial sessionId) inputs = some (st, es))
    (hclean : (sessionMachine cfg).Meets (fun st input => maskedClean cfg st input = true)
      (.initial sessionId) inputs)
    (r : Release) (hr : .released r ∈ es) : r.LeaksNothing := by
  refine ((sessionMachine cfg).invariant_of_step_of (I := fun _ => True) .released ?_ trivial hrun
    hclean).2 r hr
  exact fun _ _ _ _ _ hclean h => ⟨trivial, fun _ => leaksNothing_of_sessionStep_release hclean h⟩

/-- The releases among the events. -/
def releases (es : List SessionEvent) : List Release :=
  es.filterMap fun
    | .released r => some r
    | _ => none

/-- A session that sets a parameter after a failed transaction. -/
def setAfterFailed : List SessionInput :=
  [queryCycle "BEGIN" .inTransaction,
    queryCycle "SELECT 1/0" .failedTransaction { cleanup := .ready .idle },
    queryCycle "SET timezone = 'UTC'" .idle { cleanup := .ready .idle }]

theorem leaksNothing_of_setAfterFailed :
    ∃ st es, (sessionMachine {}).run (.initial 1) setAfterFailed = some (st, es) ∧
      (releases es).map (·.path) = [.rollbackThenReuse, .resetThenReuse] ∧
      ∀ r, .released r ∈ es → r.LeaksNothing := by
  have hrun : ((sessionMachine {}).run (.initial 1) setAfterFailed).map
      (fun p => (releases p.2).map (·.path)) =
        some [.rollbackThenReuse, .resetThenReuse] := by decide +kernel
  obtain ⟨p, hp, hpaths⟩ := Option.map_eq_some_iff.1 hrun
  exact ⟨p.1, p.2, hp, hpaths, leaksNothing_of_maskedClean {} 1 setAfterFailed p.1 p.2 hp
    (by decide +kernel)⟩

/-- **A temporary table is released with the backend** of a transaction that fails after it was
created: the failed transaction is rolled back and its backend reused. -/
theorem tempTable_released_after_failedTransaction :
    ((sessionMachine {}).run (.initial 1)
      [queryCycle "CREATE TEMP TABLE t (a int)" .idle, queryCycle "BEGIN" .inTransaction,
        queryCycle "SELECT 1/0" .failedTransaction { cleanup := .ready .idle }]).map
        (fun p => (releases p.2).map fun r => (r.path, r.session.hasTempTable, r.afterReset)) =
      some [(.rollbackThenReuse, true, false)] := by
  decide +kernel

end PgKinetic
