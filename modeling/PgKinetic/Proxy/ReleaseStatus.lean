import PgKinetic.Proxy.Turn

/-!
# The status of released backends

The pool hands a released backend to the next session, so it must not be inside a transaction.
Two trackers decide: the status byte of ReadyForQuery, which `finish_ready_backend` looks at, and
the transaction state the `VirtualSession` makes out of statement texts, which is all that
`finalize_backend_on_disconnect` looks at. As long as the second never overlooks a transaction the
first has seen (`trackerAgrees`), every backend is released with last status `Idle`; a transaction
opened by a text that `Sql.classify` takes for a plain query is released open when the client
leaves.
-/

namespace PgKinetic

open EventMachine

/-! ### The two trackers -/

/-- Whether `finalize_backend_on_disconnect` does anything to a backend before it releases it. -/
def VirtualSession.marksBackend (session : VirtualSession) : Bool :=
  session.pinReason.isSome || session.hasReplayableSettings

/-- **The tracker of texts has not overlooked a transaction** that the backend has reported, where
the loop is about to finalize that backend: on an input that ends the session or times it out,
and on a cycle whose client is found to have left when its last ReadyForQuery arrives. -/
def trackerAgrees (cfg : SessionConfig) (st : SessionState) : SessionInput → Bool
  | .frames frames env =>
    match attemptCycle cfg { st with waitForClientActivity := false } frames env with
    | .forwarded _ fwd _ _ =>
      fwd.result != .clientDisconnectedAfterReady .inTransaction ||
        fwd.session.markReadyAfterCopy.marksBackend
    | .ended _ => true
  | .terminate _ | .bufferLimitExceeded _ | .idleTimeout _ _ =>
    st.heldBackend.all fun b => b.status != .inTransaction || st.session.marksBackend
  | .clientError | .backendClosed | .backendAsync _ => true

variable {cfg : SessionConfig} {st : SessionState} {input : SessionInput} {b : Backend}
  {fwd : Forwarded} {r : Release} {session : VirtualSession}

theorem marksBackend_of_finalizes (h : trackerAgrees cfg st input = true) (hinput : input.Finalizes)
    (hb : st.heldBackend = some b) (htx : b.status = .inTransaction) :
    st.session.marksBackend = true := by
  have hheld : (st.heldBackend.all fun b => b.status != .inTransaction ||
      st.session.marksBackend) = true := by
    cases input <;> first | exact h | exact hinput.elim
  simpa [hb, htx] using hheld

theorem marksBackend_of_forwards (h : trackerAgrees cfg st input = true)
    (hfwd : input.Forwards cfg st fwd)
    (hresult : fwd.result = .clientDisconnectedAfterReady .inTransaction) :
    fwd.session.markReadyAfterCopy.marksBackend = true := by
  obtain ⟨frames, env, st', committedWrite, events, rfl, hattempt⟩ := hfwd
  simpa [trackerAgrees, hattempt, hresult] using h

/-! ### One release -/

/-- A backend is finalized to `Idle`, if the session knows of the transaction it may be in. -/
theorem FinalRelease.status (h : FinalRelease cfg session b r)
    (hfailed : b.status ≠ .failedTransaction)
    (htx : b.status = .inTransaction → session.marksBackend = true) : r.backend.status = .idle := by
  cases h with
  | recovered => rfl
  | reset => rfl
  | unpinned hpin hset =>
    -- released as it is: the session knows of nothing, so the backend is in no transaction
    cases hstatus : b.status with
    | idle => rfl
    | failedTransaction => exact absurd hstatus hfailed
    | inTransaction => simpa [VirtualSession.marksBackend, hpin, hset] using htx hstatus

theorem ReadyRelease.status {status : ReadyStatus} (h : ReadyRelease cfg session b status r)
    (hb : b.status = status) : r.backend.status = .idle := by
  cases h with
  | reuse hidle => exact hb.trans hidle
  | reset => rfl
  | rollback => rfl

/-- After a cycle a backend is released `Idle`, if the tracker agrees where the client has left. -/
theorem ResultRelease.status {result : ForwardResult} {sent : List ReadyStatus}
    (h : ResultRelease cfg session b result r) (hready : ReadyEnd b.status sent result)
    (htx : result = .clientDisconnectedAfterReady .inTransaction →
      session.markReadyAfterCopy.marksBackend = true) : r.backend.status = .idle := by
  cases h with
  | ready h => exact h.status hready.1
  | leaving h => exact h.status hready
  | left hstatus h =>
    -- kept by `finish_ready_backend` and finalized at once, since the client has left
    have hb : b.status = _ := hready
    refine h.status (by rw [hb]; exact hstatus) fun hin => ?_
    rw [hb] at hin
    subst hin
    simpa [readySession] using htx rfl
  | leftRolledBack h => exact h.status (by simp) (by simp)
  | abandoned => rfl
  | timedOut => rfl

/-! ### Every run -/

/-- A held backend is not in a failed transaction. -/
def HeldNotFailed (st : SessionState) : Prop :=
  ∀ b, st.heldBackend = some b → b.status ≠ .failedTransaction

theorem ResultHeld.status {b₀ : Backend} (h : ResultHeld cfg fwd.backend fwd.result b)
    (hfrom : fwd.From b₀) (hb₀ : b₀.status ≠ .failedTransaction) :
    b.status ≠ .failedTransaction := by
  have hready := hfrom.ready
  generalize hresult : fwd.result = result at h hready
  cases h with
  | ready hstatus => rw [hready.1]; exact hstatus
  | rolledBack => simp
  | flushed => rw [(hfrom.flushed hresult).1]; exact hb₀
  | timedOut => simp

/-- The backend a forwarded cycle went to was not in a failed transaction. -/
theorem HeldNotFailed.from (hst : HeldNotFailed st) (hfwd : input.Forwards cfg st fwd) :
    ∃ b, fwd.From b ∧ b.status ≠ .failedTransaction := by
  obtain ⟨b, hfrom, hidle | hheld⟩ := hfwd.from
  · exact ⟨b, hfrom, by simp [hidle]⟩
  · exact ⟨b, hfrom, hst b hheld⟩

variable {st' : SessionState} {es : List SessionEvent}

theorem heldNotFailed_step (hst : HeldNotFailed st)
    (h : sessionStep cfg st input = some (st', es)) : HeldNotFailed st' := by
  intro b hb
  rcases sessionStep_held h hb with hheld | ⟨fwd, hfwd, hresult⟩
  · exact hst b hheld
  · obtain ⟨b₀, hfrom, hb₀⟩ := hst.from hfwd
    exact hresult.status hfrom hb₀

/-- **One turn of the loop releases a backend only with last status `Idle`**, where the trackers
agree. -/
theorem status_of_sessionStep_release (hst : HeldNotFailed st)
    (hagrees : trackerAgrees cfg st input = true) (h : sessionStep cfg st input = some (st', es))
    (hr : .released r ∈ es) : r.backend.status = .idle := by
  rcases sessionStep_release h hr with ⟨hinput, b, hb, hfinal⟩ | ⟨fwd, hfwd, hresult⟩
  · exact hfinal.status (hst b hb) (marksBackend_of_finalizes hagrees hinput hb)
  · obtain ⟨b₀, hfrom, -⟩ := hfwd.from
    exact hresult.status hfrom.ready (marksBackend_of_forwards hagrees hfwd)

/-- **Every backend is released outside a transaction**, in every run of a session in which the
tracker of texts overlooks no transaction when a backend is finalized. -/
theorem released_idle_of_trackerAgrees (cfg : SessionConfig) (sessionId : Nat)
    (inputs : List SessionInput) (st : SessionState) (es : List SessionEvent)
    (hrun : (sessionMachine cfg).run (.initial sessionId) inputs = some (st, es))
    (hagrees : (sessionMachine cfg).Meets (fun st input => trackerAgrees cfg st input = true)
      (.initial sessionId) inputs)
    (r : Release) (hr : .released r ∈ es) : r.backend.status = .idle := by
  have hinit : HeldNotFailed (.initial sessionId) := by simp [HeldNotFailed, SessionState.initial]
  refine ((sessionMachine cfg).invariant_of_step_of (I := HeldNotFailed)
    (P := fun r => r.backend.status = .idle) .released ?_ hinit hrun hagrees).2 r hr
  intro st input st' es hst hagrees h
  exact ⟨heldNotFailed_step hst h, fun _ => status_of_sessionStep_release hst hagrees h⟩

/-- The statuses backends were released with. -/
def releasedStatuses (es : List SessionEvent) : List ReadyStatus :=
  es.filterMap fun
    | .released r => some r.backend.status
    | _ => none

/-- A client that opens a transaction with `BEGIN` and leaves. -/
def beginThenLeave : List SessionInput :=
  [queryCycle "BEGIN" .inTransaction, .terminate { recovery := [.ready .idle] }]

theorem released_idle_of_beginThenLeave :
    ∃ st es, (sessionMachine {}).run (.initial 1) beginThenLeave = some (st, es) ∧
      releasedStatuses es = [.idle] ∧
      ∀ r, .released r ∈ es → r.backend.status = .idle := by
  have hrun : ((sessionMachine {}).run (.initial 1) beginThenLeave).map
      (fun p => releasedStatuses p.2) = some [.idle] := by decide +kernel
  obtain ⟨p, hp, hreleased⟩ := Option.map_eq_some_iff.1 hrun
  exact ⟨p.1, p.2, hp, hreleased, released_idle_of_trackerAgrees {} 1 beginThenLeave p.1 p.2 hp
    (by decide +kernel)⟩

/-- **`BEGIN TRANSACTION` is returned to the pool open**: it is not among the texts `classify`
takes for a transaction command, so the session is not pinned when the client leaves. -/
theorem released_inTransaction_of_beginTransaction :
    ((sessionMachine {}).run (.initial 1)
      [queryCycle "BEGIN TRANSACTION" .inTransaction, .terminate {}]).map
        (fun p => releasedStatuses p.2) = some [.inTransaction] := by
  decide +kernel

end PgKinetic
