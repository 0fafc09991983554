import PgKinetic.Proxy.NextCycle
import PgKinetic.Proxy.RelayBytes

/-!
# Retries and the read buffer

A cycle that fails on its backend may be replayed once on a replacement, if nothing of the
response has been seen. What counts as seen is a **complete frame**, while what has been received
stays in the session's read buffer: bytes of a frame that was cut short are carried over to the
replacement, to the next cycle, and to whichever backend that is sent to.

`cycleAttempts` lists the attempts of a cycle with the buffer each began with and the bytes it has
received. In a run in which no backend is given up in the middle of a frame, a cycle is replayed at
most once and only if nothing was received, and every attempt begins with an empty buffer or with
bytes of its own backend (`attempts_clean_of_givesUpWhole`).
-/

namespace PgKinetic

open EventMachine List Option

/-- One attempt to forward a cycle, as the bytes of its backend see it. -/
structure Relayed where
  backend : BackendId
  /-- The read buffer when the attempt begins. -/
  buffer : List Byte
  received : List Byte
  result : ForwardResult
  deriving DecidableEq

section

variable (cfg : SessionConfig)

/-- The attempt `forwardOnce` makes. -/
def relayOnce (st : SessionState) (backend : Backend) (frames : List FrontendMessage)
    (plans : List RequestPlan) (env : ForwardEnv) : Relayed where
  backend := backend.id
  buffer := st.backendRead
  received := forwardReceived cfg.maxBackendBufferBytes st.session st.prepared backend
    st.backendRead frames ((plans.filter (·.updatesSessionState)).map (·.command)) env
  result := (forwardOnce cfg st backend frames plans env).result

/-- The attempts of `retryCycle`. -/
def retryAttempts (st : SessionState) (frames : List FrontendMessage) (plans : List RequestPlan)
    (env : CycleEnv) : List Relayed :=
  match env.reconnect with
  | none => []
  | some id =>
    let replay := if cfg.failoverReplaySessionState then replayFrames st.session else []
    match replayOnReplacement ⟨id, .idle⟩ replay env.reconnectReplay with
    | .error _ => []
    | .ok backend => [relayOnce cfg st backend frames plans env.retryForward]

/-- The attempts of `forwardCycle`. -/
def forwardAttempts (st : SessionState) (backend : Backend) (frames : List FrontendMessage)
    (plans : List RequestPlan) (env : CycleEnv) : List Relayed :=
  let fwd := forwardOnce cfg st backend frames plans env.forward
  relayOnce cfg st backend frames plans env.forward ::
    if retriesOnFailure cfg frames plans fwd then
      retryAttempts cfg (st.afterForward fwd) frames plans env
    else []

/-- The attempts of `runCycle`. -/
def runAttempts (st : SessionState) (backend : Backend) (frames : List FrontendMessage)
    (plans : List RequestPlan) (env : CycleEnv) : List Relayed :=
  if shouldReplaySession st.session st.pinnedBackend backend.id then
    match executeToIdle backend env.replay with
    | .error _ => []
    | .ok backend => forwardAttempts cfg st backend frames plans env
  else forwardAttempts cfg st backend frames plans env

/-- The attempts of `attemptCycle`, and so of `handle_frame_cycle`. -/
def cycleAttempts (st : SessionState) (frames : List FrontendMessage) (env : CycleEnv) :
    List Relayed :=
  match requestPlansForFrames st.prepared frames with
  | none => []
  | some plans =>
    if plans.any fun plan => cfg.guardrailDenies plan.sql then []
    else
      match updateTransactionStateFromRequestPlans cfg.fullRoutingAnalysis st.session false
          plans with
      | none => []
      | some (session, _) =>
        let st := { st with session }
        match st.heldBackend with
        | some backend => runAttempts cfg { st with heldBackend := none } backend frames plans env
        | none =>
          match env.checkout with
          | .leased id => runAttempts cfg st ⟨id, .idle⟩ frames plans env
          | _ => []

end

/-! ### The attempts are those of the model -/

/-- The backends that the client's cycle is written to. -/
def writtenTo (events : List SessionEvent) : List BackendId :=
  events.filterMap fun event =>
    match event with
    | .forwarded backend _ => some backend.id
    | _ => none

theorem writtenTo_append (es₁ es₂ : List SessionEvent) :
    writtenTo (es₁ ++ es₂) = writtenTo es₁ ++ writtenTo es₂ := filterMap_append

theorem writtenTo_events (fwd : Forwarded) (b : Backend) : writtenTo (fwd.events b) = [b.id] := by
  have hsent : writtenTo (fwd.sent.map .sentReady) = [] := by
    rw [writtenTo, filterMap_map]
    exact filterMap_eq_nil_iff.2 fun _ _ => rfl
  exact congrArg (b.id :: ·) hsent

theorem writtenTo_errorResponseAndReady (st : SessionState) (clientWrite : Bool)
    (status : ReadyStatus) :
    writtenTo (errorResponseAndReady st clientWrite status).events = [] := by
  cases clientWrite <;> rfl

section

variable {cfg : SessionConfig} {st : SessionState} {b : Backend} {frames : List FrontendMessage}
  {plans : List RequestPlan} {committedWrite : Bool} {env : CycleEnv}

theorem writtenTo_retryCycle :
    writtenTo (retryCycle cfg st frames plans committedWrite env).events =
      (retryAttempts cfg st frames plans env).map (·.backend) := by
  unfold retryCycle retryAttempts
  cases env.reconnect with
  | none => exact writtenTo_errorResponseAndReady _ _ _
  | some id =>
    dsimp only
    have hquiet : ∀ replay : List FrontendMessage,
        writtenTo (if replay.isEmpty then [] else [.queried id replay]) = [] := by
      intro replay
      split <;> rfl
    rw [Attempt.events_after, writtenTo_append, hquiet, nil_append]
    cases replayOnReplacement ⟨id, .idle⟩ _ env.reconnectReplay with
    | error e => exact writtenTo_errorResponseAndReady _ _ _
    | ok backend => exact writtenTo_events _ _

theorem writtenTo_forwardCycle :
    writtenTo (forwardCycle cfg st b frames plans committedWrite env).events =
      (forwardAttempts cfg st b frames plans env).map (·.backend) := by
  unfold forwardCycle forwardAttempts
  dsimp only
  split
  · rw [Attempt.events_after, writtenTo_append, writtenTo_append, writtenTo_events,
      writtenTo_retryCycle]
    rfl
  · exact writtenTo_events _ _

theorem writtenTo_runCycle :
    writtenTo (runCycle cfg st b frames plans committedWrite env).events =
      (runAttempts cfg st b frames plans env).map (·.backend) := by
  unfold runCycle runAttempts
  split
  · rw [Attempt.events_after]
    cases executeToIdle b env.replay with
    | error e => rfl
    | ok b => exact writtenTo_forwardCycle
  · exact writtenTo_forwardCycle

/-- **The attempts of a cycle are its writes to backends**, in order. -/
theorem writtenTo_attemptCycle (cfg : SessionConfig) (st : SessionState)
    (frames : List FrontendMessage) (env : CycleEnv) :
    writtenTo (attemptCycle cfg st frames env).events =
      (cycleAttempts cfg st frames env).map (·.backend) := by
  unfold attemptCycle cycleAttempts
  cases requestPlansForFrames st.prepared frames with
  | none => rfl
  | some plans =>
    dsimp only
    split
    · cases env.clientWrite <;> rfl
    · cases updateTransactionStateFromRequestPlans cfg.fullRoutingAnalysis st.session false
        plans with
      | none => rfl
      | some tracked =>
        cases st.heldBackend with
        | some backend => exact writtenTo_runCycle
        | none =>
          cases env.checkout with
          | leased id => exact writtenTo_runCycle
          | refused => exact writtenTo_errorResponseAndReady _ _ _
          | close | fatal => rfl

end

/-! ### Whose bytes are in the buffer -/

namespace Relayed

/-- The buffer and what was received end with a complete frame. -/
def endsOnFrame (t : Relayed) : Bool :=
  match parseBackendFrames (t.buffer ++ t.received) with
  | .ok (_, rest) => rest.isEmpty
  | .error _ => true

/-- The backend whose bytes the buffer holds, once the attempt is over. -/
def senderAfter (sender : Option BackendId) (t : Relayed) : Option BackendId :=
  if t.received = [] then sender else some t.backend

/-- No attempt takes bytes of another backend for its own: what it reads goes to an empty buffer,
or behind bytes of the same backend. -/
def Attributed : Option BackendId → List Relayed → Prop
  | _, [] => True
  | sender, t :: ts =>
    (t.received ≠ [] → t.buffer = [] ∨ sender = some t.backend) ∧
      Attributed (t.senderAfter sender) ts

end Relayed

/-- **A cycle is replayed at most once**, and only where nothing of the response was received, and
bytes of one backend are not taken for the response of another. -/
structure CleanAttempts (sender : Option BackendId) (attempts : List Relayed) : Prop where
  once : attempts.length ≤ 2
  unanswered : ∀ t ∈ attempts.dropLast, t.received = []
  attributed : Relayed.Attributed sender attempts

/-- What an attempt leaves in the buffer: bytes that are no complete frame yet, of the backend
that has answered a `Flush` cycle, if there are any. -/
def Attempt.Leaves (sender : Option BackendId) (attempts : List Relayed) : Attempt → Prop
  | .ended _ => True
  | .forwarded _ fwd _ _ =>
    fwd.result.RefusesBytes ∨
      parseBackendFrames fwd.backendRead = .ok ([], fwd.backendRead) ∧
        (fwd.backendRead = [] ∨ fwd.result = .flushed ∧
          attempts.foldl Relayed.senderAfter sender = some fwd.backend.id)

theorem Attempt.Leaves.after {sender : Option BackendId} {attempts : List Relayed} {a : Attempt}
    (h : a.Leaves sender attempts) (events : List SessionEvent) :
    (a.after events).Leaves sender attempts := by
  cases a <;> exact h

section

variable {cfg : SessionConfig} {st : SessionState} {b : Backend} {frames : List FrontendMessage}
  {plans : List RequestPlan} {sender : Option BackendId}

variable {env : ForwardEnv}

section

variable (hpending : parseBackendFrames st.backendRead = .ok ([], st.backendRead))
include hpending

theorem relayOnce_received :
    let fwd := forwardOnce cfg st b frames plans env
    let t := relayOnce cfg st b frames plans env
    fwd.result.RefusesBytes ∨
      ∃ seen, parseBackendFrames (t.buffer ++ t.received) = .ok (seen, fwd.backendRead) ∧
        ((∀ frame ∈ frames, frame.tag = some .query) →
          ∀ kind, fwd.result = .backendFailure kind false → seen = []) :=
  forward_received hpending

/-- One attempt, in a buffer that holds nothing or bytes of the same backend. -/
theorem leaves_once {committedWrite : Bool} {events : List SessionEvent} {st' : SessionState}
    (hsender : st.backendRead = [] ∨ sender = some b.id)
    (hends : (relayOnce cfg st b frames plans env).result = .flushed ∨
      (relayOnce cfg st b frames plans env).endsOnFrame = true) :
    (Attempt.forwarded st' (forwardOnce cfg st b frames plans env) committedWrite events).Leaves
      sender [relayOnce cfg st b frames plans env] := by
  have hid : (forwardOnce cfg st b frames plans env).backend.id = b.id :=
    (forwardMessageCycle_from ..).id
  set t := relayOnce cfg st b frames plans env
  set fwd := forwardOnce cfg st b frames plans env
  have hreceived : fwd.result.RefusesBytes ∨ ∃ seen,
      parseBackendFrames (t.buffer ++ t.received) = .ok (seen, fwd.backendRead) ∧ _ :=
    relayOnce_received hpending
  rcases hreceived with hrefuses | ⟨seen, hseen, -⟩
  · exact .inl hrefuses
  · refine .inr ⟨parseBackendFrames_rest hseen, ?_⟩
    rcases hends with hflushed | hends
    · by_cases hnone : t.received = []
      · -- nothing was read, and the buffer is as it was
        have hbuffer : fwd.backendRead = st.backendRead := by
          rw [hnone, append_nil] at hseen
          exact (Prod.mk.inj (Except.ok.inj (hseen.symm.trans hpending))).2
        rcases hsender with hempty | hsender
        · exact .inl (hbuffer.trans hempty)
        · refine .inr ⟨hflushed, ?_⟩
          rw [foldl_cons, foldl_nil, Relayed.senderAfter, if_pos hnone, hsender, hid]
      · refine .inr ⟨hflushed, ?_⟩
        rw [foldl_cons, foldl_nil, Relayed.senderAfter, if_neg hnone, hid]
        rfl
    · rw [Relayed.endsOnFrame, hseen] at hends
      exact .inl (isEmpty_iff.1 hends)

/-- **An attempt that is retried and ended with a complete frame has received nothing.** -/
theorem received_of_retried
    (hretries : retriesOnFailure cfg frames plans (forwardOnce cfg st b frames plans env) = true)
    (hends : (relayOnce cfg st b frames plans env).result = .flushed ∨
      (relayOnce cfg st b frames plans env).endsOnFrame = true) :
    (relayOnce cfg st b frames plans env).received = [] ∧
      (forwardOnce cfg st b frames plans env).backendRead = [] := by
  rw [retriesOnFailure, Bool.and_eq_true] at hretries
  have hfailed := eq_of_beq hretries.1
  have hqueries : ∀ frame ∈ frames, frame.tag = some .query := by
    have hsafe : ∀ replay, safeRequestToReplay frames plans
        (forwardOnce cfg st b frames plans env).session replay = true →
        ∀ frame ∈ frames, frame.tag = some .query := by
      intro replay h frame hframe
      simp only [safeRequestToReplay, Bool.and_eq_true] at h
      exact eq_of_beq (all_eq_true.1 h.1.1.1.2 frame hframe)
    rcases Bool.or_eq_true _ _ ▸ hretries.2 with h | h
    · exact hsafe _ h
    · exact hsafe _ (Bool.and_eq_true _ _ ▸ h).2
  set t := relayOnce cfg st b frames plans env
  set fwd := forwardOnce cfg st b frames plans env
  have hreceived : fwd.result.RefusesBytes ∨ ∃ seen,
      parseBackendFrames (t.buffer ++ t.received) = .ok (seen, fwd.backendRead) ∧
        ((∀ frame ∈ frames, frame.tag = some .query) →
          ∀ kind, fwd.result = .backendFailure kind false → seen = []) :=
    relayOnce_received hpending
  rcases hreceived with hrefuses | ⟨seen, hseen, hnone⟩
  · rcases hrefuses with h | h
    · exact absurd (hfailed.symm.trans h) nofun
    · exact absurd (hfailed.symm.trans h) nofun
  · obtain rfl := hnone hqueries .read hfailed
    have hrest : fwd.backendRead = [] := by
      rcases hends with hflushed | hends
      · exact absurd (hfailed.symm.trans hflushed) nofun
      · rw [Relayed.endsOnFrame, hseen] at hends
        exact isEmpty_iff.1 hends
    have hall := eq_of_parse_nil hseen
    rw [hrest] at hall
    exact ⟨(append_eq_nil_iff.1 hall.symm).2, hrest⟩

end

/-- The attempts meet the condition: none ends in the middle of a frame, unless it is one of a
`Flush` cycle that is complete. -/
def EndsWhole (attempts : List Relayed) : Prop :=
  ∀ t ∈ attempts, t.result = .flushed ∨ t.endsOnFrame = true

theorem attributed_of_empty {attempts : List Relayed} (h : ∀ t ∈ attempts, t.buffer = [])
    (sender : Option BackendId) : Relayed.Attributed sender attempts := by
  induction attempts generalizing sender with
  | nil => trivial
  | cons t attempts ih =>
    refine ⟨fun _ => .inl (h t mem_cons_self), ?_⟩
    exact ih (fun t' ht' => h t' (mem_cons_of_mem _ ht')) _

section

variable {committedWrite : Bool} {env : CycleEnv}

/-- The retry of a cycle, with an empty buffer. -/
theorem retryCycle_leaves (hempty : st.backendRead = [])
    (hends : EndsWhole (retryAttempts cfg st frames plans env)) :
    (retryAttempts cfg st frames plans env).length ≤ 1 ∧
      (∀ t ∈ retryAttempts cfg st frames plans env, t.buffer = []) ∧
      (retryCycle cfg st frames plans committedWrite env).Leaves sender
        (retryAttempts cfg st frames plans env) := by
  have hpending : parseBackendFrames st.backendRead = .ok ([], st.backendRead) := by
    rw [hempty]
    rfl
  unfold retryAttempts at hends ⊢
  unfold retryCycle
  cases hreconnect : env.reconnect with
  | none => exact ⟨Nat.zero_le _, nofun, trivial⟩
  | some id =>
    rw [hreconnect] at hends
    dsimp only at hends ⊢
    cases hreplay : replayOnReplacement ⟨id, .idle⟩
        (if cfg.failoverReplaySessionState then replayFrames st.session else [])
        env.reconnectReplay with
    | error e => exact ⟨Nat.zero_le _, nofun, trivial⟩
    | ok b =>
      rw [hreplay] at hends
      refine ⟨le_rfl, fun t ht => ?_, Attempt.Leaves.after ?_ _⟩
      · obtain rfl := mem_singleton.1 ht
        exact hempty
      · exact leaves_once hpending (.inl hempty) (hends _ (mem_singleton_self _))

section

variable (hpending : parseBackendFrames st.backendRead = .ok ([], st.backendRead))
include hpending

theorem forwardCycle_clean
    (hsender : st.backendRead = [] ∨ sender = some b.id)
    (hends : EndsWhole (forwardAttempts cfg st b frames plans env)) :
    CleanAttempts sender (forwardAttempts cfg st b frames plans env) ∧
      (forwardCycle cfg st b frames plans committedWrite env).Leaves sender
        (forwardAttempts cfg st b frames plans env) := by
  unfold forwardAttempts at hends ⊢
  unfold forwardCycle
  dsimp only at hends ⊢
  have hfirst := hends _ mem_cons_self
  split
  · rename_i hretries
    rw [if_pos hretries] at hends
    obtain ⟨hreceived, hbuffer⟩ := received_of_retried hpending hretries hfirst
    -- the replacement begins with an empty buffer, and whose bytes were in it does not matter
    set st₁ := st.afterForward (forwardOnce cfg st b frames plans env.forward)
    obtain ⟨hlength, hbuffers, hleaves⟩ : _ ∧ _ ∧
        (retryCycle cfg st₁ frames plans committedWrite env).Leaves sender _ :=
      retryCycle_leaves hbuffer fun t ht => hends t (mem_cons_of_mem _ ht)
    refine ⟨⟨Nat.succ_le_succ hlength, ?_, fun hsome => absurd hreceived hsome,
      attributed_of_empty hbuffers _⟩, Attempt.Leaves.after ?_ _⟩
    · intro t ht
      cases hattempts : retryAttempts cfg st₁ frames plans env with
      | nil =>
        rw [hattempts] at ht
        cases ht
      | cons t' later =>
        rw [hattempts] at hlength ht
        obtain rfl := eq_nil_of_length_eq_zero (Nat.le_zero.1 (Nat.le_of_succ_le_succ hlength))
        obtain rfl := mem_singleton.1 ht
        exact hreceived
    · have hsame : (relayOnce cfg st b frames plans env.forward).senderAfter sender = sender :=
        if_pos hreceived
      rw [← hsame] at hleaves
      exact hleaves
  · exact ⟨⟨Nat.le_succ 1, nofun, fun _ => hsender, trivial⟩, leaves_once hpending hsender hfirst⟩

theorem runCycle_clean
    (hsender : st.backendRead = [] ∨ sender = some b.id)
    (hends : EndsWhole (runAttempts cfg st b frames plans env)) :
    CleanAttempts sender (runAttempts cfg st b frames plans env) ∧
      (runCycle cfg st b frames plans committedWrite env).Leaves sender
        (runAttempts cfg st b frames plans env) := by
  unfold runAttempts at hends ⊢
  unfold runCycle
  split
  · rename_i hreplays
    rw [if_pos hreplays] at hends
    cases hreplay : executeToIdle b env.replay with
    | error e => exact ⟨⟨Nat.zero_le _, nofun, trivial⟩, trivial⟩
    | ok b' =>
      rw [hreplay] at hends
      have hsender' : st.backendRead = [] ∨ sender = some b'.id := by
        rw [executeToIdle_ok hreplay]
        exact hsender
      obtain ⟨hclean, hleaves⟩ : _ ∧
          (forwardCycle cfg st b' frames plans committedWrite env).Leaves sender _ :=
        forwardCycle_clean hpending hsender' hends
      exact ⟨hclean, hleaves.after _⟩
  · rename_i hreplays
    rw [if_neg hreplays] at hends
    exact forwardCycle_clean hpending hsender hends

/-- **The attempts of a cycle are clean**, if its buffer holds nothing or bytes of the backend the
session holds. -/
theorem attemptCycle_clean
    (hsender : st.backendRead = [] ∨ ∃ b, st.heldBackend = some b ∧ sender = some b.id)
    (hends : EndsWhole (cycleAttempts cfg st frames env)) :
    CleanAttempts sender (cycleAttempts cfg st frames env) ∧
      (attemptCycle cfg st frames env).Leaves sender (cycleAttempts cfg st frames env) := by
  have hnone : CleanAttempts sender [] := ⟨Nat.zero_le _, nofun, trivial⟩
  unfold cycleAttempts at hends ⊢
  unfold attemptCycle
  cases hplans : requestPlansForFrames st.prepared frames with
  | none => exact ⟨hnone, trivial⟩
  | some plans =>
    rw [hplans] at hends
    dsimp only at hends ⊢
    split
    · exact ⟨hnone, trivial⟩
    · rename_i hallowed
      rw [if_neg hallowed] at hends
      cases hupdate : updateTransactionStateFromRequestPlans cfg.fullRoutingAnalysis st.session
          false plans with
      | none => exact ⟨hnone, trivial⟩
      | some tracked =>
        rw [hupdate] at hends
        cases hheld : st.heldBackend with
        | some b =>
          rw [hheld] at hends
          refine runCycle_clean hpending ?_ hends
          rcases hsender with hempty | ⟨b', hb', hsender⟩
          · exact .inl hempty
          · obtain rfl := some.inj (hheld.symm.trans hb')
            exact .inr hsender
        | none =>
          have hempty : st.backendRead = [] := by
            rcases hsender with hempty | ⟨b', hb', -⟩
            · exact hempty
            · cases hheld.symm.trans hb'
          rw [hheld] at hends
          cases hcheckout : env.checkout with
          | leased id =>
            rw [hcheckout] at hends
            exact runCycle_clean hpending (.inl hempty) hends
          | refused | close | fatal => exact ⟨hnone, trivial⟩

end

end

end

/-! ### Runs -/

/-- The session loop, with the backend whose bytes are in its read buffer. -/
structure BufferedState where
  base : SessionState
  sender : Option BackendId := none

/-- What a cycle does: whose bytes it begins with, and its attempts. -/
structure CycleRecord where
  sender : Option BackendId
  attempts : List Relayed
  deriving DecidableEq

namespace BufferedState

/-- A turn of the loop, with a record of its cycle. -/
def step (cfg : SessionConfig) (st : BufferedState) (input : SessionInput) :
    Option (BufferedState × List CycleRecord) :=
  (sessionStep cfg st.base input).map fun (base, _) =>
    match input with
    | .frames frames env =>
      let attempts := cycleAttempts cfg { st.base with waitForClientActivity := false } frames env
      (⟨base, attempts.foldl Relayed.senderAfter st.sender⟩, [⟨st.sender, attempts⟩])
    | _ => (⟨base, st.sender⟩, [])

/-- The condition on a turn: no backend is given up in the middle of a frame. -/
def GivesUpWhole (cfg : SessionConfig) (st : BufferedState) : SessionInput → Prop
  | .frames frames env =>
    EndsWhole (cycleAttempts cfg { st.base with waitForClientActivity := false } frames env)
  -- what a `Flush` cycle has left would stay when the backend that sent it is gone
  | .backendClosed | .idleTimeout _ _ => st.base.backendRead = []
  | _ => True

instance (cfg : SessionConfig) (st : BufferedState) :
    ∀ input, Decidable (st.GivesUpWhole cfg input)
  | .frames frames env => inferInstanceAs (Decidable (∀ t ∈
      cycleAttempts cfg { st.base with waitForClientActivity := false } frames env, _ ∨ _))
  | .backendClosed | .idleTimeout _ _ => inferInstanceAs (Decidable (st.base.backendRead = []))
  | .terminate _ | .bufferLimitExceeded _ | .clientError | .backendAsync _ => .isTrue trivial

/-- **The invariant.** While the session goes on, its buffer holds no complete frame, and bytes of
no other backend than the one it holds. -/
def Inv (st : BufferedState) : Prop :=
  st.base.finished = false →
    parseBackendFrames st.base.backendRead = .ok ([], st.base.backendRead) ∧
      (st.base.backendRead = [] ∨ ∃ b, st.base.heldBackend = some b ∧ st.sender = some b.id)

variable {cfg : SessionConfig} {st : BufferedState}

/-- A session that goes on has returned from its turn with `continue`. -/
theorem of_close {o : Outcome} (h : o.close.1.finished = false) :
    o.flow = .continue ∧ o.close.1 = o.state := by
  unfold Outcome.close at h ⊢
  split at h
  · rename_i hflow
    exact ⟨hflow, if_pos hflow ▸ rfl⟩
  · cases h

variable {es : List SessionEvent} {base : SessionState} {input : SessionInput}

/-- A turn on a cycle. -/
theorem Inv.frames {frames : List FrontendMessage} {env : CycleEnv} (hinv : st.Inv)
    (hwhole : st.GivesUpWhole cfg (.frames frames env))
    (hstep : sessionStep cfg st.base (.frames frames env) = some (base, es)) :
    let attempts := cycleAttempts cfg { st.base with waitForClientActivity := false } frames env
    Inv ⟨base, attempts.foldl Relayed.senderAfter st.sender⟩ ∧
      CleanAttempts st.sender attempts := by
  intro attempts
  obtain ⟨hgoes, rfl, -⟩ := frames_of_sessionStep hstep
  obtain ⟨hpending, hsender⟩ := hinv hgoes
  obtain ⟨hclean, hleaves⟩ : CleanAttempts st.sender attempts ∧
      (attemptCycle cfg { st.base with waitForClientActivity := false } frames env).Leaves
        st.sender attempts := attemptCycle_clean hpending hsender hwhole
  refine ⟨fun hgoes' => ?_, hclean⟩
  obtain ⟨hflow, hstate⟩ := of_close hgoes'
  rw [hstate]
  unfold handleFrameCycle at hflow ⊢
  have hwritten := writtenTo_attemptCycle cfg { st.base with waitForClientActivity := false }
    frames env
  rcases attemptCycle_cases cfg { st.base with waitForClientActivity := false } frames env with
    hrejected | hquiet
  · -- a guardrail has rejected the cycle, and nothing was sent
    rw [hrejected] at hwritten ⊢
    have hnone : attempts = [] := map_eq_nil_iff.1 hwritten.symm
    rw [hnone]
    exact ⟨hpending, hsender⟩
  · cases hattempt : attemptCycle cfg { st.base with waitForClientActivity := false } frames
        env with
    | ended o =>
      rw [hattempt] at hquiet hflow
      cases hquiet with
      | ended _ hended => exact absurd hflow hended
    | forwarded st₁ fwd committedWrite events =>
      rw [hattempt] at hleaves hflow
      have hends := handleForwardResult_ends cfg (st₁.afterForward fwd) fwd.backend fwd.result
        committedWrite env
      obtain ⟨hcontinues, -⟩ := hends.continues hflow
      dsimp only [Outcome.after]
      rw [hends.backendRead]
      rcases hleaves with hrefuses | ⟨hpending', hrest⟩
      · exfalso
        rcases hrefuses with h | h <;> rw [h] at hcontinues <;>
          rcases hcontinues with ⟨status, h⟩ | h | h <;> cases h
      · refine ⟨hpending', ?_⟩
        rcases hrest with hempty | ⟨hflushed, hsender'⟩
        · exact .inl hempty
        · refine .inr ⟨fwd.backend, ?_, hsender'⟩
          rw [hflushed]
          rfl

/-- A turn that is no cycle. -/
theorem Inv.turn (hinv : st.Inv) (hwhole : st.GivesUpWhole cfg input)
    (hinput : ∀ frames env, input ≠ .frames frames env)
    (hstep : sessionStep cfg st.base input = some (base, es)) : Inv ⟨base, st.sender⟩ := by
  have hempty : base.backendRead = [] → Inv ⟨base, st.sender⟩ := by
    intro hempty _
    rw [hempty]
    exact ⟨rfl, .inl rfl⟩
  obtain ⟨hgoes, o, hturned, rfl, -⟩ := turned_of_sessionStep hstep
  intro hgoes'
  obtain ⟨hflow, hstate⟩ := of_close hgoes'
  refine (?_ : Inv ⟨o.close.1, st.sender⟩) hgoes'
  rw [hstate] at hempty ⊢
  cases hturned with
  | frames => exact absurd rfl (hinput _ _)
  | finalized _ hended => exact absurd hflow hended
  | clientError => cases hflow
  | @toldIdle env =>
    refine hempty ?_
    exact (finalizeHeldBackend_ends cfg st.base env).disposes.backendRead.trans hwhole
  | backendClosed => exact hempty hwhole
  | backendAsync => exact hinv

/-- **One turn** keeps the invariant, and its cycle is clean. -/
theorem Inv.step {st' : BufferedState} {records : List CycleRecord} (hinv : st.Inv)
    (hwhole : st.GivesUpWhole cfg input) (hstep : st.step cfg input = some (st', records)) :
    st'.Inv ∧ ∀ record ∈ records, CleanAttempts record.sender record.attempts := by
  obtain ⟨⟨base, es⟩, hbase, heq⟩ := map_eq_some_iff.1 hstep
  cases input with
  | frames frames env =>
    obtain ⟨rfl, rfl⟩ := Prod.mk.inj heq
    obtain ⟨hinv', hclean⟩ := hinv.frames hwhole hbase
    refine ⟨hinv', fun record hrecord => ?_⟩
    obtain rfl := mem_singleton.1 hrecord
    exact hclean
  | _ =>
    obtain ⟨rfl, rfl⟩ := Prod.mk.inj heq
    exact ⟨hinv.turn hwhole (by intro frames env h; cases h) hbase, nofun⟩

end BufferedState

/-- The loop with the owner of its buffer, as a machine. -/
def bufferedMachine (cfg : SessionConfig) : Machine BufferedState SessionInput CycleRecord where
  step := BufferedState.step cfg

/-- **Retries do not cross a response.** In every run in which no backend is given up in the middle
of a frame, a cycle is replayed at most once and only if nothing of its response was received, and
no attempt takes bytes of one backend for the response of another. -/
theorem attempts_clean_of_givesUpWhole (cfg : SessionConfig) {sessionId : Nat}
    {inputs : List SessionInput} {st : BufferedState} {records : List CycleRecord}
    (hrun : (bufferedMachine cfg).run ⟨.initial sessionId, none⟩ inputs = some (st, records))
    (hwhole : (bufferedMachine cfg).Meets (fun st => st.GivesUpWhole cfg)
      ⟨.initial sessionId, none⟩ inputs) :
    ∀ record ∈ records, CleanAttempts record.sender record.attempts := by
  have hinitial : BufferedState.Inv ⟨.initial sessionId, none⟩ := fun _ => ⟨rfl, .inl rfl⟩
  refine ((bufferedMachine cfg).invariant_of_step (I := BufferedState.Inv) ?_ hinitial hrun
    hwhole).2
  exact fun _ _ _ _ hinv hi h => hinv.step hi h

/-! ### A frame that is cut short -/

/-- A read whose backend is lost before it sends a byte. The replacement answers in pieces. -/
def readRetried : SessionInput :=
  .frames [.query "select 1"]
    { checkout := .leased 7
      forward := ⟨.done, [.backendRead [] .done]⟩
      reconnect := some 9
      retryForward := ⟨.done, [.backendRead [90, 0, 0] .done, .backendRead [0, 5, 73] .done]⟩ }

/-- The same read, whose backend sends three bytes and is lost. The replacement answers at once. -/
def readCutShort : SessionInput :=
  .frames [.query "select 1"]
    { checkout := .leased 7
      forward := ⟨.done, [.backendRead [90, 0, 0] .done, .backendRead [] .done]⟩
      reconnect := some 9
      retryForward := ⟨.done, [.backendRead (readyForQuery .idle) .done]⟩ }

theorem attempts_clean_readRetried :
    let records := [⟨none, [⟨7, [], [], .backendFailure .read false⟩,
      ⟨9, [], [90, 0, 0, 0, 5, 73], .ready .idle⟩]⟩]
    ((bufferedMachine {}).run ⟨.initial 1, none⟩ [readRetried]).map Prod.snd = some records ∧
      ∀ record ∈ records, CleanAttempts record.sender record.attempts := by
  intro records
  have hrun : ((bufferedMachine {}).run ⟨.initial 1, none⟩ [readRetried]).map Prod.snd =
      some records := by
    decide +kernel
  have hwhole : (bufferedMachine {}).Meets (fun st => st.GivesUpWhole {}) ⟨.initial 1, none⟩
      [readRetried] := by
    decide +kernel
  obtain ⟨⟨st, _⟩, hresult, heq⟩ := map_eq_some_iff.1 hrun
  refine ⟨hrun, ?_⟩
  rw [← heq]
  exact attempts_clean_of_givesUpWhole {} hresult hwhole

/-- The attempts of that cycle. -/
def cutShortAttempts : List Relayed :=
  [⟨7, [], [90, 0, 0], .backendFailure .read false⟩,
    ⟨9, [90, 0, 0], [90, 0, 0, 0, 5, 73], .timedOut false⟩]

/-- **A response that is replayed over.** Three bytes of the response have been received, the
cycle is replayed nevertheless, and the answer of the replacement is read behind them: its
ReadyForQuery is taken for the length of a frame that never ends. -/
theorem retried_after_partial_frame :
    ((bufferedMachine {}).run ⟨.initial 1, none⟩ [readCutShort]).map Prod.snd =
      some [⟨none, cutShortAttempts⟩] ∧
    ¬ (∀ t ∈ cutShortAttempts.dropLast, t.received = []) ∧
    ¬ Relayed.Attributed none cutShortAttempts := by
  refine ⟨by decide +kernel, fun h => ?_, fun h => ?_⟩
  · exact absurd (h _ (mem_singleton_self _)) nofun
  · obtain ⟨-, hsecond, -⟩ := h
    rcases hsecond (by decide) with hempty | hsame
    · cases hempty
    · exact absurd hsame (by decide)

end PgKinetic
