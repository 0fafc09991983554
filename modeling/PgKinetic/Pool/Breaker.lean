import PgKinetic.Pool.Moves

/-!
# The circuit breaker of a pool

`BackendBreaker` stands in front of a pool. It is **closed** until `failure_threshold` failures
have been recorded in a row, and then **open**: every request is refused until it has cooled down.
It is **half-open** then: one request is let through as a probe, and all others are refused until
the outcome of a request has been recorded.

`checkout_with_mode` asks `allow_request` before anything else. Only a lease records an outcome:
`release` a success, `mark_failed` a failure. A checkout that ends without a lease, and a lease
that is discarded, record nothing; if the probe ends so, its slot stays taken.

The model is a layer over the pool. It remembers which task has taken the slot of the probe, and
time is a number that inputs advance.
-/

namespace PgKinetic

open EventMachine List Option

namespace Pool

/-! ### The breaker -/

/-- `BreakerState`. -/
inductive BreakerState where
  | closed
  | «open»
  | halfOpen
  deriving DecidableEq, Repr

/-- `BreakerConfig`, with the defaults of the source; times are in milliseconds. -/
structure BreakerConfig where
  failureThreshold : Nat := 5
  cooldown : Nat := 5000
  deriving DecidableEq, Repr

/-- `BreakerData`. -/
structure Breaker where
  config : BreakerConfig := {}
  state : BreakerState := .closed
  failures : Nat := 0
  openedAt : Option Nat := none
  probeInFlight : Bool := false
  deriving DecidableEq, Repr

namespace Breaker

variable (b : Breaker)

/-- The first half of `allow_request`, and `state`: an open breaker that has cooled down is
half-open. -/
def cool (now : Nat) : Breaker :=
  if b.state = .open ∧ b.openedAt.any fun openedAt => b.config.cooldown ≤ now - openedAt then
    { b with state := .halfOpen, probeInFlight := false }
  else b

/-- `allow_request`. -/
def allowRequest (now : Nat) : Bool × Breaker :=
  let b := b.cool now
  match b.state with
  | .closed => (true, b)
  | .open => (false, b)
  | .halfOpen => if !b.probeInFlight then (true, { b with probeInFlight := true }) else (false, b)

/-- `record_success`. -/
def recordSuccess : Breaker :=
  { b with state := .closed, failures := 0, openedAt := none, probeInFlight := false }

/-- `record_failure`; the count of failures saturates. -/
def recordFailure (now : Nat) : Breaker :=
  let b := { b with probeInFlight := false }
  match b.state with
  | .halfOpen =>
    { b with state := .open, openedAt := some now, failures := b.config.failureThreshold }
  | .closed =>
    let failures := min (b.failures + 1) (2 ^ 64 - 1)
    if b.config.failureThreshold ≤ failures then
      { b with failures, state := .open, openedAt := some now }
    else { b with failures }
  | .open => b

/-- `configure`. -/
def configure (config : BreakerConfig) : Breaker := { b with config }

/-- The slot of the probe is taken: every request is refused. -/
def ProbeTaken : Prop := b.state = .halfOpen ∧ b.probeInFlight = true

instance : Decidable b.ProbeTaken := inferInstanceAs (Decidable (_ ∧ _))

/-- An open breaker knows since when. -/
def Timed : Prop := b.state = .open → b.openedAt.isSome

end Breaker

/-! ### The layer -/

variable {α : Type}

/-- A pool behind its breaker. -/
structure GuardedState (α : Type) where
  pool : PoolState α
  breaker : Breaker := {}
  now : Nat := 0
  /-- The task that has taken the slot of the probe last. -/
  probe : Option Nat := none

/-- An input: a request for a backend, a step of the pool, or one at the breaker. -/
inductive GuardedInput (α : Type) where
  /-- `checkout_with_mode` up to its first wait. -/
  | request (owner : α) (mode : CheckoutMode) (shared : Bool)
  | pool (input : Input α)
  /-- `mark_failed` on the lease of a task. -/
  | markFailed (task : Nat)
  | advance (ms : Nat)
  /-- `state`, as `is_healthy` calls it. -/
  | observe
  | configure (config : BreakerConfig)
  deriving DecidableEq, Repr

inductive GuardedEvent (α : Type) where
  | pool (event : Event α)
  /-- `PoolError::CircuitOpen`. -/
  | circuitOpen
  deriving DecidableEq, Repr

/-- The task has a lease. -/
def Place.hasLease : Place α → Bool
  | .leased _ _ | .serving _ _ => true
  | _ => false

/-- The checkout is under way, or its lease is held. -/
def Place.outstanding : Place α → Bool
  | .returning _ | .discarding _ | .leaving | .done => false
  | _ => true

namespace GuardedState

variable (g : GuardedState α)

/-- The breaker after a step of the pool: `release` records a success. -/
def breakerAfter : Input α → Breaker
  | .task _ .release => g.breaker.recordSuccess
  | _ => g.breaker

/-- One step of a pool behind its breaker. -/
def step (cfg : Config) : GuardedInput α → Option (GuardedState α × List (GuardedEvent α))
  | .request owner mode shared =>
    match g.breaker.allowRequest g.now with
    | (false, breaker) => some ({ g with breaker }, [.circuitOpen])
    | (true, breaker) =>
      match Pool.step cfg g.pool (.checkout owner mode shared) with
      | none => none
      | some (pool, events) =>
        -- a half-open breaker admits only the request that takes the slot
        let probe := if breaker.state = .halfOpen then some g.pool.tasks.length else g.probe
        some ({ g with pool, breaker, probe }, events.map .pool)
  | .pool (.checkout _ _ _) => none
  | .pool input =>
    match Pool.step cfg g.pool input with
    | none => none
    | some (pool, events) =>
      some ({ g with pool, breaker := g.breakerAfter input }, events.map .pool)
  | .markFailed i =>
    if g.pool.tasks[i]?.any fun t => t.place.hasLease then
      some ({ g with breaker := g.breaker.recordFailure g.now }, [])
    else none
  | .advance ms => some ({ g with now := g.now + ms }, [])
  | .observe => some ({ g with breaker := g.breaker.cool g.now }, [])
  | .configure config => some ({ g with breaker := g.breaker.configure config }, [])

/-- A new pool; its breaker is closed. -/
def initial (permits : Option Nat) (config : BreakerConfig) : GuardedState α where
  pool := .initial permits
  breaker := { config }

end GuardedState

/-- The pool behind its breaker as a machine. -/
def guardedMachine (cfg : Config) : Machine (GuardedState α) (GuardedInput α) (GuardedEvent α) where
  step g := g.step cfg

/-- The event of the pool that an event is. -/
def GuardedEvent.poolEvent : GuardedEvent α → Option (Event α)
  | .pool event => some event
  | .circuitOpen => none

/-- The action ends a checkout without a lease, or a lease without a word to the breaker: a
rejection at the gates, a timeout, a connect error, a discard, a failed startup. -/
def Task.endsUnreported (t : Task α) (action : Action) : Bool :=
  match t.place, action with
  | .gates, .refuse | .gates, .cancel | .waiting, .cancel | .connecting _ _, .cancel => true
  -- where connecting was only preferred, the checkout goes on
  | .connectFailed site, .proceed => site != .prefer
  | .leased _ _, .discard | .serving _ _, .discard => true
  | .leased _ requiresStartup, .startup ok => requiresStartup && !ok
  | .serving _ requiresStartup, .query ok => t.shared && requiresStartup && !ok
  | _, _ => false

/-! ### The breaker's own moves -/

namespace Breaker

variable {b : Breaker} {now : Nat}

/-- Cooling down never takes the slot. -/
theorem ProbeTaken.of_cool (h : (b.cool now).ProbeTaken) : b.ProbeTaken := by
  unfold cool at h
  split at h
  · cases h.2
  · exact h

theorem Timed.cool (h : b.Timed) : (b.cool now).Timed := by
  unfold Breaker.cool
  split
  · intro hopen
    cases hopen
  · exact h

/-- A refused request leaves the slot as it is. -/
theorem ProbeTaken.of_refused {b' : Breaker} (hb : b.allowRequest now = (false, b'))
    (h : b'.ProbeTaken) : b.ProbeTaken := by
  have hsame : b' = b.cool now := by
    unfold allowRequest at hb
    dsimp only at hb
    split at hb
    · cases hb
    · cases hb
      rfl
    · split at hb
      · cases hb
      · cases hb
        rfl
  rw [hsame] at h
  exact h.of_cool

theorem Timed.allowRequest (h : b.Timed) : (b.allowRequest now).2.Timed := by
  have hcool : (b.cool now).Timed := h.cool
  unfold Breaker.allowRequest
  dsimp only
  split
  · exact hcool
  · exact hcool
  · rename_i hstate
    split
    · intro hopen
      exact absurd (hstate.symm.trans hopen) (by decide)
    · exact hcool

theorem not_probeTaken_recordSuccess : ¬ b.recordSuccess.ProbeTaken := by
  rintro ⟨hstate, -⟩
  cases hstate

theorem not_probeTaken_recordFailure : ¬ (b.recordFailure now).ProbeTaken := by
  rintro ⟨-, hprobe⟩
  unfold recordFailure at hprobe
  dsimp only at hprobe
  split at hprobe
  · cases hprobe
  · split at hprobe <;> cases hprobe
  · cases hprobe

theorem Timed.recordFailure (h : b.Timed) : (b.recordFailure now).Timed := by
  unfold Breaker.recordFailure
  dsimp only
  split
  · exact fun _ => rfl
  · rename_i hstate
    split
    · exact fun _ => rfl
    · intro hopen
      exact absurd (hstate.symm.trans hopen) (by decide)
  · exact h

/-- A breaker whose slot is taken refuses every request. -/
theorem ProbeTaken.refuses (h : b.ProbeTaken) : (b.allowRequest now).1 = false := by
  have hcool : b.cool now = b := by simp [cool, h.1]
  simp [allowRequest, hcool, h.1, h.2]

/-- A breaker whose slot is free admits a request, at the latest when it has cooled down. -/
theorem admits_of_not_probeTaken (h : b.Timed) (hfree : ¬ b.ProbeTaken) :
    ∃ ms, (b.allowRequest (now + ms)).1 = true := by
  cases hstate : b.state with
  | closed =>
    refine ⟨0, ?_⟩
    simp [allowRequest, cool, hstate]
  | «open» =>
    obtain ⟨openedAt, hopened⟩ := isSome_iff_exists.1 (h hstate)
    refine ⟨openedAt + b.config.cooldown, ?_⟩
    have hcooled : b.config.cooldown ≤ now + (openedAt + b.config.cooldown) - openedAt := by omega
    simp [allowRequest, cool, hstate, hopened, hcooled]
  | halfOpen =>
    refine ⟨0, ?_⟩
    have hprobe : b.probeInFlight = false := by
      cases hb : b.probeInFlight with
      | false => rfl
      | true => exact absurd ⟨hstate, hb⟩ hfree
    simp [allowRequest, cool, hstate, hprobe]

end Breaker

/-! ### Outstanding tasks -/

theorem Task.outstanding_afterLook (t : Task α) (again : Bool) (h : t.place.outstanding) :
    (t.afterLook again t.place).outstanding := by
  unfold Task.afterLook
  split
  · split
    · rfl
    · split <;> rfl
  · split <;> rfl
  · split
    · exact h
    · rfl

variable {t : Task α} {place : Place α} {events : List (Event α)} {cfg : Config}

theorem Task.outstanding_look {s s' : Store α} {locked again : Bool} (h : t.place.outstanding)
    (hlook : t.look s locked again = (s', place, events)) : place.outstanding := by
  unfold Task.look at hlook
  split at hlook
  · cases hlook
    rfl
  · cases hlook
    exact t.outstanding_afterLook again h

/-- A task stays outstanding until it releases its lease or ends unreported. -/
theorem Task.outstanding_step {s s' : Store α} {action : Action} (h : t.place.outstanding)
    (hrelease : action ≠ .release) (hreports : t.endsUnreported action = false)
    (hstep : t.step cfg s action = some (s', place, events)) : place.outstanding := by
  unfold Task.step at hstep
  unfold Task.endsUnreported at hreports
  split at hstep
  case h_1 hp =>
    cases hstep
    split <;> rfl
  case h_2 hp | h_3 hp | h_4 hp | h_10 hp | h_18 hp | h_19 hp =>
    rw [hp] at hreports
    cases hreports
  case h_5 site hp =>
    split at hstep
    · cases hstep
      rfl
    · cases hstep
      cases site <;> rfl
  case h_6 site hp => split at hstep <;> cases hstep <;> rfl
  case h_7 site hp =>
    cases hstep
    cases site <;> rfl
  case h_8 hp | h_9 hp =>
    cases hstep
    rfl
  case h_11 site hp =>
    rw [hp] at hreports
    cases hstep
    cases site with
    | prefer => rfl
    | allow | loop => cases hreports
  case h_12 hp | h_13 hp | h_14 hp => exact Task.outstanding_look h (some.inj hstep)
  case h_15 conn requiresStartup ok hp =>
    rw [hp] at hreports
    cases requiresStartup with
    | false =>
      cases hstep
      rfl
    | true =>
      cases ok with
      | false => cases hreports
      | true =>
        cases hstep
        rfl
  case h_16 conn requiresStartup ok hp =>
    rw [hp] at hreports
    split at hstep
    · rename_i hboth
      cases ok with
      | false =>
        dsimp only at hreports
        rw [hboth] at hreports
        cases hreports
      | true =>
        cases hstep
        rfl
    · cases hstep
      rfl
  case h_17 hp => exact absurd rfl hrelease
  -- the task is past its lease already
  case h_20 hp | h_21 hp | h_22 hp =>
    rw [hp] at h
    cases h
  case h_23 => cases hstep

/-! ### Accountability -/

namespace GuardedState

variable {cfg : Config} {g g' : GuardedState α} {events : List (GuardedEvent α)}

theorem step_request {owner : α} {mode : CheckoutMode} {shared : Bool}
    (h : g.step cfg (.request owner mode shared) = some (g', events)) :
    (∃ breaker, g.breaker.allowRequest g.now = (false, breaker) ∧ g' = { g with breaker } ∧
        events = [.circuitOpen]) ∨
      ∃ breaker, g.breaker.allowRequest g.now = (true, breaker) ∧
        g' = { g with
          pool := { g.pool with tasks := g.pool.tasks ++ [⟨owner, mode, shared, .gates⟩] }
          breaker
          probe := if breaker.state = .halfOpen then some g.pool.tasks.length else g.probe } ∧
        events = [] := by
  simp only [step, Pool.step, map_nil] at h
  split at h
  · rename_i breaker hb
    cases h
    exact .inl ⟨breaker, hb, rfl, rfl⟩
  · rename_i breaker hb
    cases h
    exact .inr ⟨breaker, hb, rfl, rfl⟩

theorem step_pool {input : Input α} (h : g.step cfg (.pool input) = some (g', events)) :
    ∃ pool es, Pool.step cfg g.pool input = some (pool, es) ∧
      g' = { g with pool, breaker := g.breakerAfter input } ∧ events = es.map .pool ∧
      ∀ owner mode shared, input ≠ .checkout owner mode shared := by
  cases input with
  | checkout owner mode shared => cases h
  | _ =>
    simp only [step] at h
    split at h
    · cases h
    · rename_i pool es hpool
      cases h
      exact ⟨pool, es, hpool, rfl, rfl, fun _ _ _ hne => by cases hne⟩

theorem step_markFailed {i : Nat} (h : g.step cfg (.markFailed i) = some (g', events)) :
    g' = { g with breaker := g.breaker.recordFailure g.now } ∧ events = [] := by
  simp only [step] at h
  split at h
  · cases h
    exact ⟨rfl, rfl⟩
  · cases h

end GuardedState

/-- **The layer leaves the pool as it is**: below a run of the pool behind its breaker there is a
run of the pool. -/
theorem run_pool_of_guarded {g g' : GuardedState α} {inputs : List (GuardedInput α)}
    {events : List (GuardedEvent α)} (h : (guardedMachine cfg).run g inputs = some (g', events)) :
    ∃ below, (machine cfg).run g.pool below =
      some (g'.pool, events.filterMap GuardedEvent.poolEvent) := by
  refine (machine cfg).run_of_layer GuardedState.pool GuardedEvent.poolEvent
    (fun g i g' es hstep => ?_) h
  change g.step cfg i = some (g', es) at hstep
  cases i with
  | request owner mode shared =>
    rcases GuardedState.step_request hstep with ⟨breaker, -, rfl, rfl⟩ | ⟨breaker, -, rfl, rfl⟩
    · exact .inr ⟨rfl, rfl⟩
    · exact .inl ⟨.checkout owner mode shared, rfl⟩
  | pool input =>
    obtain ⟨pool, events, hpool, rfl, rfl, -⟩ := GuardedState.step_pool hstep
    refine .inl ⟨input, ?_⟩
    have hevents : (events.map GuardedEvent.pool).filterMap GuardedEvent.poolEvent = events := by
      rw [filterMap_map]
      exact filterMap_some
    rw [hevents]
    exact hpool
  | markFailed i =>
    obtain ⟨rfl, rfl⟩ := GuardedState.step_markFailed hstep
    exact .inr ⟨rfl, rfl⟩
  | advance ms | observe | configure config =>
    cases hstep
    exact .inr ⟨rfl, rfl⟩

namespace GuardedState

variable {cfg : Config} {g g' : GuardedState α} {events : List (GuardedEvent α)}

/-- While the slot of the probe is taken, the task that has taken it is outstanding. -/
structure Accountable (g : GuardedState α) : Prop where
  probe : g.breaker.ProbeTaken → ∃ i t, g.probe = some i ∧ g.pool.tasks[i]? = some t ∧
    t.place.outstanding
  timed : g.breaker.Timed

/-- The step is not the unreported end of the checkout or lease that has taken the slot of the
probe, while it is taken. -/
def Reports (g : GuardedState α) : GuardedInput α → Prop
  | .pool (.task i action) => g.breaker.ProbeTaken → g.probe = some i →
      ∀ t ∈ g.pool.tasks[i]?, t.endsUnreported action = false
  | _ => True

instance (g : GuardedState α) : ∀ input, Decidable (g.Reports input)
  | .pool (.task _ _) => inferInstanceAs (Decidable (_ → _ → _))
  | .pool (.checkout ..) | .pool (.reap _) | .pool .retire | .pool (.reaper _)
  | .pool .acquireElsewhere | .pool .releaseElsewhere | .request .. | .markFailed _
  | .advance _ | .observe | .configure _ => inferInstanceAs (Decidable True)

variable {pool : PoolState α} {es : List (Event α)}

/-- A step of the pool that moves no task leaves the tasks as they are. -/
theorem tasks_of_other {input : Input α} (h : Pool.step cfg g.pool input = some (pool, es))
    (hcheckout : ∀ owner mode shared, input ≠ .checkout owner mode shared)
    (htask : ∀ i action, input ≠ .task i action) : pool.tasks = g.pool.tasks := by
  cases input with
  | checkout owner mode shared => exact absurd rfl (hcheckout owner mode shared)
  | task i action => exact absurd rfl (htask i action)
  | reap expired | retire =>
    cases h
    rfl
  | reaper i =>
    obtain ⟨r, store, r', -, -, rfl⟩ := step_reaper h
    rfl
  | acquireElsewhere | releaseElsewhere =>
    simp only [Pool.step] at h
    split at h <;> cases h
    rfl

/-- A move of a task keeps the breaker accountable. -/
theorem Accountable.task {i : Nat} {action : Action} (hg : g.Accountable)
    (hreports : g.Reports (.pool (.task i action)))
    (hstep : Pool.step cfg g.pool (.task i action) = some (pool, es)) :
    Accountable { g with pool, breaker := g.breakerAfter (.task i action) } := by
  by_cases hrelease : action = .release
  · subst hrelease
    refine ⟨fun htaken => absurd htaken Breaker.not_probeTaken_recordSuccess, fun hopen => ?_⟩
    cases hopen
  have hsame : g.breakerAfter (.task i action) = g.breaker := by
    cases action <;> first | rfl | exact absurd rfl hrelease
  rw [hsame]
  refine ⟨fun htaken => ?_, hg.timed⟩
  obtain ⟨j, t, hprobe, ht, hout⟩ := hg.probe htaken
  simp only [Pool.step, bind_eq_bind, bind_eq_some_iff, some.injEq, Prod.mk.injEq] at hstep
  obtain ⟨u, hu, ⟨store, place, es'⟩, hmove, rfl, rfl⟩ := hstep
  by_cases hij : i = j
  -- the probe itself moves: it neither releases nor ends unreported
  · subst hij
    obtain rfl : t = u := some.inj (ht.symm.trans hu)
    have hlt : i < g.pool.tasks.length := (List.getElem?_eq_some_iff.1 ht).1
    refine ⟨i, { t with place }, hprobe, ?_, ?_⟩
    · exact getElem?_set_self hlt
    · exact Task.outstanding_step hout hrelease (hreports htaken hprobe t ht) hmove
  · refine ⟨j, t, hprobe, ?_, hout⟩
    exact (getElem?_set_ne hij).trans ht

theorem Accountable.step {input : GuardedInput α} (hg : g.Accountable)
    (hreports : g.Reports input) (hstep : g.step cfg input = some (g', events)) :
    g'.Accountable := by
  cases input with
  | request owner mode shared =>
    rcases step_request hstep with ⟨breaker, hb, rfl, rfl⟩ | ⟨breaker, hb, rfl, rfl⟩
    · refine ⟨fun htaken => hg.probe (htaken.of_refused hb), ?_⟩
      have htimed : (g.breaker.allowRequest g.now).2.Timed := hg.timed.allowRequest
      rwa [hb] at htimed
    · refine ⟨fun htaken => ?_, ?_⟩
      · refine ⟨g.pool.tasks.length, ⟨owner, mode, shared, .gates⟩, if_pos htaken.1, ?_, rfl⟩
        exact getElem?_concat_length
      · have htimed : (g.breaker.allowRequest g.now).2.Timed := hg.timed.allowRequest
        rwa [hb] at htimed
  | pool input =>
    obtain ⟨pool, es, hpool, rfl, rfl, hcheckout⟩ := step_pool hstep
    by_cases htask : ∃ i action, input = .task i action
    · obtain ⟨i, action, rfl⟩ := htask
      exact hg.task hreports hpool
    · have hother : ∀ i action, input ≠ .task i action := fun i action h => htask ⟨i, action, h⟩
      have hbreaker : g.breakerAfter input = g.breaker := by
        cases input <;> first | rfl | exact absurd rfl (hother _ _)
      rw [hbreaker]
      refine ⟨fun htaken => ?_, hg.timed⟩
      rw [tasks_of_other hpool hcheckout hother]
      exact hg.probe htaken
  | markFailed i =>
    obtain ⟨rfl, rfl⟩ := step_markFailed hstep
    exact ⟨fun htaken => absurd htaken Breaker.not_probeTaken_recordFailure,
      hg.timed.recordFailure⟩
  | advance ms | configure config =>
    cases hstep
    exact ⟨hg.probe, hg.timed⟩
  | observe =>
    cases hstep
    exact ⟨fun htaken => hg.probe htaken.of_cool, hg.timed.cool⟩

end GuardedState

/-- **The probe is accounted for.** In every interleaving in which the checkout or lease that has
taken the slot of the probe does not end unreported, a half-open breaker whose slot is taken has
a checkout or lease outstanding; with none outstanding, a request is admitted again after a
while. -/
theorem probe_outstanding_of_reports (cfg : Config) (permits : Option Nat)
    (config : BreakerConfig) (inputs : List (GuardedInput α)) {g : GuardedState α}
    {events : List (GuardedEvent α)}
    (hrun : (guardedMachine cfg).run (.initial permits config) inputs = some (g, events))
    (hmeets : (guardedMachine cfg).Meets GuardedState.Reports (.initial permits config) inputs) :
    (g.breaker.state = .halfOpen → g.breaker.probeInFlight = true →
      ∃ t ∈ g.pool.tasks, t.place.outstanding) ∧
    ((∀ t ∈ g.pool.tasks, ¬ t.place.outstanding) →
      ∃ ms, (g.breaker.allowRequest (g.now + ms)).1 = true) := by
  have hinitial : GuardedState.Accountable (.initial permits config : GuardedState α) := by
    refine ⟨fun htaken => ?_, fun hopen => ?_⟩
    · cases htaken.1
    · cases hopen
  obtain ⟨hg, -⟩ := (guardedMachine cfg).invariant_of_step (P := fun _ => True)
    (fun _ _ _ _ hg hreports hstep => ⟨GuardedState.Accountable.step hg hreports hstep,
      fun _ _ => trivial⟩) hinitial hrun hmeets
  have houtstanding : g.breaker.ProbeTaken → ∃ t ∈ g.pool.tasks, t.place.outstanding := by
    intro htaken
    obtain ⟨i, t, -, ht, hout⟩ := hg.probe htaken
    exact ⟨t, mem_of_getElem? ht, hout⟩
  refine ⟨fun hstate hprobe => houtstanding ⟨hstate, hprobe⟩, fun hnone => ?_⟩
  refine Breaker.admits_of_not_probeTaken hg.timed fun htaken => ?_
  obtain ⟨t, ht, hout⟩ := houtstanding htaken
  exact hnone t ht hout

/-- A backend fails twice in a row, the second time as the probe of a half-open breaker, and the
next probe succeeds. -/
def failAndRecover : List (GuardedInput Unit) :=
  [.request () .allowConnect false, .pool (.task 0 .pass), .pool (.task 0 (.look false false)),
    .pool (.task 0 .proceed), .pool (.task 0 .proceed), .pool (.task 0 .connected),
    .pool (.task 0 (.startup true)), .markFailed 0, .pool (.task 0 .discard),
    .pool (.task 0 .proceed), .pool (.task 0 .proceed), .request () .allowConnect false,
    .advance 5000, .request () .allowConnect false, .pool (.task 1 .pass),
    .pool (.task 1 (.look false false)), .pool (.task 1 .proceed), .pool (.task 1 .proceed),
    .pool (.task 1 .connected), .pool (.task 1 (.startup true)), .markFailed 1,
    .pool (.task 1 .discard), .advance 5000, .request () .reuseOnly false]

/-- The probe of a run that recovers is the second lease after the failures, and outstanding. -/
theorem probe_outstanding_failAndRecover :
    ∃ g : GuardedState Unit, ∃ events,
      (guardedMachine ⟨2, 0⟩).run (.initial none ⟨1, 5000⟩) failAndRecover = some (g, events) ∧
        g.breaker.state = .halfOpen ∧ g.breaker.probeInFlight = true ∧
        ∃ t ∈ g.pool.tasks, t.place.outstanding := by
  have hmeets : (guardedMachine ⟨2, 0⟩).Meets GuardedState.Reports (.initial none ⟨1, 5000⟩)
      failAndRecover := by decide +kernel
  have hstate : ∃ r ∈ (guardedMachine ⟨2, 0⟩).run (.initial none ⟨1, 5000⟩) failAndRecover,
      r.1.breaker.state = .halfOpen ∧ r.1.breaker.probeInFlight = true := by decide +kernel
  obtain ⟨⟨g, events⟩, hrun, hhalf, hprobe⟩ := hstate
  exact ⟨g, events, hrun, hhalf, hprobe,
    (probe_outstanding_of_reports ⟨2, 0⟩ none ⟨1, 5000⟩ failAndRecover hrun hmeets).1 hhalf
      hprobe⟩

/-- A backend fails, and the probe after the cooldown finds the queue of the gate full. -/
def failAndReject : List (GuardedInput Unit) :=
  [.request () .allowConnect false, .pool (.task 0 .pass), .pool (.task 0 (.look false false)),
    .pool (.task 0 .proceed), .pool (.task 0 .proceed), .pool (.task 0 .connected),
    .pool (.task 0 (.startup true)), .markFailed 0, .pool (.task 0 .discard),
    .pool (.task 0 .proceed), .pool (.task 0 .proceed), .advance 5000,
    .request () .allowConnect false, .pool (.task 1 .refuse)]

/-- **A probe that is rejected at the gates keeps its slot for ever.** No task is left, and the
half-open breaker refuses every request, however late. -/
theorem probe_lost_by_rejection :
    ∃ g : GuardedState Unit, ∃ events,
      (guardedMachine ⟨1, 0⟩).run (.initial none ⟨1, 5000⟩) failAndReject = some (g, events) ∧
        g.breaker.state = .halfOpen ∧ g.breaker.probeInFlight = true ∧
        (∀ t ∈ g.pool.tasks, t.place = .done) ∧
        ∀ ms, (g.breaker.allowRequest (g.now + ms)).1 = false := by
  have hstuck : ∃ r ∈ (guardedMachine ⟨1, 0⟩).run (.initial none ⟨1, 5000⟩) failAndReject,
      r.1.breaker.state = .halfOpen ∧ r.1.breaker.probeInFlight = true ∧
        ∀ t ∈ r.1.pool.tasks, t.place = .done := by decide +kernel
  obtain ⟨⟨g, events⟩, hrun, hhalf, hprobe, hdone⟩ := hstuck
  refine ⟨g, events, hrun, hhalf, hprobe, hdone, fun ms => ?_⟩
  exact Breaker.ProbeTaken.refuses ⟨hhalf, hprobe⟩

end Pool

end PgKinetic
