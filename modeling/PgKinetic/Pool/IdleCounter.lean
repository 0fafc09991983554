import PgKinetic.Pool.Accounting

/-!
# The counter of idle backends

Beside the queue, `BackendStore` keeps `idle_backends`, a counter of its length that can be read
without the lock. Queue and counter are updated one after the other: `return_backend` pushes and
then adds, `try_checkout_idle_backend` pops and then subtracts (still under the lock),
`reap_idle` and `retire_idle_backends` empty the queue and store an absolute value when they are
through with the evicted backends.

The model is a **layer** over the pool: the steps of the pool, as far as the lock lets them
happen, and the accesses to the counter that the pool leaves out. Without interference
`idle_backends + returned` is the length of the queue plus the backend a checkout has popped and
not yet subtracted, at least while a sweep is under way and exactly otherwise
(`CountedState.Consistent`).

Three accesses interfere: a subtraction before the addition it should follow, and the two
absolute stores, which lose every addition or subtraction still to come.
-/

namespace PgKinetic

open EventMachine List Option

namespace Pool

variable {α : Type}

/-! ### The layer -/

/-- Who holds the lock of the queue between two accesses. -/
inductive LockHolder where
  /-- `try_checkout_idle_backend` of a task: it has popped, and `fetch_sub` is next. -/
  | popped (task : Nat)
  /-- `reap_idle`: it has read the length, and the store is next. -/
  | measured (sweep len : Nat)
  deriving DecidableEq, Repr

/-- A run of `reap_idle` or `retire_idle_backends`, by what it has still to store. -/
inductive Sweep where
  | reap
  | retire
  | finished
  deriving DecidableEq, Repr

/-- A pool with its counter. -/
structure CountedState (α : Type) where
  pool : PoolState α
  /-- `idle_backends`. -/
  idleBackends : Nat := 0
  /-- The runs of `return_backend` between their push and their `fetch_add`. -/
  returned : Nat := 0
  lock : Option LockHolder := none
  /-- The sweeps behind the reapers of the pool, in the same order. -/
  sweeps : List Sweep := []

/-- An input: a step of the pool, or an access to the counter. -/
inductive CountedInput (α : Type) where
  | pool (input : Input α)
  /-- The `fetch_add` of a `return_backend`. -/
  | fetchAdd
  /-- The `fetch_sub` of the checkout that has popped. -/
  | fetchSub
  /-- A `reap_idle` that has discarded what it evicted locks the queue and reads its length. -/
  | measure (sweep : Nat)
  /-- It stores the length and unlocks the queue. -/
  | storeLen
  /-- A `retire_idle_backends` that has discarded what it evicted stores zero. -/
  | storeZero (sweep : Nat)
  deriving DecidableEq, Repr

inductive CountedEvent (α : Type) where
  | pool (event : Event α)
  /-- The counter is decremented from this value. -/
  | subtracted (idleBackends : Nat)
  deriving DecidableEq, Repr

/-- The backend is about to be pushed. -/
def Place.isReturning : Place α → Bool
  | .returning _ => true
  | _ => false

def Place.isLeased : Place α → Bool
  | .leased _ _ => true
  | _ => false

namespace CountedState

variable (c : CountedState α)

/-- Whether a task is at a place of this kind. -/
def taskAt (pool : PoolState α) (i : Nat) (kind : Place α → Bool) : Bool :=
  pool.tasks[i]?.any fun t => kind t.place

/-- Whether the lock lets a step of the pool happen: a task that has popped goes on with its
`fetch_sub`, and the queue is touched only by who can lock it. -/
def lockAllows : Input α → Bool
  | .task i .proceed =>
    c.lock != some (.popped i) && (!taskAt c.pool i Place.isReturning || c.lock.isNone)
  | .task i (.look locked _) => c.lock != some (.popped i) && (locked || c.lock.isNone)
  | .task i _ => c.lock != some (.popped i)
  | .reap _ | .retire => c.lock.isNone
  | _ => true

/-- What a step of the pool, to `pool`, changes of the layer. -/
def afterPool (pool : PoolState α) : Input α → CountedState α
  | .task i .proceed =>
    if taskAt c.pool i Place.isReturning then { c with pool, returned := c.returned + 1 }
    else { c with pool }
  | .task i (.look _ _) =>
    -- a look that ends in a lease has popped
    if taskAt pool i Place.isLeased then { c with pool, lock := some (.popped i) }
    else { c with pool }
  | .reap _ => { c with pool, sweeps := c.sweeps ++ [.reap] }
  | .retire => { c with pool, sweeps := c.sweeps ++ [.retire] }
  | _ => { c with pool }

/-- Whether a sweep has discarded all it has evicted. -/
def evictedAll (i : Nat) : Bool := c.pool.reapers[i]? == some (.evicting [])

/-- One step of a pool with its counter. Additions do not wrap: there are not that many
backends. -/
def step (cfg : Config) : CountedInput α → Option (CountedState α × List (CountedEvent α))
  | .pool input =>
    if c.lockAllows input then
      match Pool.step cfg c.pool input with
      | some (pool, events) => some (c.afterPool pool input, events.map .pool)
      | none => none
    else none
  | .fetchAdd =>
    match c.returned with
    | 0 => none
    | n + 1 => some ({ c with idleBackends := c.idleBackends + 1, returned := n }, [])
  | .fetchSub =>
    match c.lock with
    | some (.popped _) =>
      some ({ c with idleBackends := fetchSub c.idleBackends, lock := none },
        [.subtracted c.idleBackends])
    | _ => none
  | .measure i =>
    if c.lock.isNone && c.evictedAll i && c.sweeps[i]? == some .reap then
      some ({ c with lock := some (.measured i c.pool.store.idle.length) }, [])
    else none
  | .storeLen =>
    match c.lock with
    | some (.measured i len) =>
      some ({ c with idleBackends := len, lock := none, sweeps := c.sweeps.set i .finished }, [])
    | _ => none
  | .storeZero i =>
    if c.evictedAll i && c.sweeps[i]? == some .retire then
      some ({ c with idleBackends := 0, sweeps := c.sweeps.set i .finished }, [])
    else none

/-- A new pool. -/
def initial (permits : Option Nat) : CountedState α where
  pool := .initial permits

end CountedState

/-- The pool with its counter as a machine. -/
def countedMachine (cfg : Config) : Machine (CountedState α) (CountedInput α) (CountedEvent α) where
  step c := c.step cfg

/-- The event of the pool that an event is. -/
def CountedEvent.poolEvent : CountedEvent α → Option (Event α)
  | .pool event => some event
  | .subtracted _ => none

/-! ### What one step does -/

namespace CountedState

variable {cfg : Config} {c c' : CountedState α} {events : List (CountedEvent α)}

/-- What one access does, and what it finds. -/
inductive Access (cfg : Config) (c : CountedState α) :
    CountedInput α → CountedState α → List (CountedEvent α) → Prop where
  | pool {input : Input α} {pool : PoolState α} {es : List (Event α)}
    (hallows : c.lockAllows input = true) (hpool : Pool.step cfg c.pool input = some (pool, es)) :
    Access cfg c (.pool input) (c.afterPool pool input) (es.map .pool)
  | fetchAdd {n : Nat} (hreturned : c.returned = n + 1) :
    Access cfg c .fetchAdd { c with idleBackends := c.idleBackends + 1, returned := n } []
  | fetchSub {i : Nat} (hlock : c.lock = some (.popped i)) :
    Access cfg c .fetchSub { c with idleBackends := fetchSub c.idleBackends, lock := none }
      [.subtracted c.idleBackends]
  | measure {i : Nat} (hfree : c.lock = none) :
    Access cfg c (.measure i) { c with lock := some (.measured i c.pool.store.idle.length) } []
  | storeLen {i len : Nat} (hlock : c.lock = some (.measured i len)) :
    Access cfg c .storeLen
      { c with idleBackends := len, lock := none, sweeps := c.sweeps.set i .finished } []
  | storeZero {i : Nat} :
    Access cfg c (.storeZero i) { c with idleBackends := 0, sweeps := c.sweeps.set i .finished } []

theorem access_of_step {input : CountedInput α} (h : c.step cfg input = some (c', events)) :
    Access cfg c input c' events := by
  cases input with
  | pool input =>
    simp only [step] at h
    split at h
    · rename_i hallows
      split at h
      · rename_i pool es hpool
        cases h
        exact .pool hallows hpool
      · cases h
    · cases h
  | measure i =>
    simp only [step] at h
    split at h
    · rename_i hmay
      cases h
      simp only [Bool.and_eq_true, isNone_iff_eq_none] at hmay
      exact .measure hmay.1.1
    · cases h
  | fetchAdd | fetchSub | storeLen | storeZero i =>
    simp only [step] at h
    split at h <;> cases h
    constructor
    all_goals assumption

theorem afterPool_pool (pool : PoolState α) (input : Input α) :
    (c.afterPool pool input).pool = pool := by
  unfold afterPool
  split
  · split <;> rfl
  · split <;> rfl
  all_goals rfl

theorem afterPool_idleBackends (pool : PoolState α) (input : Input α) :
    (c.afterPool pool input).idleBackends = c.idleBackends := by
  unfold afterPool
  split
  · split <;> rfl
  · split <;> rfl
  all_goals rfl

end CountedState

variable {cfg : Config} {p : Place α}

/-- **The layer leaves the pool as it is**: below a run of the pool with its counter there is a
run of the pool. -/
theorem run_pool_of_counted {c c' : CountedState α} {inputs : List (CountedInput α)}
    {events : List (CountedEvent α)} (h : (countedMachine cfg).run c inputs = some (c', events)) :
    ∃ below, (machine cfg).run c.pool below =
      some (c'.pool, events.filterMap CountedEvent.poolEvent) := by
  refine (machine cfg).run_of_layer CountedState.pool CountedEvent.poolEvent
    (fun c i c' es hstep => ?_) h
  cases CountedState.access_of_step hstep with
  | @pool input pool events _ hpool =>
    refine .inl ⟨input, ?_⟩
    have hevents : (events.map CountedEvent.pool).filterMap CountedEvent.poolEvent = events := by
      rw [filterMap_map]
      exact filterMap_some
    rw [hevents, CountedState.afterPool_pool]
    exact hpool
  | _ => exact .inr ⟨rfl, rfl⟩

/-! ### The queue and the counter -/

theorem Place.OwnsNothing.not_returning (h : p.OwnsNothing) : ¬ p.isReturning := by
  cases p <;> first | exact Bool.false_ne_true | exact h.elim

theorem Place.OwnsNothing.not_leased (h : p.OwnsNothing) : ¬ p.isLeased := by
  cases p <;> first | exact Bool.false_ne_true | exact h.elim

theorem Place.GivesBack.not_returning (h : p.GivesBack) : ¬ p.isReturning := by
  cases p <;> first | exact Bool.false_ne_true | exact h.elim

/-- A move of a task pushes one backend, or pops one, or leaves the length of the queue. -/
theorem Move.length_idle {t : Task α} {s s' : Store α} {action : Action} {place : Place α}
    {events : List (Event α)} (h : Move cfg t s action s' place events) :
    (action = .proceed ∧ t.place.isReturning ∧ s'.idle.length = s.idle.length + 1) ∨
      (∃ again, action = .look false again ∧ place.isLeased ∧
        s'.idle.length + 1 = s.idle.length) ∨
      ((action = .proceed → ¬ t.place.isReturning) ∧
        ((∃ locked again, action = .look locked again) → ¬ place.isLeased) ∧
        s'.idle.length = s.idle.length) := by
  have hkeeps : ∀ {p : Place α}, t.place = p → ¬ p.isReturning → ¬ place.isLeased →
      s'.idle = s.idle →
      (action = .proceed → ¬ t.place.isReturning) ∧
        ((∃ locked again, action = .look locked again) → ¬ place.isLeased) ∧
        s'.idle.length = s.idle.length := by
    intro p hp hreturning hleased hidle
    rw [hp, hidle]
    exact ⟨fun _ => hreturning, fun _ => hleased, rfl⟩
  cases h with
  | wander h h' | giveBack h h' => exact .inr (.inr (hkeeps rfl h.not_returning h'.not_leased rfl))
  | take h hs =>
    refine .inr (.inl ⟨_, rfl, rfl, ?_⟩)
    rw [hs]
    rfl
  | putBack h =>
    refine .inl ⟨rfl, by rw [h]; rfl, ?_⟩
    simp [Store.returnBackend]
  | connect h =>
    refine .inr (.inr ⟨fun hc => ?_, fun hc => ?_, ?_⟩)
    · cases hc
    · obtain ⟨_, _, hc⟩ := hc
      cases hc
    · rw [(Store.registerBackend_conn _ _).2]
  | acquire h hs =>
    refine .inr (.inr (hkeeps h (by simp [Place.isReturning]) (by simp [Place.isLeased]) ?_))
    unfold Store.acquirePermit at hs
    split at hs <;> cases hs <;> rfl
  | connectFailed h | cancelConnect h =>
    refine .inr (.inr (hkeeps h (by simp [Place.isReturning]) (by simp [Place.isLeased]) ?_))
    unfold Store.dropPermit
    split <;> rfl
  | unregister h =>
    refine .inr (.inr (hkeeps h (by simp [Place.isReturning]) (by simp [Place.isLeased]) ?_))
    unfold Store.removePermit
    split <;> rfl
  | discard h =>
    rcases h with h | h <;>
      exact .inr (.inr (hkeeps h (by simp [Place.isReturning]) (by simp [Place.isLeased]) rfl))
  | reserve h | noPermit h | start h | startFailed h | noStart h | query h | restart h
  | restartFailed h | release h =>
    exact .inr (.inr (hkeeps h (by simp [Place.isReturning]) (by simp [Place.isLeased]) rfl))

namespace CountedState

variable {cfg : Config} {c c' : CountedState α} {events : List (CountedEvent α)}

/-- The length of the queue. -/
def queued (c : CountedState α) : Nat := c.pool.store.idle.length

/-- The backend that has been popped and not yet subtracted. -/
def popped (c : CountedState α) : Nat :=
  match c.lock with
  | some (.popped _) => 1
  | _ => 0

/-- What a step of the pool does to the queue and to the layer: nothing, a push, a pop, or the
start of a sweep. -/
inductive QueueStep (c c' : CountedState α) : Prop where
  | quiet (hqueued : c'.queued = c.queued) (hreturned : c'.returned = c.returned)
    (hlock : c'.lock = c.lock) (hsweeps : c'.sweeps = c.sweeps)
  | push (hfree : c.lock = none) (hqueued : c'.queued = c.queued + 1)
    (hreturned : c'.returned = c.returned + 1) (hlock : c'.lock = none)
    (hsweeps : c'.sweeps = c.sweeps)
  | pop (i : Nat) (hfree : c.lock = none) (hqueued : c'.queued + 1 = c.queued)
    (hreturned : c'.returned = c.returned) (hlock : c'.lock = some (.popped i))
    (hsweeps : c'.sweeps = c.sweeps)
  | drain (sweep : Sweep) (hopen : sweep ≠ .finished) (hfree : c.lock = none)
    (hqueued : c'.queued ≤ c.queued) (hreturned : c'.returned = c.returned)
    (hlock : c'.lock = none) (hsweeps : c'.sweeps = c.sweeps ++ [sweep])

/-- What a sweep retains is no longer than the queue was. -/
theorem length_reapQueue_le (minIdle : Nat) (expired : List BackendId) (idle : List (Conn α)) :
    (reapQueue minIdle expired [] idle).1.length ≤ idle.length := by
  have hperm := (reapQueue_perm minIdle expired [] idle).length_eq
  rw [length_append, nil_append] at hperm
  omega

variable {pool : PoolState α} {i : Nat} {action : Action} {es : List (Event α)}

/-- A step of a task that neither pushes nor pops changes nothing of the layer. -/
theorem afterPool_eq (hpush : action = .proceed → ¬ taskAt c.pool i Place.isReturning)
    (hpop : (∃ locked again, action = .look locked again) → ¬ taskAt pool i Place.isLeased) :
    c.afterPool pool (.task i action) = { c with pool } := by
  cases action with
  | proceed => exact if_neg (hpush rfl)
  | look locked again => exact if_neg (hpop ⟨locked, again, rfl⟩)
  | _ => rfl

theorem queueStep_task (hallows : c.lockAllows (.task i action) = true)
    (hpool : Pool.step cfg c.pool (.task i action) = some (pool, es)) :
    QueueStep c (c.afterPool pool (.task i action)) := by
  obtain ⟨t, store, place, ht, hmove, rfl⟩ := step_task hpool
  have hat : ∀ kind, taskAt c.pool i kind = kind t.place := by
    intro kind
    simp [taskAt, ht]
  have hlt : i < c.pool.tasks.length := by
    obtain ⟨hlt, -⟩ := List.getElem?_eq_some_iff.1 ht
    exact hlt
  have hat' : ∀ kind, taskAt { c.pool with store, tasks := c.pool.tasks.set i { t with place } }
      i kind = kind place := by
    intro kind
    simp [taskAt, hlt]
  rcases hmove.length_idle with ⟨rfl, hreturning, hlen⟩ | ⟨again, rfl, hleased, hlen⟩ |
    ⟨hreturning, hleased, hlen⟩
  · simp only [lockAllows, hat, hreturning, Bool.not_true, Bool.false_or, Bool.and_eq_true,
      isNone_iff_eq_none] at hallows
    simp only [afterPool, hat, hreturning, if_true]
    exact .push hallows.2 hlen rfl hallows.2 rfl
  · simp only [lockAllows, Bool.false_or, Bool.and_eq_true, isNone_iff_eq_none] at hallows
    simp only [afterPool, hat', hleased, if_true]
    exact .pop i hallows.2 hlen rfl rfl rfl
  · rw [afterPool_eq (by rw [hat]; exact hreturning) (by rw [hat']; exact hleased)]
    exact .quiet hlen rfl rfl rfl

theorem queueStep_pool {input : Input α} (hallows : c.lockAllows input = true)
    (hpool : Pool.step cfg c.pool input = some (pool, es)) :
    QueueStep c (c.afterPool pool input) := by
  cases input with
  | task i action => exact queueStep_task hallows hpool
  | reap expired =>
    cases hpool
    have hfree : c.lock = none := isNone_iff_eq_none.1 hallows
    exact .drain .reap (by decide) hfree (length_reapQueue_le _ _ _) rfl hfree rfl
  | retire =>
    cases hpool
    have hfree : c.lock = none := isNone_iff_eq_none.1 hallows
    exact .drain .retire (by decide) hfree (Nat.zero_le _) rfl hfree rfl
  | checkout owner mode shared =>
    cases hpool
    exact .quiet rfl rfl rfl rfl
  | reaper i =>
    obtain ⟨r, store, r', -, hstep, rfl⟩ := step_reaper hpool
    exact .quiet (congrArg length (Reaper.idle_step hstep).1) rfl rfl rfl
  | acquireElsewhere | releaseElsewhere =>
    simp only [Pool.step] at hpool
    split at hpool <;> cases hpool
    exact .quiet rfl rfl rfl rfl

/-! ### Consistency -/

/-- All sweeps are through. -/
def Swept (c : CountedState α) : Prop := ∀ sweep ∈ c.sweeps, sweep = .finished

/-- The counter, with the additions to come, covers the queue and what has been popped from it;
once no sweep is under way it does so exactly. -/
structure Consistent (c : CountedState α) : Prop where
  covers : c.queued + c.popped ≤ c.idleBackends + c.returned
  exact : c.Swept → c.idleBackends + c.returned = c.queued + c.popped
  measured : ∀ i len, c.lock = some (.measured i len) → len = c.queued

theorem popped_of_none (h : c.lock = none) : c.popped = 0 := by rw [popped, h]

theorem popped_of_popped (h : c.lock = some (.popped i)) : c.popped = 1 := by rw [popped, h]

theorem Consistent.queueStep (hc : c.Consistent) (hstep : QueueStep c c')
    (hcounter : c'.idleBackends = c.idleBackends) : c'.Consistent := by
  have hcovers := hc.covers
  have hexact : c'.sweeps = c.sweeps → c'.Swept →
      c.idleBackends + c.returned = c.queued + c.popped := by
    intro hsweeps hswept
    exact hc.exact (by rwa [Swept, hsweeps] at hswept)
  have hmeasured : (∀ i len, c'.lock ≠ some (.measured i len)) →
      ∀ i len, c'.lock = some (.measured i len) → len = c'.queued :=
    fun hnot i len hheld => absurd hheld (hnot i len)
  cases hstep with
  | quiet hqueued hreturned hlock hsweeps =>
    have hpopped : c'.popped = c.popped := by rw [popped, popped, hlock]
    refine ⟨by omega, fun hswept => ?_, fun i len hheld => ?_⟩
    · have hbefore := hexact hsweeps hswept
      omega
    · rw [hqueued]
      exact hc.measured i len (hlock ▸ hheld)
  | push hfree hqueued hreturned hlock hsweeps =>
    have hpopped := popped_of_none hfree
    have hpopped' := popped_of_none hlock
    refine ⟨by omega, fun hswept => ?_, hmeasured (by rw [hlock]; nofun)⟩
    have hbefore := hexact hsweeps hswept
    omega
  | pop i hfree hqueued hreturned hlock hsweeps =>
    have hpopped := popped_of_none hfree
    have hpopped' := popped_of_popped hlock
    refine ⟨by omega, fun hswept => ?_, hmeasured (by rw [hlock]; nofun)⟩
    have hbefore := hexact hsweeps hswept
    omega
  | drain sweep hopen hfree hqueued hreturned hlock hsweeps =>
    have hpopped' := popped_of_none hlock
    refine ⟨by omega, fun hswept => ?_, hmeasured (by rw [hlock]; nofun)⟩
    -- the sweep that has just begun is not through
    have hlast : sweep ∈ c'.sweeps := by rw [hsweeps]; simp
    exact absurd (hswept sweep hlast) hopen

/-- An access that finds the counter as it should be: a subtraction while the returns still to
be counted are all in the queue, and a store while there is nothing it could lose. -/
def Undisturbed (c : CountedState α) : CountedInput α → Prop
  | .fetchSub => c.returned ≤ c.queued
  | .storeLen => c.returned = 0
  | .storeZero _ => c.returned = 0 ∧ c.queued = 0 ∧ c.popped = 0
  | _ => True

instance (c : CountedState α) : ∀ input, Decidable (c.Undisturbed input)
  | .fetchSub => inferInstanceAs (Decidable (_ ≤ _))
  | .storeLen => inferInstanceAs (Decidable (_ = _))
  | .storeZero _ => inferInstanceAs (Decidable (_ ∧ _))
  | .pool _ | .fetchAdd | .measure _ => inferInstanceAs (Decidable True)

/-- What an undisturbed step may emit: no decrement from zero. -/
def NoWrap : CountedEvent α → Prop
  | .subtracted n => 0 < n
  | .pool _ => True

theorem Consistent.step {input : CountedInput α} (hc : c.Consistent)
    (hundisturbed : c.Undisturbed input) (hstep : c.step cfg input = some (c', events)) :
    c'.Consistent ∧ ∀ e ∈ events, NoWrap e := by
  have hcovers := hc.covers
  cases access_of_step hstep with
  | @pool input pool es hallows hpool =>
    refine ⟨hc.queueStep (queueStep_pool hallows hpool) (afterPool_idleBackends pool input), ?_⟩
    intro e he
    obtain ⟨e, -, rfl⟩ := mem_map.1 he
    trivial
  | @fetchAdd n hreturned =>
    refine ⟨⟨?_, fun hswept => ?_, hc.measured⟩, by simp⟩
    · change c.queued + c.popped ≤ c.idleBackends + 1 + n
      omega
    · have hexact := hc.exact hswept
      change c.idleBackends + 1 + n = c.queued + c.popped
      omega
  | fetchSub hlock =>
    have hpopped := popped_of_popped hlock
    have hsmall : c.returned ≤ c.queued := hundisturbed
    -- the popped backend and those in the queue are more than the additions to come
    have hpos : 0 < c.idleBackends := by omega
    have hsub := fetchSub_of_pos hpos
    refine ⟨⟨?_, fun hswept => ?_, fun i len hheld => by cases hheld⟩, ?_⟩
    · change c.queued + 0 ≤ fetchSub c.idleBackends + c.returned
      omega
    · have hexact := hc.exact hswept
      change fetchSub c.idleBackends + c.returned = c.queued + 0
      omega
    · intro e he
      rw [mem_singleton.1 he]
      exact hpos
  | measure hfree =>
    have hpopped := popped_of_none hfree
    refine ⟨⟨?_, fun hswept => ?_, fun j len hheld => ?_⟩, by simp⟩
    · change c.queued + 0 ≤ c.idleBackends + c.returned
      omega
    · have hexact := hc.exact hswept
      change c.idleBackends + c.returned = c.queued + 0
      omega
    · cases hheld
      rfl
  | @storeLen i len hlock =>
    have hlen := hc.measured i len hlock
    have hnone : c.returned = 0 := hundisturbed
    have hstored : len + c.returned = c.queued + 0 := by omega
    exact ⟨⟨hstored.ge, fun _ => hstored, fun j len hheld => by cases hheld⟩, by simp⟩
  | storeZero =>
    obtain ⟨hnone, hempty, hpopped⟩ := hundisturbed
    have hstored : 0 + c.returned = c.queued + c.popped := by omega
    exact ⟨⟨hstored.ge, fun _ => hstored, hc.measured⟩, by simp⟩

theorem consistent_initial (permits : Option Nat) : (initial permits : CountedState α).Consistent :=
  ⟨Nat.le_refl 0, fun _ => rfl, fun _ _ h => by cases h⟩

/-- No operation on the queue is in progress. -/
def Quiet (c : CountedState α) : Prop := c.returned = 0 ∧ c.lock = none ∧ c.Swept

instance (c : CountedState α) : Decidable c.Quiet :=
  inferInstanceAs (Decidable (_ ∧ _ ∧ ∀ sweep ∈ c.sweeps, sweep = .finished))

end CountedState

/-- **The counter follows the queue while nothing interferes.** In every interleaving whose
accesses to the counter are undisturbed, the counter is never decremented from zero, and
whenever no operation is in progress it is the length of the queue. -/
theorem idleBackends_of_undisturbed (cfg : Config) (permits : Option Nat)
    (inputs : List (CountedInput α)) {c : CountedState α} {events : List (CountedEvent α)}
    (hrun : (countedMachine cfg).run (.initial permits) inputs = some (c, events))
    (hmeets : (countedMachine cfg).Meets CountedState.Undisturbed (.initial permits) inputs) :
    (∀ n, .subtracted n ∈ events → 0 < n) ∧
      (c.Quiet → c.idleBackends = c.pool.store.idle.length) := by
  obtain ⟨hc, hevents⟩ := (countedMachine cfg).invariant_of_step
    (fun _ _ _ _ hc hundisturbed hstep => CountedState.Consistent.step hc hundisturbed hstep)
    (CountedState.consistent_initial permits) hrun hmeets
  refine ⟨fun n hn => hevents _ hn, fun ⟨hreturned, hlock, hswept⟩ => ?_⟩
  have hexact := hc.exact hswept
  rw [hreturned, CountedState.popped_of_none hlock] at hexact
  exact hexact

/-! ### Interference -/

/-- A checkout connects, serves and gives its backend back, up to the push. -/
def connectAndReturn : List (CountedInput Unit) :=
  [.pool (.checkout () .allowConnect false), .pool (.task 0 .pass),
    .pool (.task 0 (.look false false)), .pool (.task 0 .proceed), .pool (.task 0 .proceed),
    .pool (.task 0 .connected), .pool (.task 0 (.startup true)), .pool (.task 0 .release),
    .pool (.task 0 .proceed)]

/-- A second checkout takes the backend after it has been counted, and returns it; it is then
reaped. -/
def reuseAndReap : List (CountedInput Unit) :=
  connectAndReturn ++
    [.fetchAdd, .pool (.checkout () .reuseOnly false), .pool (.task 1 .pass),
      .pool (.task 1 (.look false false)), .fetchSub, .pool (.task 1 (.startup true)),
      .pool (.task 1 .release), .pool (.task 1 .proceed), .fetchAdd, .pool (.reap [1]),
      .pool (.reaper 0), .pool (.reaper 0), .measure 0, .storeLen]

theorem idleBackends_reuseAndReap :
    ∃ c : CountedState Unit, ∃ events,
      (countedMachine ⟨1, 0⟩).run (.initial none) reuseAndReap = some (c, events) ∧ c.Quiet ∧
        .subtracted 1 ∈ events ∧ c.idleBackends = c.pool.store.idle.length := by
  have hmeets : (countedMachine ⟨1, 0⟩).Meets CountedState.Undisturbed (.initial none)
      reuseAndReap := by decide +kernel
  obtain ⟨⟨c, events⟩, hrun⟩ : ∃ r, (countedMachine ⟨1, 0⟩).run (.initial none) reuseAndReap =
      some r := isSome_iff_exists.1 (by decide +kernel)
  have hquiet : ∀ r, (countedMachine ⟨1, 0⟩).run (.initial none) reuseAndReap = some r →
      r.1.Quiet ∧ .subtracted 1 ∈ r.2 := by decide +kernel
  obtain ⟨hquiet, hsubtracted⟩ := hquiet _ hrun
  exact ⟨c, events, hrun, hquiet, hsubtracted,
    (idleBackends_of_undisturbed ⟨1, 0⟩ none reuseAndReap hrun hmeets).2 hquiet⟩

/-- **The counter wraps, and it drifts.** A checkout that pops a backend before its return has
been counted decrements the counter from zero; a sweep that stores the length of the queue
between the push and the addition leaves the counter wrong when all is quiet again. -/
theorem idleBackends_wraps_and_drifts :
    (∃ r ∈ (countedMachine ⟨1, 0⟩).run (.initial none : CountedState Unit)
        (connectAndReturn ++ [.pool (.checkout () .reuseOnly false), .pool (.task 1 .pass),
          .pool (.task 1 (.look false false)), .fetchSub]),
      .subtracted 0 ∈ r.2 ∧ r.1.idleBackends = 2 ^ 64 - 1) ∧
    ∃ r ∈ (countedMachine ⟨1, 0⟩).run (.initial none : CountedState Unit)
        (connectAndReturn ++ [.pool (.reap []), .measure 0, .storeLen, .fetchAdd]),
      r.1.Quiet ∧ r.1.idleBackends = 2 ∧ r.1.pool.store.idle.length = 1 := by
  decide +kernel

end Pool

end PgKinetic
