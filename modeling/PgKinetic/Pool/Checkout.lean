import PgKinetic.Lib.Machine
import PgKinetic.Protocol.Prepare

/-!
# The backend pool

`BackendStore` keeps the idle backends of a pool in a queue and counts the slots in use in
`active_backends`; the pools of a proxy may share a semaphore that bounds them together.
`checkout_with_mode` takes an idle backend or reserves a slot and connects, and a lease gives the
backend back or discards it. All of this runs in many tasks at once, on several threads.

The model is an event machine over a list of tasks, each with its **place** in the code; an input
moves one task from one atomic access to the next, so that a run is any interleaving of them.
What a task cannot see coming is part of the input: whether the queue is locked, whether a
connection is made, who wakes it, and whether `checkout_timeout` cancels it where it waits.

A task follows its lease until the backend is back in the queue or discarded. In between it is a
session: it runs the startup of a backend that `requires_startup`, as its **owner**, and then
queries. A connection remembers as what it has been started.

Left out: the two gates and the circuit breaker that a checkout passes first (they admit it or
refuse it); the times of `BackendLifecycle` (the environment says which idle backends have
expired); the counter `idle_backends`, which decides only whether a first look at the queue is
repeated; health, metrics and snapshots.
-/

namespace PgKinetic

open EventMachine

namespace Pool

/-! ### The store -/

/-- `CheckoutMode`. -/
inductive CheckoutMode where
  | allowConnect
  | preferConnect
  | reuseOnly
  deriving DecidableEq, Repr

/-- A backend connection, and as what it has completed the startup, if it has. -/
structure Conn (α : Type) where
  id : BackendId
  startedAs : Option α
  deriving DecidableEq, Repr

/-- The settings of a pool. -/
structure Config where
  maxBackends : Nat
  minIdle : Nat := 0

/-- `BackendStore`: the idle queue, the counter of slots, the permits of registered backends, and
what is left in the semaphore, if there is one. `nextId` is the counter of backend ids. -/
structure Store (α : Type) where
  idle : List (Conn α) := []
  activeBackends : Nat := 0
  globalPermits : List BackendId := []
  globalSlots : Option Nat
  nextId : BackendId := 1
  deriving DecidableEq, Repr

/-- `AtomicUsize::fetch_sub` of one, which wraps around. -/
def fetchSub (n : Nat) : Nat := if n = 0 then 2 ^ 64 - 1 else n - 1

namespace Store

variable {α : Type} (s : Store α)

/-- The compare-and-exchange of `reserve_backend_slot`. -/
def reserveSlot (cfg : Config) : Option (Store α) :=
  if s.activeBackends < cfg.maxBackends then
    some { s with activeBackends := s.activeBackends + 1 }
  else none

/-- `try_acquire_owned`, with whether there is a permit to hold. -/
def acquirePermit : Option (Store α × Bool) :=
  match s.globalSlots with
  | none => some (s, false)
  | some 0 => none
  | some (n + 1) => some ({ s with globalSlots := some n }, true)

/-- A permit is dropped. -/
def dropPermit (permit : Bool) : Store α :=
  if permit then { s with globalSlots := s.globalSlots.map (· + 1) } else s

/-- The counter's part of `release_reserved_backend_slot`. -/
def releaseReservedBackendSlot : Store α := { s with activeBackends := fetchSub s.activeBackends }

/-- A connection is made and registered: `register_backend`. The permit that an insertion under
the same id would displace is dropped. -/
def registerBackend (permit : Bool) : Store α × Conn α :=
  let conn : Conn α := ⟨s.nextId, none⟩
  let s := { s with nextId := s.nextId + 1 }
  if !permit then (s, conn)
  else if conn.id ∈ s.globalPermits then (s.dropPermit true, conn)
  else ({ s with globalPermits := conn.id :: s.globalPermits }, conn)

/-- `try_checkout_idle_backend`, when the queue is not locked. -/
def tryCheckoutIdleBackend : Option (Store α × Conn α) :=
  match s.idle with
  | [] => none
  | conn :: idle => some ({ s with idle }, conn)

/-- The queue's part of `return_backend`. -/
def returnBackend (conn : Conn α) : Store α := { s with idle := s.idle ++ [conn] }

/-- The permit of a backend is removed and dropped. -/
def removePermit (id : BackendId) : Store α :=
  if id ∈ s.globalPermits then
    dropPermit { s with globalPermits := s.globalPermits.erase id } true
  else s

end Store

/-- The queue's part of `reap_idle`: what is retained, and what is evicted. -/
def reapQueue {α : Type} (minIdle : Nat) (expired : List BackendId) :
    List (Conn α) → List (Conn α) → List (Conn α) × List (Conn α)
  | retained, [] => (retained, [])
  | retained, conn :: idle =>
    if conn.id ∈ expired ∧ minIdle ≤ retained.length + idle.length then
      let (retained, evicted) := reapQueue minIdle expired retained idle
      (retained, conn :: evicted)
    else reapQueue minIdle expired (retained ++ [conn]) idle

/-! ### Tasks -/

/-- The three calls of `reserve_backend_slot` in `checkout_with_mode`. -/
inductive Site where
  | prefer
  | allow
  | loop
  deriving DecidableEq, Repr

/-- The `requires_startup` of the lease made of a backend connected at the site: the lease after
the loop says `false`. -/
def Site.requiresStartup : Site → Bool
  | .prefer | .allow => true
  | .loop => false

/-- Where a task is. -/
inductive Place (α : Type) where
  /-- Waiting at the gates. -/
  | gates
  | reserving (site : Site)
  /-- The slot is reserved, the permit not yet acquired. -/
  | reserved (site : Site)
  /-- There was no permit, and the slot is about to be given back. -/
  | withoutPermit (site : Site)
  | connecting (site : Site) (permit : Bool)
  /-- The connection failed, and the slot is about to be given back. -/
  | connectFailed (site : Site)
  /-- The first look at the queue. -/
  | looking
  /-- At the head of the loop. -/
  | looping
  /-- In the loop, in `checkout_idle_backend(true)`. -/
  | waiting
  | leased (conn : Conn α) (requiresStartup : Bool)
  /-- Past the startup. -/
  | serving (conn : Conn α) (requiresStartup : Bool)
  | returning (conn : Conn α)
  | discarding (id : BackendId)
  /-- Discarded, and the slot about to be given back. -/
  | leaving
  | done
  deriving DecidableEq, Repr

/-- A task: a checkout and the session it is for. `shared` says which of the two session loops
that is. -/
structure Task (α : Type) where
  owner : α
  mode : CheckoutMode
  shared : Bool
  place : Place α
  deriving DecidableEq, Repr

/-- What may happen to a task next. -/
inductive Action where
  /-- The next access of the task itself. -/
  | proceed
  /-- The gates let the checkout pass. -/
  | pass
  /-- The gates or the circuit breaker refuse the checkout. -/
  | refuse
  | connected
  | connectFailed
  /-- A look at the queue, and what follows if it finds nothing: another look, or going on. -/
  | look (locked again : Bool)
  /-- `checkout_timeout` strikes. -/
  | cancel
  /-- The startup of the backend, if it requires one, with its success. -/
  | startup (ok : Bool)
  /-- A cycle on the backend, and the success of the startup the shared loop may put before it. -/
  | query (ok : Bool)
  | release
  | discard
  deriving DecidableEq, Repr

/-- What a task does that matters to others. -/
inductive Event (α : Type) where
  /-- A lease is returned by `checkout_with_mode`; `connected` says whether by connecting. -/
  | leased (conn : Conn α) (owner : α) (requiresStartup connected : Bool)
  /-- The startup packet of the owner is sent on a connection. -/
  | started (conn : Conn α) (owner : α)
  | queried (conn : Conn α) (owner : α)
  /-- The counter of slots is decremented from this value. -/
  | slotReleased (activeBackends : Nat)
  deriving DecidableEq, Repr

namespace Task

variable {α : Type} (t : Task α)

/-- Where a checkout goes on if it gets no slot at the site. -/
def afterNoSlot : Site → Place α
  | .prefer => .looking
  | .allow => .looping
  | .loop => .waiting

/-- Where a checkout goes on if the connection fails: an error ends it, except where it prefers
to connect. -/
def afterConnectFailed : Site → Place α
  | .prefer => .looking
  | .allow | .loop => .done

/-- Where a look at the queue that finds nothing leads to. -/
def afterLook (again : Bool) : Place α → Place α
  | .looking =>
    if again then .looking
    else if t.mode = .allowConnect then .reserving .allow else .looping
  -- `again` plays no part here: the loop looks once in each turn
  | .looping => if t.mode = .allowConnect then .reserving .loop else .waiting
  | place => if again then place else .looping

/-- A look at the queue. -/
def look (s : Store α) (locked again : Bool) : Store α × Place α × List (Event α) :=
  match if locked then none else s.tryCheckoutIdleBackend with
  | some (s, conn) => (s, .leased conn false, [.leased conn t.owner false false])
  | none => (s, t.afterLook again t.place, [])

/-- The startup packet is sent on the connection; if the startup fails, the backend is
discarded. -/
def start (s : Store α) (conn : Conn α) (ok : Bool) (events : List (Event α)) :
    Store α × Place α × List (Event α) :=
  let conn' := { conn with startedAs := some t.owner }
  if ok then (s, .serving conn' true, .started conn t.owner :: events)
  else (s, .discarding conn.id, [.started conn t.owner])

/-- One move of a task: what it does to the store, where it leads, and its events. -/
def step (cfg : Config) (s : Store α) (action : Action) :
    Option (Store α × Place α × List (Event α)) :=
  match t.place, action with
  | .gates, .pass => some (s, if t.mode = .preferConnect then .reserving .prefer else .looking, [])
  | .gates, .refuse | .gates, .cancel | .waiting, .cancel => some (s, .done, [])
  | .reserving site, .proceed =>
    match s.reserveSlot cfg with
    | some s => some (s, .reserved site, [])
    | none => some (s, afterNoSlot site, [])
  | .reserved site, .proceed =>
    match s.acquirePermit with
    | some (s, permit) => some (s, .connecting site permit, [])
    | none => some (s, .withoutPermit site, [])
  | .withoutPermit site, .proceed =>
    some (s.releaseReservedBackendSlot, afterNoSlot site, [.slotReleased s.activeBackends])
  | .connecting site permit, .connected =>
    let (s, conn) := s.registerBackend permit
    some (s, .leased conn site.requiresStartup,
      [.leased conn t.owner site.requiresStartup true])
  | .connecting site permit, .connectFailed => some (s.dropPermit permit, .connectFailed site, [])
  -- the future is dropped with the permit in it, and nothing gives the slot back
  | .connecting _ permit, .cancel => some (s.dropPermit permit, .done, [])
  | .connectFailed site, .proceed =>
    some (s.releaseReservedBackendSlot, afterConnectFailed site,
      [.slotReleased s.activeBackends])
  | .looking, .look locked again | .looping, .look locked again | .waiting, .look locked again =>
    some (t.look s locked again)
  | .leased conn requiresStartup, .startup ok =>
    if requiresStartup then some (t.start s conn ok [])
    else some (s, .serving conn false, [])
  | .serving conn requiresStartup, .query ok =>
    -- the shared loop asks the lease again before each cycle on a backend it holds
    if t.shared && requiresStartup then
      some (t.start s conn ok [.queried { conn with startedAs := some t.owner } t.owner])
    else some (s, .serving conn requiresStartup, [.queried conn t.owner])
  | .serving conn _, .release => some (s, .returning conn, [])
  | .leased conn _, .discard | .serving conn _, .discard => some (s, .discarding conn.id, [])
  | .returning conn, .proceed => some (s.returnBackend conn, .done, [])
  | .discarding id, .proceed => some (s.removePermit id, .leaving, [])
  | .leaving, .proceed =>
    some (s.releaseReservedBackendSlot, .done, [.slotReleased s.activeBackends])
  | _, _ => none

end Task

/-- A run of `reap_idle` or `retire_idle_backends` after it has emptied the queue. -/
inductive Reaper where
  /-- The evicted backends to go, each with its permit and its slot. -/
  | evicting (ids : List BackendId)
  /-- The permit of one is removed, its slot about to be given back; then the others. -/
  | evicted (ids : List BackendId)
  deriving DecidableEq, Repr

/-- One move of a reaper. -/
def Reaper.step {α : Type} (s : Store α) :
    Reaper → Option (Store α × Reaper × List (Event α))
  | .evicting [] => none
  | .evicting (id :: ids) => some (s.removePermit id, .evicted ids, [])
  | .evicted ids =>
    some (s.releaseReservedBackendSlot, .evicting ids, [.slotReleased s.activeBackends])

/-! ### The pool as a machine -/

/-- A pool and everything that runs on it. `elsewhere` counts the permits that the other pools
have taken from the semaphore. -/
structure PoolState (α : Type) where
  store : Store α
  tasks : List (Task α) := []
  reapers : List Reaper := []
  elsewhere : Nat := 0

/-- An input: a new task, a move of a task or reaper, or another pool at the semaphore. -/
inductive Input (α : Type) where
  | checkout (owner : α) (mode : CheckoutMode) (shared : Bool)
  | task (i : Nat) (action : Action)
  /-- `reap_idle`, with the backends that have expired. -/
  | reap (expired : List BackendId)
  /-- `retire_idle_backends`. -/
  | retire
  | reaper (i : Nat)
  | acquireElsewhere
  | releaseElsewhere
  deriving DecidableEq, Repr

variable {α : Type}

/-- One step of the pool. -/
def step (cfg : Config) (st : PoolState α) :
    Input α → Option (PoolState α × List (Event α))
  | .checkout owner mode shared =>
    some ({ st with tasks := st.tasks ++ [⟨owner, mode, shared, .gates⟩] }, [])
  | .task i action => do
    let t ← st.tasks[i]?
    let (store, place, events) ← t.step cfg st.store action
    some ({ st with store, tasks := st.tasks.set i { t with place } }, events)
  | .reap expired =>
    let (idle, evicted) := reapQueue cfg.minIdle expired [] st.store.idle
    some ({ st with store := { st.store with idle },
                    reapers := st.reapers ++ [.evicting (evicted.map (·.id))] }, [])
  | .retire =>
    some ({ st with store := { st.store with idle := [] },
                    reapers := st.reapers ++ [.evicting (st.store.idle.map (·.id))] }, [])
  | .reaper i => do
    let r ← st.reapers[i]?
    let (store, r, events) ← r.step st.store
    some ({ st with store, reapers := st.reapers.set i r }, events)
  | .acquireElsewhere =>
    match st.store.globalSlots with
    | some (n + 1) =>
      some ({ st with store := { st.store with globalSlots := some n },
                      elsewhere := st.elsewhere + 1 }, [])
    | _ => none
  | .releaseElsewhere =>
    match st.elsewhere with
    | 0 => none
    | n + 1 => some ({ st with store := st.store.dropPermit true, elsewhere := n }, [])

/-- The pool as a machine. -/
def machine (cfg : Config) : Machine (PoolState α) (Input α) (Event α) where
  step := step cfg

/-- A new pool, on a semaphore with `permits` permits if there is one. -/
def PoolState.initial (permits : Option Nat) : PoolState α where
  store := { globalSlots := permits }

end Pool

end PgKinetic
