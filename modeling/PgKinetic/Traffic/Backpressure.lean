import PgKinetic.Lib.Admission
import PgKinetic.Lib.Tally
import PgKinetic.Pool.Checkout
import Mathlib.Algebra.Order.Group.Multiset

/-!
# Backpressure gates

A `BackpressureGate` bounds the permits that are out at once by a semaphore of `max_in_flight`
permits and by a limit that may be lowered and raised while the gate is in use. A checkout takes
a permit of the semaphore, counts itself in `in_flight` and then compares what it found there
with the limit; if the limit is exceeded it undoes both and waits. Those who wait are counted in
`waiters`, and turned away when there are `max_waiters` already.

A checkout may have to pass several gates in turn: `BackpressureCoordinator::checkout` the gate
of its route and the global one, `checkout_with_mode` the gate of its route and that of the pool.
The permits are then joined into one, which gives them back together.

As in the pool, tasks have a place in the code and an input moves one of them from one atomic
access to the next. A task can be **cancelled** where it awaits: its future is dropped, with the
permits it has from gates already passed, and the code after the await does not run.

The limits live in cells of their own, since gates may share one (`with_dynamic_limit`). For each
gate, a ledger remembers in which order the checkouts have counted themselves; nothing in the
model reads it but the events.
-/

namespace PgKinetic

open EventMachine Tally

namespace Backpressure

/-- `BackpressureError`. -/
inductive BackpressureError where
  | queueFull
  | timeout
  | closed
  deriving DecidableEq, Repr

/-! ### Gates -/

/-- The constants of a gate, and the cell of its `dynamic_limit`. -/
structure GateConfig where
  maxInFlight : Nat
  maxWaiters : Nat
  limitCell : Nat
  deriving DecidableEq, Repr

/-- The sizes of `BackpressureGate::new` and `with_dynamic_limit`. -/
def GateConfig.new (maxInFlight maxWaiters limitCell : Nat) : GateConfig :=
  ⟨max maxInFlight 1, maxWaiters, limitCell⟩

/-- The counters of a gate: what is left in the semaphore `capacity`, `waiters`, `in_flight`. -/
structure Gate where
  capacity : Nat
  waiters : Nat := 0
  inFlight : Nat := 0
  deriving DecidableEq, Repr

variable {γ : Type}

/-- What the tasks share. -/
structure Shared (γ : Type) where
  gates : γ → Gate
  limits : Nat → Nat
  ledgers : γ → List (Admission.Entry Nat)

namespace Shared

variable (cfg : γ → GateConfig) (s : Shared γ)

/-- `limit`. -/
def limit (g : γ) : Nat := min (max (s.limits (cfg g).limitCell) 1) (cfg g).maxInFlight

/-- A store to the cell of a limit. -/
def storeLimit (cell value : Nat) : Shared γ :=
  let s := { s with limits := Function.update s.limits cell value }
  { s with ledgers := fun g => Admission.relimit (s.ledgers g) (s.limit cfg g) }

/-- `set_limit`. -/
def setLimit (g : γ) (limit : Nat) : Shared γ :=
  s.storeLimit cfg (cfg g).limitCell (min (max limit 1) (cfg g).maxInFlight)

variable [DecidableEq γ]

def setGate (g : γ) (gate : Gate) : Shared γ := { s with gates := Function.update s.gates g gate }

def setLedger (g : γ) (ledger : List (Admission.Entry Nat)) : Shared γ :=
  { s with ledgers := Function.update s.ledgers g ledger }

/-- A permit of the semaphore is taken, if there is one. -/
def acquire (g : γ) : Option (Shared γ) :=
  match (s.gates g).capacity with
  | 0 => none
  | n + 1 => some (s.setGate g { s.gates g with capacity := n })

/-- A permit of the semaphore is dropped. -/
def releasePermit (g : γ) : Shared γ :=
  s.setGate g { s.gates g with capacity := (s.gates g).capacity + 1 }

/-- `waiters.fetch_add(1)`. -/
def enqueue (g : γ) : Shared γ := s.setGate g { s.gates g with waiters := (s.gates g).waiters + 1 }

/-- `waiters.fetch_sub(1)`. -/
def dequeue (g : γ) : Shared γ :=
  s.setGate g { s.gates g with waiters := Pool.fetchSub (s.gates g).waiters }

/-- `in_flight.fetch_add(1)` of task `i`. -/
def countIn (g : γ) (i : Nat) : Shared γ :=
  (s.setGate g { s.gates g with inFlight := (s.gates g).inFlight + 1 }).setLedger g
    (Admission.arrive (s.ledgers g) i (s.limit cfg g))

/-- `in_flight.fetch_sub(1)` of task `i`. -/
def countOut (g : γ) (i : Nat) : Shared γ :=
  (s.setGate g { s.gates g with inFlight := Pool.fetchSub (s.gates g).inFlight }).setLedger g
    (Admission.leave (s.ledgers g) i)

/-- Task `i` is granted its permit. -/
def grant (g : γ) (i : Nat) : Shared γ :=
  s.setLedger g (Admission.grant (s.ledgers g) i (s.limit cfg g))

/-- The largest limit since task `i` has counted itself. -/
def peak (g : γ) (i : Nat) : Nat :=
  ((Admission.entriesOf (s.ledgers g) i).head?.map (·.bound)).getD 0

end Shared

/-! ### Tasks -/

/-- The two awaits: `capacity_changed.notified()` and `acquire_owned()`. -/
inductive WaitSite where
  | capacityChange
  | permit
  deriving DecidableEq, Repr

/-- Where a task is, at the gate it has come to. -/
inductive Place (γ : Type) where
  /-- At the head of the loop. -/
  | entering
  /-- `in_flight` is read, the limit is not. -/
  | loaded (inFlight : Nat)
  /-- About to count itself as a waiter. -/
  | queueing (site : WaitSite)
  /-- One waiter too many, about to go. -/
  | full
  /-- At an await. -/
  | waiting (site : WaitSite)
  /-- The semaphore has handed it a permit; the future has not been polled since. -/
  | assigned
  /-- Past an await, with a permit, a change of capacity or an error, and still counted. -/
  | woken (site : WaitSite) (error : Option BackpressureError)
  | trying
  /-- With a permit of the semaphore. -/
  | acquired
  /-- Counted in `in_flight`, about to read the limit. -/
  | counted (previous : Nat)
  /-- Refused, about to be counted out. -/
  | undoing
  /-- Counted out, about to drop the permit of the semaphore. -/
  | undone
  /-- Past one gate, before the next. -/
  | passed
  /-- A route that may be shed has read `in_flight` of the global gate. -/
  | shedding (inFlight : Nat)
  /-- Past all gates: the permit is out. -/
  | holding
  /-- A permit is being dropped: these gates are still to be counted out. -/
  | subtracting (gates : List γ) (error : Option BackpressureError)
  /-- The semaphores of these gates are still to get their permits back. -/
  | releasing (gates : List γ) (error : Option BackpressureError)
  | ended (error : Option BackpressureError)
  deriving DecidableEq, Repr

/-- A checkout: the gates still to pass, the one it has come to first; the gates it has passed,
whose permits it holds; and the gate at whose await it has been cancelled. -/
structure Task (γ : Type) where
  todo : List γ
  held : List γ := []
  place : Place γ := .entering
  cancelledAt : Option γ := none
  deriving DecidableEq, Repr

/-- What a task stands for at the gates: the permits it has that are **outstanding**, the gates
that have counted it in `in_flight` and not decided, the permits of semaphores it holds, the
gates where it waits, from one access of `waiters` to the other, and where it is still counted
as a waiter after it has been cancelled. -/
@[ext] structure Standing (γ : Type) where
  outstanding : Multiset γ := 0
  undecided : Multiset γ := 0
  permits : Multiset γ := 0
  waits : Multiset γ := 0
  leaked : Multiset γ := 0
  deriving DecidableEq

/-- What a task at a place stands for, with the permits it holds and the gate it is at. -/
def Place.standing (held here : Multiset γ) : Place γ → Standing γ
  | .entering | .loaded _ | .queueing _ | .trying | .passed | .shedding _ | .holding =>
    { outstanding := held, permits := held }
  | .full | .waiting _ | .woken .capacityChange _ | .woken .permit (some _) =>
    { outstanding := held, permits := held, waits := here }
  | .assigned | .woken .permit none =>
    { outstanding := held, permits := held + here, waits := here }
  | .acquired | .undone => { outstanding := held, permits := held + here }
  | .counted _ | .undoing => { outstanding := held, undecided := here, permits := held + here }
  | .subtracting gates _ => { outstanding := gates, permits := held }
  | .releasing gates _ => { permits := gates }
  | .ended _ => {}

def Task.standing (t : Task γ) : Standing γ :=
  { t.place.standing t.held (t.todo.take 1 : List γ) with
    leaked := (t.cancelledAt.toList : List γ) }

/-- What may happen to a task next. -/
inductive Action where
  /-- Its next access. -/
  | proceed
  /-- What it awaits has come: a permit, a notification, or the end of the polling interval. -/
  | wake
  /-- The deadline of the checkout. -/
  | timeout
  /-- The future is dropped. -/
  | cancel
  /-- Whether the route is one that may be shed. -/
  | shed (sheddable : Bool)
  /-- The permit is dropped. -/
  | drop
  deriving DecidableEq, Repr

/-- What can be seen at a gate. -/
inductive Event (γ : Type) where
  /-- A permit is granted: the limit read, the largest limit since the checkout was counted, and
  the permits that are out, this one included. -/
  | granted (gate : γ) (limit peak outstanding : Nat)
  /-- A checkout is turned away, with so many others waiting. -/
  | queueFull (gate : γ) (waiting : Nat)
  deriving DecidableEq, Repr

namespace Task

variable (t : Task γ)

/-- The checkout fails, or is dropped: so are the permits it holds. -/
def giveUp (error : Option BackpressureError) : Task γ :=
  { t with place := .subtracting t.held error }

/-- The checkout has passed the gate it had come to. -/
def pass (g : γ) (rest : List γ) : Task γ :=
  { t with
    todo := rest
    held := t.held ++ [g]
    place := if rest.isEmpty then .holding else .passed }

variable [DecidableEq γ] (cfg : γ → GateConfig) (i : Nat) (outstanding waiting : γ → Nat)
  (s : Shared γ)

/-- A move of task `i` at the gate `g` it has come to, with the gates `rest` after it; the last
arguments are what the events report. -/
def stepAt (g : γ) (rest : List γ) (action : Action) :
    Option (Shared γ × Task γ × List (Event γ)) :=
  match t.place, action with
  | .entering, .proceed => some (s, { t with place := .loaded (s.gates g).inFlight }, [])
  | .loaded n, .proceed =>
    let place := if s.limit cfg g ≤ n then .queueing .capacityChange else .trying
    some (s, { t with place }, [])
  | .queueing site, .proceed =>
    if (cfg g).maxWaiters ≤ (s.gates g).waiters then
      some (s.enqueue g, { t with place := .full }, [.queueFull g (waiting g)])
    else some (s.enqueue g, { t with place := .waiting site }, [])
  | .full, .proceed => some (s.dequeue g, t.giveUp (some .queueFull), [])
  | .waiting .permit, .wake =>
    match s.acquire g with
    | some s => some (s, { t with place := .assigned }, [])
    | none => none
  | .assigned, .proceed => some (s, { t with place := .woken .permit none }, [])
  | .waiting .capacityChange, .wake => some (s, { t with place := .woken .capacityChange none }, [])
  | .waiting site, .timeout => some (s, { t with place := .woken site (some .timeout) }, [])
  -- the decrement stands after the await and is not run
  | .waiting _, .cancel => some (s, { t.giveUp none with cancelledAt := some g }, [])
  | .assigned, .cancel => some (s.releasePermit g, { t.giveUp none with cancelledAt := some g }, [])
  | .woken _ (some error), .proceed => some (s.dequeue g, t.giveUp (some error), [])
  | .woken .permit none, .proceed => some (s.dequeue g, { t with place := .acquired }, [])
  | .woken .capacityChange none, .proceed => some (s.dequeue g, { t with place := .entering }, [])
  | .trying, .proceed =>
    match s.acquire g with
    | some s => some (s, { t with place := .acquired }, [])
    | none => some (s, { t with place := .queueing .permit }, [])
  | .acquired, .proceed =>
    some (s.countIn cfg g i, { t with place := .counted (s.gates g).inFlight }, [])
  | .counted previous, .proceed =>
    if previous < s.limit cfg g then
      some (s.grant cfg g i, t.pass g rest,
        [.granted g (s.limit cfg g) (s.peak g i) (outstanding g + 1)])
    else some (s, { t with place := .undoing }, [])
  | .undoing, .proceed => some (s.countOut g i, { t with place := .undone }, [])
  | .undone, .proceed => some (s.releasePermit g, { t with place := .queueing .capacityChange }, [])
  | .passed, .shed sheddable =>
    let place := if sheddable then .shedding (s.gates g).inFlight else .entering
    some (s, { t with place }, [])
  | .shedding n, .proceed =>
    if s.limit cfg g ≤ n then some (s, t.giveUp (some .queueFull), [])
    else some (s, { t with place := .entering }, [])
  | _, _ => none

/-- A move of a task that drops the permits it holds. -/
def stepDrop (action : Action) : Option (Shared γ × Task γ × List (Event γ)) :=
  match t.place, action with
  | .holding, .drop => some (s, t.giveUp none, [])
  | .subtracting (g :: gates) error, .proceed =>
    some (s.countOut g i, { t with place := .subtracting gates error }, [])
  | .subtracting [] error, .proceed => some (s, { t with place := .releasing t.held error }, [])
  | .releasing (g :: gates) error, .proceed =>
    some (s.releasePermit g, { t with place := .releasing gates error }, [])
  | .releasing [] error, .proceed => some (s, { t with place := .ended error }, [])
  | _, _ => none

/-- The permits are being dropped, or about to be. -/
def dropping : Bool :=
  match t.place with
  | .holding | .subtracting _ _ | .releasing _ _ | .ended _ => true
  | _ => false

/-- One move of task `i`. -/
def step (action : Action) : Option (Shared γ × Task γ × List (Event γ)) :=
  if t.dropping then t.stepDrop i s action
  else
    match t.todo with
    | g :: rest => t.stepAt cfg i outstanding waiting s g rest action
    | [] => none

end Task

/-! ### The machine -/

/-- The gates and the checkouts so far, with those that have ended. -/
structure GatesState (γ : Type) where
  shared : Shared γ
  tasks : List (Task γ) := []

/-- An input: a checkout that is to pass some gates in turn, a move of a task, `set_limit`, or
another store to the cell of a limit. -/
inductive Input (γ : Type) where
  | checkout (gates : List γ)
  | task (i : Nat) (action : Action)
  | setLimit (gate : γ) (limit : Nat)
  | storeLimit (cell value : Nat)
  deriving DecidableEq, Repr

namespace GatesState

variable [DecidableEq γ] (cfg : γ → GateConfig) (st : GatesState γ)

/-- The permits of a gate that are out. -/
def outstanding (g : γ) : Nat := tally (fun t : Task γ => t.standing.outstanding.count g) st.tasks

/-- The checkouts a gate has counted in `in_flight` without having granted or undone them. -/
def undecided (g : γ) : Nat := tally (fun t : Task γ => t.standing.undecided.count g) st.tasks

/-- The permits of a semaphore that are taken. -/
def permits (g : γ) : Nat := tally (fun t : Task γ => t.standing.permits.count g) st.tasks

/-- The checkouts that wait at a gate. -/
def waiting (g : γ) : Nat := tally (fun t : Task γ => t.standing.waits.count g) st.tasks

/-- The checkouts that have been cancelled while they waited at a gate. -/
def leaked (g : γ) : Nat := tally (fun t : Task γ => t.standing.leaked.count g) st.tasks

/-- One step. -/
def step : Input γ → Option (GatesState γ × List (Event γ))
  | .checkout gates =>
    if gates ≠ [] ∧ gates.Nodup then
      some ({ st with tasks := st.tasks ++ [{ todo := gates }] }, [])
    else none
  | .task i action =>
    match st.tasks[i]? with
    | none => none
    | some t =>
      match t.step cfg i st.outstanding st.waiting st.shared action with
      | none => none
      | some (shared, t, events) => some ({ shared, tasks := st.tasks.set i t }, events)
  | .setLimit g limit => some ({ st with shared := st.shared.setLimit cfg g limit }, [])
  | .storeLimit cell value => some ({ st with shared := st.shared.storeLimit cfg cell value }, [])

/-- New gates, with the given limits. -/
def initial (limits : Nat → Nat) : GatesState γ where
  shared :=
    { gates := fun g => { capacity := (cfg g).maxInFlight }, limits, ledgers := fun _ => [] }

end GatesState

/-- Gates and their checkouts as a machine. -/
def gatesMachine [DecidableEq γ] (cfg : γ → GateConfig) :
    Machine (GatesState γ) (Input γ) (Event γ) where
  step st := st.step cfg

end Backpressure

end PgKinetic
