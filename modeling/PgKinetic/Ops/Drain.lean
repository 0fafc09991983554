import PgKinetic.Lib.Machine
import PgKinetic.Lib.Tally

/-!
# Draining

`DrainController` counts the clients that are in, lets nobody in once a drain has begun, and has two
waits: for the start of the drain, and for its completion or its deadline. State, counter, deadline
and `Notify` are accessed one after the other, so the model is a machine in which any number of
calls are under way at once and every access is a step of its own:

* `try_enter_client` looks at the state, counts itself and looks again; a refused client takes
  itself back, and nobody is notified of that;
* dropping a guard counts down, and if it was the last one looks whether a drain is under way and
  notifies;
* `begin_drain` changes the state first, then stores the deadline, then notifies;
* the waits look and then create the future they wait on. `notify_waiters` wakes the futures that
  have been created, and no others.
-/

namespace PgKinetic

open EventMachine Tally

namespace Drain

/-- `DrainState`. -/
inductive State where
  | accepting
  | draining
  | drained
  deriving DecidableEq, Repr

/-- The fields of `DrainController` that its functions read. -/
structure Controller where
  state : State := .accepting
  activeClients : Nat := 0
  drainDeadline : Option Nat := none
  deriving DecidableEq, Repr

/-- Where a call is: between which two of its accesses. -/
inductive Phase where
  /-- `try_enter_client` is called. -/
  | enter
  /-- It has found the controller accepting. -/
  | entering
  /-- It is counted. -/
  | entered
  /-- It has found the controller not accepting any more. -/
  | undoing
  /-- A `DrainClientGuard` is out. -/
  | guarded
  /-- The guard has been dropped, and was the last one counted. -/
  | dropped
  /-- It has found the controller draining, and is to notify. -/
  | waking
  /-- `begin_drain` is called. -/
  | begin
  /-- It has won the exchange, and is to look at the clock. -/
  | clocking
  /-- It is to store the deadline. -/
  | storing
  /-- It is to notify. -/
  | announcing
  /-- It has returned. -/
  | begun
  /-- `finish_drain` is called. -/
  | finish
  /-- It is to notify. -/
  | finishing
  /-- `wait_for_drain_start`, before its look at the state. -/
  | watch
  /-- It has found the controller accepting. -/
  | watching
  /-- It waits on the future it has created. -/
  | watchParked
  /-- That future has been notified. -/
  | watchWoken
  /-- `wait_for_completion` is called. -/
  | await
  /-- It knows the deadline, and is to look at the counter. -/
  | checking
  /-- It has found clients. -/
  | counted
  /-- It waits on the future it has created and on the timer. -/
  | parked
  /-- That future has been notified. -/
  | woken
  | done
  deriving DecidableEq, Repr

/-- A call under way, with its timeout or deadline. -/
structure Task where
  phase : Phase
  time : Nat := 0
  deriving DecidableEq, Repr

/-- What can be seen from outside. -/
inductive Event where
  /-- The state leaves `Accepting`. -/
  | left
  /-- A guard is created. -/
  | admitted
  /-- `begin_drain` returns. -/
  | begun (won : Bool)
  /-- `wait_for_drain_start` returns. -/
  | started
  /-- `wait_for_completion` returns `Completed`, with that many guards out. -/
  | completed (guards : Nat)
  /-- It returns `TimedOut`; whether a guard was out at the deadline. -/
  | timedOut (outstanding : Bool)
  /-- It panics for want of a deadline; whether some `begin_drain` had returned. -/
  | panicked (begun : Bool)
  deriving DecidableEq, Repr

/-- The controller, the clock and the calls. -/
structure System where
  controller : Controller := {}
  now : Nat := 0
  tasks : List Task := []
  /-- Whether a guard was out when the deadline passed, once it has. -/
  outstanding : Option Bool := none
  deriving DecidableEq, Repr

/-- The number of tasks in a phase. -/
def population (tasks : List Task) (p : Phase) : Nat :=
  tally (fun t => if t.phase = p then 1 else 0) tasks

namespace System

variable (s : System)

/-- The number of calls in a phase. -/
def count (p : Phase) : Nat := population s.tasks p

/-- Looks whether the deadline has passed, once. -/
def noteDeadline : System :=
  match s.outstanding, s.controller.drainDeadline with
  | none, some deadline =>
    if deadline ≤ s.now then { s with outstanding := some (decide (0 < s.count .guarded)) } else s
  | _, _ => s

end System

/-- `notify_waiters`, on one task. -/
def Task.wake (t : Task) : Task :=
  match t.phase with
  | .watchParked => { t with phase := .watchWoken }
  | .parked => { t with phase := .woken }
  | _ => t

/-- What one access of a call does. -/
structure Move where
  controller : Controller
  task : Task
  /-- It is `notify_waiters`. -/
  notifies : Bool := false
  events : List Event := []

/-- The next access of a call, if it is not waiting. -/
def Task.move (s : System) (t : Task) : Option Move :=
  let c := s.controller
  let moveTo (p : Phase) : Move := { controller := c, task := { t with phase := p } }
  match t.phase with
  | .enter => some (moveTo (if c.state = .accepting then .entering else .done))
  | .entering =>
    some { moveTo .entered with controller := { c with activeClients := c.activeClients + 1 } }
  | .entered =>
    if c.state = .accepting then some { moveTo .guarded with events := [.admitted] }
    else some (moveTo .undoing)
  | .undoing =>
    some { moveTo .done with controller := { c with activeClients := c.activeClients - 1 } }
  | .guarded =>
    let remaining := c.activeClients - 1
    some { moveTo (if remaining = 0 then .dropped else .done) with
      controller := { c with activeClients := remaining } }
  | .dropped => some (moveTo (if c.state = .draining then .waking else .done))
  | .waking => some { moveTo .done with notifies := true }
  | .begin =>
    if c.state = .accepting then
      some { moveTo .clocking with
        controller := { c with state := .draining }
        events := [.left] }
    else some { moveTo .begun with events := [.begun false] }
  | .clocking => some { moveTo .storing with task := ⟨.storing, s.now + t.time⟩ }
  | .storing =>
    some { moveTo .announcing with controller := { c with drainDeadline := some t.time } }
  | .announcing => some { moveTo .begun with notifies := true, events := [.begun true] }
  | .finish =>
    some { moveTo .finishing with
      controller := { c with state := .drained }
      events := if c.state = .accepting then [.left] else [] }
  | .finishing => some { moveTo .done with notifies := true }
  | .watch =>
    if c.state = .accepting then some (moveTo .watching)
    else some { moveTo .done with events := [.started] }
  | .watching => some (moveTo .watchParked)
  | .watchWoken => some (moveTo .watch)
  | .await =>
    match c.drainDeadline with
    | none => some { moveTo .done with events := [.panicked (decide (0 < s.count .begun))] }
    | some deadline => some { moveTo .checking with task := ⟨.checking, deadline⟩ }
  | .checking =>
    if c.activeClients = 0 then
      some { moveTo .done with events := [.completed (s.count .guarded)] }
    else some (moveTo .counted)
  | .counted => some (moveTo .parked)
  | .woken => some (moveTo .checking)
  | .watchParked | .parked | .begun | .done => none

/-- The functions that can be called. -/
inductive Call where
  | enter
  | begin (timeout : Nat)
  | finish
  | watch
  | await
  deriving DecidableEq, Repr

/-- A call that has just been made. -/
def Call.task : Call → Task
  | .enter => ⟨.enter, 0⟩
  | .begin timeout => ⟨.begin, timeout⟩
  | .finish => ⟨.finish, 0⟩
  | .watch => ⟨.watch, 0⟩
  | .await => ⟨.await, 0⟩

/-- What happens next. -/
inductive Input where
  | call (c : Call)
  /-- A call makes its next access. -/
  | proceed (i : Nat)
  /-- The timer of a `wait_for_completion` is chosen, notified or not. -/
  | expire (i : Nat)
  | tick
  deriving DecidableEq, Repr

namespace System

variable (s : System)

def spawn (t : Task) : System := { s with tasks := s.tasks ++ [t] }

/-- The system after an access of call `i`. -/
def perform (i : Nat) (m : Move) : System :=
  let tasks := s.tasks.set i m.task
  { s with
    controller := m.controller
    tasks := if m.notifies then tasks.map Task.wake else tasks }

/-- The timer of task `i` has run out. -/
def timeOut (i : Nat) (t : Task) : Option (System × List Event) :=
  if (t.phase = .parked ∨ t.phase = .woken) ∧ t.time ≤ s.now then
    some ({ s with tasks := s.tasks.set i { t with phase := .done } },
      [.timedOut (s.outstanding == some true)])
  else none

/-- One step, before the look at the clock. -/
def act : Input → Option (System × List Event)
  | .call c => some (s.spawn c.task, [])
  | .proceed i => do
    let t ← s.tasks[i]?
    let m ← t.move s
    some (s.perform i m, m.events)
  | .expire i => do
    let t ← s.tasks[i]?
    s.timeOut i t
  | .tick => some ({ s with now := s.now + 1 }, [])

def step (input : Input) : Option (System × List Event) :=
  (s.act input).map fun (t, events) => (t.noteDeadline, events)

end System

/-- Draining as a machine. -/
def machine : Machine System Input Event where
  step := System.step

end Drain

end PgKinetic
