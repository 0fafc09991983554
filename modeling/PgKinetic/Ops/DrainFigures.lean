import PgKinetic.Ops.Drain

/-!
# The figures of a drain

Whatever is to be said about a drain is said of its figures: who is counted, who holds the right to
set the deadline, who has still to notify. A step is one of a dozen changes of figures, each with
the condition under which it is harmless, and the invariants are arithmetic: `Balanced` is kept by
every change, `Attended` by every harmless one.
-/

namespace PgKinetic

open Tally

namespace Drain

/-! ### Figures -/

/-- The numbers that decide what a system can do: everything about the calls but which is which. -/
structure Figures where
  active : Nat
  /-- One if the controller is accepting, zero if not; and so on. -/
  accepting : Nat
  drained : Nat
  armed : Nat
  passed : Nat
  empty : Nat
  calls : Phase → Nat

/-- One for a fact, zero for none. -/
def bit (p : Prop) [Decidable p] : Nat := if p then 1 else 0

theorem bit_eq_one {p : Prop} [Decidable p] (h : p) : bit p = 1 := if_pos h

theorem bit_le_one (p : Prop) [Decidable p] : bit p ≤ 1 := by
  unfold bit
  split <;> omega

/-- The figures of a controller and its calls. -/
def figuresOf (c : Controller) (outstanding : Option Bool) (calls : Phase → Nat) : Figures where
  active := c.activeClients
  accepting := bit (c.state = .accepting)
  drained := bit (c.state = .drained)
  armed := bit (c.drainDeadline ≠ none)
  passed := bit (outstanding ≠ none)
  empty := bit (outstanding = some false)
  calls := calls

/-- The figures of a system. -/
def System.figures (s : System) : Figures := figuresOf s.controller s.outstanding s.count

/-- One call goes from one phase to another. -/
def move (calls : Phase → Nat) (a b : Phase) : Phase → Nat := fun p =>
  if p = a then calls p - 1 else if p = b then calls p + 1 else calls p

/-- The calls after `notify_waiters`. -/
def wake (calls : Phase → Nat) : Phase → Nat
  | .watchParked | .parked => 0
  | .watchWoken => calls .watchWoken + calls .watchParked
  | .woken => calls .woken + calls .parked
  | p => calls p

theorem population_set {tasks : List Task} {i : Nat} {t t' : Task} (h : tasks[i]? = some t)
    (hne : t.phase ≠ t'.phase) :
    population (tasks.set i t') = move (population tasks) t.phase t'.phase := by
  funext p
  have hset := tally_set (fun t : Task => if t.phase = p then 1 else 0) h t'
  have hpos := le_tally (fun t : Task => if t.phase = p then 1 else 0) h
  unfold population move
  dsimp only at hset hpos ⊢
  by_cases hp : p = t.phase
  · subst hp
    rw [if_pos rfl] at hset hpos ⊢
    rw [if_neg hne.symm] at hset
    omega
  · rw [if_neg hp]
    rw [if_neg (Ne.symm hp)] at hset
    by_cases hp' : p = t'.phase
    · subst hp'
      rw [if_pos rfl] at hset ⊢
      omega
    · rw [if_neg hp']
      rw [if_neg (Ne.symm hp')] at hset
      omega

theorem population_append (tasks : List Task) (t : Task) (p : Phase) :
    population (tasks ++ [t]) p = population tasks p + if t.phase = p then 1 else 0 := by
  rw [population, tally_append, tally_cons, tally_nil, Nat.add_zero]
  rfl

theorem wake_add (calls calls' : Phase → Nat) (p : Phase) :
    wake (fun q => calls q + calls' q) p = wake calls p + wake calls' p := by
  cases p <;> simp only [wake] <;> omega

/-- One task is notified. -/
theorem wake_single (t : Task) (p : Phase) :
    (if t.wake.phase = p then 1 else 0) = wake (fun q => if t.phase = q then 1 else 0) p := by
  obtain ⟨phase, time⟩ := t
  cases phase with
  | watchParked | parked => cases p <;> rfl
  | _ => cases p <;> rfl

theorem population_wake (tasks : List Task) :
    population (tasks.map Task.wake) = wake (population tasks) := by
  funext p
  induction tasks with
  | nil => cases p <;> rfl
  | cons t tasks ih =>
    have hcons : ∀ q, population (t :: tasks) q = (if t.phase = q then 1 else 0) +
        population tasks q := fun q => tally_cons _ _ _
    rw [List.map_cons, population, tally_cons, wake_single]
    rw [population] at ih
    rw [ih, ← wake_add]
    exact congrArg (wake · p) (funext fun q => (hcons q).symm)

/-! ### What one step changes of the figures -/

/-- A call that looks and goes on, and changes nothing shared: from which phase to which, by what it
has seen, and when that is harmless. -/
inductive Shift (f : Figures) : Phase → Phase → Prop → Prop where
  | enter (h : f.accepting = 1) : Shift f .enter .entering True
  | refuse : Shift f .enter .done True
  | letIn (h : f.accepting = 1) : Shift f .entered .guarded True
  | withdraw : Shift f .entered .undoing True
  | lastOut : Shift f .dropped .waking True
  | lastOutUnseen (h : f.accepting = 1 ∨ f.drained = 1) : Shift f .dropped .done True
  /-- A `begin_drain` that comes second: the first should have stored its deadline. -/
  | lose : Shift f .begin .begun (f.armed = 1)
  | clock : Shift f .clocking .storing True
  | watch (h : f.accepting = 1) : Shift f .watch .watching True
  | start : Shift f .watch .done True
  | watchPark : Shift f .watching .watchParked True
  | watchAgain : Shift f .watchWoken .watch True
  | panic : Shift f .await .done True
  | await (h : f.armed = 1) : Shift f .await .checking True
  | complete : Shift f .checking .done True
  | seeClients (h : f.active ≠ 0) : Shift f .checking .counted True
  | park : Shift f .counted .parked True
  | again : Shift f .woken .checking True
  | timeOut : Shift f .parked .done True
  | timeOutWoken : Shift f .woken .done True

/-- A call that notifies, and where it is afterwards. Whoever it is to wake should not be between
the look and the future. -/
inductive Notifies (f : Figures) : Phase → Phase → Prop → Prop where
  | lastOut : Notifies f .waking .done (f.calls .counted = 0)
  | begun : Notifies f .announcing .begun (f.calls .watching = 0)
  | finished : Notifies f .finishing .done (f.calls .watching = 0)

/-- Nobody is between two accesses that matter at the deadline, or a guard is out. -/
def Figures.Settled (f : Figures) : Prop :=
  0 < f.calls .guarded ∨ f.calls .entering + f.calls .entered + f.calls .undoing +
    f.calls .dropped + f.calls .waking + f.calls .woken = 0

/-- One step on the figures, and when it is harmless. -/
inductive Change (f : Figures) : Figures → Prop → Prop where
  | rest : Change f f True
  | call (c : Call) :
    Change f { f with calls := fun q => f.calls q + if c.task.phase = q then 1 else 0 } True
  | shift {a b : Phase} {C : Prop} (h : 0 < f.calls a) (hshift : Shift f a b C) :
    Change f { f with calls := move f.calls a b } C
  | countIn (h : 0 < f.calls .entering) :
    Change f { f with active := f.active + 1, calls := move f.calls .entering .entered } True
  /-- A client that takes itself back should not be the last one while somebody waits. -/
  | undo (h : 0 < f.calls .undoing) :
    Change f { f with active := f.active - 1, calls := move f.calls .undoing .done }
      (1 < f.active ∨ f.calls .counted + f.calls .parked = 0)
  | dropLast (h : 0 < f.calls .guarded) (hlast : f.active - 1 = 0) :
    Change f { f with active := f.active - 1, calls := move f.calls .guarded .dropped } True
  | drop (h : 0 < f.calls .guarded) (hnot : f.active - 1 ≠ 0) :
    Change f { f with active := f.active - 1, calls := move f.calls .guarded .done } True
  | leave (h : 0 < f.calls .begin) (haccepting : f.accepting = 1) :
    Change f { f with accepting := 0, drained := 0, calls := move f.calls .begin .clocking } True
  | store (h : 0 < f.calls .storing) :
    Change f { f with armed := 1, calls := move f.calls .storing .announcing } True
  | notify {a b : Phase} {C : Prop} (h : 0 < f.calls a) (hnotify : Notifies f a b C) :
    Change f { f with calls := wake (move f.calls a b) } C
  /-- `finish_drain` should come when no guard is out, or when the deadline has passed. -/
  | finish (h : 0 < f.calls .finish) :
    Change f { f with accepting := 0, drained := 1, calls := move f.calls .finish .finishing }
      (f.calls .guarded + f.calls .dropped = 0 ∨ f.passed = 1)
  | pass (h : f.passed = 0) (harmed : f.armed = 1) :
    Change f { f with passed := 1, empty := bit (¬0 < f.calls .guarded) } f.Settled

/-! ### What always holds -/

/-- **The books of a drain.** Who is counted, who may still set the deadline, who knows it. -/
structure Figures.Balanced (f : Figures) : Prop where
  active : f.active = f.calls .entered + f.calls .undoing + f.calls .guarded
  state : f.accepting + f.drained ≤ 1
  /-- The right to set the deadline is with the controller while it is accepting, then with one
  `begin_drain`, and then used up. -/
  ticket : f.accepting + f.calls .clocking + f.calls .storing + f.armed ≤ 1
  knows : 0 < f.calls .announcing + f.calls .checking + f.calls .counted + f.calls .parked +
    f.calls .woken → f.armed = 1
  passed : f.passed ≤ f.armed
  empty : f.empty ≤ f.passed

theorem Change.balanced {f f' : Figures} {C : Prop} (h : Change f f' C) (hf : f.Balanced) :
    f'.Balanced := by
  obtain ⟨hactive, hstate, hticket, hknows, hpassed, hempty⟩ := hf
  cases h with
  | rest => exact ⟨hactive, hstate, hticket, hknows, hpassed, hempty⟩
  | call c => cases c <;> constructor <;> simp [Call.task] <;> omega
  | shift h hshift =>
    cases hshift <;> constructor <;> simp only [move, reduceCtorEq, ↓reduceIte] <;> omega
  | countIn h | undo h | dropLast h hlast | drop h hnot | finish h =>
    constructor <;> simp only [move, reduceCtorEq, ↓reduceIte] <;> omega
  | leave h haccepting | store h => constructor <;> simp [move] <;> omega
  | notify h hnotify =>
    cases hnotify <;> constructor <;> simp only [wake, move, reduceCtorEq, ↓reduceIte] <;> omega
  | pass h harmed =>
    have hle := bit_le_one (¬0 < f.calls .guarded)
    constructor <;> dsimp only <;> omega

/-! ### What holds as long as the steps are harmless -/

/-- **Nobody is forgotten.** Whoever waits has somebody to wake it. -/
structure Figures.Attended (f : Figures) : Prop where
  /-- Who waits for the start of the drain is notified of it. -/
  start : 0 < f.calls .watching + f.calls .watchParked → f.accepting = 1 ∨
    0 < f.calls .clocking + f.calls .storing + f.calls .announcing + f.calls .finishing
  /-- Who waits for its completion waits for somebody, until the deadline. -/
  completion : f.passed = 0 → 0 < f.calls .counted + f.calls .parked →
    0 < f.active ∨ 0 < f.calls .dropped + f.calls .waking
  undrained : f.passed = 0 → 0 < f.calls .guarded + f.calls .dropped → f.drained = 0
  begun : 0 < f.calls .begun → f.armed = 1
  /-- If no guard was out at the deadline, nobody is in who could keep a waiter waiting. -/
  emptied : f.empty = 1 →
    f.active + f.calls .entering + f.calls .counted + f.calls .parked + f.calls .woken = 0

theorem Change.attended {f f' : Figures} {C : Prop} (h : Change f f' C) (hf : f.Balanced)
    (hwaits : f.Attended) (hC : C) : f'.Attended := by
  obtain ⟨hactive, hstate, hticket, hknows, hpassed, hempty⟩ := hf
  obtain ⟨hstart, hcompletion, hundrained, hbegun, hemptied⟩ := hwaits
  cases h with
  | rest => exact ⟨hstart, hcompletion, hundrained, hbegun, hemptied⟩
  | call c => cases c <;> constructor <;> simp [Call.task] <;> omega
  | shift h hshift =>
    cases hshift <;> constructor <;> simp only [move, reduceCtorEq, ↓reduceIte] <;> omega
  | countIn h | undo h | dropLast h hlast | drop h hnot | finish h =>
    constructor <;> simp only [move, reduceCtorEq, ↓reduceIte] <;> omega
  | leave h haccepting | store h => constructor <;> simp [move] <;> omega
  | notify h hnotify =>
    cases hnotify <;> constructor <;> simp only [wake, move, reduceCtorEq, ↓reduceIte] <;> omega
  | pass h harmed =>
    refine ⟨hstart, fun h => (by cases h), fun h => (by cases h), hbegun, fun hempty => ?_⟩
    dsimp only at hempty ⊢
    unfold bit at hempty
    split at hempty
    · rcases hC with hguarded | hsettled <;> omega
    · omega

end Drain

end PgKinetic
