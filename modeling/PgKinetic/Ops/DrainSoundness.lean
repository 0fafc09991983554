import PgKinetic.Ops.DrainFigures

/-!
# Soundness of draining

Every step of the machine is a change of figures (`change_of_act`, `change_of_noteDeadline`), so the
invariants of the figures hold in every state that is reached.

Nobody is let in after the drain has begun, and it is not called complete too early, in any run. The
rest needs the condition, because there are races: a notification that comes between the look of a
waiter and its future is lost, a client that takes itself back may be the last one and notifies
nobody, and a `begin_drain` that comes second returns before there is a deadline.
-/

namespace PgKinetic

open EventMachine Tally List Option

namespace Drain

/-! ### Which steps are harmless -/

namespace System

variable (s : System)

/-- The deadline may pass: a guard is out, or no client is on its way in or out and no waiter has
yet to look. -/
def settled : Bool :=
  decide (0 < s.count .guarded ∨ s.count .entering + s.count .entered + s.count .undoing +
    s.count .dropped + s.count .waking + s.count .woken = 0)

/-- The next access of a call falls into none of the races. -/
def calmMove (t : Task) : Bool :=
  match t.phase with
  | .undoing => decide (1 < s.controller.activeClients ∨ s.count .counted + s.count .parked = 0)
  | .waking => decide (s.count .counted = 0)
  | .announcing | .finishing => decide (s.count .watching = 0)
  | .begin => decide (s.controller.state = .accepting ∨ s.controller.drainDeadline ≠ none)
  | .finish => decide (s.count .guarded + s.count .dropped = 0 ∨ s.outstanding ≠ none)
  | .storing => decide (s.now < t.time) || s.settled
  | _ => true

/-- The step falls into none of the races. -/
def calm : Input → Bool
  | .proceed i =>
    match s.tasks[i]? with
    | none => true
    | some t => s.calmMove t
  | .tick =>
    match s.outstanding, s.controller.drainDeadline with
    | none, some deadline => decide (s.now + 1 < deadline) || s.settled
    | _, _ => true
  | _ => true

end System

/-! ### The steps of the machine -/

variable {s u : System} {t : Task} {m : Move} {i : Nat}

theorem count_pos (h : s.tasks[i]? = some t) : 0 < s.count t.phase := by
  have hle := le_tally (fun t' : Task => if t'.phase = t.phase then 1 else 0) h
  rwa [if_pos rfl] at hle

/-- The calls after an access of one of them. -/
def Move.calls (m : Move) (s : System) (t : Task) : Phase → Nat :=
  if m.notifies then wake (move s.count t.phase m.task.phase)
  else move s.count t.phase m.task.phase

/-- **An access is a change of figures.** -/
theorem change_of_move (h : t.move s = some m) (hpos : 0 < s.count t.phase) :
    t.phase ≠ m.task.phase ∧ ∃ C,
      Change s.figures (figuresOf m.controller s.outstanding (m.calls s t)) C ∧
        (s.calmMove t = true → C) := by
  obtain ⟨phase, time⟩ := t
  cases phase with
  | enter =>
    obtain rfl := some.inj h
    by_cases hstate : s.controller.state = .accepting
    · simp only [if_pos hstate]
      exact ⟨nofun, _, .shift hpos (.enter (bit_eq_one hstate)), fun _ => trivial⟩
    · simp only [if_neg hstate]
      exact ⟨nofun, _, .shift hpos .refuse, fun _ => trivial⟩
  | entering =>
    obtain rfl := some.inj h
    exact ⟨nofun, _, .countIn hpos, fun _ => trivial⟩
  | entered =>
    by_cases hstate : s.controller.state = .accepting
    · obtain rfl := some.inj ((if_pos hstate).symm.trans h)
      exact ⟨nofun, _, .shift hpos (.letIn (bit_eq_one hstate)), fun _ => trivial⟩
    · obtain rfl := some.inj ((if_neg hstate).symm.trans h)
      exact ⟨nofun, _, .shift hpos .withdraw, fun _ => trivial⟩
  | undoing =>
    obtain rfl := some.inj h
    exact ⟨nofun, _, .undo hpos, of_decide_eq_true⟩
  | guarded =>
    obtain rfl := some.inj h
    by_cases hlast : s.controller.activeClients - 1 = 0
    · simp only [if_pos hlast]
      exact ⟨nofun, _, .dropLast hpos hlast, fun _ => trivial⟩
    · simp only [if_neg hlast]
      exact ⟨nofun, _, .drop hpos hlast, fun _ => trivial⟩
  | dropped =>
    obtain rfl := some.inj h
    by_cases hstate : s.controller.state = .draining
    · simp only [if_pos hstate]
      exact ⟨nofun, _, .shift hpos .lastOut, fun _ => trivial⟩
    · simp only [if_neg hstate]
      refine ⟨nofun, _, .shift hpos (.lastOutUnseen ?_), fun _ => trivial⟩
      cases haccepting : s.controller.state with
      | accepting => exact .inl (bit_eq_one haccepting)
      | draining => exact absurd haccepting hstate
      | drained => exact .inr (bit_eq_one haccepting)
  | waking =>
    obtain rfl := some.inj h
    exact ⟨nofun, _, .notify hpos .lastOut, of_decide_eq_true⟩
  | begin =>
    by_cases hstate : s.controller.state = .accepting
    · obtain rfl := some.inj ((if_pos hstate).symm.trans h)
      exact ⟨nofun, _, .leave hpos (bit_eq_one hstate), fun _ => trivial⟩
    · obtain rfl := some.inj ((if_neg hstate).symm.trans h)
      refine ⟨nofun, _, .shift hpos .lose, fun hcalm => bit_eq_one ?_⟩
      exact (of_decide_eq_true hcalm).resolve_left hstate
  | clocking =>
    obtain rfl := some.inj h
    exact ⟨nofun, _, .shift hpos .clock, fun _ => trivial⟩
  | storing =>
    obtain rfl := some.inj h
    exact ⟨nofun, _, .store hpos, fun _ => trivial⟩
  | announcing =>
    obtain rfl := some.inj h
    exact ⟨nofun, _, .notify hpos .begun, of_decide_eq_true⟩
  | finish =>
    obtain rfl := some.inj h
    exact ⟨nofun, _, .finish hpos, fun hcalm => (of_decide_eq_true hcalm).imp_right bit_eq_one⟩
  | finishing =>
    obtain rfl := some.inj h
    exact ⟨nofun, _, .notify hpos .finished, of_decide_eq_true⟩
  | watch =>
    by_cases hstate : s.controller.state = .accepting
    · obtain rfl := some.inj ((if_pos hstate).symm.trans h)
      exact ⟨nofun, _, .shift hpos (.watch (bit_eq_one hstate)), fun _ => trivial⟩
    · obtain rfl := some.inj ((if_neg hstate).symm.trans h)
      exact ⟨nofun, _, .shift hpos .start, fun _ => trivial⟩
  | watching =>
    obtain rfl := some.inj h
    exact ⟨nofun, _, .shift hpos .watchPark, fun _ => trivial⟩
  | watchWoken =>
    obtain rfl := some.inj h
    exact ⟨nofun, _, .shift hpos .watchAgain, fun _ => trivial⟩
  | await =>
    unfold Task.move at h
    dsimp only at h
    split at h
    · obtain rfl := some.inj h
      exact ⟨nofun, _, .shift hpos .panic, fun _ => trivial⟩
    · next hdeadline =>
      obtain rfl := some.inj h
      refine ⟨nofun, _, .shift hpos (.await (bit_eq_one ?_)), fun _ => trivial⟩
      rw [hdeadline]
      nofun
  | checking =>
    by_cases hactive : s.controller.activeClients = 0
    · obtain rfl := some.inj ((if_pos hactive).symm.trans h)
      exact ⟨nofun, _, .shift hpos .complete, fun _ => trivial⟩
    · obtain rfl := some.inj ((if_neg hactive).symm.trans h)
      exact ⟨nofun, _, .shift hpos (.seeClients hactive), fun _ => trivial⟩
  | counted =>
    obtain rfl := some.inj h
    exact ⟨nofun, _, .shift hpos .park, fun _ => trivial⟩
  | woken =>
    obtain rfl := some.inj h
    exact ⟨nofun, _, .shift hpos .again, fun _ => trivial⟩
  | watchParked | parked | begun | done => cases h

/-- The call knows the deadline. -/
def Phase.informed : Phase → Bool
  | .checking | .counted | .parked | .woken => true
  | _ => false

/-- Only `begin_drain` stores a deadline, and a call learns it from the controller. -/
theorem deadline_of_move (h : t.move s = some m) :
    (m.controller.drainDeadline = s.controller.drainDeadline ∧
      (m.task.phase.informed = true → (t.phase.informed = true ∧ m.task.time = t.time) ∨
        s.controller.drainDeadline = some m.task.time)) ∨
    t.phase = .storing ∧ m.task.phase = .announcing ∧ m.notifies = false ∧
      m.controller.drainDeadline = some t.time := by
  obtain ⟨phase, time⟩ := t
  cases phase <;> simp only [Task.move] at h <;> grind [Phase.informed]

/-- What an event says about the access that emits it. -/
def Event.Fits (s : System) (t : Task) : Event → Prop
  | .admitted => s.controller.state = .accepting
  | .completed guards =>
    t.phase = .checking ∧ s.controller.activeClients = 0 ∧ guards = s.count .guarded
  | .timedOut _ => False
  | .panicked begun' => s.controller.drainDeadline = none ∧ begun' = decide (0 < s.count .begun)
  | _ => True

/-- An access emits at most one event, and the state does not come back to `Accepting`. -/
theorem events_of_move (h : t.move s = some m) :
    (∀ e ∈ m.events, e.Fits s t) ∧ m.events.length ≤ 1 ∧
      (m.controller.state = .accepting → s.controller.state = .accepting ∧ .left ∉ m.events) := by
  obtain ⟨phase, time⟩ := t
  cases phase <;> simp only [Task.move] at h <;> grind [Event.Fits]

theorem figures_perform (ht : s.tasks[i]? = some t) (hne : t.phase ≠ m.task.phase) :
    (s.perform i m).figures = figuresOf m.controller s.outstanding (m.calls s t) := by
  have hset := population_set ht hne
  have hcount : (s.perform i m).count = m.calls s t := by
    cases hm : m.notifies with
    | false =>
      funext p
      simp only [System.count, System.perform, Move.calls, hm, hset, Bool.false_eq_true, if_false]
      rfl
    | true =>
      funext p
      simp only [System.count, System.perform, Move.calls, hm, population_wake, hset, if_true]
      rfl
  rw [System.figures, hcount]
  rfl

theorem figures_spawn (s : System) (t : Task) :
    (s.spawn t).figures =
      { s.figures with calls := fun q => s.count q + if t.phase = q then 1 else 0 } := by
  have hcount : (s.spawn t).count = fun q => s.count q + if t.phase = q then 1 else 0 :=
    funext fun q => population_append s.tasks t q
  rw [System.figures, hcount]
  rfl

variable {es : List Event} {input : Input}

/-- The timer of a waiter runs out. -/
theorem change_of_timeOut (ht : s.tasks[i]? = some t)
    (hphase : t.phase = .parked ∨ t.phase = .woken) :
    Change s.figures { s with tasks := s.tasks.set i { t with phase := .done } }.figures True := by
  have hpos := count_pos ht
  have hfigures := figures_perform (m := ⟨s.controller, ⟨.done, t.time⟩, false, []⟩) ht
  rcases hphase with hphase | hphase
  · rw [hphase] at hpos
    refine Eq.mpr (congrArg (Change s.figures · True) (hfigures (by rw [hphase]; nofun))) ?_
    rw [Move.calls, hphase]
    exact .shift hpos .timeOut
  · rw [hphase] at hpos
    refine Eq.mpr (congrArg (Change s.figures · True) (hfigures (by rw [hphase]; nofun))) ?_
    rw [Move.calls, hphase]
    exact .shift hpos .timeOutWoken

/-- What one step does, before the look at the clock. -/
inductive System.Acts (s : System) : Input → System → List Event → Prop where
  | call (c : Call) : s.Acts (.call c) (s.spawn c.task) []
  | proceed {i : Nat} {t : Task} {m : Move} (ht : s.tasks[i]? = some t)
    (hm : t.move s = some m) : s.Acts (.proceed i) (s.perform i m) m.events
  | expire {i : Nat} {t : Task} (ht : s.tasks[i]? = some t)
    (hphase : t.phase = .parked ∨ t.phase = .woken) (htime : t.time ≤ s.now) :
    s.Acts (.expire i) { s with tasks := s.tasks.set i { t with phase := .done } }
      [.timedOut (s.outstanding == some true)]
  | tick : s.Acts .tick { s with now := s.now + 1 } []

theorem acts_of_step (hstep : machine.step s input = some (u, es)) :
    ∃ v, u = v.noteDeadline ∧ s.Acts input v es := by
  obtain ⟨⟨v, es⟩, h, heq⟩ := map_eq_some_iff.1 hstep
  obtain ⟨rfl, rfl⟩ := Prod.mk.inj heq
  refine ⟨v, rfl, ?_⟩
  cases input with
  | call c =>
    cases h
    exact .call c
  | proceed i =>
    obtain ⟨t, ht, h⟩ := bind_eq_some_iff.1 h
    obtain ⟨m, hm, h⟩ := bind_eq_some_iff.1 h
    cases h
    exact .proceed ht hm
  | expire i =>
    obtain ⟨t, ht, h⟩ := bind_eq_some_iff.1 h
    unfold System.timeOut at h
    split at h
    · next hdue =>
      cases h
      exact .expire ht hdue.1 hdue.2
    · cases h
  | tick =>
    cases h
    exact .tick

/-- **A step is a change of figures**, before the look at the clock. -/
theorem change_of_act (h : s.Acts input u es) :
    ∃ C, Change s.figures u.figures C ∧ (s.calm input = true → C) := by
  cases h with
  | call c =>
    rw [figures_spawn]
    exact ⟨_, .call c, fun _ => trivial⟩
  | proceed ht hm =>
    obtain ⟨hne, C, hchange, hcalm⟩ := change_of_move hm (count_pos ht)
    refine ⟨C, ?_, fun h => hcalm ?_⟩
    · rw [figures_perform ht hne]
      exact hchange
    · simpa only [System.calm, ht] using h
  | expire ht hphase => exact ⟨_, change_of_timeOut ht hphase, fun _ => trivial⟩
  | tick => exact ⟨_, .rest, fun _ => trivial⟩

/-! ### The deadline -/

namespace System

/-- The deadline has passed and nobody has looked. -/
def Overdue (s : System) : Prop :=
  s.outstanding = none ∧ ∃ d, s.controller.drainDeadline = some d ∧ d ≤ s.now

end System

/-- The look at the clock finds that the deadline has passed, or changes nothing. -/
theorem noteDeadline_eq (s : System) :
    (s.noteDeadline = s ∧ ¬s.Overdue) ∨
    s.Overdue ∧
      s.noteDeadline = { s with outstanding := some (decide (0 < s.count .guarded)) } := by
  unfold System.noteDeadline
  split
  · next deadline hnone hdeadline =>
    split
    · next hle => exact .inr ⟨⟨hnone, deadline, hdeadline, hle⟩, rfl⟩
    · next hlt =>
      refine .inl ⟨rfl, fun ⟨_, d, hd, hle⟩ => hlt ?_⟩
      obtain rfl := some.inj (hdeadline.symm.trans hd)
      exact hle
  · next hother => exact .inl ⟨rfl, fun ⟨hnone, d, hd, _⟩ => hother d hnone hd⟩

theorem not_overdue_noteDeadline (s : System) : ¬s.noteDeadline.Overdue := by
  rcases noteDeadline_eq s with ⟨heq, hnot⟩ | ⟨-, heq⟩
  · rwa [heq]
  · rw [heq]
    exact fun h => nomatch h.1

/-- That the deadline passes is a change of figures. -/
theorem change_of_noteDeadline (s : System) :
    ∃ C, Change s.figures s.noteDeadline.figures C ∧ ((s.Overdue → s.figures.Settled) → C) := by
  rcases noteDeadline_eq s with ⟨heq, -⟩ | ⟨hdue, heq⟩
  · rw [heq]
    exact ⟨_, .rest, fun _ => trivial⟩
  · obtain ⟨hnone, d, hd, -⟩ := id hdue
    have hpassed : s.figures.passed = 0 := if_neg (not_not_intro hnone)
    have harmed : s.figures.armed = 1 := bit_eq_one (by rw [hd]; nofun)
    have hempty : bit (some (decide (0 < s.count .guarded)) = some false) =
        bit (¬0 < s.figures.calls .guarded) := by
      by_cases hguarded : 0 < s.count .guarded
      · rw [decide_eq_true hguarded]
        exact (if_neg nofun).trans (if_neg (not_not_intro hguarded)).symm
      · rw [decide_eq_false hguarded]
        exact (if_pos rfl).trans (if_pos hguarded).symm
    have hfigures : s.noteDeadline.figures =
        { s.figures with passed := 1, empty := bit (¬0 < s.figures.calls .guarded) } := by
      rw [heq, ← hempty]
      rfl
    rw [hfigures]
    exact ⟨_, .pass hpassed harmed, fun h => h hdue⟩

/-- A calm step does not let the deadline pass while somebody is between two accesses. -/
theorem settled_of_act (htimely : ¬s.Overdue) (hcalm : s.calm input = true)
    (h : s.Acts input u es) (hdue : u.Overdue) : u.figures.Settled := by
  obtain ⟨hnone, d, hd, hle⟩ := id hdue
  cases h with
  | call | expire => exact absurd hdue htimely
  | proceed ht hm =>
    rcases deadline_of_move hm with ⟨hsame, -⟩ | ⟨hphase, hphase', hquiet, hstored⟩
    · exact absurd ⟨hnone, d, hsame ▸ hd, hle⟩ htimely
    · -- only the store of the deadline itself can let it pass
      rw [figures_perform ht (by rw [hphase, hphase']; nofun)]
      simp only [System.calm, ht, System.calmMove, hphase, Bool.or_eq_true, decide_eq_true_eq,
        System.settled] at hcalm
      obtain rfl := some.inj (hstored.symm.trans hd)
      rcases hcalm with hlt | hsettled
      · exact absurd hle (Nat.not_le_of_lt hlt)
      · simpa [Figures.Settled, figuresOf, Move.calls, hquiet, hphase, hphase', move] using hsettled
  | tick =>
    have hnone : s.outstanding = none := hnone
    have hd : s.controller.drainDeadline = some d := hd
    simp only [System.calm, hnone, hd, Bool.or_eq_true, decide_eq_true_eq, System.settled] at hcalm
    rcases hcalm with hlt | hsettled
    · exact absurd hle (Nat.not_le_of_lt hlt)
    · exact hsettled

/-! ### The invariant -/

/-- What holds of every state that is reached. -/
structure System.Consistent (s : System) : Prop where
  balanced : s.figures.Balanced
  /-- Who knows the deadline knows the right one. -/
  informed : ∀ t ∈ s.tasks, t.phase.informed = true → s.controller.drainDeadline = some t.time
  timely : ¬s.Overdue

theorem Task.wake_informed (t : Task) :
    t.wake.phase.informed = t.phase.informed ∧ t.wake.time = t.time := by
  obtain ⟨phase, time⟩ := t
  cases phase <;> exact ⟨rfl, rfl⟩

/-- Nobody knows a deadline while it is being stored. -/
theorem not_informed_of_storing (hs : s.Consistent) (hstoring : 0 < s.count .storing)
    (ht : t ∈ s.tasks) : t.phase.informed = false := by
  obtain ⟨j, hj⟩ := getElem?_of_mem ht
  have hpos := count_pos hj
  have hticket : s.figures.accepting + s.count .clocking + s.count .storing + s.figures.armed ≤ 1 :=
    hs.balanced.ticket
  have hknows : 0 < s.count .announcing + s.count .checking + s.count .counted + s.count .parked +
    s.count .woken → s.figures.armed = 1 := hs.balanced.knows
  by_contra hinformed
  have hsum : 0 < s.count .checking + s.count .counted + s.count .parked + s.count .woken := by
    revert hpos hinformed
    cases t.phase <;> intro hpos hinformed <;> first | exact absurd rfl hinformed | omega
  omega

theorem informed_of_perform (hs : s.Consistent) (ht : s.tasks[i]? = some t)
    (hm : t.move s = some m) :
    ∀ t' ∈ (s.perform i m).tasks, t'.phase.informed = true →
      m.controller.drainDeadline = some t'.time := by
  have hset : ∀ t' ∈ s.tasks.set i m.task, t'.phase.informed = true →
      m.controller.drainDeadline = some t'.time := by
    intro t' ht' hinformed
    rcases deadline_of_move hm with ⟨hsame, hlearns⟩ | ⟨hphase, hphase', -, -⟩
    · rw [hsame]
      rcases mem_or_eq_of_mem_set ht' with hmem | rfl
      · exact hs.informed t' hmem hinformed
      · rcases hlearns hinformed with ⟨hold, htime⟩ | hdeadline
        · rw [htime]
          exact hs.informed t (mem_of_getElem? ht) hold
        · exact hdeadline
    · rcases mem_or_eq_of_mem_set ht' with hmem | rfl
      · have hnot := not_informed_of_storing hs (hphase ▸ count_pos ht) hmem
        rw [hnot] at hinformed
        cases hinformed
      · rw [hphase'] at hinformed
        cases hinformed
  intro t' ht' hinformed
  cases hnotifies : m.notifies with
  | false =>
    simp only [System.perform, hnotifies, Bool.false_eq_true, if_false] at ht'
    exact hset t' ht' hinformed
  | true =>
    simp only [System.perform, hnotifies, if_true] at ht'
    obtain ⟨t'', ht'', rfl⟩ := mem_map.1 ht'
    obtain ⟨hphase, htime⟩ := t''.wake_informed
    rw [htime]
    exact hset t'' ht'' (hphase ▸ hinformed)

theorem informed_of_act (hs : s.Consistent) (h : s.Acts input u es) :
    ∀ t ∈ u.tasks, t.phase.informed = true → u.controller.drainDeadline = some t.time := by
  cases h with
  | call c =>
    intro t ht hinformed
    rcases mem_append.1 ht with hmem | hnew
    · exact hs.informed t hmem hinformed
    · obtain rfl := mem_singleton.1 hnew
      cases c <;> cases hinformed
  | proceed ht hm => exact informed_of_perform hs ht hm
  | expire =>
    intro t' ht' hinformed
    rcases mem_or_eq_of_mem_set ht' with hmem | rfl
    · exact hs.informed t' hmem hinformed
    · cases hinformed
  | tick => exact hs.informed

theorem noteDeadline_controller (s : System) :
    s.noteDeadline.controller = s.controller ∧ s.noteDeadline.tasks = s.tasks := by
  rcases noteDeadline_eq s with ⟨heq, -⟩ | ⟨-, heq⟩
  · rw [heq]
    exact ⟨rfl, rfl⟩
  · rw [heq]
    exact ⟨rfl, rfl⟩

theorem consistent_of_act (hs : s.Consistent) (h : s.Acts input u es) :
    u.noteDeadline.Consistent := by
  obtain ⟨C, hchange, -⟩ := change_of_act h
  obtain ⟨D, hpass, -⟩ := change_of_noteDeadline u
  obtain ⟨hcontroller, htasks⟩ := noteDeadline_controller u
  refine ⟨hpass.balanced (hchange.balanced hs.balanced), ?_, not_overdue_noteDeadline u⟩
  rw [hcontroller, htasks]
  exact informed_of_act hs h

theorem attended_of_act (hs : s.Consistent) (hwaits : s.figures.Attended)
    (hcalm : s.calm input = true) (h : s.Acts input u es) :
    u.noteDeadline.figures.Attended := by
  obtain ⟨C, hchange, hC⟩ := change_of_act h
  obtain ⟨D, hpass, hD⟩ := change_of_noteDeadline u
  have hu := hchange.attended hs.balanced hwaits (hC hcalm)
  exact hpass.attended (hchange.balanced hs.balanced) hu
    (hD (settled_of_act hs.timely hcalm h))

/-! ### Events -/

/-- After this event nobody may be let in. -/
def Event.closes : Event → Bool
  | .left | .completed _ => true
  | _ => false

/-- A drain is called complete when no guard is out and the controller is not accepting. -/
theorem completed_of_move {n : Nat} (hs : s.Consistent) (ht : s.tasks[i]? = some t)
    (hm : t.move s = some m) (hmem : .completed n ∈ m.events) :
    n = 0 ∧ s.controller.state ≠ .accepting := by
  obtain ⟨hphase, hactive, rfl⟩ : t.phase = .checking ∧ s.controller.activeClients = 0 ∧
    n = s.count .guarded := (events_of_move hm).1 _ hmem
  have hpos := count_pos ht
  rw [hphase] at hpos
  have hcounted : s.controller.activeClients = s.count .entered + s.count .undoing +
    s.count .guarded := hs.balanced.active
  have hticket : s.figures.accepting + s.count .clocking + s.count .storing + s.figures.armed ≤ 1 :=
    hs.balanced.ticket
  have hknows : 0 < s.count .announcing + s.count .checking + s.count .counted + s.count .parked +
    s.count .woken → s.figures.armed = 1 := hs.balanced.knows
  refine ⟨by omega, fun hstate => ?_⟩
  have haccepting : s.figures.accepting = 1 := bit_eq_one hstate
  omega

/-- What a step says in any run. -/
theorem events_of_act (hs : s.Consistent) (h : s.Acts input u es) :
    es.length ≤ 1 ∧ (.admitted ∈ es → s.controller.state = .accepting) ∧
      (∀ n, .completed n ∈ es → n = 0) ∧
      (u.controller.state = .accepting → s.controller.state = .accepting ∧
        ∀ e ∈ es, e.closes = false) := by
  cases h with
  | call | tick => exact ⟨Nat.zero_le 1, nofun, nofun, fun hstate => ⟨hstate, nofun⟩⟩
  | proceed ht hm =>
    obtain ⟨hfits, hlength, hstate⟩ := events_of_move hm
    refine ⟨hlength, fun hmem => hfits _ hmem, fun n hmem => (completed_of_move hs ht hm hmem).1,
      fun haccepting => ?_⟩
    obtain ⟨hbefore, hleft⟩ := hstate haccepting
    refine ⟨hbefore, fun e he => ?_⟩
    cases e with
    | left => exact absurd he hleft
    | completed n => exact absurd hbefore (completed_of_move hs ht hm he).2
    | _ => rfl
  | expire => refine ⟨Nat.le_refl 1, ?_, ?_, fun hstate => ⟨hstate, ?_⟩⟩ <;> simp [Event.closes]

/-- The event does not say that a wait ended as it should not: timed out though no guard was out at
the deadline, or without a deadline though a drain had begun. -/
def Event.InOrder : Event → Prop
  | .timedOut outstanding => outstanding = true
  | .panicked begun' => begun' = false
  | _ => True

/-- Who waits and is timed out was kept waiting by a guard. -/
theorem inOrder_of_timeOut (hs : s.Consistent) (hwaits : s.figures.Attended)
    (ht : s.tasks[i]? = some t) (hphase : t.phase = .parked ∨ t.phase = .woken)
    (htime : t.time ≤ s.now) : Event.InOrder (.timedOut (s.outstanding == some true)) := by
  have hinformed : t.phase.informed = true := by rcases hphase with hp | hp <;> rw [hp] <;> rfl
  have hdeadline := hs.informed t (mem_of_getElem? ht) hinformed
  have hpos := count_pos ht
  cases hout : s.outstanding with
  | none => exact absurd ⟨hout, t.time, hdeadline, htime⟩ hs.timely
  | some outstanding =>
    cases outstanding with
    | true => rfl
    | false =>
      have hnobody : s.controller.activeClients + s.count .entering + s.count .counted +
        s.count .parked + s.count .woken = 0 := hwaits.emptied (bit_eq_one hout)
      rcases hphase with hp | hp <;> rw [hp] at hpos <;> omega

theorem inOrder_of_act (hs : s.Consistent) (hwaits : s.figures.Attended)
    (h : s.Acts input u es) : ∀ e ∈ es, e.InOrder := by
  cases h with
  | call | tick => nofun
  | proceed ht hm =>
    intro e he
    have hfits := (events_of_move hm).1 e he
    cases e with
    | timedOut outstanding => exact hfits.elim
    | panicked begun' =>
      obtain ⟨hdeadline, rfl⟩ := hfits
      refine decide_eq_false fun hbegun => ?_
      have harmed : bit (s.controller.drainDeadline ≠ none) = 1 := hwaits.begun hbegun
      rw [bit, if_neg (not_not_intro hdeadline)] at harmed
      cases harmed
    | _ => trivial
  | expire ht hphase htime =>
    exact forall_mem_singleton.2 (inOrder_of_timeOut hs hwaits ht hphase htime)

/-! ### Whole runs -/

/-- Nobody is parked whose condition holds, unless a notification is on its way. Once the deadline
has passed, the timer is. -/
structure System.NobodyForgotten (s : System) : Prop where
  start : 0 < s.count .watchParked → s.controller.state ≠ .accepting →
    0 < s.count .clocking + s.count .storing + s.count .announcing + s.count .finishing
  completion : 0 < s.count .parked → s.controller.activeClients = 0 → s.outstanding = none →
    0 < s.count .waking ∨ 0 < s.count .dropped ∧ s.controller.state = .draining

theorem nobodyForgotten_of_attended (hs : s.Consistent) (hwaits : s.figures.Attended) :
    s.NobodyForgotten := by
  refine ⟨fun hparked hstate => ?_, fun hparked hactive hnone => ?_⟩
  · have hstart : s.figures.accepting = 1 ∨ 0 < s.count .clocking + s.count .storing +
      s.count .announcing + s.count .finishing := hwaits.start (Nat.add_pos_right _ hparked)
    rcases hstart with haccepting | hpending
    · rw [System.figures, figuresOf, bit, if_neg hstate] at haccepting
      cases haccepting
    · exact hpending
  · have hpassed : s.figures.passed = 0 := if_neg (not_not_intro hnone)
    have hcompletion : 0 < s.controller.activeClients ∨ 0 < s.count .dropped + s.count .waking :=
      hwaits.completion hpassed (Nat.add_pos_right _ hparked)
    have hticket : s.figures.accepting + s.count .clocking + s.count .storing +
      s.figures.armed ≤ 1 := hs.balanced.ticket
    have hknows : s.figures.armed = 1 := hs.balanced.knows (by
      have hparked : 0 < s.figures.calls .parked := hparked
      omega)
    by_cases hwaking : 0 < s.count .waking
    · exact .inl hwaking
    · have hdropped : 0 < s.count .dropped := by omega
      refine .inr ⟨hdropped, ?_⟩
      have hundrained := hwaits.undrained hpassed (Nat.add_pos_right _ hdropped)
      cases hstate : s.controller.state with
      | accepting =>
        have haccepting : s.figures.accepting = 1 := bit_eq_one hstate
        omega
      | draining => rfl
      | drained =>
        rw [show s.figures.drained = 1 from bit_eq_one hstate] at hundrained
        cases hundrained

theorem consistent_initial : System.Consistent {} where
  balanced := ⟨rfl, by decide, by decide, nofun, by decide, by decide⟩
  informed := nofun
  timely := fun ⟨_, _, hd, _⟩ => nomatch hd

theorem attended_initial : (({} : System).figures).Attended := ⟨nofun, nofun, nofun, nofun, nofun⟩

/-- The events so far keep the door closed, and the controller knows. -/
def Shut (events : List Event) (s : System) : Prop :=
  s.Consistent ∧ events.Pairwise (fun e e' => e.closes = true → e' ≠ .admitted) ∧
    (∀ n, .completed n ∈ events → n = 0) ∧
    (s.controller.state = .accepting → ∀ e ∈ events, e.closes = false)

theorem shut_of_step {past : List Event} (hs : Shut past s)
    (h : machine.step s input = some (u, es)) : Shut (past ++ es) u := by
  obtain ⟨v, rfl, hact⟩ := acts_of_step h
  obtain ⟨hconsistent, hpast, hcomplete, hopen⟩ := hs
  obtain ⟨hlength, hadmitted, hcompleted, hstate⟩ := events_of_act hconsistent hact
  refine ⟨consistent_of_act hconsistent hact, ?_, fun n hn => ?_, fun haccepting => ?_⟩
  · refine pairwise_append.2 ⟨hpast, ?_, ?_⟩
    · match es, hlength with
      | [], _ => exact .nil
      | [e], _ => exact pairwise_singleton _ _
    · rintro e he e' he' hcloses rfl
      rw [hopen (hadmitted he') e he] at hcloses
      cases hcloses
  · rcases mem_append.1 hn with hn | hn
    · exact hcomplete n hn
    · exact hcompleted n hn
  · rw [(noteDeadline_controller v).1] at haccepting
    obtain ⟨hbefore, hquiet⟩ := hstate haccepting
    intro e he
    rcases mem_append.1 he with he | he
    · exact hopen hbefore e he
    · exact hquiet e he

/-- **Draining is sound.** In every run no guard is created once the state has left `Accepting` or
a drain has been called complete, and it is called complete only when no guard is out. In every run
that stays clear of the races, a wait times out only if a guard is out at the deadline, there is a
deadline once a `begin_drain` has returned, and no waiter is forgotten. -/
theorem drain_sound {inputs : List Input} {s : System} {events : List Event}
    (hrun : machine.run {} inputs = some (s, events)) :
    (events.Pairwise fun e e' => e.closes = true → e' ≠ .admitted) ∧
      (∀ n, .completed n ∈ events → n = 0) ∧
      (machine.Meets (fun s input => s.calm input = true) {} inputs →
        (∀ outstanding, .timedOut outstanding ∈ events → outstanding = true) ∧
        (∀ begun, .panicked begun ∈ events → begun = false) ∧ s.NobodyForgotten) := by
  have hshut : Shut ([] ++ events) s := machine.history_invariant
    (fun _ _ _ _ _ hs h => shut_of_step hs h)
    ⟨consistent_initial, .nil, nofun, fun _ => nofun⟩ hrun
  obtain ⟨-, hpairwise, hcompleted, -⟩ := hshut
  refine ⟨hpairwise, hcompleted, fun hmeets => ?_⟩
  have hstep : ∀ s input u es, s.Consistent ∧ s.figures.Attended → s.calm input = true →
      machine.step s input = some (u, es) →
      (u.Consistent ∧ u.figures.Attended) ∧ ∀ e ∈ es, e.InOrder := by
    rintro s input u es ⟨hs, hwaits⟩ hcalm h
    obtain ⟨v, rfl, hact⟩ := acts_of_step h
    exact ⟨⟨consistent_of_act hs hact, attended_of_act hs hwaits hcalm hact⟩,
      inOrder_of_act hs hwaits hact⟩
  obtain ⟨⟨hs, hwaits⟩, hevents⟩ := machine.invariant_of_step hstep
    ⟨consistent_initial, attended_initial⟩ hrun hmeets
  exact ⟨fun _ h => hevents _ h, fun _ h => hevents _ h, nobodyForgotten_of_attended hs hwaits⟩

/-- A drain that waits for one client, with a watcher of its start. -/
def waitsForOne : List Input :=
  [.call .watch, .proceed 0, .proceed 0, .call .enter, .proceed 1, .proceed 1, .proceed 1,
    .call (.begin 5), .proceed 2, .proceed 2, .proceed 2, .proceed 2, .proceed 0, .proceed 0,
    .call .await, .proceed 3, .proceed 3, .proceed 3, .proceed 1, .proceed 1, .proceed 1,
    .proceed 3, .proceed 3]

theorem drain_sound_waitsForOne :
    (∃ s, machine.run {} waitsForOne =
      some (s, [.admitted, .left, .begun true, .started, .completed 0])) ∧
    machine.Meets (fun s input => s.calm input = true) {} waitsForOne ∧
    ∀ s events, machine.run {} waitsForOne = some (s, events) → s.NobodyForgotten := by
  have hrun : (machine.run {} waitsForOne).map Prod.snd =
      some [.admitted, .left, .begun true, .started, .completed 0] := by decide +kernel
  have hmeets : machine.Meets (fun s input => s.calm input = true) {} waitsForOne := by
    decide +kernel
  obtain ⟨⟨s, events⟩, hresult, heq⟩ := map_eq_some_iff.1 hrun
  refine ⟨⟨s, ?_⟩, hmeets, fun s events hrun => ((drain_sound hrun).2.2 hmeets).2.2⟩
  rw [hresult, ← heq]

/-- The drain begins between the look of a watcher and its future. -/
def startUnseen : List Input :=
  [.call .watch, .proceed 0, .call (.begin 5), .proceed 1, .proceed 1, .proceed 1, .proceed 1,
    .proceed 0]

/-- A client takes itself back, the last one, while a drain waits for it. -/
def lastTakesItselfBack : List Input :=
  [.call .enter, .proceed 0, .call (.begin 1), .proceed 1, .proceed 1, .proceed 1, .proceed 1,
    .proceed 0, .proceed 0, .call .await, .proceed 2, .proceed 2, .proceed 2, .proceed 0,
    .tick, .expire 2]

/-- A second `begin_drain` returns while the first is about to look at the clock. -/
def secondBegin : List Input :=
  [.call (.begin 5), .proceed 0, .call (.begin 5), .proceed 1, .call .await, .proceed 2]

/-- **The three races.** A watcher is parked for good, a drain without a guard times out, and a wait
that is called after a `begin_drain` has returned panics. -/
theorem drain_races :
    (∃ s events, machine.run {} startUnseen = some (s, events) ∧ ¬s.NobodyForgotten) ∧
    (∃ s, machine.run {} lastTakesItselfBack =
      some (s, [.left, .begun true, .timedOut false])) ∧
    ∃ s, machine.run {} secondBegin = some (s, [.left, .begun false, .panicked true]) := by
  have hunseen : (machine.run {} startUnseen).map (fun r => (r.1.count .watchParked,
      r.1.controller.state, r.1.count .clocking + r.1.count .storing + r.1.count .announcing +
        r.1.count .finishing)) = some (1, .draining, 0) := by decide +kernel
  have hback : (machine.run {} lastTakesItselfBack).map Prod.snd =
      some [.left, .begun true, .timedOut false] := by decide +kernel
  have hsecond : (machine.run {} secondBegin).map Prod.snd =
      some [.left, .begun false, .panicked true] := by decide +kernel
  refine ⟨?_, ?_, ?_⟩
  · obtain ⟨⟨s, events⟩, hresult, heq⟩ := map_eq_some_iff.1 hunseen
    obtain ⟨hparked, heq⟩ := Prod.mk.inj heq
    obtain ⟨hstate, hpending⟩ := Prod.mk.inj heq
    refine ⟨s, events, hresult, fun hforgotten => ?_⟩
    have hpos := hforgotten.start (by dsimp only at hparked; omega)
      (by dsimp only at hstate; rw [hstate]; nofun)
    dsimp only at hpending
    omega
  · obtain ⟨⟨s, events⟩, hresult, heq⟩ := map_eq_some_iff.1 hback
    exact ⟨s, by rw [hresult, ← heq]⟩
  · obtain ⟨⟨s, events⟩, hresult, heq⟩ := map_eq_some_iff.1 hsecond
    exact ⟨s, by rw [hresult, ← heq]⟩

end Drain

end PgKinetic
