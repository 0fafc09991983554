import PgKinetic.Pool.Accounting
import PgKinetic.Traffic.GateMoves
import Mathlib.Algebra.Order.BigOperators.Group.List
import Mathlib.Algebra.Order.Group.Nat

/-!
# The accounts of the gates

The counters of a gate are the sums of what the checkouts stand for there (`Accounted`): the
semaphore has given its permits to them, `in_flight` counts the permits that are out and the
checkouts still to be decided, and `waiters` those that wait and those that were cancelled while
they did. The ledger of a gate has exactly those who are counted in `in_flight` (`Recorded`), so
what `Admission` says about ledgers holds of the gate.
-/

namespace PgKinetic

open EventMachine Tally List Admission Multiset

namespace Backpressure

variable {γ : Type} [DecidableEq γ]

/-! ### Balance -/

/-- The counters of a gate, and what a task stands for there, before and after a move of the
task are in balance. -/
structure Balanced (gate : Gate) (a : Standing γ) (gate' : Gate) (b : Standing γ) (g : γ) :
    Prop where
  inFlight : gate'.inFlight + (a.outstanding.count g + a.undecided.count g) =
    gate.inFlight + (b.outstanding.count g + b.undecided.count g)
  capacity : gate'.capacity + b.permits.count g = gate.capacity + a.permits.count g
  waiters : gate'.waiters + (a.waits.count g + a.leaked.count g) =
    gate.waiters + (b.waits.count g + b.leaked.count g)

section

variable {cfg : γ → GateConfig} {i : Nat} {outstanding waiting : γ → Nat} {s s' : Shared γ}
  {t t' : Task γ} {es : List (Event γ)}

theorem Shared.gates_setGate (s : Shared γ) (g : γ) (gate : Gate) (h : γ) :
    (s.setGate g gate).gates h = if h = g then gate else s.gates h := Function.update_apply ..

variable {g : γ}

theorem Shared.gates_setGate_of_ne (s : Shared γ) {h : γ} (hne : h ≠ g) (gate : Gate) :
    (s.setGate g gate).gates h = s.gates h := Function.update_of_ne hne ..

/-- An access that is not about `in_flight`. -/
theorem Shared.inFlight_setGate (s : Shared γ) {gate : Gate}
    (hsame : gate.inFlight = (s.gates g).inFlight) (h : γ) :
    ((s.setGate g gate).gates h).inFlight = (s.gates h).inFlight := by
  rw [gates_setGate]
  split
  case isTrue hg => rw [hg, hsame]
  case isFalse => rfl

theorem Shared.acquire_eq (h : s.acquire g = some s') :
    ∃ n, (s.gates g).capacity = n + 1 ∧ s' = s.setGate g { s.gates g with capacity := n } := by
  rw [acquire] at h
  cases hn : (s.gates g).capacity with
  | zero => rw [hn] at h; cases h
  | succ n =>
    rw [hn] at h
    exact ⟨n, rfl, (Option.some.inj h).symm⟩

/-- Every move is in balance, since a counter that it lets down is not zero. -/
theorem Move.balanced (hmove : Move cfg i outstanding waiting s t s' t' es) (h : γ)
    (hinFlight : t.standing.outstanding.count h + t.standing.undecided.count h ≤
      (s.gates h).inFlight)
    (hwaiters : t.standing.waits.count h + t.standing.leaked.count h ≤ (s.gates h).waiters) :
    Balanced (s.gates h) t.standing (s'.gates h) t'.standing h := by
  cases hmove with
  | quiet hstanding =>
    rw [hstanding]
    exact ⟨rfl, rfl, rfl⟩
  | enqueue g hstanding =>
    rw [hstanding, Shared.enqueue, Shared.gates_setGate]
    split
    case isTrue hg =>
      subst hg
      refine ⟨rfl, rfl, ?_⟩
      simp only [Multiset.count_cons_self]
      omega
    case isFalse hg => exact ⟨rfl, rfl, by simp only [Multiset.count_cons_of_ne hg]⟩
  | dequeue g hstanding =>
    rw [hstanding] at hwaiters ⊢
    rw [Shared.dequeue, Shared.gates_setGate]
    split
    case isTrue hg =>
      subst hg
      refine ⟨rfl, rfl, ?_⟩
      simp only [Multiset.count_cons_self] at hwaiters ⊢
      have hsub := Pool.fetchSub_of_pos (n := (s.gates h).waiters) (by omega)
      omega
    case isFalse hg => exact ⟨rfl, rfl, by simp only [Multiset.count_cons_of_ne hg]⟩
  | acquire g hacquire hstanding =>
    obtain ⟨n, hn, rfl⟩ := Shared.acquire_eq hacquire
    rw [hstanding, Shared.gates_setGate]
    split
    case isTrue hg =>
      subst hg
      refine ⟨rfl, ?_, rfl⟩
      simp only [Multiset.count_cons_self]
      omega
    case isFalse hg => exact ⟨rfl, by simp only [Multiset.count_cons_of_ne hg], rfl⟩
  | release g hstanding =>
    rw [hstanding, Shared.releasePermit, Shared.gates_setGate]
    split
    case isTrue hg =>
      subst hg
      refine ⟨rfl, ?_, rfl⟩
      simp only [Multiset.count_cons_self]
      omega
    case isFalse hg => exact ⟨rfl, by simp only [Multiset.count_cons_of_ne hg], rfl⟩
  | countIn g hnew hfirst hstanding =>
    rw [hstanding, Shared.countIn]
    change Balanced _ _ ((s.setGate g _).gates h) _ h
    rw [Shared.gates_setGate]
    split
    case isTrue hg =>
      subst hg
      refine ⟨?_, rfl, rfl⟩
      simp only [Multiset.count_singleton_self, hfirst, count_zero]
      omega
    case isFalse hg => 
      refine ⟨?_, rfl, rfl⟩
      simp only [Multiset.count_singleton, if_neg hg, hfirst, count_zero]
  | grant g previous hat hlt hnew hundecided hstanding =>
    rw [hstanding]
    refine ⟨?_, rfl, rfl⟩
    simp only [hundecided, Multiset.count_cons, Multiset.count_singleton, count_zero]
    change (s.gates h).inFlight + _ = _
    omega
  | undo g hnew hundecided hstanding =>
    rw [hstanding, Shared.countOut]
    change Balanced _ _ ((s.setGate g _).gates h) _ h
    rw [Shared.gates_setGate]
    split
    case isTrue hg =>
      subst hg
      refine ⟨?_, rfl, rfl⟩
      simp only [Multiset.count_singleton_self, hundecided, count_zero] at hinFlight ⊢
      have hsub := Pool.fetchSub_of_pos (n := (s.gates h).inFlight) (by omega)
      omega
    case isFalse hg => 
      refine ⟨?_, rfl, rfl⟩
      simp only [Multiset.count_singleton, if_neg hg, hundecided, count_zero]
  | giveBack g hdecided hstanding =>
    rw [hstanding] at hinFlight ⊢
    change Balanced _ _ ((s.setGate g _).gates h) _ h
    rw [Shared.gates_setGate]
    split
    case isTrue hg =>
      subst hg
      refine ⟨?_, rfl, rfl⟩
      simp only [Multiset.count_cons_self] at hinFlight ⊢
      have hsub := Pool.fetchSub_of_pos (n := (s.gates h).inFlight) (by omega)
      omega
    case isFalse hg => exact ⟨by simp only [Multiset.count_cons_of_ne hg], rfl, rfl⟩
  | cancel g hwaits hleaked hstanding =>
    rw [hstanding]
    refine ⟨rfl, rfl, ?_⟩
    simp only [hwaits, hleaked, count_zero]
    omega
  | cancelAssigned g hwaits hleaked hpermits hstanding => 
    rw [hstanding, Shared.releasePermit, Shared.gates_setGate]
    split
    case isTrue hg =>
      subst hg
      refine ⟨rfl, ?_, ?_⟩
      · simp only [hpermits, Multiset.count_cons_self]
        omega
      · simp only [hwaits, hleaked, count_zero]
        omega
    case isFalse hg => 
      refine ⟨rfl, ?_, ?_⟩
      · simp only [hpermits, Multiset.count_cons_of_ne hg]
      · simp only [hwaits, hleaked, count_zero]
        omega

end

/-! ### Ledgers -/

/-- The entries of a task in the ledger of a gate: one that is granted for a permit that is out,
one that is not for a checkout still to be decided, whose rank is what it has found. -/
def Task.Entered (g : γ) (t : Task γ) (entries : List (Entry Nat)) : Prop :=
  entries.map (·.granted) = List.replicate (t.standing.outstanding.count g) true ++
      List.replicate (t.standing.undecided.count g) false ∧
    ∀ previous, t.countedAt = some (g, previous) → ∀ e ∈ entries, e.rank = previous + 1

/-- The ledger of a gate has all who are counted in `in_flight`. -/
structure Recorded (cfg : γ → GateConfig) (st : GatesState γ) (g : γ) : Prop where
  length : (st.shared.ledgers g).length = (st.shared.gates g).inFlight
  granted : grantedCount (st.shared.ledgers g) = st.outstanding g
  entries : ∀ i (t : Task γ), st.tasks[i]? = some t →
    t.Entered g (entriesOf (st.shared.ledgers g) i)
  strays : ∀ i, st.tasks.length ≤ i → entriesOf (st.shared.ledgers g) i = []
  sound : Sound (st.shared.ledgers g) (st.shared.limit cfg g)

section

variable {cfg : γ → GateConfig} {st : GatesState γ} {i : Nat} {s' : Shared γ} {t t' : Task γ}
  {g : γ}

/-- The ledger after a move of task `i`. -/
theorem Recorded.set (h : Recorded cfg st g) (hi : st.tasks[i]? = some t)
    (hlength : (s'.ledgers g).length = (s'.gates g).inFlight)
    (hgranted : grantedCount (s'.ledgers g) + t.standing.outstanding.count g =
      grantedCount (st.shared.ledgers g) + t'.standing.outstanding.count g)
    (hself : t'.Entered g (entriesOf (s'.ledgers g) i))
    (hothers : ∀ j, i ≠ j → entriesOf (s'.ledgers g) j =
      entriesOf (st.shared.ledgers g) j)
    (hsound : Sound (s'.ledgers g) (s'.limit cfg g)) :
    Recorded cfg { shared := s', tasks := st.tasks.set i t' } g := by
  have hlt : i < st.tasks.length := (List.getElem?_eq_some_iff.1 hi).1
  refine ⟨hlength, ?_, ?_, ?_, hsound⟩
  · have hset := tally_set (fun t : Task γ => t.standing.outstanding.count g) hi t'
    have hold := h.granted
    change _ = tally _ st.tasks at hold
    change grantedCount (s'.ledgers g) = tally _ (st.tasks.set i t')
    omega
  · intro j u hj
    by_cases hij : i = j
    · subst hij
      rw [getElem?_set_self hlt] at hj
      obtain rfl := Option.some.inj hj
      exact hself
    · rw [getElem?_set_ne hij] at hj
      rw [hothers j hij]
      exact h.entries j u hj
  · intro j hj
    rw [length_set] at hj
    rw [hothers j (by omega)]
    exact h.strays j hj

/-- A move that is not about `in_flight` of the gate. -/
theorem Recorded.keep (h : Recorded cfg st g) (hi : st.tasks[i]? = some t)
    (hledger : s'.ledgers g = st.shared.ledgers g)
    (hinFlight : (s'.gates g).inFlight = (st.shared.gates g).inFlight)
    (hlimits : s'.limits = st.shared.limits)
    (houtstanding : t'.standing.outstanding.count g = t.standing.outstanding.count g)
    (hundecided : t'.standing.undecided.count g = t.standing.undecided.count g)
    (hcounted : ∀ previous, t'.countedAt ≠ some (g, previous)) :
    Recorded cfg { shared := s', tasks := st.tasks.set i t' } g := by
  have hlimit : s'.limit cfg g = st.shared.limit cfg g := by
    rw [Shared.limit, hlimits, Shared.limit]
  refine h.set hi ?_ ?_ ⟨?_, fun previous hp => absurd hp (hcounted previous)⟩ ?_ ?_
  · rw [hledger, hinFlight, h.length]
  · rw [hledger, houtstanding]
  · rw [hledger, houtstanding, hundecided]
    exact (h.entries i t hi).1
  · intro j _
    rw [hledger]
  · rw [hledger, hlimit]
    exact h.sound

variable {entries : List (Entry Nat)}

/-- A task that is counted and not decided has one entry, of the rank it has found. -/
theorem Task.Entered.undecided (h : t.Entered g entries) (hnew : g ∉ t.standing.outstanding)
    (hundecided : t.standing.undecided = {g}) : ∃ e, entries = [e] ∧ e.granted = false := by
  have hmap := h.1
  rw [count_eq_zero.2 hnew, hundecided, Multiset.count_singleton_self] at hmap
  obtain ⟨e, rfl, he⟩ := map_eq_singleton_iff.1 hmap
  exact ⟨e, rfl, he⟩

theorem Task.Entered.relimit (h : t.Entered g entries) (limit : Nat) :
    t.Entered g (Admission.relimit entries limit) := by
  refine ⟨?_, fun previous hp e he => ?_⟩
  · rw [← h.1, Admission.relimit, List.map_map]
    refine map_congr_left fun e _ => ?_
    simp only [Function.comp]
    split <;> rfl
  · obtain ⟨x, hx, rfl⟩ := mem_map.1 he
    have hrank := h.2 previous hp x hx
    split <;> exact hrank

theorem Recorded.countIn (h : Recorded cfg st g) (hi : st.tasks[i]? = some t)
    (hnew : g ∉ t.standing.outstanding) (hfirst : t.standing.undecided = 0)
    (hstanding : t'.standing = { t.standing with undecided := {g} })
    (hcounted : t'.countedAt = some (g, (st.shared.gates g).inFlight)) :
    Recorded cfg { shared := st.shared.countIn cfg g i, tasks := st.tasks.set i t' } g := by
  have hledger : (st.shared.countIn cfg g i).ledgers g =
      arrive (st.shared.ledgers g) i (st.shared.limit cfg g) := Function.update_self ..
  have hgate : ((st.shared.countIn cfg g i).gates g).inFlight =
      (st.shared.gates g).inFlight + 1 := by
    change ((st.shared.setGate g _).gates g).inFlight = _
    rw [Shared.gates_setGate, if_pos rfl]
  have hzero := count_eq_zero.2 hnew
  have hnone : entriesOf (st.shared.ledgers g) i = [] := by
    have hmap := (h.entries i t hi).1
    rw [hzero, hfirst, count_zero] at hmap
    exact map_eq_nil_iff.1 hmap
  refine h.set hi ?_ ?_ ?_ ?_ ?_
  · rw [hledger, hgate, length_arrive, h.length]
  · rw [hledger, grantedCount_arrive, hstanding]
  · rw [hledger, entriesOf_arrive_self hnone]
    refine ⟨?_, ?_⟩
    · rw [hstanding]
      simp [hzero]
    · intro previous hprevious e he
      obtain rfl := List.mem_singleton.1 he
      obtain ⟨-, rfl⟩ := Prod.mk.inj (Option.some.inj (hcounted.symm.trans hprevious))
      exact congrArg (· + 1) h.length
  · intro j hij
    rw [hledger, entriesOf_arrive_of_ne hij]
  · rw [hledger]
    exact h.sound.arrive

theorem Recorded.grant (h : Recorded cfg st g) (hi : st.tasks[i]? = some t) {previous : Nat}
    (hat : t.countedAt = some (g, previous)) (hlt : previous < st.shared.limit cfg g)
    (hnew : g ∉ t.standing.outstanding) (hundecided : t.standing.undecided = {g})
    (hstanding : t'.standing =
      { t.standing with outstanding := g ::ₘ t.standing.outstanding, undecided := 0 })
    (hcounted : t'.countedAt = none) :
    Recorded cfg { shared := st.shared.grant cfg g i, tasks := st.tasks.set i t' } g := by
  have hledger : (st.shared.grant cfg g i).ledgers g =
      Admission.grant (st.shared.ledgers g) i (st.shared.limit cfg g) := Function.update_self ..
  obtain ⟨e, he, hundec⟩ := (h.entries i t hi).undecided hnew hundecided
  have hrank : e.rank = previous + 1 :=
    (h.entries i t hi).2 previous hat e (he ▸ List.mem_singleton_self e)
  refine h.set hi ?_ ?_ ?_ ?_ ?_
  · rw [hledger, length_grant, h.length]
    rfl
  · rw [hledger, grantedCount_grant he hundec, hstanding]
    simp only [Multiset.count_cons_self]
    omega
  · rw [hledger, entriesOf_grant_self, he]
    refine ⟨?_, fun previous hp => ?_⟩
    · simp [hstanding, count_eq_zero.2 hnew]
    · rw [hcounted] at hp
      cases hp
  · intro j hij
    rw [hledger, entriesOf_grant_of_ne hij]
  · rw [hledger]
    refine h.sound.grant fun x hx => ?_
    rw [he] at hx
    obtain rfl := List.mem_singleton.1 hx
    omega

/-- A task that is counted out leaves with its first entry. -/
theorem Recorded.countOut (h : Recorded cfg st g) (hi : st.tasks[i]? = some t)
    {e : Entry Nat} {rest : List (Entry Nat)}
    (he : entriesOf (st.shared.ledgers g) i = e :: rest)
    (hgranted : t.standing.outstanding.count g =
      t'.standing.outstanding.count g + if e.granted then 1 else 0)
    (hrest : t'.Entered g rest) :
    Recorded cfg { shared := st.shared.countOut g i, tasks := st.tasks.set i t' } g := by
  have hledger : (st.shared.countOut g i).ledgers g =
      leave (st.shared.ledgers g) i := Function.update_self ..
  have hgate : ((st.shared.countOut g i).gates g).inFlight =
      Pool.fetchSub (st.shared.gates g).inFlight := by
    change ((st.shared.setGate g _).gates g).inFlight = _
    rw [Shared.gates_setGate, if_pos rfl]
  refine h.set hi ?_ ?_ ?_ ?_ ?_
  · have hleave := length_leave he
    have hlength := h.length
    have hsub := Pool.fetchSub_of_pos (n := (st.shared.gates g).inFlight) (by omega)
    rw [hledger, hgate]
    omega
  · have hleave := grantedCount_leave he
    rw [hledger]
    omega
  · rw [hledger, entriesOf_leave_self, he]
    exact hrest
  · intro j hij
    rw [hledger, entriesOf_leave_of_ne hij]
  · rw [hledger]
    exact h.sound.leave

/-- **Ledgers.** A move keeps the ledgers. -/
theorem Recorded.of_move {outstanding waiting : γ → Nat} {es : List (Event γ)}
    (h : ∀ g, Recorded cfg st g) (hi : st.tasks[i]? = some t)
    (hmove : Move cfg i outstanding waiting st.shared t s' t' es) (g : γ) :
    Recorded cfg { shared := s', tasks := st.tasks.set i t' } g := by
  have hquiet : t'.countedAt = none → ∀ previous, t'.countedAt ≠ some (g, previous) := by
    intro hcounted previous hp
    rw [hcounted] at hp
    cases hp
  cases hmove with
  | quiet hstanding hcounted =>
    exact (h g).keep hi rfl rfl rfl (by rw [hstanding]) (by rw [hstanding]) (hquiet hcounted)
  | enqueue g' hstanding hcounted | dequeue g' hstanding hcounted | release g' hstanding hcounted
    | cancelAssigned g' hwaits hleaked hpermits hstanding hcounted =>
    exact (h g).keep hi rfl (st.shared.inFlight_setGate (by rfl) g) rfl (by rw [hstanding])
      (by rw [hstanding]) (hquiet hcounted)
  | acquire g' hacquire hstanding hcounted =>
    obtain ⟨n, -, rfl⟩ := Shared.acquire_eq hacquire
    exact (h g).keep hi rfl (st.shared.inFlight_setGate (by rfl) g) rfl (by rw [hstanding])
      (by rw [hstanding]) (hquiet hcounted)
  | countIn g' hnew hfirst hstanding hcounted =>
    by_cases hg : g = g'
    · subst hg
      exact (h g).countIn hi hnew hfirst hstanding hcounted
    · refine (h g).keep hi (Function.update_of_ne hg ..) ?_ rfl (by rw [hstanding]) ?_ ?_
      · exact congrArg Gate.inFlight (st.shared.gates_setGate_of_ne hg _)
      · rw [hstanding, hfirst]
        simp only [Multiset.count_singleton, if_neg hg, count_zero]
      · intro previous hp
        rw [hcounted] at hp
        exact hg (Prod.mk.inj (Option.some.inj hp)).1.symm
  | grant g' previous hat hlt hnew hundecided hstanding hcounted =>
    by_cases hg : g = g'
    · subst hg
      exact (h g).grant hi hat hlt hnew hundecided hstanding hcounted
    · refine (h g).keep hi (Function.update_of_ne hg ..) rfl rfl ?_ ?_ (hquiet hcounted)
      · rw [hstanding]
        simp only [Multiset.count_cons_of_ne hg]
      · rw [hstanding, hundecided]
        simp only [Multiset.count_singleton, if_neg hg, count_zero]
  | undo g' hnew hundecided hstanding hcounted =>
    by_cases hg : g = g'
    · subst hg
      obtain ⟨e, he, hundec⟩ := ((h g).entries i t hi).undecided hnew hundecided
      refine (h g).countOut hi he ?_ ⟨?_, fun previous hp => absurd hp (hquiet hcounted previous)⟩
      · rw [hstanding, hundec]
        simp
      · rw [hstanding]
        simp [count_eq_zero.2 hnew]
    · refine (h g).keep hi (Function.update_of_ne hg ..) ?_ rfl (by rw [hstanding]) ?_
        (hquiet hcounted)
      · exact congrArg Gate.inFlight (st.shared.gates_setGate_of_ne hg _)
      · rw [hstanding, hundecided]
        simp only [Multiset.count_singleton, if_neg hg, count_zero]
  | giveBack g' hdecided hstanding hcounted =>
    by_cases hg : g = g'
    · subst hg
      have hmap := ((h g).entries i t hi).1
      rw [hstanding] at hmap
      simp only [Multiset.count_cons_self, List.replicate_succ, cons_append] at hmap
      obtain ⟨e, rest, he, hgranted, hrest⟩ := map_eq_cons_iff.1 hmap
      refine (h g).countOut hi he ?_
        ⟨hrest, fun previous hp => absurd hp (hquiet hcounted previous)⟩
      rw [hstanding, hgranted]
      simp
    · refine (h g).keep hi (Function.update_of_ne hg ..) ?_ rfl ?_ (by rw [hstanding])
        (hquiet hcounted)
      · exact congrArg Gate.inFlight (st.shared.gates_setGate_of_ne hg _)
      · rw [hstanding]
        simp only [Multiset.count_cons_of_ne hg]
  | cancel g' hwaits hleaked hstanding hcounted =>
    exact (h g).keep hi rfl rfl rfl (by rw [hstanding]) (by rw [hstanding]) (hquiet hcounted)

end

/-! ### Every reachable state -/

/-- The accounts of the gates. -/
structure Accounted (cfg : γ → GateConfig) (st : GatesState γ) : Prop where
  wellFormed : ∀ t ∈ st.tasks, t.WellFormed
  inFlight : ∀ g, (st.shared.gates g).inFlight = st.outstanding g + st.undecided g
  capacity : ∀ g, (cfg g).maxInFlight = (st.shared.gates g).capacity + st.permits g
  waiters : ∀ g, (st.shared.gates g).waiters = st.waiting g + st.leaked g
  recorded : ∀ g, Recorded cfg st g

section

variable {cfg : γ → GateConfig} {st st' : GatesState γ} {i : Nat} {s' : Shared γ} {t t' : Task γ}
  {es : List (Event γ)}

theorem Accounted.initial (limits : Nat → Nat) :
    Accounted cfg (GatesState.initial (γ := γ) cfg limits) where
  wellFormed := by simp [GatesState.initial]
  inFlight _ := rfl
  capacity _ := rfl
  waiters _ := rfl
  recorded _ := ⟨rfl, rfl, by simp [GatesState.initial], fun _ _ => rfl, Sound.nil⟩

section

variable (h : Accounted cfg st)
include h

/-- What is counted in `in_flight` is part of it, for each task. -/
theorem Accounted.counted_le (hi : st.tasks[i]? = some t) (g : γ) :
    t.standing.outstanding.count g + t.standing.undecided.count g ≤
      (st.shared.gates g).inFlight := by
  have houtstanding := le_tally (fun t : Task γ => t.standing.outstanding.count g) hi
  have hundecided := le_tally (fun t : Task γ => t.standing.undecided.count g) hi
  rw [h.inFlight g]
  exact Nat.add_le_add houtstanding hundecided

theorem Accounted.waits_le (hi : st.tasks[i]? = some t) (g : γ) :
    t.standing.waits.count g + t.standing.leaked.count g ≤ (st.shared.gates g).waiters := by
  have hwaits := le_tally (fun t : Task γ => t.standing.waits.count g) hi
  have hleaked := le_tally (fun t : Task γ => t.standing.leaked.count g) hi
  rw [h.waiters g]
  exact Nat.add_le_add hwaits hleaked

/-- The permits that are out, and the checkouts still to be decided, have permits of the
semaphore. -/
theorem Accounted.within (g : γ) : st.outstanding g + st.undecided g ≤ (cfg g).maxInFlight := by
  have hle : st.outstanding g + st.undecided g ≤ st.permits g := by
    rw [GatesState.outstanding, GatesState.undecided, ← tally_add]
    refine sum_le_sum fun t ht => ?_
    rw [← count_add]
    exact count_le_of_le g (h.wellFormed t ht).backed
  have hcapacity := h.capacity g
  omega

/-- A move keeps the accounts. -/
theorem Accounted.of_move {outstanding waiting : γ → Nat}
    (hi : st.tasks[i]? = some t) (hwf : t'.WellFormed)
    (hmove : Move cfg i outstanding waiting st.shared t s' t' es) :
    Accounted cfg { shared := s', tasks := st.tasks.set i t' } := by
  have hbalanced := fun g => hmove.balanced g (h.counted_le hi g) (h.waits_le hi g)
  refine ⟨?_, ?_, ?_, ?_, Recorded.of_move h.recorded hi hmove⟩
  · intro u hu
    rcases mem_or_eq_of_mem_set hu with hu | rfl
    · exact h.wellFormed u hu
    · exact hwf
  · intro g
    have houtstanding := tally_set (fun t : Task γ => t.standing.outstanding.count g) hi t'
    have hundecided := tally_set (fun t : Task γ => t.standing.undecided.count g) hi t'
    have hold := h.inFlight g
    have hstep := (hbalanced g).inFlight
    simp only [GatesState.outstanding, GatesState.undecided] at hold ⊢
    omega
  · intro g
    have hpermits := tally_set (fun t : Task γ => t.standing.permits.count g) hi t'
    have hold := h.capacity g
    have hstep := (hbalanced g).capacity
    simp only [GatesState.permits] at hold ⊢
    omega
  · intro g
    have hwaits := tally_set (fun t : Task γ => t.standing.waits.count g) hi t'
    have hleaked := tally_set (fun t : Task γ => t.standing.leaked.count g) hi t'
    have hold := h.waiters g
    have hstep := (hbalanced g).waiters
    simp only [GatesState.waiting, GatesState.leaked] at hold ⊢
    omega

/-- A new checkout stands for nothing yet. -/
theorem Accounted.checkout {gates : List γ} (hnodup : gates.Nodup) :
    Accounted cfg { st with tasks := st.tasks ++ [{ todo := gates }] } := by
  have hnew : ∀ f : Task γ → Nat, f { todo := gates } = 0 →
      tally f (st.tasks ++ [{ todo := gates }]) = tally f st.tasks := by
    intro f hf
    rw [tally_append, tally_cons, hf, tally_nil]
    rfl
  have hout := fun g => hnew (fun t : Task γ => t.standing.outstanding.count g) rfl
  refine ⟨?_, ?_, ?_, ?_, ?_⟩
  · intro t ht
    rcases mem_append.1 ht with ht | ht
    · exact h.wellFormed t ht
    · obtain rfl := List.mem_singleton.1 ht
      exact ⟨hnodup, by rintro _ _ ⟨⟩, by rintro ⟨⟩⟩
  · intro g
    have hundecided := hnew (fun t : Task γ => t.standing.undecided.count g) rfl
    have hold := h.inFlight g
    have hout := hout g
    simp only [GatesState.outstanding, GatesState.undecided] at hold ⊢
    omega
  · intro g
    have hpermits := hnew (fun t : Task γ => t.standing.permits.count g) rfl
    have hold := h.capacity g
    simp only [GatesState.permits] at hold ⊢
    omega
  · intro g
    have hwaits := hnew (fun t : Task γ => t.standing.waits.count g) rfl
    have hleaked := hnew (fun t : Task γ => t.standing.leaked.count g) rfl
    have hold := h.waiters g
    simp only [GatesState.waiting, GatesState.leaked] at hold ⊢
    omega
  · intro g
    have hrec := h.recorded g
    refine ⟨hrec.length, hrec.granted.trans (hout g).symm, ?_, ?_, hrec.sound⟩
    · intro j u hj
      rcases Nat.lt_trichotomy j st.tasks.length with hlt | rfl | hgt
      · rw [getElem?_append_left hlt] at hj
        exact hrec.entries j u hj
      · rw [getElem?_concat_length] at hj
        obtain rfl := Option.some.inj hj
        rw [hrec.strays _ (Nat.le_refl _)]
        exact ⟨rfl, by rintro _ ⟨⟩⟩
      · rw [getElem?_eq_none (by simp; omega)] at hj
        cases hj
    · intro j hj
      rw [length_append] at hj
      exact hrec.strays j (by omega)

/-- A store to a limit changes the bounds of those still to be decided. -/
theorem Accounted.storeLimit (cell value : Nat) :
    Accounted cfg { st with shared := st.shared.storeLimit cfg cell value } := by
  refine ⟨h.wellFormed, h.inFlight, h.capacity, h.waiters, fun g => ?_⟩
  have hrec := h.recorded g
  have hledger : (st.shared.storeLimit cfg cell value).ledgers g =
      relimit (st.shared.ledgers g) ((st.shared.storeLimit cfg cell value).limit cfg g) :=
    rfl
  refine ⟨?_, ?_, ?_, ?_, ?_⟩
  · rw [hledger, length_relimit]
    exact hrec.length
  · rw [hledger, grantedCount_relimit]
    exact hrec.granted
  · intro i t hi
    rw [hledger, entriesOf_relimit]
    exact (hrec.entries i t hi).relimit _
  · intro i hi
    rw [hledger, entriesOf_relimit, hrec.strays i hi]
    rfl
  · exact hrec.sound.relimit _

end

variable {input : Input γ}

/-- An input is a new checkout, a move of a task, or a store to a limit. -/
theorem GatesState.step_cases (hwf : ∀ t ∈ st.tasks, t.WellFormed)
    (h : st.step cfg input = some (st', es)) :
    (∃ gates : List γ, gates.Nodup ∧ es = [] ∧
      st' = { st with tasks := st.tasks ++ [{ todo := gates }] }) ∨
    (∃ i action t s' t', input = .task i action ∧ st.tasks[i]? = some t ∧
      t.step cfg i st.outstanding st.waiting st.shared action = some (s', t', es) ∧
      t'.WellFormed ∧ Move cfg i st.outstanding st.waiting st.shared t s' t' es ∧
      st' = { shared := s', tasks := st.tasks.set i t' }) ∨
    ∃ cell value, es = [] ∧ st' = { st with shared := st.shared.storeLimit cfg cell value } := by
  cases input with
  | checkout gates =>
    simp only [step] at h
    split at h
    case isTrue hgates =>
      cases h
      exact .inl ⟨gates, hgates.2, rfl, rfl⟩
    case isFalse => cases h
  | task i action =>
    simp only [step] at h
    split at h
    case h_1 => cases h
    case h_2 t hi =>
      split at h
      case h_1 => cases h
      case h_2 s' t' es' hstep =>
        cases h
        have ht := hwf t (mem_of_getElem? hi)
        exact .inr (.inl ⟨i, action, t, s', t', rfl, hi, hstep, Task.step_wellFormed ht hstep,
          Task.step_move ht hstep, rfl⟩)
  | setLimit g limit =>
    cases h
    exact .inr (.inr ⟨_, _, rfl, rfl⟩)
  | storeLimit cell value =>
    cases h
    exact .inr (.inr ⟨cell, value, rfl, rfl⟩)

/-- **One step.** -/
theorem Accounted.step (h : Accounted cfg st) (hstep : st.step cfg input = some (st', es)) :
    Accounted cfg st' := by
  rcases GatesState.step_cases h.wellFormed hstep with
    ⟨gates, hnodup, -, rfl⟩ | ⟨i, action, t, s', t', -, hi, -, hwf, hmove, rfl⟩ |
      ⟨cell, value, -, rfl⟩
  · exact h.checkout hnodup
  · exact h.of_move hi hwf hmove
  · exact h.storeLimit cell value

end

end Backpressure

end PgKinetic
