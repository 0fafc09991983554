import PgKinetic.Traffic.GateAccounting

/-!
# Permits and waiters

What the accounts say of a gate over whole runs:

* `permits_within_limits`: a permit is granted while there are fewer out than `max_in_flight`,
  and fewer than the limit has allowed at some time since the checkout counted itself. The limit
  that is read at the grant may be exceeded, if it was lowered in between
  (`granted_over_lowered_limit`). A checkout that fails leaves no trace at any gate.
* `waiters_of_uncancelled`: as long as no checkout is cancelled while it waits, `waiters` counts
  those that wait. One that is cancelled is counted for ever (`queueFull_after_cancellation`).
* `permits_returned`: permits come back in any case, cancelled or not.
-/

namespace PgKinetic

open EventMachine Tally List

namespace Backpressure

variable {γ : Type} [DecidableEq γ]

/-! ### Permits -/

/-- What some checkouts hold of a gate: permits of its semaphore, places among its waiters, and
their share of `in_flight`. -/
def holdings (g : γ) (tasks : List (Task γ)) : Gate where
  capacity := tally (fun t : Task γ => t.standing.permits.count g) tasks
  waiters := tally (fun t : Task γ => t.standing.waits.count g) tasks +
    tally (fun t : Task γ => t.standing.leaked.count g) tasks
  inFlight := tally (fun t : Task γ => t.standing.outstanding.count g) tasks +
    tally (fun t : Task γ => t.standing.undecided.count g) tasks

section

variable {cfg : γ → GateConfig} {st st' : GatesState γ} {es : List (Event γ)} {g : γ}

omit [DecidableEq γ] in
/-- A checkout that has failed stands for nothing. -/
theorem Task.WellFormed.standing_failed {t : Task γ} (hwf : t.WellFormed)
    {error : BackpressureError} (hplace : t.place = .ended (some error)) : t.standing = {} := by
  have hlive : t.cancelledAt = none := by
    refine Option.not_isSome_iff_eq_none.1 fun hsome => ?_
    have hending := hwf.cancelled hsome
    rw [hplace] at hending
    cases hending
  rw [standing, hplace, hlive]
  rfl

theorem holdings_eraseIdx {tasks : List (Task γ)} {i : Nat} {t : Task γ}
    (hi : tasks[i]? = some t) (hstanding : t.standing = {}) :
    holdings g (tasks.eraseIdx i) = holdings g tasks := by
  have hnone : ∀ f : Standing γ → Multiset γ, f {} = 0 →
      tally (fun t : Task γ => (f t.standing).count g) (tasks.eraseIdx i) =
        tally (fun t : Task γ => (f t.standing).count g) tasks := by
    intro f hf
    refine tally_eraseIdx hi ?_
    rw [hstanding, hf, Multiset.count_zero]
  rw [holdings, holdings, hnone (·.permits) rfl, hnone (·.waits) rfl, hnone (·.leaked) rfl,
    hnone (·.outstanding) rfl, hnone (·.undecided) rfl]

/-- The counters of a gate follow from what the checkouts hold of it. -/
theorem Accounted.gate_eq (h : Accounted cfg st) (h' : Accounted cfg st')
    (hheld : holdings g st'.tasks = holdings g st.tasks) :
    st'.shared.gates g = st.shared.gates g := by
  have hpermits : st'.permits g = st.permits g := congrArg Gate.capacity hheld
  have hwaiters : st'.waiting g + st'.leaked g = st.waiting g + st.leaked g :=
    congrArg Gate.waiters hheld
  have hinFlight : st'.outstanding g + st'.undecided g = st.outstanding g + st.undecided g :=
    congrArg Gate.inFlight hheld
  have hcapacity : (st'.shared.gates g).capacity = (st.shared.gates g).capacity := by
    have hold := h.capacity g
    have hnew := h'.capacity g
    omega
  rw [← h.waiters g, ← h'.waiters g] at hwaiters
  rw [← h.inFlight g, ← h'.inFlight g] at hinFlight
  cases hgate : st.shared.gates g
  cases hgate' : st'.shared.gates g
  rw [hgate, hgate'] at hcapacity hwaiters hinFlight
  rw [Gate.mk.injEq]
  exact ⟨hcapacity, hwaiters, hinFlight⟩

/-- What a grant guarantees. -/
def Event.Within (cfg : γ → GateConfig) : Event γ → Prop
  | .granted g _ peak outstanding => outstanding ≤ (cfg g).maxInFlight ∧ outstanding ≤ peak
  | .queueFull _ _ => True

theorem Accounted.granted_within (h : Accounted cfg st) {i : Nat} {s' : Shared γ} {t t' : Task γ}
    {waiting : γ → Nat} (hi : st.tasks[i]? = some t)
    (hmove : Move cfg i st.outstanding waiting st.shared t s' t' es) :
    ∀ e ∈ es, e.Within cfg := by
  intro e he
  cases hmove with
  | enqueue g hstanding hcounted hes =>
    obtain ⟨rfl, -⟩ := hes e he
    trivial
  | grant g previous hat hlt hnew hundecided hstanding hcounted =>
    obtain rfl := mem_singleton.1 he
    have hrec := h.recorded g
    obtain ⟨x, hx, hundec⟩ := (hrec.entries i t hi).undecided hnew hundecided
    have hmem : x ∈ Admission.entriesOf (st.shared.ledgers g) i := hx ▸ mem_singleton_self x
    have hrank := (hrec.entries i t hi).2 previous hat x hmem
    have hpeak : st.shared.peak g i = x.bound := by rw [Shared.peak, hx]; rfl
    refine ⟨?_, ?_⟩
    · have hself := le_tally (fun t : Task γ => t.standing.undecided.count g) hi
      simp only [hundecided, Multiset.count_singleton_self] at hself
      have hwithin := h.within g
      change 1 ≤ st.undecided g at hself
      omega
    · have hlt := hrec.sound.grantedCount_lt_bound (mem_of_mem_filter hmem) hundec (by omega)
      rw [hrec.granted] at hlt
      rwa [hpeak]
  | _ => cases he

theorem Accounted.step_within (h : Accounted cfg st) {input : Input γ}
    (hstep : st.step cfg input = some (st', es)) : ∀ e ∈ es, e.Within cfg := by
  rcases GatesState.step_cases h.wellFormed hstep with
    ⟨-, -, rfl, -⟩ | ⟨i, action, t, s', t', -, hi, -, -, hmove, -⟩ | ⟨-, -, rfl, -⟩
  · simp
  · exact h.granted_within hi hmove
  · simp

/-- **Accounts of every run.** -/
theorem Accounted.run {inputs : List (Input γ)} (h : Accounted cfg st)
    (hrun : (gatesMachine cfg).run st inputs = some (st', es)) :
    Accounted cfg st' ∧ ∀ e ∈ es, e.Within cfg := by
  refine (gatesMachine cfg).invariant_of_step ?_ h hrun
    ((gatesMachine cfg).meets_of_forall (C := fun _ => True) fun _ _ => trivial)
  exact fun _ _ _ _ hs _ hstep => ⟨hs.step hstep, hs.step_within hstep⟩

end

/-- **Permits stay within the limits.** In every run a permit is granted only if the permits that
are out then, this one included, are no more than `max_in_flight` and no more than the largest
limit since its checkout was counted; `in_flight` counts the permits that are out and the
checkouts still to be granted or undone; and a checkout that fails, at whichever gate, leaves
every gate as it was, if the others hold of it what they held. -/
theorem permits_within_limits (cfg : γ → GateConfig) (limits : Nat → Nat)
    (inputs : List (Input γ)) {st : GatesState γ} {es : List (Event γ)}
    (hrun : (gatesMachine cfg).run (.initial cfg limits) inputs = some (st, es)) :
    (∀ g limit peak outstanding, .granted g limit peak outstanding ∈ es →
      outstanding ≤ (cfg g).maxInFlight ∧ outstanding ≤ peak) ∧
    (∀ g, (st.shared.gates g).inFlight = st.outstanding g + st.undecided g) ∧
    ∀ gates inputs' st' es' t error,
      (gatesMachine cfg).run st (.checkout gates :: inputs') = some (st', es') →
      st'.tasks[st.tasks.length]? = some t → t.place = .ended (some error) →
      ∀ g, holdings g (st'.tasks.eraseIdx st.tasks.length) = holdings g st.tasks →
        st'.shared.gates g = st.shared.gates g := by
  obtain ⟨h, hwithin⟩ := (Accounted.initial limits).run hrun
  refine ⟨fun g limit peak outstanding he => hwithin _ he, h.inFlight, ?_⟩
  intro gates inputs' st' es' t error hrun' ht hplace g hothers
  have h' := (h.run hrun').1
  have hwf := h'.wellFormed t (mem_of_getElem? ht)
  rw [holdings_eraseIdx ht (hwf.standing_failed hplace)] at hothers
  exact h.gate_eq h' hothers

/-- A checkout goes through a gate that has room. -/
def throughGate (i : Nat) : List (Input γ) := replicate 5 (.task i .proceed)

/-- The gate of a route and the global one, with a permit each and no room for waiters. -/
def routeAndGlobal (isGlobal : Bool) : GateConfig := .new 1 0 isGlobal.toNat

/-- A checkout of the global gate. -/
def takeGlobal : List (Input Bool) := .checkout [true] :: throughGate 0

/-- A checkout that passes the gate of its route and is turned away at the global one. -/
def failAtGlobal : List (Input Bool) :=
  throughGate 1 ++ .task 1 (.shed false) :: replicate 8 (.task 1 .proceed)

theorem permits_failAtGlobal :
    ∃ st es st' es', ∃ t : Task Bool,
      (gatesMachine routeAndGlobal).run (.initial routeAndGlobal fun _ => 1) takeGlobal =
        some (st, es) ∧
      (gatesMachine routeAndGlobal).run st (.checkout [false, true] :: failAtGlobal) =
        some (st', es') ∧
      st'.tasks[1]? = some t ∧ t.place = .ended (some .queueFull) ∧ .granted true 1 1 1 ∈ es ∧
      (1 ≤ (routeAndGlobal true).maxInFlight ∧ 1 ≤ 1) ∧
      (st.shared.gates true).inFlight = st.outstanding true + st.undecided true ∧
      st'.shared.gates false = st.shared.gates false := by
  have hruns : ∃ r ∈ (gatesMachine routeAndGlobal).run (.initial routeAndGlobal fun _ => 1)
        takeGlobal,
      ∃ r' ∈ (gatesMachine routeAndGlobal).run r.1 (.checkout [false, true] :: failAtGlobal),
      ∃ t ∈ r'.1.tasks[1]?, t.place = .ended (some .queueFull) ∧ .granted true 1 1 1 ∈ r.2 ∧
        r.1.tasks.length = 1 ∧
          holdings false (r'.1.tasks.eraseIdx 1) = holdings false r.1.tasks := by
    decide +kernel
  obtain ⟨⟨st, es⟩, hrun, ⟨st', es'⟩, hrun', t, ht, hplace, hgranted, hlength, hothers⟩ := hruns
  obtain ⟨hwithin, hinFlight, hfailed⟩ := permits_within_limits _ _ takeGlobal hrun
  refine ⟨st, es, st', es', t, hrun, hrun', ht, hplace, hgranted, hwithin true 1 1 1 hgranted,
    hinFlight true, ?_⟩
  refine hfailed _ _ st' es' t .queueFull hrun' ?_ hplace false ?_
  · rw [hlength]
    exact ht
  · rw [hlength]
    exact hothers

/-- A gate of two permits. -/
def twoPermits (_ : Unit) : GateConfig := .new 2 1 0

/-- **The limit read at a grant may be exceeded.** Two checkouts are counted under a limit of
two, the second is granted, the limit is lowered to one, and the first, which had found nobody,
is granted too. And a checkout that has been refused is counted until it is undone. -/
theorem granted_over_lowered_limit :
    (∃ r ∈ (gatesMachine twoPermits).run (.initial twoPermits fun _ => 2)
        ([.checkout [()], .checkout [()]] ++ replicate 4 (.task 0 .proceed) ++ throughGate 1 ++
          [.setLimit () 1, .task 0 .proceed]),
      .granted () 1 2 2 ∈ r.2) ∧
    ∃ r ∈ (gatesMachine twoPermits).run (.initial twoPermits fun _ => 2)
        ([.checkout [()], .checkout [()]] ++ replicate 3 (.task 1 .proceed) ++ throughGate 0 ++
          [.setLimit () 1, .task 1 .proceed, .task 1 .proceed]),
      (r.1.shared.gates ()).inFlight = 2 ∧ r.1.outstanding () = 1 ∧
        ∀ t ∈ r.1.tasks, t.countedAt = none := by
  decide +kernel

/-! ### Waiters -/

section

variable {cfg : γ → GateConfig} {st st' : GatesState γ} {es : List (Event γ)} {g : γ}

/-- The input does not drop a checkout that waits at the gate. -/
def GatesState.Uncancelled (g : γ) (st : GatesState γ) : Input γ → Prop
  | .task i .cancel => ∀ t ∈ st.tasks[i]?, t.todo.head? ≠ some g
  | _ => True

instance GatesState.decidableUncancelled (g : γ) (st : GatesState γ) :
    ∀ input, Decidable (st.Uncancelled g input)
  | .task i .cancel => inferInstanceAs (Decidable (∀ t ∈ st.tasks[i]?, t.todo.head? ≠ some g))
  | .task _ .proceed | .task _ .wake | .task _ .timeout | .task _ (.shed _) | .task _ .drop
  | .checkout _ | .setLimit _ _ | .storeLimit _ _ => .isTrue trivial

/-- Only a cancelled checkout is counted as a waiter where it does not wait. -/
theorem Task.step_cancelledAt {i : Nat} {outstanding waiting : γ → Nat} {s s' : Shared γ}
    {t t' : Task γ} {action : Action}
    (h : t.step cfg i outstanding waiting s action = some (s', t', es)) :
    t'.cancelledAt = t.cancelledAt ∨ action = .cancel ∧ t'.cancelledAt = t.todo.head? := by
  rw [step] at h
  split at h
  case isTrue =>
    unfold stepDrop at h
    split at h <;> cases h
    all_goals exact .inl rfl
  case isFalse =>
    split at h
    case h_1 g rest htodo =>
      unfold stepAt at h
      split at h <;> (try split at h) <;> cases h
      all_goals first
        | exact .inl rfl
        | exact .inr ⟨rfl, by rw [htodo]; rfl⟩
    case h_2 => cases h

theorem GatesState.leaked_step (hwf : ∀ t ∈ st.tasks, t.WellFormed) (hnone : st.leaked g = 0)
    {input : Input γ} (huncancelled : st.Uncancelled g input)
    (hstep : st.step cfg input = some (st', es)) : st'.leaked g = 0 := by
  rcases step_cases hwf hstep with
    ⟨gates, -, -, rfl⟩ | ⟨i, action, t, s', t', rfl, hi, ht, -, -, rfl⟩ | ⟨-, -, -, rfl⟩
  · rw [leaked, tally_append]
    exact Nat.add_eq_zero_iff.2 ⟨hnone, rfl⟩
  · have hset := tally_set (fun t : Task γ => t.standing.leaked.count g) hi t'
    change tally _ st.tasks = 0 at hnone
    change tally _ (st.tasks.set i t') = 0
    rcases Task.step_cancelledAt ht with hsame | ⟨rfl, hat⟩
    · have hleaked : t'.standing.leaked = t.standing.leaked :=
        congrArg (fun at' : Option γ => (at'.toList : Multiset γ)) hsame
      rw [hleaked] at hset
      omega
    · have hne : t.todo.head? ≠ some g := huncancelled t hi
      have hleaked : t'.standing.leaked.count g = 0 := by
        refine Multiset.count_eq_zero.2 fun hmem => hne ?_
        have hmem' : g ∈ t'.cancelledAt.toList := hmem
        rw [← hat]
        exact Option.mem_toList.1 hmem'
      omega
  · exact hnone

/-- A checkout is turned away if those that wait and those that are leaked are too many. -/
theorem Accounted.step_queueFull (h : Accounted cfg st) (hnone : st.leaked g = 0)
    {input : Input γ} (hstep : st.step cfg input = some (st', es)) :
    ∀ e ∈ es, ∀ waiting, e = .queueFull g waiting → (cfg g).maxWaiters ≤ waiting := by
  rintro e he waiting rfl
  rcases GatesState.step_cases h.wellFormed hstep with
    ⟨-, -, rfl, -⟩ | ⟨i, action, t, s', t', -, -, -, -, hmove, -⟩ | ⟨-, -, rfl, -⟩
  · cases he
  · cases hmove with
    | enqueue g' hstanding hcounted hes =>
      obtain ⟨heq, hfull⟩ := hes _ he
      obtain ⟨rfl, rfl⟩ := Event.queueFull.inj heq
      have hwaiters := h.waiters g
      omega
    | grant => cases mem_singleton.1 he
    | _ => cases he
  · cases he

end

/-- **Waiters.** In every run in which no checkout is dropped while it waits at the gate,
`waiters` counts the checkouts that wait there; so it is zero when all have ended, and whoever is
turned away finds `max_waiters` others waiting. -/
theorem waiters_of_uncancelled (cfg : γ → GateConfig) (limits : Nat → Nat)
    (inputs : List (Input γ)) (g : γ) {st : GatesState γ} {es : List (Event γ)}
    (hrun : (gatesMachine cfg).run (.initial cfg limits) inputs = some (st, es))
    (huncancelled : (gatesMachine cfg).Meets (GatesState.Uncancelled g) (.initial cfg limits)
      inputs) :
    (st.shared.gates g).waiters = st.waiting g ∧
    ((∀ t ∈ st.tasks, ∃ error, t.place = .ended error) → (st.shared.gates g).waiters = 0) ∧
    ∀ waiting, .queueFull g waiting ∈ es → (cfg g).maxWaiters ≤ waiting := by
  have hstep : ∀ s input s' events, Accounted cfg s ∧ s.leaked g = 0 →
      s.Uncancelled g input → (gatesMachine cfg).step s input = some (s', events) →
      (Accounted cfg s' ∧ s'.leaked g = 0) ∧ ∀ e ∈ events, ∀ waiting,
        e = .queueFull g waiting → (cfg g).maxWaiters ≤ waiting := by
    rintro s input s' events ⟨hs, hnone⟩ hC hstep
    exact ⟨⟨hs.step hstep, GatesState.leaked_step hs.wellFormed hnone hC hstep⟩,
      hs.step_queueFull hnone hstep⟩
  obtain ⟨⟨h, hnone⟩, hes⟩ := (gatesMachine cfg).invariant_of_step hstep
    ⟨Accounted.initial limits, rfl⟩ hrun huncancelled
  have hwaiters : (st.shared.gates g).waiters = st.waiting g := by
    rw [h.waiters g, hnone, Nat.add_zero]
  refine ⟨hwaiters, fun hended => ?_, fun waiting he => hes _ he waiting rfl⟩
  rw [hwaiters, GatesState.waiting, tally]
  refine sum_eq_zero fun n hn => ?_
  obtain ⟨t, ht, rfl⟩ := mem_map.1 hn
  obtain ⟨error, hplace⟩ := hended t ht
  rw [Task.standing, hplace]
  rfl

/-- The gate of a route with ten permits, and that of a pool with one; a place for one waiter
each. -/
def routeAndPool (isPool : Bool) : GateConfig := .new (if isPool then 1 else 10) 1 isPool.toNat

/-- The first checkout has the permit of the pool; the second waits for it. -/
def waitForPool : List (Input Bool) :=
  [.checkout [false, true]] ++ throughGate 0 ++ [.task 0 (.shed false)] ++ throughGate 0 ++
    [.checkout [false, true]] ++ throughGate 1 ++ [.task 1 (.shed false)] ++
    replicate 3 (.task 1 .proceed)

theorem waiters_waitForPool :
    ∃ st es, (gatesMachine routeAndPool).run (.initial routeAndPool fun _ => 10) waitForPool =
        some (st, es) ∧ (st.shared.gates true).waiters = 1 ∧
      (st.shared.gates true).waiters = st.waiting true := by
  have hrun : ∃ r ∈ (gatesMachine routeAndPool).run (.initial routeAndPool fun _ => 10)
      waitForPool, (r.1.shared.gates true).waiters = 1 := by decide +kernel
  obtain ⟨⟨st, es⟩, hrun, hone⟩ := hrun
  exact ⟨st, es, hrun, hone, (waiters_of_uncancelled _ _ _ true hrun (by decide +kernel)).1⟩

/-- **A waiter that is cancelled is counted for ever.** The outer timeout of the pool drops a
checkout that waits at the second gate. When all checkouts have ended the gate still counts a
waiter, and a later checkout is turned away although nobody waits. -/
theorem queueFull_after_cancellation :
    ∃ r ∈ (gatesMachine routeAndPool).run (.initial routeAndPool fun _ => 10)
        (waitForPool ++ .task 1 .cancel :: replicate 4 (.task 1 .proceed) ++
          .task 0 .drop :: replicate 6 (.task 0 .proceed)),
      (∀ t ∈ r.1.tasks, t.place = .ended none) ∧ (r.1.shared.gates true).waiters = 1 ∧
      ∃ r' ∈ (gatesMachine routeAndPool).run r.1
          ([.checkout [true]] ++ throughGate 2 ++ [.checkout [true]] ++
            replicate 3 (.task 3 .proceed)),
        .queueFull true 0 ∈ r'.2 ∧ (routeAndPool true).maxWaiters = 1 := by
  decide +kernel

/-- **No permit is lost.** Once all checkouts have ended, be it by cancellation, a gate has all its
permits again and counts none in flight. -/
theorem permits_returned (cfg : γ → GateConfig) (limits : Nat → Nat) (inputs : List (Input γ))
    (g : γ) {st : GatesState γ} {es : List (Event γ)}
    (hrun : (gatesMachine cfg).run (.initial cfg limits) inputs = some (st, es))
    (hended : ∀ t ∈ st.tasks, ∃ error, t.place = .ended error) :
    (st.shared.gates g).capacity = (cfg g).maxInFlight ∧ (st.shared.gates g).inFlight = 0 := by
  have h := (gatesMachine cfg).history_invariant (h := []) (I := fun _ => Accounted cfg)
    (fun _ _ _ _ _ h => h.step) (Accounted.initial limits) hrun
  have hnone : st.permits g = 0 ∧ st.outstanding g = 0 ∧ st.undecided g = 0 := by
    refine ⟨?_, ?_, ?_⟩ <;> refine sum_eq_zero fun n hn => ?_
    all_goals
      obtain ⟨t, ht, rfl⟩ := mem_map.1 hn
      obtain ⟨error, hplace⟩ := hended t ht
      simp [Task.standing, hplace, Place.standing]
  have hcapacity := h.capacity g
  have hinFlight := h.inFlight g
  omega

theorem permits_returned_takeGlobal :
    ∃ r, (gatesMachine routeAndGlobal).run (.initial routeAndGlobal fun _ => 1)
        (takeGlobal ++ .task 0 .drop :: replicate 4 (.task 0 .proceed)) = some r ∧
      (r.1.shared.gates true).capacity = 1 :=
  ⟨_, rfl, (permits_returned routeAndGlobal (fun _ => 1)
    (takeGlobal ++ .task 0 .drop :: replicate 4 (.task 0 .proceed)) true rfl
    fun _ ht => ⟨none, by obtain rfl := mem_singleton.1 ht; rfl⟩).1⟩

end Backpressure

end PgKinetic
