import Mathlib.Data.List.Basic

/-!
# Event machines

A **machine** reads one input at a time, moves from state to state and emits a list of events;
an input that is not enabled in a state is refused (`none`). Nondeterminism of the environment
(answers of a peer, timeouts, the order of interleaved tasks) lives in the inputs, so a run is
determined by its start state and its list of inputs and can be evaluated.

Three things are proved once, here:

* `run_cons_eq_some`: how a run of `i :: is` decomposes;
* `invariant_of_step`: a predicate preserved by every step that meets a side condition holds
  after every run all of whose steps meet it, and the events of such a run all satisfy what
  each step guarantees of its own events;
* `run_of_layer`: a machine that adds state and steps of its own to another one runs as the
  other one does below it.

The **side condition** `C : σ → ι → Prop` of a run is checked at every step, on the state
before the step and the input (`Meets`).
-/

namespace EventMachine

open List

/-- A machine with states `σ`, inputs `ι` and emitted events `ε`. -/
structure Machine (σ ι ε : Type*) where
  /-- One step: `none` when the input is not enabled in the state. -/
  step : σ → ι → Option (σ × List ε)

namespace Machine

variable {σ ι ε : Type*} (M : Machine σ ι ε)

/-- The run on a list of inputs: final state and all events, in order. -/
def run : σ → List ι → Option (σ × List ε)
  | s, [] => some (s, [])
  | s, i :: is =>
    match M.step s i with
    | none => none
    | some (t, es) =>
      match run t is with
      | none => none
      | some (u, es') => some (u, es ++ es')

@[simp] theorem run_nil (s : σ) : M.run s [] = some (s, []) := rfl

variable {is : List ι} {es : List ε} {C : σ → ι → Prop}

variable {s t : σ} {i : ι} {I : σ → Prop} {P : ε → Prop}

/-- A run of `i :: is` is a step on `i` followed by a run of `is`. -/
theorem run_cons_eq_some {u : σ} (h : M.run s (i :: is) = some (u, es)) :
    ∃ t es₁ es₂, M.step s i = some (t, es₁) ∧ M.run t is = some (u, es₂) ∧ es = es₁ ++ es₂ := by
  simp only [run] at h
  cases hstep : M.step s i with
  | none => simp [hstep] at h
  | some p =>
    cases hrun : M.run p.1 is with
    | none => simp [hstep, hrun] at h
    | some q =>
      simp only [hstep, hrun, Option.some.injEq, Prod.mk.injEq] at h
      exact ⟨p.1, p.2, q.2, rfl, by rw [hrun, ← h.1], h.2.symm⟩

/-- Every step of the run on `is` from `s` meets the side condition `C`. -/
def Meets (C : σ → ι → Prop) : σ → List ι → Prop
  | _, [] => True
  | s, i :: is =>
    C s i ∧
      match M.step s i with
      | none => True
      | some (t, _) => Meets C t is

instance decidableMeets (C : σ → ι → Prop) [∀ s i, Decidable (C s i)] :
    ∀ (s : σ) (is : List ι), Decidable (M.Meets C s is)
  | _, [] => .isTrue trivial
  | s, i :: is =>
    have : Decidable
        (match M.step s i with
          | none => True
          | some (t, _) => M.Meets C t is) :=
      match M.step s i with
      | none => .isTrue trivial
      | some (t, _) => decidableMeets C t is
    inferInstanceAs (Decidable (_ ∧ _))

theorem meets_cons_of_step (hstep : M.step s i = some (t, es)) :
    M.Meets C s (i :: is) ↔ C s i ∧ M.Meets C t is := by
  simp only [Meets, hstep]

/-- A side condition that all inputs meet, whatever the state, is met by the run. -/
theorem meets_of_forall {C : ι → Prop} (h : ∀ i ∈ is, C i) : M.Meets (fun _ i => C i) s is := by
  induction is generalizing s with
  | nil => trivial
  | cons i is ih =>
    refine ⟨h i mem_cons_self, ?_⟩
    cases M.step s i with
    | none => trivial
    | some p => exact ih fun j hj => h j (mem_cons_of_mem i hj)

theorem Meets.and {D : σ → ι → Prop} (hC : M.Meets C s is) (hD : M.Meets D s is) :
    M.Meets (fun s i => C s i ∧ D s i) s is := by
  induction is generalizing s with
  | nil => trivial
  | cons i is ih =>
    refine ⟨⟨hC.1, hD.1⟩, ?_⟩
    have hC := hC.2
    have hD := hD.2
    cases hstep : M.step s i with
    | none => trivial
    | some p =>
      simp only [hstep] at hC hD
      exact ih hC hD

/-- **The invariant rule.** If every step that meets `C` from a state satisfying `I` leads
to a state satisfying `I` and emits only events satisfying `P`, then so does every run all
of whose steps meet `C`. -/
theorem invariant_of_step
    (hstep : ∀ s i t es, I s → C s i → M.step s i = some (t, es) → I t ∧ ∀ e ∈ es, P e)
    (hs : I s) (hrun : M.run s is = some (t, es)) (hC : M.Meets C s is) :
    I t ∧ ∀ e ∈ es, P e := by
  induction is generalizing s es with
  | nil =>
    cases hrun
    exact ⟨hs, by simp⟩
  | cons i is ih =>
    obtain ⟨u, es₁, es₂, hi, hrest, rfl⟩ := M.run_cons_eq_some hrun
    obtain ⟨hCi, hCis⟩ := (M.meets_cons_of_step hi).1 hC
    obtain ⟨hu, hes₁⟩ := hstep s i u es₁ hs hCi hi
    obtain ⟨ht, hes₂⟩ := ih hu hrest hCis
    refine ⟨ht, fun e he => ?_⟩
    rcases mem_append.1 he with he | he
    · exact hes₁ e he
    · exact hes₂ e he

/-- The invariant rule, for events of one kind. -/
theorem invariant_of_step_of {α : Type*} (event : α → ε) {P : α → Prop}
    (hstep : ∀ s i t es, I s → C s i → M.step s i = some (t, es) → I t ∧ ∀ a, event a ∈ es → P a)
    (hs : I s) (hrun : M.run s is = some (t, es)) (hC : M.Meets C s is) :
    I t ∧ ∀ a, event a ∈ es → P a := by
  have hrule := M.invariant_of_step (P := fun e => ∀ a, e = event a → P a) ?_ hs hrun hC
  · exact ⟨hrule.1, fun a ha => hrule.2 _ ha a rfl⟩
  · intro s i t es hs hi h
    refine ⟨(hstep s i t es hs hi h).1, ?_⟩
    rintro e he a rfl
    exact (hstep s i t es hs hi h).2 a he

/-- **The exact rule.** If, from a state satisfying `I`, a step meets `C` exactly if its events
satisfy `P`, and a step that does keeps `I`, then a run meets `C` exactly if all its events
satisfy `P`. -/
theorem meets_iff_of_step (hstep : ∀ s i t es, I s → M.step s i = some (t, es) →
      (C s i ↔ ∀ e ∈ es, P e) ∧ (C s i → I t)) (hs : I s) (hrun : M.run s is = some (t, es)) :
    M.Meets C s is ↔ ∀ e ∈ es, P e := by
  induction is generalizing s es with
  | nil =>
    cases hrun
    exact ⟨fun _ => by simp, fun _ => trivial⟩
  | cons i is ih =>
    obtain ⟨u, es₁, es₂, hi, hrest, rfl⟩ := M.run_cons_eq_some hrun
    obtain ⟨hiff, hkeep⟩ := hstep s i u es₁ hs hi
    rw [M.meets_cons_of_step hi, forall_mem_append, ← hiff]
    exact and_congr_right fun hC => ih (hkeep hC) hrest

/-- **The rule for histories.** An invariant that also looks at the events so far holds after
every run, if every step keeps it. -/
theorem history_invariant {I : List ε → σ → Prop}
    (hstep : ∀ h s i t es, I h s → M.step s i = some (t, es) → I (h ++ es) t) {h : List ε}
    (hs : I h s) (hrun : M.run s is = some (t, es)) : I (h ++ es) t := by
  induction is generalizing s h es with
  | nil =>
    cases hrun
    rwa [append_nil]
  | cons i is ih =>
    obtain ⟨u, es₁, es₂, hi, hrest, rfl⟩ := M.run_cons_eq_some hrun
    rw [← append_assoc]
    exact ih (hstep h s i u es₁ hs hi) hrest

/-- **Layers.** `N` is a layer over `M` if each of its steps either is a step of `M`, seen
through the projections, or leaves the projected state alone. Below a run of the layer there is
then a run of `M`. -/
theorem run_of_layer {σ' ι' ε' : Type*} {N : Machine σ' ι' ε'} (state : σ' → σ)
    (event : ε' → Option ε)
    (hstep : ∀ s i t es, N.step s i = some (t, es) →
      (∃ j, M.step (state s) j = some (state t, es.filterMap event)) ∨
        state t = state s ∧ es.filterMap event = [])
    {s t : σ'} {is : List ι'} {es : List ε'} (hrun : N.run s is = some (t, es)) :
    ∃ js, M.run (state s) js = some (state t, es.filterMap event) := by
  induction is generalizing s es with
  | nil =>
    cases hrun
    exact ⟨[], rfl⟩
  | cons i is ih =>
    obtain ⟨u, es₁, es₂, hi, hrest, rfl⟩ := N.run_cons_eq_some hrun
    obtain ⟨js, hbelow⟩ := ih hrest
    rw [filterMap_append]
    rcases hstep s i u es₁ hi with ⟨j, hM⟩ | ⟨hsame, hquiet⟩
    · refine ⟨j :: js, ?_⟩
      rw [run, hM]
      simp only [hbelow]
    · rw [hquiet, nil_append, ← hsame]
      exact ⟨js, hbelow⟩

end Machine

end EventMachine
