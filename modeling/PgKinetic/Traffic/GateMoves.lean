import PgKinetic.Traffic.Backpressure
import Mathlib.Data.Multiset.OrderedMonoid

/-!
# The moves of a checkout

Whatever a checkout does at its gates, it makes one of eleven **moves** (`Move`): one access of a
counter, a semaphore or nothing shared at all, with what the task stands for before and after.
The accounts of the gates are kept from this list alone.
-/

namespace PgKinetic

open EventMachine Tally

namespace Backpressure

variable {γ : Type}

/-! ### Tasks that are well formed -/

/-- The outcome of a checkout that gives up its permits. -/
def Place.ending : Place γ → Option (Option BackpressureError)
  | .subtracting _ error | .releasing _ error | .ended error => some error
  | _ => none

/-- A task passes each gate once; it counts out gates it holds permits of; and one that has been
cancelled gives up its permits and reports no error. -/
structure Task.WellFormed (t : Task γ) : Prop where
  distinct : (t.held ++ t.todo).Nodup
  counts : ∀ gates error, t.place = .subtracting gates error → gates.Sublist t.held
  cancelled : t.cancelledAt.isSome → t.place.ending = some none

/-- The gate whose limit the task is about to read, with what it has found in `in_flight`. -/
def Task.countedAt (t : Task γ) : Option (γ × Nat) :=
  match t.place, t.todo with
  | .counted previous, g :: _ => some (g, previous)
  | _, _ => none

/-! ### Moves -/

section

variable [DecidableEq γ] (cfg : γ → GateConfig) (i : Nat) (outstanding waiting : γ → Nat)

/-- A move of task `i`. -/
inductive Move (s : Shared γ) (t : Task γ) : Shared γ → Task γ → List (Event γ) → Prop where
  | quiet {t' : Task γ} (hstanding : t'.standing = t.standing) (hcounted : t'.countedAt = none) :
    Move s t s t' []
  | enqueue {t' : Task γ} {es : List (Event γ)} (g : γ)
    (hstanding : t'.standing = { t.standing with waits := g ::ₘ t.standing.waits })
    (hcounted : t'.countedAt = none)
    (hes : ∀ e ∈ es, e = .queueFull g (waiting g) ∧ (cfg g).maxWaiters ≤ (s.gates g).waiters) :
    Move s t (s.enqueue g) t' es
  | dequeue {t' : Task γ} (g : γ)
    (hstanding : t.standing = { t'.standing with waits := g ::ₘ t'.standing.waits })
    (hcounted : t'.countedAt = none) : Move s t (s.dequeue g) t' []
  | acquire {s' : Shared γ} {t' : Task γ} (g : γ) (hacquire : s.acquire g = some s')
    (hstanding : t'.standing = { t.standing with permits := g ::ₘ t.standing.permits })
    (hcounted : t'.countedAt = none) : Move s t s' t' []
  | release {t' : Task γ} (g : γ)
    (hstanding : t.standing = { t'.standing with permits := g ::ₘ t'.standing.permits })
    (hcounted : t'.countedAt = none) : Move s t (s.releasePermit g) t' []
  | countIn {t' : Task γ} (g : γ) (hnew : g ∉ t.standing.outstanding)
    (hfirst : t.standing.undecided = 0)
    (hstanding : t'.standing = { t.standing with undecided := {g} })
    (hcounted : t'.countedAt = some (g, (s.gates g).inFlight)) :
    Move s t (s.countIn cfg g i) t' []
  | grant {t' : Task γ} (g : γ) (previous : Nat) (hat : t.countedAt = some (g, previous))
    (hlt : previous < s.limit cfg g) (hnew : g ∉ t.standing.outstanding)
    (hundecided : t.standing.undecided = {g})
    (hstanding : t'.standing =
      { t.standing with outstanding := g ::ₘ t.standing.outstanding, undecided := 0 })
    (hcounted : t'.countedAt = none) :
    Move s t (s.grant cfg g i) t' [.granted g (s.limit cfg g) (s.peak g i) (outstanding g + 1)]
  | undo {t' : Task γ} (g : γ) (hnew : g ∉ t.standing.outstanding)
    (hundecided : t.standing.undecided = {g})
    (hstanding : t'.standing = { t.standing with undecided := 0 })
    (hcounted : t'.countedAt = none) : Move s t (s.countOut g i) t' []
  | giveBack {t' : Task γ} (g : γ) (hdecided : t.standing.undecided = 0)
    (hstanding : t.standing = { t'.standing with outstanding := g ::ₘ t'.standing.outstanding })
    (hcounted : t'.countedAt = none) : Move s t (s.countOut g i) t' []
  | cancel {t' : Task γ} (g : γ) (hwaits : t.standing.waits = {g}) (hleaked : t.standing.leaked = 0)
    (hstanding : t'.standing = { t.standing with waits := 0, leaked := {g} })
    (hcounted : t'.countedAt = none) : Move s t s t' []
  | cancelAssigned {t' : Task γ} (g : γ) (hwaits : t.standing.waits = {g})
    (hleaked : t.standing.leaked = 0)
    (hpermits : t.standing.permits = g ::ₘ t'.standing.permits)
    (hstanding : t'.standing =
      { t.standing with waits := 0, leaked := {g}, permits := t'.standing.permits })
    (hcounted : t'.countedAt = none) : Move s t (s.releasePermit g) t' []

variable {cfg i outstanding waiting} {s s' : Shared γ} {t t' : Task γ} {action : Action}
  {es : List (Event γ)}

omit [DecidableEq γ] in
theorem add_here (held : List γ) (g : γ) : (held : Multiset γ) + ([g] : List γ) = g ::ₘ held := by
  rw [Multiset.coe_singleton, add_comm, Multiset.singleton_add]

omit [DecidableEq γ] in
theorem coe_concat (held : List γ) (g : γ) :
    ((held ++ [g] : List γ) : Multiset γ) = g ::ₘ held := by
  rw [← Multiset.coe_add, add_here]

omit [DecidableEq γ] in
theorem Task.standing_pass (t : Task γ) (g : γ) (rest : List γ) :
    (t.pass g rest).standing =
      { outstanding := g ::ₘ t.held, permits := g ::ₘ t.held,
        leaked := (t.cancelledAt.toList : List γ) } := by
  rw [← coe_concat]
  cases rest <;> rfl

omit [DecidableEq γ] in
theorem Task.countedAt_pass (t : Task γ) (g : γ) (rest : List γ) :
    (t.pass g rest).countedAt = none := by
  cases rest <;> rfl

omit [DecidableEq γ] in
/-- A task that is at a gate has not been cancelled. -/
theorem Task.WellFormed.live (hwf : t.WellFormed) (hdrop : t.dropping = false) :
    t.cancelledAt = none := by
  refine Option.not_isSome_iff_eq_none.1 fun hsome => ?_
  have hending := hwf.cancelled hsome
  revert hdrop hending
  rw [dropping]
  cases t.place <;> simp [Place.ending]

variable {g : γ} {rest : List γ}

/-- **Moves at a gate.** -/
theorem Task.stepAt_move (hwf : t.WellFormed) (htodo : t.todo = g :: rest)
    (hdrop : t.dropping = false)
    (h : t.stepAt cfg i outstanding waiting s g rest action = some (s', t', es)) :
    Move cfg i outstanding waiting s t s' t' es := by
  obtain ⟨todo, held, place, cancelledAt⟩ := t
  obtain rfl : todo = g :: rest := htodo
  have hnew : g ∉ held := fun hmem =>
    (List.nodup_append.1 hwf.distinct).2.2 g hmem g List.mem_cons_self rfl
  obtain rfl : cancelledAt = none := hwf.live hdrop
  have hhere := add_here held g
  unfold stepAt at h
  dsimp only at h
  split at h
  -- at the head of the loop
  case h_1 | h_6 | h_7 => cases h; exact .quiet rfl rfl
  case h_2 n | h_19 sheddable =>
    cases h
    refine .quiet ?_ ?_
    all_goals split <;> rfl
  -- at the queue and its awaits
  case h_3 =>
    split at h
    case isTrue hfull =>
      cases h
      exact .enqueue g rfl rfl fun e he => ⟨List.mem_singleton.1 he, hfull⟩
    case isFalse =>
      cases h
      exact .enqueue g rfl rfl (by simp)
  case h_4 | h_12 | h_13 => cases h; exact .dequeue g rfl rfl
  case h_5 =>
    split at h
    case h_1 s₁ hacquire =>
      cases h
      exact .acquire g hacquire (Standing.ext rfl rfl hhere rfl rfl) rfl
    case h_2 => cases h
  case h_8 site => cases h; cases site <;> exact .quiet rfl rfl
  case h_9 => cases h; exact .cancel g rfl rfl rfl rfl
  case h_10 => cases h; exact .cancelAssigned g rfl rfl hhere (Standing.ext rfl rfl rfl rfl rfl) rfl
  case h_11 site error => cases h; cases site <;> exact .dequeue g rfl rfl
  -- with and without a permit of the semaphore
  case h_14 =>
    split at h
    case h_1 s₁ hacquire =>
      cases h
      exact .acquire g hacquire (Standing.ext rfl rfl hhere rfl rfl) rfl
    case h_2 => cases h; exact .quiet rfl rfl
  case h_15 => cases h; exact .countIn g hnew rfl rfl rfl
  case h_16 previous =>
    split at h
    case isTrue hlt =>
      cases h
      refine .grant g previous rfl hlt hnew rfl ?_ (countedAt_pass _ g rest)
      rw [standing_pass]
      exact Standing.ext rfl rfl hhere.symm rfl rfl
    case isFalse => cases h; exact .quiet rfl rfl
  case h_17 => cases h; exact .undo g hnew rfl rfl rfl
  case h_18 => cases h; exact .release g (Standing.ext rfl rfl hhere rfl rfl) rfl
  -- between two gates
  case h_20 =>
    split at h
    all_goals cases h; exact .quiet rfl rfl
  case h_21 => cases h

/-- **Moves of a task that drops its permits.** -/
theorem Task.stepDrop_move (h : t.stepDrop i s action = some (s', t', es)) :
    Move cfg i outstanding waiting s t s' t' es := by
  obtain ⟨todo, held, place, cancelledAt⟩ := t
  unfold stepDrop at h
  dsimp only at h
  split at h
  case h_1 | h_3 | h_5 => cases h; exact .quiet rfl rfl
  case h_2 g gates error => cases h; exact .giveBack g rfl rfl rfl
  case h_4 g gates error => cases h; exact .release g rfl rfl
  case h_6 => cases h

/-- **Moves.** Every step of a task is a move. -/
theorem Task.step_move (hwf : t.WellFormed)
    (h : t.step cfg i outstanding waiting s action = some (s', t', es)) :
    Move cfg i outstanding waiting s t s' t' es := by
  rw [step] at h
  split at h
  case isTrue => exact stepDrop_move h
  case isFalse hdrop =>
    cases htodo : t.todo with
    | nil => rw [htodo] at h; cases h
    | cons g rest =>
      rw [htodo] at h
      exact stepAt_move hwf htodo (by simpa using hdrop) h

/-! ### Well-formedness is kept -/

omit [DecidableEq γ] in
/-- A task that only moves on at its gate. -/
theorem Task.WellFormed.withPlace (hwf : t.WellFormed) (hdrop : t.dropping = false)
    {place : Place γ} (hplace : place.ending = none) : { t with place }.WellFormed := by
  refine ⟨hwf.distinct, ?_, ?_⟩
  · rintro gates error rfl
    cases hplace
  · intro hsome
    rw [hwf.live hdrop] at hsome
    cases hsome

omit [DecidableEq γ] in
theorem Task.WellFormed.giveUp (hwf : t.WellFormed) (hdrop : t.dropping = false)
    (error : Option BackpressureError) : (t.giveUp error).WellFormed := by
  refine ⟨hwf.distinct, ?_, ?_⟩
  · intro gates error' h
    cases h
    exact List.Sublist.refl _
  · intro hsome
    have hlive : (t.giveUp error).cancelledAt = none := hwf.live hdrop
    rw [hlive] at hsome
    cases hsome

omit [DecidableEq γ] in
theorem Task.WellFormed.cancel (hwf : t.WellFormed) (g : γ) :
    { t.giveUp none with cancelledAt := some g }.WellFormed := by
  refine ⟨hwf.distinct, ?_, fun _ => rfl⟩
  intro gates error h
  cases h
  exact List.Sublist.refl _

omit [DecidableEq γ] in
theorem Task.WellFormed.pass (hwf : t.WellFormed) (hdrop : t.dropping = false)
    (htodo : t.todo = g :: rest) : (t.pass g rest).WellFormed := by
  have hplace : (t.pass g rest).place.ending = none := by cases rest <;> rfl
  refine ⟨?_, ?_, ?_⟩
  · have hdistinct := hwf.distinct
    rw [htodo] at hdistinct
    change (t.held ++ [g] ++ rest).Nodup
    rwa [List.append_assoc]
  · intro gates error h
    rw [h] at hplace
    cases hplace
  · intro hsome
    have hlive : (t.pass g rest).cancelledAt = none := hwf.live hdrop
    rw [hlive] at hsome
    cases hsome

theorem Task.stepAt_wellFormed (hwf : t.WellFormed) (htodo : t.todo = g :: rest)
    (hdrop : t.dropping = false)
    (h : t.stepAt cfg i outstanding waiting s g rest action = some (s', t', es)) :
    t'.WellFormed := by
  unfold stepAt at h
  -- the task stays at its gate, gives up, is cancelled, or passes
  split at h <;> (try split at h) <;> cases h
  all_goals first
    | exact hwf.withPlace hdrop rfl
    | exact hwf.giveUp hdrop _
    | exact hwf.cancel g
    | exact hwf.pass hdrop htodo

theorem Task.stepDrop_wellFormed (hwf : t.WellFormed)
    (h : t.stepDrop i s action = some (s', t', es)) : t'.WellFormed := by
  obtain ⟨todo, held, place, cancelledAt⟩ := t
  obtain ⟨hdistinct, hcounts, hcancelled⟩ := hwf
  unfold stepDrop at h
  dsimp only at h
  split at h
  case h_1 =>
    cases h
    refine ⟨hdistinct, ?_, fun _ => rfl⟩
    rintro gates error ⟨⟩
    exact List.Sublist.refl _
  case h_2 g gates error =>
    cases h
    refine ⟨hdistinct, ?_, hcancelled⟩
    rintro gates' error' ⟨⟩
    exact (List.sublist_cons_self g gates).trans (hcounts _ _ rfl)
  case h_3 | h_4 | h_5 => cases h; exact ⟨hdistinct, by rintro _ _ ⟨⟩, hcancelled⟩
  case h_6 => cases h

theorem Task.step_wellFormed (hwf : t.WellFormed)
    (h : t.step cfg i outstanding waiting s action = some (s', t', es)) : t'.WellFormed := by
  rw [step] at h
  split at h
  case isTrue => exact stepDrop_wellFormed hwf h
  case isFalse hdrop =>
    cases htodo : t.todo with
    | nil => rw [htodo] at h; cases h
    | cons g rest =>
      rw [htodo] at h
      exact stepAt_wellFormed hwf htodo (by simpa using hdrop) h

omit [DecidableEq γ] in
/-- Who is counted in `in_flight` holds a permit of the semaphore. -/
theorem Task.WellFormed.backed (hwf : t.WellFormed) :
    t.standing.outstanding + t.standing.undecided ≤ t.standing.permits := by
  have hcounts := hwf.counts
  change (t.place.standing t.held _).outstanding + (t.place.standing t.held _).undecided ≤
    (t.place.standing t.held (t.todo.take 1 : List γ)).permits
  generalize (↑(t.todo.take 1) : Multiset γ) = here
  cases hplace : t.place with
  | subtracting gates error =>
    have hle : (gates : Multiset γ) ≤ t.held := (hcounts gates error hplace).subperm
    simpa [Place.standing] using hle
  | woken site error => cases site <;> cases error <;> simp [Place.standing]
  | _ => simp [Place.standing]

end

end Backpressure

end PgKinetic
