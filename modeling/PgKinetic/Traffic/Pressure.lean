import Mathlib.Order.Basic
import Mathlib.Data.List.Basic

/-!
# The in-flight limit under pressure

`pressure_step` lowers the limit of a route by a quarter while the machine is under pressure, down
to a floor, and raises it by a tenth of the configured limit afterwards. A limit **below the
floor** goes up under pressure instead, to the floor and in one step, and the decision says `Hold`.
-/

namespace PgKinetic

/-- `PressureAction`. -/
inductive PressureAction where
  | hold | reduce | restore
  deriving DecidableEq

/-- `PressureDecision`. -/
structure PressureDecision where
  action : PressureAction
  routeInFlightLimit : Nat
  pressured : Bool
  deriving DecidableEq

/-- `PressureConfig`, without the marks of the two figures. -/
structure PressureConfig where
  enabled : Bool
  minInFlightFloor : Nat

/-- The clamp of a limit and of the floor to the configured limit, which counts as one if it is
zero. -/
def effectiveLimit (configuredLimit limit : Nat) : Nat := min (max limit 1) (max configuredLimit 1)

/-- `pressure_step`; `high` says whether one of the figures has reached its mark. -/
def pressureStep (currentLimit configuredLimit : Nat) (high : Bool) (config : PressureConfig) :
    PressureDecision :=
  let currentLimit := effectiveLimit configuredLimit currentLimit
  let floor := effectiveLimit configuredLimit config.minInFlightFloor
  let configuredLimit := max configuredLimit 1
  if !config.enabled then
    ⟨if currentLimit < configuredLimit then .restore else .hold, configuredLimit, false⟩
  else if high then
    let next := max (currentLimit - max (currentLimit / 4) 1) floor
    ⟨if next < currentLimit then .reduce else .hold, next, true⟩
  else if currentLimit < configuredLimit then
    ⟨.restore, min (currentLimit + max (configuredLimit / 10) 1) configuredLimit, false⟩
  else ⟨.hold, configuredLimit, false⟩

/-- The two settings that a step reads, while they stay as they are. -/
structure PressureSetting extends PressureConfig where
  configured : Nat

namespace PressureSetting

variable (p : PressureSetting)

/-- The limit a step starts from. -/
def start (limit : Nat) : Nat := effectiveLimit p.configured limit

/-- The floor of a step. -/
def floor : Nat := p.start p.minInFlightFloor

/-- The ceiling of a step. -/
def ceiling : Nat := max p.configured 1

/-- A step. -/
def step (limit : Nat) (high : Bool) : PressureDecision :=
  pressureStep limit p.configured high p.toPressureConfig

/-- The limit after steps with these flags. -/
def run (limit : Nat) (highs : List Bool) : Nat :=
  highs.foldl (fun limit high => (p.step limit high).routeInFlightLimit) limit

/-- **What a decision should say** of the limit it starts from. -/
structure Sound (limit : Nat) (d : PressureDecision) : Prop where
  positive : 1 ≤ d.routeInFlightLimit
  bounded : d.routeInFlightLimit ≤ p.ceiling
  pressured : d.pressured = true → d.routeInFlightLimit ≤ p.start limit
  unpressured : d.pressured = false → p.start limit ≤ d.routeInFlightLimit
  reduce : d.action = .reduce ↔ d.routeInFlightLimit < p.start limit
  restore : d.action = .restore ↔ p.start limit < d.routeInFlightLimit
  hold : d.action = .hold ↔ d.routeInFlightLimit = p.start limit

/-- **What the steps should do** from a limit: each is sound, whatever came before; under pressure
the limit comes down to the floor, and without it up to the configured limit, and stays there. -/
structure Converges (limit : Nat) : Prop where
  sound : ∀ highs high, p.Sound (p.run limit highs) (p.step (p.run limit highs) high)
  reduced : p.enabled = true → ∀ highs, ∃ n, ∀ m ≥ n,
    p.run limit (highs ++ .replicate m true) = p.floor
  restored : ∀ highs, ∀ m ≥ max 10 p.configured,
    p.run limit (highs ++ .replicate m false) = p.ceiling

/-- No step under pressure finds the limit below the floor. -/
def FloorLe (limit : Nat) : Prop := p.enabled = true → p.floor ≤ p.start limit

variable {p} {limit : Nat}

theorem start_pos : 1 ≤ p.start limit :=
  Nat.le_min.2 ⟨Nat.le_max_right limit 1, Nat.le_max_right p.configured 1⟩

theorem start_le : p.start limit ≤ p.ceiling := Nat.min_le_right ..

theorem Sound.start_eq {d : PressureDecision} (h : p.Sound limit d) :
    p.start d.routeInFlightLimit = d.routeInFlightLimit := by
  rw [start, effectiveLimit, Nat.max_eq_left h.positive]
  exact Nat.min_eq_left h.bounded

/-- A limit that is not below the floor stays so, and the decision about it is sound. -/
theorem FloorLe.sound (h : p.FloorLe limit) (high : Bool) :
    p.Sound limit (p.step limit high) ∧ p.FloorLe (p.step limit high).routeInFlightLimit := by
  rw [FloorLe, floor] at h
  have hle := @start_le p limit
  have hfloor := @start_pos p p.minInFlightFloor
  have hfits := @start_le p p.minInFlightFloor
  have hstep : p.Sound limit (p.step limit high) ∧ (p.enabled = true →
      p.start p.minInFlightFloor ≤ (p.step limit high).routeInFlightLimit) := by
    simp only [step, pressureStep, ← start.eq_1, ← ceiling.eq_1]
    split
    · exact ⟨by constructor <;> grind, by grind⟩
    · split
      · exact ⟨by constructor <;> grind, by grind⟩
      · split <;> exact ⟨by constructor <;> grind, by grind⟩
  rwa [FloorLe, floor, hstep.1.start_eq]

theorem FloorLe.run (h : p.FloorLe limit) (highs : List Bool) : p.FloorLe (p.run limit highs) := by
  induction highs generalizing limit with
  | nil => exact h
  | cons high highs ih => exact ih (h.sound high).2

/-- A step under pressure. -/
theorem limit_high (henabled : p.enabled = true) : (p.step limit true).routeInFlightLimit =
    max (p.start limit - max (p.start limit / 4) 1) p.floor := by
  simp [step, pressureStep, henabled, floor, start]

/-- A step without pressure raises the limit, if it is not the configured one. -/
theorem limit_low :
    min (p.start limit + 1) p.ceiling ≤ (p.step limit false).routeInFlightLimit := by
  unfold step pressureStep ceiling start
  grind

/-- Steps under pressure lower the limit by one at least, until it is at the floor. -/
theorem FloorLe.run_high (h : p.FloorLe limit) (henabled : p.enabled = true) (m : Nat) :
    p.start (p.run limit (.replicate m true)) ≤ max p.floor (p.start limit - m) := by
  induction m generalizing limit with
  | zero => exact Nat.le_max_right ..
  | succ m ih =>
    obtain ⟨hsound, hnext⟩ := h.sound true
    refine Nat.le_trans (ih hnext) ?_
    rw [hsound.start_eq, limit_high henabled]
    omega

/-- Steps without pressure raise the limit by one at least, until it is the configured one. -/
theorem FloorLe.run_low (h : p.FloorLe limit) (m : Nat) :
    min (p.start limit + m) p.ceiling ≤ p.start (p.run limit (.replicate m false)) := by
  induction m generalizing limit with
  | zero => exact Nat.min_le_left ..
  | succ m ih =>
    obtain ⟨hsound, hnext⟩ := h.sound false
    refine Nat.le_trans ?_ (ih hnext)
    rw [hsound.start_eq]
    have hlow := @limit_low p limit
    omega

/-- After a step a limit is where the next one starts. -/
theorem FloorLe.start_run (h : p.FloorLe limit) (highs : List Bool) (high : Bool) {m : Nat}
    (hm : 0 < m) :
    p.start (p.run (p.run limit highs) (.replicate m high)) =
      p.run limit (highs ++ .replicate m high) := by
  obtain ⟨m, rfl⟩ := Nat.exists_eq_add_one_of_ne_zero (Nat.ne_of_gt hm)
  simp only [List.replicate_succ', PressureSetting.run, List.foldl_append]
  exact (((h.run highs).run (.replicate m high)).sound high).1.start_eq

/-- **The limit converges** exactly from where it is not below the floor. -/
theorem converges_iff (p : PressureSetting) (limit : Nat) :
    p.Converges limit ↔ (p.enabled = true → p.floor ≤ p.start limit) := by
  refine ⟨fun h henabled => ?_, fun (h : p.FloorLe limit) => ⟨fun highs high =>
    ((h.run highs).sound high).1, fun henabled highs => ⟨p.ceiling, fun m hm => ?_⟩,
    fun highs m hm => ?_⟩⟩
  · -- the first step under pressure ends at the floor or above it
    have hfirst := (h.sound [] true).pressured (by simp [step, pressureStep, henabled])
    rw [limit_high henabled] at hfirst
    exact Nat.le_trans (Nat.le_max_right ..) hfirst
  · have hceiling : 0 < p.ceiling := Nat.le_max_right ..
    rw [← h.start_run highs true (by omega)]
    refine Nat.le_antisymm ?_ ((h.run highs).run _ henabled)
    have hdown := (h.run highs).run_high henabled m
    have hbefore := @start_le p (p.run limit highs)
    omega
  · rw [← h.start_run highs false (by omega)]
    refine Nat.le_antisymm start_le (Nat.le_trans ?_ ((h.run highs).run_low m))
    rw [ceiling]
    omega

/-- A limit of two with a floor of eight: under pressure it goes up, and the decision is to hold. -/
theorem step_below_floor :
    step ⟨⟨true, 8⟩, 100⟩ 2 true = ⟨.hold, 8, true⟩ ∧ ¬ Converges ⟨⟨true, 8⟩, 100⟩ 2 := by
  refine ⟨by decide, fun h => absurd ((h.sound [] true).pressured rfl) (by decide)⟩

end PressureSetting

end PgKinetic
