import PgKinetic.Proxy.RoutingSafety
import Mathlib.Data.List.Count
import Mathlib.Data.List.Rotate

/-!
# Weighted round robin

Consider the list in which every healthy replica stands as often as its weight says (`spread`). The
weighted selection reads it at the cursor, modulo its length, and the cursor goes on by one. So as
many calls as the list is long return the list itself, **rotated** to where the cursor stood.
-/

namespace PgKinetic

namespace Replicas

open List

/-- The healthy replicas. -/
def healthyReplicas (view : Replicas) : List Replica := view.replicas.filter (·.healthy)

/-- The total weight of the healthy replicas. -/
def totalWeight (view : Replicas) : Nat := (view.healthyReplicas.map (·.weight)).sum

/-- The selector after a call of `ReplicaSelector::select`. The `fetch_add` wraps, and is left out
where the call returns before it. -/
def afterSelect (view : Replicas) : Replicas :=
  match view.strategy with
  | .leastWaiting => view
  | .weightedRoundRobin =>
    if view.totalWeight = 0 then view else { view with cursor := (view.cursor + 1) % 2 ^ 64 }

/-- What consecutive calls of `ReplicaSelector::select` return. -/
def selects : Nat → Replicas → List (Option Replica)
  | 0, _ => []
  | n + 1, view => view.select :: selects n view.afterSelect

/-- Every replica as often as its weight says. -/
def spread (replicas : List Replica) : List Replica :=
  replicas.flatMap fun replica => replicate replica.weight replica

theorem length_spread (replicas : List Replica) :
    (spread replicas).length = (replicas.map (·.weight)).sum := by
  simp only [spread, length_flatMap, length_replicate]

theorem spread_cons (first : Replica) (rest : List Replica) :
    spread (first :: rest) = replicate first.weight first ++ spread rest := flatMap_cons

theorem count_spread (replica : Replica) (replicas : List Replica) :
    (spread replicas).count replica = replicas.count replica * replica.weight := by
  induction replicas with
  | nil => exact (Nat.zero_mul _).symm
  | cons first rest ih =>
    rw [spread_cons, count_append, count_replicate, ih, count_cons]
    by_cases hfirst : first = replica
    · subst hfirst
      rw [if_pos BEq.rfl, if_pos BEq.rfl, Nat.succ_mul, Nat.add_comm]
    · rw [if_neg (by simpa using hfirst), if_neg (by simpa using hfirst), Nat.zero_add,
        Nat.add_zero]

/-- **The loop of the weighted selection** reads the list. -/
theorem pickWeighted_eq (offset k : Nat) (replicas : List Replica) :
    pickWeighted (offset + k) offset replicas = (spread replicas)[k]? := by
  induction replicas generalizing offset k with
  | nil => rfl
  | cons first rest ih =>
    rw [pickWeighted, spread_cons]
    by_cases hk : k < first.weight
    · rw [if_pos (by omega), getElem?_append_left (by rwa [length_replicate]),
        getElem?_replicate_of_lt hk]
    · obtain ⟨j, rfl⟩ := Nat.exists_eq_add_of_le (Nat.not_lt.1 hk)
      rw [if_neg (by omega), getElem?_append_right (by rw [length_replicate]; omega),
        length_replicate, Nat.add_sub_cancel_left, ← ih (offset + first.weight) j, Nat.add_assoc]

variable {view : Replicas}

/-- Calls while the cursor does not wrap. -/
theorem selects_eq (hstrategy : view.strategy = .weightedRoundRobin)
    (hweight : view.totalWeight ≠ 0) {n : Nat} (hcursor : view.cursor + n < 2 ^ 64) :
    selects n view = (range n).map fun i =>
      (spread view.healthyReplicas)[(i + view.cursor) % view.totalWeight]? := by
  induction n generalizing view with
  | zero => rfl
  | succ n ih =>
    have hselect : view.select =
        (spread view.healthyReplicas)[view.cursor % view.totalWeight]? := by
      rw [← pickWeighted_eq 0, Nat.zero_add, select, hstrategy]
      exact if_neg hweight
    have hafter : view.afterSelect = { view with cursor := view.cursor + 1 } := by
      rw [afterSelect, hstrategy]
      rw [if_neg hweight, Nat.mod_eq_of_lt (by omega)]
    have hrest := @ih { view with cursor := view.cursor + 1 } hstrategy hweight
      (show view.cursor + 1 + n < 2 ^ 64 by omega)
    rw [selects, hafter, hrest, hselect, range_succ_eq_map, map_cons, map_map, Nat.zero_add]
    refine congrArg _ (map_congr_left fun i _ => ?_)
    change (spread view.healthyReplicas)[(i + (view.cursor + 1)) % view.totalWeight]? =
      (spread view.healthyReplicas)[(i + 1 + view.cursor) % view.totalWeight]?
    rw [Nat.add_right_comm, Nat.add_assoc]

/-- A window of calls goes once round the list. -/
theorem selects_totalWeight (hstrategy : view.strategy = .weightedRoundRobin)
    (hcursor : view.cursor + view.totalWeight < 2 ^ 64) :
    selects view.totalWeight view =
      ((spread view.healthyReplicas).rotate view.cursor).map some := by
  have hlength : (spread view.healthyReplicas).length = view.totalWeight := length_spread _
  by_cases hweight : view.totalWeight = 0
  · rw [hweight] at hlength ⊢
    rw [length_eq_zero_iff.1 hlength, rotate_nil]
    rfl
  · rw [selects_eq hstrategy hweight hcursor]
    refine ext_getElem (by simp [hlength]) fun i hi _ => ?_
    rw [getElem_map, getElem_range, getElem_map, getElem_rotate, ← hlength,
      getElem?_eq_getElem (Nat.mod_lt _ (by omega))]

/-- **Weighted round robin is exactly proportional.** As many calls as the total healthy weight
return every healthy replica exactly as often as its weight says (so many times for every time it
stands in the list), and nothing else, wherever the cursor stands as long as it does not wrap. -/
theorem selects_proportional (hstrategy : view.strategy = .weightedRoundRobin)
    (hcursor : view.cursor + view.totalWeight < 2 ^ 64) :
    (∀ replica, (selects view.totalWeight view).count (some replica) =
        view.healthyReplicas.count replica * replica.weight) ∧
      ∀ selected ∈ selects view.totalWeight view, ∃ replica ∈ view.replicas,
        replica.healthy = true ∧ selected = some replica := by
  rw [selects_totalWeight hstrategy hcursor]
  refine ⟨fun replica => ?_, fun selected hselected => ?_⟩
  · rw [count_map_of_injective _ _ (Option.some_injective _), (rotate_perm _ _).count_eq,
      count_spread]
  · obtain ⟨replica, hreplica, rfl⟩ := mem_map.1 hselected
    obtain ⟨healthy, hhealthy, hmem⟩ := mem_flatMap.1 (mem_rotate.1 hreplica)
    obtain rfl := eq_of_mem_replicate hmem
    exact ⟨replica, (mem_filter.1 hhealthy).1, (mem_filter.1 hhealthy).2, rfl⟩

/-- Three replicas of which the second, with weight two, and the third are healthy. -/
def twoHealthy : Replicas where
  replicas := [⟨1, false, 0, 4⟩, ⟨2, true, 0, 2⟩, ⟨3, true, 0, 1⟩]
  snapshots := []
  strategy := .weightedRoundRobin
  cursor := 7

theorem selects_twoHealthy :
    selects 3 twoHealthy = [some ⟨2, true, 0, 2⟩, some ⟨3, true, 0, 1⟩, some ⟨2, true, 0, 2⟩] ∧
      (selects twoHealthy.totalWeight twoHealthy).count (some ⟨2, true, 0, 2⟩) = 2 :=
  ⟨by decide, (selects_proportional rfl (by decide)).1 ⟨2, true, 0, 2⟩⟩

end Replicas

end PgKinetic
