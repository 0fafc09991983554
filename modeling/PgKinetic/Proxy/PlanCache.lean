import PgKinetic.Traffic.ReadRouting
import Mathlib.Data.List.AList

/-!
# The plan cache of a session

`SqlPlanCache` keeps the command and, once it was needed, the analysis of the last texts in a map,
and the order in which they came in a queue, from whose front it evicts. A text that comes without
its analysis first and with it later is replaced in the map and keeps its place in the queue; one
that was evicted comes in anew. Queue and map **list the same texts** after every history.
-/

namespace PgKinetic

open List Option

/-- `SqlAnalysis`. -/
structure SqlAnalysis where
  queryClass : QueryClass
  routingHint : RoutingHint

/-- `analyze_sql`. -/
def analyzeSql (sql : Text) : SqlAnalysis := ⟨SqlClassify.classifySql sql, RoutingHint.extract sql⟩

/-- `CachedSqlPlan`. -/
structure CachedSqlPlan where
  command : SqlCommand
  analysis : Option SqlAnalysis

/-- `SqlPlanCache`. -/
structure SqlPlanCache where
  capacity : Nat
  plans : AList fun _ : Text => CachedSqlPlan := ∅
  insertionOrder : List Text := []

namespace SqlPlanCache

/-- `evict_to_capacity`: the map and the queue it leaves. -/
def evictToCapacity (capacity : Nat) (plans : AList fun _ : Text => CachedSqlPlan) :
    List Text → (AList fun _ : Text => CachedSqlPlan) × List Text
  | [] => (plans, [])
  | key :: order =>
    if capacity < plans.keys.length then evictToCapacity capacity (plans.erase key) order
    else (plans, key :: order)

/-- The part of `get_or_insert` that stores a plan. -/
def store (cache : SqlPlanCache) (sql : Text) (plan : CachedSqlPlan) : SqlPlanCache :=
  let order := if sql ∈ cache.plans then cache.insertionOrder else cache.insertionOrder ++ [sql]
  let (plans, order) := evictToCapacity cache.capacity (cache.plans.insert sql plan) order
  { cache with plans, insertionOrder := order }

/-- `get_or_insert`; `none` where `classify` panics. -/
def getOrInsert (cache : SqlPlanCache) (sql : Text) (needsAnalysis : Bool) :
    Option (CachedSqlPlan × SqlPlanCache) :=
  let cached := cache.plans.lookup sql
  match cached.filter fun plan => !needsAnalysis || plan.analysis.isSome with
  | some plan => some (plan, cache)
  | none =>
    ((cached.map (·.command)).or (Sql.classify sql)).map fun command =>
      let plan : CachedSqlPlan := ⟨command, if needsAnalysis then some (analyzeSql sql) else none⟩
      (plan, if cache.capacity = 0 then cache else cache.store sql plan)

/-- A call in the life of a cache, with the texts that came into it so far. A call that panics
leaves the cache as it was. -/
def call (s : SqlPlanCache × List Text) (c : Text × Bool) : SqlPlanCache × List Text :=
  match s.1.getOrInsert c.1 c.2 with
  | none => s
  | some (_, cache) => (cache, if s.1.capacity = 0 ∨ c.1 ∈ s.1.plans then s.2 else s.2 ++ [c.1])

/-- The plan says of the text what `classify` and `analyze_sql` do, if it says anything. -/
def Right (sql : Text) (plan : CachedSqlPlan) : Prop :=
  Sql.classify sql = some plan.command ∧
    (plan.analysis = none ∨ plan.analysis = some (analyzeSql sql))

/-- **What a cache should be** when the texts `inserted` have come into it, one after the other:
the queue lists the texts of the map, each once, in this order. -/
structure Consistent (cache : SqlPlanCache) (inserted : List Text) : Prop where
  right : ∀ sql, ∀ plan ∈ cache.plans.lookup sql, Right sql plan
  listed : cache.insertionOrder ~ cache.plans.keys
  nodup : cache.insertionOrder.Nodup
  bounded : cache.plans.keys.length ≤ cache.capacity
  suffix : cache.insertionOrder <:+ inserted

/-- **What a call should return**: what `classify` does, and the analysis where it is needed. -/
structure Transparent (sql : Text) (needsAnalysis : Bool) (returned : Option CachedSqlPlan) :
    Prop where
  command : returned.map (·.command) = Sql.classify sql
  right : ∀ plan ∈ returned, Right sql plan
  analysis : ∀ plan ∈ returned, needsAnalysis = true → plan.analysis ≠ none

/-! ### One call -/

variable {cache : SqlPlanCache} {inserted : List Text} {sql : Text} {needsAnalysis : Bool}

/-- Eviction takes the same texts out of map and queue. -/
theorem evictToCapacity_spec {capacity : Nat} {plans : AList fun _ : Text => CachedSqlPlan}
    {order : List Text} (h : order ~ plans.keys) :
    let r := evictToCapacity capacity plans order
    r.2 ~ r.1.keys ∧ r.1.keys.length ≤ capacity ∧ r.2 <:+ order ∧
      ∀ sql, ∀ plan ∈ r.1.lookup sql, plan ∈ plans.lookup sql := by
  induction order generalizing plans with
  | nil => exact ⟨h, h.length_eq ▸ Nat.zero_le capacity, suffix_refl [], fun _ _ => id⟩
  | cons key order ih =>
    rw [evictToCapacity]
    split
    · have herased : order ~ (plans.erase key).keys := by
        rw [AList.keys_erase]
        exact ((@cons_perm_iff_perm_erase _ instBEqOfDecidableEq _ _ _ _).1 h).2
      obtain ⟨hlisted, hbounded, hsuffix, hkept⟩ := ih herased
      refine ⟨hlisted, hbounded, hsuffix.trans (suffix_cons key order), fun sql plan hr => ?_⟩
      have hplan := hkept sql plan hr
      by_cases hsql : sql = key
      · rw [hsql, AList.lookup_erase] at hplan
        cases hplan
      · rwa [AList.lookup_erase_ne hsql] at hplan
    · next hfits => exact ⟨h, Nat.le_of_not_lt hfits, suffix_refl _, fun _ _ => id⟩

/-- A plan that is right can be stored. -/
theorem Consistent.store (h : cache.Consistent inserted) {plan : CachedSqlPlan}
    (hright : Right sql plan) :
    (cache.store sql plan).Consistent
      (if sql ∈ cache.plans then inserted else inserted ++ [sql]) := by
  have hlisted : (if sql ∈ cache.plans then cache.insertionOrder
      else cache.insertionOrder ++ [sql]) ~ (cache.plans.insert sql plan).keys := by
    rw [AList.keys_insert]
    split
    · next hmem =>
      exact h.listed.trans (@perm_cons_erase _ instBEqOfDecidableEq _ _ _ (AList.mem_keys.1 hmem))
    · next hmem =>
      rw [@erase_of_not_mem _ instBEqOfDecidableEq _ _ _ fun hkey => hmem (AList.mem_keys.2 hkey)]
      exact (perm_append_singleton sql _).trans (h.listed.cons sql)
  obtain ⟨hperm, hbounded, hsuffix, hkept⟩ := @evictToCapacity_spec cache.capacity _ _ hlisted
  refine ⟨fun key plan' hplan => ?_, hperm, hperm.nodup_iff.2 (AList.keys_nodup _), hbounded,
    hsuffix.trans ?_⟩
  · have hplan := hkept key plan' hplan
    by_cases hkey : key = sql
    · rw [hkey, AList.lookup_insert] at hplan
      obtain rfl := Option.some.inj hplan
      exact hkey ▸ hright
    · rw [AList.lookup_insert_ne hkey] at hplan
      exact h.right key plan' hplan
  · split
    · exact h.suffix
    · obtain ⟨before, hbefore⟩ := h.suffix
      exact ⟨before, by rw [← hbefore, append_assoc]⟩

/-- **One call** of a consistent cache is transparent, and leaves it consistent. -/
theorem Consistent.call (h : cache.Consistent inserted) (sql : Text) (needsAnalysis : Bool) :
    let s := SqlPlanCache.call (cache, inserted) (sql, needsAnalysis)
    s.1.Consistent s.2 ∧
      Transparent sql needsAnalysis ((cache.getOrInsert sql needsAnalysis).map (·.1)) := by
  -- where a plan is made, its command is that of the plan it replaces, or comes from `classify`
  have hcommand : ((cache.plans.lookup sql).map (·.command)).or (Sql.classify sql) =
      Sql.classify sql := by
    cases hcached : cache.plans.lookup sql with
    | none => rw [map_none, none_or]
    | some plan => rw [map_some, some_or, (h.right sql plan hcached).1]
  unfold SqlPlanCache.call
  simp only [getOrInsert, hcommand]
  cases hit : (cache.plans.lookup sql).filter fun plan =>
      !needsAnalysis || plan.analysis.isSome with
  | some plan =>
    obtain ⟨hcached, hfits⟩ := filter_eq_some_iff.1 hit
    have hright := h.right sql plan hcached
    have hmem : sql ∈ cache.plans := AList.lookup_isSome.1 (isSome_of_eq_some hcached)
    simp only [if_pos (Or.inr hmem)]
    refine ⟨h, hright.1.symm, ?_, ?_⟩
    · rintro _ ⟨⟩
      exact hright
    · rintro _ ⟨⟩ rfl
      exact isSome_iff_ne_none.1 hfits
  | none =>
    cases hclassify : Sql.classify sql with
    | none => exact ⟨h, hclassify.symm, nofun, nofun⟩
    | some command =>
      have hright : Right sql ⟨command, if needsAnalysis then some (analyzeSql sql) else none⟩ := by
        refine ⟨hclassify, ?_⟩
        cases needsAnalysis
        · exact .inl rfl
        · exact .inr rfl
      refine ⟨?_, hclassify.symm, ?_, ?_⟩
      · by_cases hzero : cache.capacity = 0
        · simpa only [map_some, hzero, true_or, if_true] using h
        · simpa only [map_some, hzero, false_or, if_false] using h.store hright
      · rintro _ ⟨⟩
        exact hright
      · rintro _ ⟨⟩ rfl
        exact some_ne_none _

/-- **The plan cache is transparent.** After every sequence of calls on a cache of any capacity,
the next call returns what `classify` and `analyze_sql` do, whatever its text; and the queue lists
the texts of the map, no more than the capacity, in the order in which they came in. -/
theorem planCache_transparent (capacity : Nat) (calls : List (Text × Bool)) :
    let s := calls.foldl call (⟨capacity, ∅, []⟩, [])
    s.1.Consistent s.2 ∧ ∀ sql needsAnalysis,
      Transparent sql needsAnalysis ((s.1.getOrInsert sql needsAnalysis).map (·.1)) := by
  intro s
  have hempty : Consistent ⟨capacity, ∅, []⟩ [] :=
    ⟨nofun, Perm.refl [], nodup_nil, Nat.zero_le capacity, suffix_refl []⟩
  have hconsistent : s.1.Consistent s.2 := by
    induction calls using List.reverseRecOn with
    | nil => exact hempty
    | append_singleton calls c ih =>
      simp only [s, foldl_append]
      exact (ih.call c.1 c.2).1
  exact ⟨hconsistent, fun sql needsAnalysis => (hconsistent.call sql needsAnalysis).2⟩

end SqlPlanCache

end PgKinetic
