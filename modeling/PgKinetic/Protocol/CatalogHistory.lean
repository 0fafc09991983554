import PgKinetic.Lib.Since
import PgKinetic.Protocol.Materialized

/-!
# The prepared-statement catalog over a whole session

A session changes its catalog by five operations (`CatalogOp`). Over every list of them the three
maps of the catalog stay consistent (`Consistent`): the named statements have keys and backend
names of their own, and only keys of theirs are marked or counted. What is materialised is then
determined by the operations alone, without the table of marks: **a named statement is
materialised on a backend exactly if it has been marked there since it was last recorded**, and
nothing after that took the mark away (`isMaterialized_iff_since`).

Route maps come and go independently of the statements. A mark is made only for a statement that
was recorded under the route map in force, and the table is emptied at every change.
-/

namespace PgKinetic.PreparedCatalog

open History List Option

variable {c : PreparedCatalog}

/-! ### The table of marks, exactly -/

/-- What the table has for a key on a backend. -/
def markOf (c : PreparedCatalog) (b : BackendId) (key : Nat) : Option MaterializedStatement :=
  c.materialized[b]?.bind fun statements => statements[key]?

/-- The error is one that `invalidate_for_sqlstate`, called for the backend `b'`, takes for an
invalidation of the backend `b`. -/
def covers (sqlstate : SqlState) (b' b : BackendId) : Bool :=
  match sqlstate with
  | .invalidSqlStatementName => b' == b
  | .featureNotSupported | .undefinedTable | .undefinedColumn => true
  | _ => false

variable {s : PreparedStatement} {name : Text} {op : CatalogOp} (sessionId : Nat)
  (ops : List CatalogOp)

theorem markOf_markMaterialized (hkey : s.cacheKey ≠ 0) (hcurrent : c.isCurrentRouteMap s = true)
    (b b' : BackendId) (key : Nat) :
    (c.markMaterialized b s).markOf b' key =
      if b = b' ∧ s.cacheKey = key then some ⟨s.shardSummary.shardId⟩ else c.markOf b' key := by
  rw [markMaterialized, if_neg (by simp [hkey, hcurrent]), markOf]
  simp only [Std.ExtTreeMap.getElem?_insert, Std.compare_eq_iff_eq]
  by_cases hb : b = b'
  · subst hb
    simp only [if_true, bind_some, Std.ExtTreeMap.getElem?_insert, Std.compare_eq_iff_eq, true_and]
    split
    · rfl
    · rw [markOf]
      cases c.materialized[b]? with
      | none => rfl
      | some statements => rfl
  · rw [if_neg hb, if_neg fun h => hb h.1]
    rfl

/-- There is nothing to mark for the unnamed statement, or under another route map. -/
theorem markMaterialized_of_not (h : ¬ (s.cacheKey ≠ 0 ∧ c.isCurrentRouteMap s = true))
    (b : BackendId) : c.markMaterialized b s = c := by
  rw [not_and_or, not_not, Bool.not_eq_true] at h
  rw [markMaterialized, if_pos (h.imp_right fun h => by rw [h]; rfl)]

variable {forgotten key : Nat} {b : BackendId}

theorem markOf_forgetCacheKey (hkey : forgotten ≠ 0) (b : BackendId) (key : Nat) :
    (c.forgetCacheKey forgotten).markOf b key =
      if forgotten = key then none else c.markOf b key := by
  rw [forgetCacheKey, removeMaterializedStatement, if_neg hkey, markOf]
  simp only [Std.ExtTreeMap.getElem?_filterMap']
  rw [markOf]
  cases c.materialized[b]? with
  | none => simp
  | some statements =>
    have herased : (statements.erase forgotten)[key]? =
        if forgotten = key then none else statements[key]? := by
      rw [Std.ExtTreeMap.getElem?_erase]
      simp only [Std.compare_eq_iff_eq]
    simp only [bind_some]
    split
    · rename_i hempty
      rw [← herased, Std.ExtTreeMap.isEmpty_iff.1 hempty, Std.ExtTreeMap.getElem?_empty]
      rfl
    · exact herased

theorem markOf_empty (h : c.materialized = ∅) (b : BackendId) (key : Nat) :
    c.markOf b key = none := by
  rw [markOf, h, Std.ExtTreeMap.getElem?_empty]
  rfl

theorem markOf_invalidateForSqlstate (sqlstate : SqlState) (b b' : BackendId) (key : Nat) :
    (c.invalidateForSqlstate sqlstate b).1.markOf b' key =
      if covers sqlstate b b' then none else c.markOf b' key := by
  cases sqlstate with
  | invalidSqlStatementName =>
    rw [invalidateForSqlstate, covers]
    cases hb : c.materialized[b]? with
    | none =>
      dsimp only
      split
      · rename_i heq
        rw [← eq_of_beq heq, markOf, hb]
        rfl
      · rfl
    | some statements =>
      simp only [markOf, incrementInvalidationCounts, Std.ExtTreeMap.getElem?_erase,
        Std.compare_eq_iff_eq, beq_iff_eq]
      split
      · rfl
      · rfl
  | featureNotSupported | undefinedTable | undefinedColumn => exact markOf_empty rfl b' key
  | _ => rfl

/-! ### The invalidation counts -/

/-- Counting adds no keys but those that are counted. -/
theorem mem_incrementInvalidationCounts {keys : List Nat}
    (h : key ∈ (c.incrementInvalidationCounts keys).invalidationCounts) :
    key ∈ c.invalidationCounts ∨ key ∈ keys := by
  rw [incrementInvalidationCounts] at h
  generalize c.invalidationCounts = counts at h ⊢
  induction keys generalizing counts with
  | nil => exact .inl h
  | cons first keys ih =>
    rcases ih _ h with h | h
    · dsimp only at h
      split at h
      · exact .inl h
      · rw [Std.ExtTreeMap.mem_insert, Std.compare_eq_iff_eq] at h
        rcases h with rfl | h
        · exact .inr mem_cons_self
        · exact .inl h
    · exact .inr (mem_cons_of_mem first h)

/-- An invalidation counts only what was marked. -/
theorem mem_invalidateForSqlstate {sqlstate : SqlState}
    (h : key ∈ (c.invalidateForSqlstate sqlstate b).1.invalidationCounts) :
    key ∈ c.invalidationCounts ∨ ∃ b' m, c.markOf b' key = some m := by
  have hmark : ∀ (b' : BackendId) (statements : Std.ExtTreeMap Nat MaterializedStatement),
      c.materialized[b']? = some statements → key ∈ statements.keys →
      ∃ b' m, c.markOf b' key = some m := by
    intro b' statements hb hkey
    have hmem : key ∈ statements := Std.ExtTreeMap.mem_keys.1 hkey
    obtain ⟨m, hm⟩ := isSome_iff_exists.1 (Std.ExtTreeMap.isSome_getElem?_iff_mem.2 hmem)
    exact ⟨b', m, by rw [markOf, hb, bind_some, hm]⟩
  have hall : key ∈ (incrementInvalidationCounts { c with materialized := ∅ }
      (c.materialized.toList.flatMap fun entry => entry.2.keys)).invalidationCounts →
      key ∈ c.invalidationCounts ∨ ∃ b' m, c.markOf b' key = some m := by
    intro h
    refine (mem_incrementInvalidationCounts h).imp_right fun h => ?_
    obtain ⟨⟨b', statements⟩, hentry, hkey⟩ := mem_flatMap.1 h
    exact hmark b' statements (Std.ExtTreeMap.mem_toList_iff_getElem?_eq_some.1 hentry) hkey
  cases sqlstate with
  | invalidSqlStatementName =>
    rw [invalidateForSqlstate] at h
    cases hb : c.materialized[b]? with
    | none =>
      rw [hb] at h
      exact .inl h
    | some statements =>
      rw [hb] at h
      exact (mem_incrementInvalidationCounts h).imp_right (hmark b statements hb)
  | featureNotSupported => exact hall h
  | undefinedTable => exact hall h
  | undefinedColumn => exact hall h
  | _ => exact .inl h

/-! ### Consistent catalogs -/

/-- The key is that of a named statement of the catalog. -/
def LiveKey (c : PreparedCatalog) (key : Nat) : Prop :=
  ∃ (name : Text) (s : PreparedStatement), name ≠ [] ∧ c.statements[name]? = some s ∧
    s.cacheKey = key

/-- The key is that of a named statement other than the one called `name`. -/
def LiveKeyBut (c : PreparedCatalog) (name : Text) (key : Nat) : Prop :=
  ∃ (other : Text) (s : PreparedStatement), other ≠ [] ∧ other ≠ name ∧
    c.statements[other]? = some s ∧ s.cacheKey = key

/-- The three maps of a catalog fit together. -/
structure Consistent (c : PreparedCatalog) : Prop extends c.Keyed where
  shardId : ∀ (name : Text) (s : PreparedStatement), name ≠ [] → c.statements[name]? = some s →
    s.shardSummary.shardId = none
  marked : ∀ b key m, c.markOf b key = some m → m.shardId = none ∧ c.LiveKey key
  counted : ∀ key, key ∈ c.invalidationCounts → c.LiveKey key

theorem consistent_new : (new sessionId).Consistent where
  toKeyed := (wellFormed_new sessionId).keyed
  shardId := fun name s _ h => by simp [new] at h
  marked := fun b key m h => by
    cases h
  counted := fun key h => absurd h (by simp [new])

/-- Operations that leave the statements alone. -/
theorem Consistent.of_statements {c' : PreparedCatalog} (hc : c.Consistent)
    (hsession : c'.sessionId = c.sessionId) (hnext : c'.nextStatementId = c.nextStatementId)
    (hstatements : c'.statements = c.statements)
    (hmarked : ∀ b key m, c'.markOf b key = some m → m.shardId = none ∧ c.LiveKey key)
    (hcounted : ∀ key, key ∈ c'.invalidationCounts → c.LiveKey key) : c'.Consistent := by
  have hlive : ∀ key, c.LiveKey key → c'.LiveKey key := by
    intro key h
    rw [LiveKey, hstatements]
    exact h
  have hkeyed : c'.Keyed := by
    refine ⟨hnext ▸ hc.pos, hstatements ▸ hc.unnamed, ?_, hstatements ▸ hc.distinct⟩
    rw [hstatements, hsession, hnext]
    exact hc.named
  exact ⟨hkeyed, hstatements ▸ hc.shardId,
    fun b key m h => (hmarked b key m h).imp_right (hlive key),
    fun key h => hlive key (hcounted key h)⟩

/-! ### Forgetting a statement -/

/-- What `upsert` and `remove` do first: the previous statement of the name is forgotten. -/
def forgetName (c : PreparedCatalog) (name : Text) : PreparedCatalog :=
  match c.statements[name]? with
  | some previous => c.forgetCacheKey previous.cacheKey
  | none => c

theorem forgets_forgetName (c : PreparedCatalog) (name : Text) : c.Forgets (c.forgetName name) := by
  rw [forgetName]
  split
  · exact c.forgets_forgetCacheKey _
  · exact Forgets.refl c

/-- The counts after a statement has been forgotten are those of before, but for its key. -/
theorem mem_forgetCacheKey :
    key ∈ (c.forgetCacheKey forgotten).invalidationCounts ↔
      forgotten ≠ key ∧ key ∈ c.invalidationCounts := by
  have hcounts : (c.removeMaterializedStatement forgotten).invalidationCounts =
      c.invalidationCounts := by
    rw [removeMaterializedStatement]
    split <;> rfl
  rw [forgetCacheKey]
  rw [hcounts, Std.ExtTreeMap.mem_erase]
  simp only [ne_eq, Std.compare_eq_iff_eq]

/-- Marks and counts left over are those of other statements. -/
theorem Consistent.forgetName (hc : c.Consistent) (name : Text) :
    (∀ b key m, (c.forgetName name).markOf b key = some m →
      m.shardId = none ∧ c.LiveKeyBut name key) ∧
    ∀ key, key ∈ (c.forgetName name).invalidationCounts → c.LiveKeyBut name key := by
  have hbut : ∀ key, c.LiveKey key →
      (∀ previous, c.statements[name]? = some previous → previous.cacheKey ≠ key) →
      c.LiveKeyBut name key := by
    rintro key ⟨other, s, hother, hs, rfl⟩ hprevious
    refine ⟨other, s, hother, fun heq => ?_, hs, rfl⟩
    subst heq
    exact hprevious s hs rfl
  cases hprevious : c.statements[name]? with
  | none =>
    rw [PreparedCatalog.forgetName, hprevious]
    refine ⟨fun b key m h => ?_, fun key h => ?_⟩
    · obtain ⟨hshard, hlive⟩ := hc.marked b key m h
      exact ⟨hshard, hbut key hlive fun previous h => by rw [hprevious] at h; cases h⟩
    · exact hbut key (hc.counted key h) fun previous h => by rw [hprevious] at h; cases h
  | some previous =>
    rw [PreparedCatalog.forgetName, hprevious]
    have hkept : ∀ key, c.LiveKey key → previous.cacheKey ≠ key → c.LiveKeyBut name key := by
      intro key hlive hne
      refine hbut key hlive fun previous' h => ?_
      rw [hprevious] at h
      obtain rfl := some.inj h
      exact hne
    refine ⟨fun b key m h => ?_, fun key h => ?_⟩
    · by_cases hzero : previous.cacheKey = 0
      -- the unnamed statement has no marks to forget
      · have hsame : (c.forgetCacheKey previous.cacheKey).markOf b key = c.markOf b key := by
          rw [forgetCacheKey, removeMaterializedStatement, if_pos hzero]
          rfl
        rw [hsame] at h
        obtain ⟨hshard, hlive⟩ := hc.marked b key m h
        refine ⟨hshard, hkept key hlive ?_⟩
        obtain ⟨other, s, hother, hs, rfl⟩ := hlive
        rw [hzero]
        exact fun h => hother ((hc.cacheKey_eq_zero hs).1 h.symm)
      · rw [markOf_forgetCacheKey hzero] at h
        split at h
        · cases h
        · rename_i hne
          obtain ⟨hshard, hlive⟩ := hc.marked b key m h
          exact ⟨hshard, hkept key hlive hne⟩
    · obtain ⟨hne, hmem⟩ := mem_forgetCacheKey.1 h
      exact hkept key (hc.counted key hmem) hne

/-- The marks of other statements are kept. -/
theorem Consistent.markOf_forgetName (hc : c.Consistent) {other : Text}
    (hs : c.statements[other]? = some s) (hne : name ≠ other) (b : BackendId) :
    (c.forgetName name).markOf b s.cacheKey = c.markOf b s.cacheKey := by
  rw [PreparedCatalog.forgetName]
  cases hprevious : c.statements[name]? with
  | none => rfl
  | some previous =>
    dsimp only
    by_cases hzero : previous.cacheKey = 0
    · rw [forgetCacheKey, removeMaterializedStatement, if_pos hzero]
      rfl
    · rw [markOf_forgetCacheKey hzero, if_neg fun h => hne ?_]
      exact hc.distinct name other previous s hprevious hs h

/-! ### The operations of a session -/

/-- An operation on the catalog. -/
inductive CatalogOp where
  | upsert (name query : Text) (oids : List Int)
  | remove (name : Text)
  /-- `mark_materialized`, of the statement the catalog has under the name. -/
  | mark (b : BackendId) (name : Text)
  | invalidate (sqlstate : SqlState) (b : BackendId)
  | setGeneration (generation : Nat)
  deriving DecidableEq

/-- The catalog after an operation. -/
def applyOp (c : PreparedCatalog) : CatalogOp → PreparedCatalog
  | .upsert name query oids => c.upsert name query oids
  | .remove name => ((c.remove name).map (·.2)).getD c
  | .mark b name => (c.statements[name]?.map (c.markMaterialized b)).getD c
  | .invalidate sqlstate b => (c.invalidateForSqlstate sqlstate b).1
  | .setGeneration generation => c.setRouteMapGenerationId generation

/-- The catalog of a session after its operations so far. -/
def afterOps (sessionId : Nat) (ops : List CatalogOp) : PreparedCatalog :=
  ops.foldl applyOp (new sessionId)

theorem afterOps_concat (op : CatalogOp) :
    afterOps sessionId (ops ++ [op]) = (afterOps sessionId ops).applyOp op :=
  foldl_concat ..

theorem remove_forgetName (c : PreparedCatalog) (name : Text) :
    c.applyOp (.remove name) =
      { c.forgetName name with statements := c.statements.erase name } := by
  rw [applyOp, remove, PreparedCatalog.forgetName]
  cases hs : c.statements[name]? with
  | none =>
    have herase : c.statements.erase name = c.statements := by
      refine Std.ExtTreeMap.ext_getElem? fun other => ?_
      rw [Std.ExtTreeMap.getElem?_erase]
      split
      · rename_i heq
        rw [← Std.compare_eq_iff_eq.1 heq, hs]
      · rfl
    rw [herase]
    rfl
  | some removed =>
    rw [map_some, map_some, getD_some]
    dsimp only
    rw [forgetCacheKey, forgetCacheKey, removeMaterializedStatement, removeMaterializedStatement]
    split <;> rfl

/-! ### One operation -/

theorem getElem?_statements_applyOp_remove (c : PreparedCatalog) (name other : Text) :
    (c.applyOp (.remove name)).statements[other]? =
      if name = other then none else c.statements[other]? := by
  rw [remove_forgetName, Std.ExtTreeMap.getElem?_erase]
  simp only [Std.compare_eq_iff_eq]

/-- Neither marks nor invalidations nor route maps touch the statements. -/
theorem statements_applyOp_mark (c : PreparedCatalog) (b : BackendId) (name : Text) :
    (c.applyOp (.mark b name)).statements = c.statements := by
  rw [applyOp]
  cases c.statements[name]? with
  | none => rfl
  | some s => exact c.statements_markMaterialized b s

section

variable (hc : c.Consistent)
include hc

theorem Consistent.upsert (name query : Text) (oids : List Int) :
    (c.upsert name query oids).Consistent := by
  obtain ⟨hmarked, hcounted⟩ := hc.forgetName name
  have hlive : ∀ key, c.LiveKeyBut name key → (c.upsert name query oids).LiveKey key := by
    rintro key ⟨other, s, hother, hne, hs, rfl⟩
    refine ⟨other, s, hother, ?_, rfl⟩
    rw [getElem?_statements_upsert, if_neg hne.symm, hs]
  refine ⟨hc.toKeyed.upsert name query oids, fun other s hother hs => ?_, fun b key m h => ?_,
    fun key h => ?_⟩
  · rw [getElem?_statements_upsert] at hs
    split at hs
    · rename_i heq
      subst heq
      cases hs
      have hname : name.isEmpty = false := by rwa [isEmpty_eq_false_iff]
      rw [newStatement, hname]
      rfl
    · exact hc.shardId other s hother hs
  · exact (hmarked b key m h).imp_right (hlive key)
  · exact hlive key (hcounted key h)

theorem Consistent.remove (name : Text) : (c.applyOp (.remove name)).Consistent := by
  obtain ⟨hmarked, hcounted⟩ := hc.forgetName name
  have hold : ∀ (other : Text) (s : PreparedStatement),
      (c.applyOp (.remove name)).statements[other]? = some s →
      c.statements[other]? = some s := by
    intro other s hs
    rw [getElem?_statements_applyOp_remove] at hs
    split at hs
    · cases hs
    · exact hs
  have hlive : ∀ key, c.LiveKeyBut name key → (c.applyOp (.remove name)).LiveKey key := by
    rintro key ⟨other, s, hother, hne, hs, rfl⟩
    refine ⟨other, s, hother, ?_, rfl⟩
    rw [getElem?_statements_applyOp_remove, if_neg hne.symm, hs]
  have hforgets := c.forgets_forgetName name
  have hnext : (c.applyOp (.remove name)).nextStatementId = c.nextStatementId := by
    rw [remove_forgetName]
    exact hforgets.nextStatementId
  have hsession : (c.applyOp (.remove name)).sessionId = c.sessionId := by
    rw [remove_forgetName]
    exact hforgets.sessionId
  refine ⟨⟨hnext ▸ hc.pos, fun s hs => hc.unnamed s (hold [] s hs), fun other s hother hs => ?_,
    fun one other s s' hs hs' => hc.distinct one other s s' (hold one s hs) (hold other s' hs')⟩,
    fun other s hother hs => hc.shardId other s hother (hold other s hs), fun b key m h => ?_,
    fun key h => ?_⟩
  · rw [hnext, hsession]
    exact hc.named other s hother (hold other s hs)
  · rw [remove_forgetName] at h
    exact (hmarked b key m h).imp_right (hlive key)
  · rw [remove_forgetName] at h
    exact hlive key (hcounted key h)

theorem Consistent.mark (b : BackendId) (name : Text) : (c.applyOp (.mark b name)).Consistent := by
  rw [applyOp]
  cases hs : c.statements[name]? with
  | none => exact hc
  | some s =>
    rw [map_some, getD_some]
    obtain ⟨table, heq⟩ := c.markMaterialized_eq b s
    refine hc.of_statements (by rw [heq]) (by rw [heq]) (by rw [heq]) (fun b' key m h => ?_)
      (by rw [heq]; exact hc.counted)
    by_cases hmarks : s.cacheKey ≠ 0 ∧ c.isCurrentRouteMap s = true
    · rw [markOf_markMaterialized hmarks.1 hmarks.2] at h
      split at h
      · rename_i hkey
        cases h
        have hname : name ≠ [] := fun h => hmarks.1 ((hc.cacheKey_eq_zero hs).2 h)
        exact ⟨hc.shardId name s hname hs, name, s, hname, hs, hkey.2⟩
      · exact hc.marked b' key m h
    · rw [markMaterialized_of_not hmarks] at h
      exact hc.marked b' key m h

theorem Consistent.invalidate (sqlstate : SqlState) (b : BackendId) :
    (c.invalidateForSqlstate sqlstate b).1.Consistent := by
  have hforgets := c.forgets_invalidateForSqlstate sqlstate b
  refine hc.of_statements hforgets.sessionId hforgets.nextStatementId hforgets.statements
    (fun b' key m h => ?_) (fun key h => ?_)
  · rw [markOf_invalidateForSqlstate] at h
    split at h
    · cases h
    · exact hc.marked b' key m h
  · rcases mem_invalidateForSqlstate h with h | ⟨b', m, h⟩
    · exact hc.counted key h
    · exact (hc.marked b' key m h).2

theorem Consistent.setGeneration (generation : Nat) :
    (c.setRouteMapGenerationId generation).Consistent := by
  rw [setRouteMapGenerationId]
  split
  · exact hc
  · refine hc.of_statements rfl rfl rfl (fun b key m h => ?_) (fun key h => ?_)
    · cases h
    · exact absurd h Std.ExtTreeMap.not_mem_empty

/-- **Every operation keeps a catalog consistent.** -/
theorem Consistent.step (op : CatalogOp) : (c.applyOp op).Consistent := by
  cases op with
  | upsert name query oids => exact hc.upsert name query oids
  | remove name => exact hc.remove name
  | mark b name => exact hc.mark b name
  | invalidate sqlstate b => exact hc.invalidate sqlstate b
  | setGeneration generation => exact hc.setGeneration generation

end

theorem consistent_afterOps : (afterOps sessionId ops).Consistent := by
  induction ops using reverseRecOn with
  | nil => exact consistent_new sessionId
  | append_singleton ops op ih =>
    rw [afterOps_concat]
    exact ih.step op

/-! ### Names are given out once -/

/-- The operation is a Parse under a name, which takes a key. -/
def takesKey : CatalogOp → Bool
  | .upsert name _ _ => !name.isEmpty
  | _ => false

theorem nextStatementId_applyOp (c : PreparedCatalog) (op : CatalogOp) :
    (c.applyOp op).nextStatementId = c.nextStatementId + (takesKey op).toNat := by
  cases op with
  | upsert name query oids =>
    obtain ⟨c', -, heq⟩ := c.upsert_eq name query oids
    rw [applyOp, heq]
    cases name <;> rfl
  | remove name =>
    rw [remove_forgetName]
    exact (c.forgets_forgetName name).nextStatementId
  | mark b name =>
    rw [applyOp]
    cases c.statements[name]? with
    | none => rfl
    | some s =>
      obtain ⟨table, heq⟩ := c.markMaterialized_eq b s
      rw [map_some, getD_some, heq]
      rfl
  | invalidate sqlstate b => exact (c.forgets_invalidateForSqlstate sqlstate b).nextStatementId
  | setGeneration generation =>
    rw [applyOp, setRouteMapGenerationId]
    split <;> rfl

/-- A named statement that the operation has not recorded was there before. -/
theorem getElem?_of_applyOp (hname : name ≠ []) (hs : (c.applyOp op).statements[name]? = some s) :
    c.statements[name]? = some s ∨ s.cacheKey = c.nextStatementId := by
  cases op with
  | upsert other query oids =>
    rw [applyOp, getElem?_statements_upsert] at hs
    split at hs
    · rename_i heq
      subst heq
      cases hs
      have hname : other.isEmpty = false := by rwa [isEmpty_eq_false_iff]
      right
      rw [newStatement, hname]
      rfl
    · exact .inl hs
  | remove other =>
    rw [getElem?_statements_applyOp_remove] at hs
    split at hs
    · cases hs
    · exact .inl hs
  | mark b other => exact .inl (c.statements_applyOp_mark b other ▸ hs)
  | invalidate sqlstate b =>
    exact .inl ((c.forgets_invalidateForSqlstate sqlstate b).statements ▸ hs)
  | setGeneration generation =>
    left
    rw [applyOp, setRouteMapGenerationId] at hs
    split at hs <;> exact hs

/-- The counter counts the keys that were taken. -/
theorem nextStatementId_afterOps :
    (afterOps sessionId ops).nextStatementId = ops.countP takesKey + 1 := by
  induction ops using reverseRecOn with
  | nil => rfl
  | append_singleton ops op ih =>
    rw [afterOps_concat, nextStatementId_applyOp, ih, countP_append, countP_singleton]
    cases takesKey op <;> simp

/-- A named statement is as it was, or has been recorded since, under a later key. -/
theorem getElem?_of_afterOps {sessionId : Nat} {ops more : List CatalogOp} (hname : name ≠ [])
    (hs : (afterOps sessionId (ops ++ more)).statements[name]? = some s) :
    (afterOps sessionId ops).statements[name]? = some s ∨
      (afterOps sessionId ops).nextStatementId ≤ s.cacheKey := by
  induction more using reverseRecOn generalizing s with
  | nil =>
    rw [append_nil] at hs
    exact .inl hs
  | append_singleton more op ih =>
    rw [← append_assoc, afterOps_concat] at hs
    rcases getElem?_of_applyOp hname hs with hs | hkey
    · exact ih hs
    · right
      rw [hkey, nextStatementId_afterOps, nextStatementId_afterOps, countP_append]
      omega

/-- **A backend name stands for one Parse**, over the whole session. -/
theorem eq_of_backendName {sessionId : Nat} {ops more : List CatalogOp} {name' : Text}
    {s' : PreparedStatement} (hname : name ≠ []) (hname' : name' ≠ [])
    (hs : (afterOps sessionId ops).statements[name]? = some s)
    (hs' : (afterOps sessionId (ops ++ more)).statements[name']? = some s')
    (heq : s.backendName = s'.backendName) : s = s' := by
  have hc := consistent_afterOps sessionId ops
  have hc' := consistent_afterOps sessionId (ops ++ more)
  rw [(hc.named name s hname hs).1, (hc'.named name' s' hname' hs').1] at heq
  have hkey := (backendStatementName_injective heq).2
  rcases getElem?_of_afterOps hname' hs' with hs' | hlater
  · obtain rfl := hc.distinct name name' s s' hs hs' hkey
    rw [hs] at hs'
    exact some.inj hs'
  · have hlt := hc.cacheKey_lt hs
    omega

/-! ### What is materialised -/

/-- The operation marks the statement called `name` on the backend: it is there, recorded under
the route map in force. -/
def MarkedBy (c : PreparedCatalog) (b : BackendId) (name : Text) (op : CatalogOp) : Prop :=
  op = .mark b name ∧
    ∃ s, c.statements[name]? = some s ∧ s.routeMapGenerationId = c.routeMapGenerationId

/-- The operation takes the mark of the statement called `name` away from the backend: the
statement is recorded anew or removed, an invalidation covers the backend, or the route map
changes. -/
def UnmarkedBy (c : PreparedCatalog) (b : BackendId) (name : Text) : CatalogOp → Prop
  | .upsert other _ _ | .remove other => other = name
  | .mark _ _ => False
  | .invalidate sqlstate b' => covers sqlstate b' b = true
  | .setGeneration generation => generation ≠ c.routeMapGenerationId

/-- The statement called `name` has been marked on the backend since it was recorded, with no
later invalidation of the backend and no change of the route map. -/
def MarkedSince (sessionId : Nat) (b : BackendId) (name : Text) (ops : List CatalogOp) : Prop :=
  Since (fun before => (afterOps sessionId before).MarkedBy b name)
    (fun before => (afterOps sessionId before).UnmarkedBy b name) ops

/-- For a named statement, what is materialised is what is marked, under the route map. -/
theorem Consistent.isMaterialized_iff (hc : c.Consistent) (hname : name ≠ [])
    (hs : c.statements[name]? = some s) (b : BackendId) :
    c.isMaterialized b s = true ↔
      s.routeMapGenerationId = c.routeMapGenerationId ∧ (c.markOf b s.cacheKey).isSome = true := by
  have hkey : (s.cacheKey == 0) = false := by
    rw [beq_eq_false_iff_ne]
    exact fun h => hname ((hc.cacheKey_eq_zero hs).1 h)
  rw [isMaterialized, hkey, Bool.false_or, Bool.and_eq_true, isCurrentRouteMap, beq_iff_eq]
  refine and_congr_right fun _ => ?_
  change (c.markOf b s.cacheKey).any _ = true ↔ _
  cases hmark : c.markOf b s.cacheKey with
  | none => exact Iff.rfl
  | some m =>
    rw [any_some, (hc.marked b _ m hmark).1, hc.shardId name s hname hs]
    exact Iff.rfl

theorem getElem?_of_not_unmarkedBy (h : ¬ c.UnmarkedBy b name op) :
    (c.applyOp op).statements[name]? = c.statements[name]? := by
  cases op with
  | upsert other query oids =>
    rw [applyOp, getElem?_statements_upsert]
    exact if_neg h
  | remove other =>
    rw [getElem?_statements_applyOp_remove]
    exact if_neg h
  | mark b' other => rw [statements_applyOp_mark]
  | invalidate sqlstate b' => rw [applyOp, (c.forgets_invalidateForSqlstate sqlstate b').statements]
  | setGeneration generation => rw [applyOp, setRouteMapGenerationId, if_pos (not_not.1 h).symm]

/-- An operation that takes the mark away leaves none. -/
theorem Consistent.markOf_of_unmarkedBy (hc : c.Consistent) (hname : name ≠ [])
    (hs : (c.applyOp op).statements[name]? = some s) (h : c.UnmarkedBy b name op) :
    (c.applyOp op).markOf b s.cacheKey = none := by
  cases op with
  | upsert other query oids =>
    subst h
    rw [applyOp, getElem?_statements_upsert, if_pos rfl] at hs
    cases hs
    -- the new key is not in the table: all keys there have been given out
    rw [eq_none_iff_forall_ne_some]
    intro m hmark
    obtain ⟨-, name, s, -, -, hs, hkey⟩ := (hc.forgetName other).1 b _ m hmark
    have hlt := hc.cacheKey_lt hs
    have hname : other.isEmpty = false := by rwa [isEmpty_eq_false_iff]
    rw [newStatement, hname] at hkey
    simp only [Bool.false_eq_true, if_false] at hkey
    omega
  | remove other =>
    subst h
    rw [getElem?_statements_applyOp_remove, if_pos rfl] at hs
    cases hs
  | mark b' other => exact h.elim
  | invalidate sqlstate b' =>
    rw [applyOp, markOf_invalidateForSqlstate]
    exact if_pos h
  | setGeneration generation =>
    rw [applyOp, setRouteMapGenerationId, if_neg (Ne.symm h)]
    exact markOf_empty rfl b _

/-- An operation that neither makes nor takes the mark leaves it, and the route map. -/
theorem Consistent.markOf_of_not_unmarkedBy (hc : c.Consistent) (hs : c.statements[name]? = some s)
    (h : ¬ c.UnmarkedBy b name op) (hmark : ¬ c.MarkedBy b name op)
    (hcurrent : s.routeMapGenerationId = c.routeMapGenerationId) :
    (c.applyOp op).markOf b s.cacheKey = c.markOf b s.cacheKey := by
  cases op with
  | upsert other query oids => exact hc.markOf_forgetName hs h b
  | remove other =>
    rw [remove_forgetName]
    exact hc.markOf_forgetName hs h b
  | mark b' other =>
    rw [applyOp]
    cases hother : c.statements[other]? with
    | none => rfl
    | some marked =>
      rw [map_some, getD_some]
      by_cases hmarks : marked.cacheKey ≠ 0 ∧ c.isCurrentRouteMap marked = true
      · rw [markOf_markMaterialized hmarks.1 hmarks.2, if_neg]
        rintro ⟨rfl, hkey⟩
        obtain rfl := hc.distinct other name marked s hother hs hkey
        exact hmark ⟨rfl, s, hs, hcurrent⟩
      · rw [markMaterialized_of_not hmarks]
  | invalidate sqlstate b' =>
    rw [applyOp, markOf_invalidateForSqlstate]
    exact if_neg h
  | setGeneration generation => rw [applyOp, setRouteMapGenerationId, if_pos (not_not.1 h).symm]

theorem routeMapGenerationId_of_not_unmarkedBy (h : ¬ c.UnmarkedBy b name op) :
    (c.applyOp op).routeMapGenerationId = c.routeMapGenerationId := by
  cases op with
  | upsert other query oids => exact (c.forgets_forgetName other).routeMapGenerationId
  | remove other =>
    rw [remove_forgetName]
    exact (c.forgets_forgetName other).routeMapGenerationId
  | mark b' other =>
    rw [applyOp]
    cases c.statements[other]? with
    | none => rfl
    | some s =>
      obtain ⟨table, heq⟩ := c.markMaterialized_eq b' s
      rw [map_some, getD_some, heq]
  | invalidate sqlstate b' =>
    exact (c.forgets_invalidateForSqlstate sqlstate b').routeMapGenerationId
  | setGeneration generation => rw [applyOp, setRouteMapGenerationId, if_pos (not_not.1 h).symm]

/-- **One operation**: what is materialised after it has been marked by it, or was materialised
before and has not lost its mark. -/
theorem Consistent.isMaterialized_applyOp (hc : c.Consistent) (op : CatalogOp) (hname : name ≠ [])
    (hs : (c.applyOp op).statements[name]? = some s) (b : BackendId) :
    (c.applyOp op).isMaterialized b s = true ↔
      c.MarkedBy b name op ∨ c.isMaterialized b s = true ∧ ¬ c.UnmarkedBy b name op := by
  rw [(hc.step op).isMaterialized_iff hname hs]
  by_cases hstop : c.UnmarkedBy b name op
  · rw [hc.markOf_of_unmarkedBy hname hs hstop]
    refine iff_of_false nofun ?_
    rintro (⟨rfl, -⟩ | ⟨-, h⟩)
    · exact hstop
    · exact h hstop
  · have hbefore : c.statements[name]? = some s := getElem?_of_not_unmarkedBy hstop ▸ hs
    rw [hc.isMaterialized_iff hname hbefore, routeMapGenerationId_of_not_unmarkedBy hstop]
    by_cases hmark : c.MarkedBy b name op
    · refine iff_of_true ?_ (.inl hmark)
      obtain ⟨rfl, s', hs', hcurrent⟩ := hmark
      rw [hbefore] at hs'
      obtain rfl := some.inj hs'
      refine ⟨hcurrent, ?_⟩
      have hkey : s.cacheKey ≠ 0 := fun h => hname ((hc.cacheKey_eq_zero hbefore).1 h)
      rw [applyOp, hbefore, map_some, getD_some,
        markOf_markMaterialized hkey (beq_iff_eq.2 hcurrent), if_pos ⟨rfl, rfl⟩]
      rfl
    · refine ⟨fun h => .inr ⟨⟨h.1, ?_⟩, hstop⟩, fun h => ?_⟩
      · rw [← hc.markOf_of_not_unmarkedBy hbefore hstop hmark h.1]
        exact h.2
      · obtain ⟨hcurrent, hsome⟩ := (h.resolve_left hmark).1
        rw [hc.markOf_of_not_unmarkedBy hbefore hstop hmark hcurrent]
        exact ⟨hcurrent, hsome⟩

/-- **What is materialised** is what has been marked since it was recorded. -/
theorem isMaterialized_iff_markedSince (hname : name ≠ [])
    (hs : (afterOps sessionId ops).statements[name]? = some s) (b : BackendId) :
    (afterOps sessionId ops).isMaterialized b s = true ↔ MarkedSince sessionId b name ops := by
  induction ops using reverseRecOn generalizing s with
  | nil =>
    cases hs
  | append_singleton ops op ih =>
    have hc := consistent_afterOps sessionId ops
    rw [afterOps_concat] at hs ⊢
    rw [hc.isMaterialized_applyOp op hname hs, MarkedSince, since_concat]
    refine or_congr_right (and_congr_left fun hstop => ?_)
    exact ih (getElem?_of_not_unmarkedBy hstop ▸ hs)

/-- **The catalog over a session.** After every list of operations:
the keys and backend names of the named statements are their own, and no key is zero;
a backend name stands for the same statement ever after;
the keys in the table of marks and among the counts are those of statements that are there;
and a named statement is materialised where it has been marked since it was recorded.
The counter, a `u64` in the source, is one more than the number of Parses under a name: it does not
overflow in a session with fewer than `2 ^ 64 - 1` of them. -/
theorem catalog_over_session (sessionId : Nat) (ops : List CatalogOp) :
    (∀ (name : Text) (s : PreparedStatement), name ≠ [] →
      (afterOps sessionId ops).statements[name]? = some s →
      s.cacheKey ≠ 0 ∧
      (∀ (name' : Text) (s' : PreparedStatement), name' ≠ [] →
        (afterOps sessionId ops).statements[name']? = some s' →
        name ≠ name' → s.cacheKey ≠ s'.cacheKey ∧ s.backendName ≠ s'.backendName) ∧
      (∀ more (name' : Text) (s' : PreparedStatement), name' ≠ [] →
        (afterOps sessionId (ops ++ more)).statements[name']? = some s' →
        s.backendName = s'.backendName → s = s') ∧
      ∀ b, (afterOps sessionId ops).isMaterialized b s = true ↔
        MarkedSince sessionId b name ops) ∧
    (∀ b key, (afterOps sessionId ops).marks b key = true →
      (afterOps sessionId ops).LiveKey key) ∧
    (∀ key, key ∈ (afterOps sessionId ops).invalidationCounts →
      (afterOps sessionId ops).LiveKey key) ∧
    (ops.countP takesKey < 2 ^ 64 - 1 → (afterOps sessionId ops).nextStatementId < 2 ^ 64) := by
  have hc := consistent_afterOps sessionId ops
  refine ⟨fun name s hname hs => ⟨?_, fun name' s' hname' hs' hne => ⟨?_, ?_⟩, ?_, ?_⟩, ?_,
    hc.counted, ?_⟩
  · exact fun h => hname ((hc.cacheKey_eq_zero hs).1 h)
  · exact fun h => hne (hc.distinct name name' s s' hs hs' h)
  · intro h
    rw [(hc.named name s hname hs).1, (hc.named name' s' hname' hs').1] at h
    exact hne (hc.distinct name name' s s' hs hs' (backendStatementName_injective h).2)
  · intro more name' s' hname' hs' heq
    exact eq_of_backendName hname hname' hs hs' heq
  · exact fun b => isMaterialized_iff_markedSince sessionId ops hname hs b
  · intro b key hmarks
    obtain ⟨m, hm⟩ := isSome_iff_exists.1 hmarks
    exact (hc.marked b key m hm).2
  · intro hfew
    rw [nextStatementId_afterOps]
    omega

end PgKinetic.PreparedCatalog
