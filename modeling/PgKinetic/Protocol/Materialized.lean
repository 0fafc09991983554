import PgKinetic.Protocol.Prepare
import Mathlib.Data.List.Basic
import Std.Data.String.ToNat

/-!
# What a prepared-statement catalog guarantees

The operations of `PreparedCatalog` keep its entries well formed (`PreparedCatalog.WellFormed`):
every entry belongs to the current route map, the unnamed statement goes by the empty name and
the key `0`, and a named one by the name made of the session's number and a **cache key** that no
other entry has and that has been given out already. Backend names are injective in session
and key, so two sessions never share one.

The second half of the module is about the table of materialized statements: each operation
only removes marks, except `markMaterialized`, which adds the one it is called for.
-/

namespace PgKinetic

open Option List

/-! ### Backend names -/

theorem toDigits_injective {m n : Nat} (h : Nat.toDigits 10 m = Nat.toDigits 10 n) : m = n := by
  rw [← Text.toList_repr, ← Text.toList_repr] at h
  exact Nat.repr_injective (String.toList_injective h)

/-- **Backend names are injective.** The underscore between the numbers is in neither of
them. -/
theorem backendStatementName_injective {session session' key key' : Nat}
    (h : backendStatementName session key = backendStatementName session' key') :
    session = session' ∧ key = key' := by
  simp only [backendStatementName, Text.toList_repr, append_assoc] at h
  have h := append_cancel_left h
  obtain ⟨hsession, -, hkey⟩ := (append_cons_inj_of_notMem
    Nat.underscore_not_in_toDigits Nat.underscore_not_in_toDigits).1 h
  exact ⟨toDigits_injective hsession, toDigits_injective hkey⟩

theorem backendStatementName_ne_nil (session key : Nat) :
    backendStatementName session key ≠ [] := by
  simp only [backendStatementName, ne_eq, append_eq_nil_iff, reduceCtorEq, and_false,
    not_false_eq_true]

namespace PreparedCatalog

variable {c : PreparedCatalog}

/-! ### Marks -/

/-- The table records the key as materialized on the backend. -/
def marks (c : PreparedCatalog) (backendId : BackendId) (key : Nat) : Bool :=
  (c.materialized[backendId]?.bind fun statements => statements[key]?).isSome

variable {s : PreparedStatement} {b : BackendId} {key : Nat} {c' : PreparedCatalog} {name : Text}

theorem marks_of_isMaterialized (h : c.isMaterialized b s = true) (hkey : s.cacheKey ≠ 0) :
    c.marks b s.cacheKey = true := by
  rw [isMaterialized, Bool.and_eq_true, Bool.or_eq_true, beq_iff_eq] at h
  rcases h.2 with h | h
  · exact absurd h hkey
  · obtain ⟨m, hm, -⟩ := (any_eq_true _ _).1 h
    rw [marks, hm, isSome_some]

theorem not_marks_of_empty (h : c.materialized = ∅) : c.marks b key = false := by
  rw [marks, h, Std.ExtTreeMap.getElem?_empty]
  rfl

/-- **The only new mark** is the one `markMaterialized` is called for. -/
theorem marks_markMaterialized {b' : BackendId} (h : (c.markMaterialized b s).marks b' key = true) :
    c.marks b' key = true ∨ b' = b ∧ key = s.cacheKey := by
  rw [markMaterialized] at h
  split at h
  · exact .inl h
  · simp only [marks, Std.ExtTreeMap.getElem?_insert, Std.compare_eq_iff_eq] at h
    split at h
    · rename_i hb
      subst hb
      simp only [bind_some, Std.ExtTreeMap.getElem?_insert, Std.compare_eq_iff_eq] at h
      split at h
      -- the lookup has found the new mark
      · rename_i hkey
        exact .inr ⟨rfl, hkey.symm⟩
      · left
        rw [marks]
        cases hm : c.materialized[b]? with
        | none => simp [hm] at h
        | some statements => simpa [hm] using h
    · exact .inl h

theorem marks_removeMaterializedStatement {key' : Nat}
    (h : (c.removeMaterializedStatement key').marks b key = true) : c.marks b key = true := by
  rw [removeMaterializedStatement] at h
  split at h
  · exact h
  · simp only [marks, Std.ExtTreeMap.getElem?_filterMap'] at h
    cases hm : c.materialized[b]? with
    | none => simp [hm] at h
    | some statements =>
      simp only [hm, bind_some] at h
      rw [marks, hm, bind_some]
      split at h
      · simp at h
      · simp only [bind_some, Std.ExtTreeMap.getElem?_erase] at h
        split at h
        · simp at h
        · exact h

/-- `c'` is `c` with fewer marks, invalidation counts apart. -/
structure Forgets (c c' : PreparedCatalog) : Prop where
  sessionId : c'.sessionId = c.sessionId
  nextStatementId : c'.nextStatementId = c.nextStatementId
  routeMapGenerationId : c'.routeMapGenerationId = c.routeMapGenerationId
  statements : c'.statements = c.statements
  marks : ∀ b key, c'.marks b key = true → c.marks b key = true

theorem Forgets.refl (c : PreparedCatalog) : c.Forgets c := ⟨rfl, rfl, rfl, rfl, fun _ _ h => h⟩

theorem Forgets.trans {c'' : PreparedCatalog} (h : c.Forgets c') (h' : c'.Forgets c'') :
    c.Forgets c'' :=
  ⟨h'.sessionId.trans h.sessionId, h'.nextStatementId.trans h.nextStatementId,
    h'.routeMapGenerationId.trans h.routeMapGenerationId, h'.statements.trans h.statements,
    fun b key hm => h.marks b key (h'.marks b key hm)⟩

theorem forgets_forgetCacheKey (c : PreparedCatalog) (key : Nat) :
    c.Forgets (c.forgetCacheKey key) := by
  refine ⟨?_, ?_, ?_, ?_, fun b key' h => marks_removeMaterializedStatement h⟩ <;>
    (rw [forgetCacheKey, removeMaterializedStatement]; split <;> rfl)

/-- An invalidation only forgets, whatever its scope. -/
theorem forgets_invalidateForSqlstate (c : PreparedCatalog) (sqlstate : SqlState)
    (b : BackendId) : c.Forgets (c.invalidateForSqlstate sqlstate b).1 := by
  have hall : c.Forgets (incrementInvalidationCounts { c with materialized := ∅ }
      (c.materialized.toList.flatMap fun entry => entry.2.keys)) := by
    refine ⟨rfl, rfl, rfl, rfl, fun b' key h => ?_⟩
    rw [not_marks_of_empty rfl] at h
    exact absurd h (by decide)
  cases sqlstate with
  | invalidSqlStatementName =>
    simp only [invalidateForSqlstate]
    split
    · refine ⟨rfl, rfl, rfl, rfl, fun b' key h => ?_⟩
      simp only [marks, incrementInvalidationCounts, Std.ExtTreeMap.getElem?_erase] at h
      split at h
      · simp at h
      · exact h
    · exact Forgets.refl c
  | featureNotSupported => exact hall
  | undefinedTable => exact hall
  | undefinedColumn => exact hall
  | _ => exact Forgets.refl c

/-! ### Well-formed catalogs -/

/-- The name and the key an entry goes by on backends. -/
structure Entry (c : PreparedCatalog) (name : Text) (s : PreparedStatement) : Prop where
  current : s.routeMapGenerationId = c.routeMapGenerationId
  unnamed : name = [] → s.backendName = [] ∧ s.cacheKey = 0
  named : name ≠ [] → s.backendName = backendStatementName c.sessionId s.cacheKey ∧
    0 < s.cacheKey ∧ s.cacheKey < c.nextStatementId

/-- What every catalog of a session satisfies. -/
structure WellFormed (c : PreparedCatalog) : Prop where
  pos : 0 < c.nextStatementId
  entry : ∀ name s, c.statements[name]? = some s → c.Entry name s
  distinct : ∀ (name name' : Text) (s s' : PreparedStatement), c.statements[name]? = some s →
    c.statements[name']? = some s' → s.cacheKey = s'.cacheKey → name = name'
  given : ∀ b key, c.marks b key = true → key < c.nextStatementId

/-- The part of it that does not depend on route maps and marks: the names and the keys. -/
structure Keyed (c : PreparedCatalog) : Prop where
  pos : 0 < c.nextStatementId
  unnamed : ∀ s, c.statements[([] : Text)]? = some s → s.backendName = [] ∧ s.cacheKey = 0
  named : ∀ (name : Text) (s : PreparedStatement), name ≠ [] → c.statements[name]? = some s →
    s.backendName = backendStatementName c.sessionId s.cacheKey ∧
      0 < s.cacheKey ∧ s.cacheKey < c.nextStatementId
  distinct : ∀ (name name' : Text) (s s' : PreparedStatement), c.statements[name]? = some s →
    c.statements[name']? = some s' → s.cacheKey = s'.cacheKey → name = name'

theorem WellFormed.keyed (hc : c.WellFormed) : c.Keyed where
  pos := hc.pos
  unnamed := fun s hs => (hc.entry [] s hs).unnamed rfl
  named := fun name s hname hs => (hc.entry name s hs).named hname
  distinct := hc.distinct

theorem wellFormed_new (sessionId : Nat) : (new sessionId).WellFormed where
  pos := Nat.one_pos
  entry := fun name s h => by simp [new] at h
  distinct := fun name name' s s' h => by simp [new] at h
  given := fun b key h => by
    rw [not_marks_of_empty rfl] at h
    exact absurd h (by decide)

theorem WellFormed.forgets (hc : c.WellFormed) (h : c.Forgets c') : c'.WellFormed where
  pos := h.nextStatementId ▸ hc.pos
  entry := fun name s hs => by
    have he := hc.entry name s (h.statements ▸ hs)
    exact ⟨h.routeMapGenerationId ▸ he.current, he.unnamed,
      h.sessionId ▸ h.nextStatementId ▸ he.named⟩
  distinct := h.statements ▸ hc.distinct
  given := fun b key hm => h.nextStatementId ▸ hc.given b key (h.marks b key hm)

/-- Marking leaves everything but the marks. -/
theorem markMaterialized_eq (c : PreparedCatalog) (b : BackendId) (s : PreparedStatement) :
    ∃ table, c.markMaterialized b s = { c with materialized := table } := by
  rw [markMaterialized]
  split
  · exact ⟨c.materialized, rfl⟩
  · exact ⟨_, rfl⟩

@[simp] theorem statements_markMaterialized (c : PreparedCatalog) (b : BackendId)
    (s : PreparedStatement) : (c.markMaterialized b s).statements = c.statements := by
  obtain ⟨table, h⟩ := c.markMaterialized_eq b s
  rw [h]

theorem WellFormed.markMaterialized (hc : c.WellFormed) (b : BackendId)
    (hs : c.statements[name]? = some s) : (c.markMaterialized b s).WellFormed := by
  have hgiven : ∀ b' key, (c.markMaterialized b s).marks b' key = true →
      key < c.nextStatementId := by
    intro b' key hm
    rcases marks_markMaterialized hm with hm | ⟨-, rfl⟩
    · exact hc.given b' key hm
    · by_cases hname : name = []
      · rw [((hc.entry name s hs).unnamed hname).2]
        exact hc.pos
      · exact ((hc.entry name s hs).named hname).2.2
  obtain ⟨table, h⟩ := c.markMaterialized_eq b s
  rw [h] at hgiven ⊢
  exact ⟨hc.pos, fun name s hs => ⟨(hc.entry name s hs).current, (hc.entry name s hs).unnamed,
    (hc.entry name s hs).named⟩, hc.distinct, hgiven⟩

/-- `upsert` inserts the new statement into a catalog that has forgotten the old one. -/
theorem upsert_eq (c : PreparedCatalog) (name query : Text) (oids : List Int) :
    ∃ c', c.Forgets c' ∧ c.upsert name query oids =
      { c' with
        statements := c.statements.insert name (c.newStatement name query oids)
        nextStatementId := if name.isEmpty then c.nextStatementId else c.nextStatementId + 1 } := by
  rw [upsert]
  split
  · rename_i previous _
    have h := c.forgets_forgetCacheKey previous.cacheKey
    refine ⟨_, h, ?_⟩
    simp only [h.statements, h.nextStatementId]
  · exact ⟨c, Forgets.refl c, rfl⟩

theorem getElem?_statements_upsert (c : PreparedCatalog) (name query : Text) (oids : List Int)
    (other : Text) :
    (c.upsert name query oids).statements[other]? =
      if name = other then some (c.newStatement name query oids) else c.statements[other]? := by
  obtain ⟨c', -, h⟩ := c.upsert_eq name query oids
  rw [h, Std.ExtTreeMap.getElem?_insert]
  simp only [Std.compare_eq_iff_eq]

theorem marks_upsert {query : Text} {oids : List Int}
    (h : (c.upsert name query oids).marks b key = true) : c.marks b key = true := by
  obtain ⟨c', hc', heq⟩ := c.upsert_eq name query oids
  rw [heq] at h
  exact hc'.marks b key h

theorem nextStatementId_le_upsert (c : PreparedCatalog) (name query : Text) (oids : List Int) :
    c.nextStatementId ≤ (c.upsert name query oids).nextStatementId := by
  obtain ⟨c', -, h⟩ := c.upsert_eq name query oids
  rw [h]
  dsimp only
  split <;> omega

/-- The key of an entry is `0` exactly for the unnamed statement. -/
theorem Keyed.cacheKey_eq_zero (hc : c.Keyed) (hs : c.statements[name]? = some s) :
    s.cacheKey = 0 ↔ name = [] := by
  refine ⟨fun h => ?_, fun h => ?_⟩
  · by_contra hname
    have hpos := (hc.named name s hname hs).2.1
    omega
  · subst h
    exact (hc.unnamed s hs).2

theorem Keyed.cacheKey_lt (hc : c.Keyed) (hs : c.statements[name]? = some s) :
    s.cacheKey < c.nextStatementId := by
  by_cases hname : name = []
  · rw [(hc.cacheKey_eq_zero hs).2 hname]
    exact hc.pos
  · exact (hc.named name s hname hs).2.2

/-- No entry other than the one it replaces has the key of a new statement. -/
theorem Keyed.newStatement_cacheKey_ne (hc : c.Keyed) {other : Text} {query : Text}
    {oids : List Int} (hs : c.statements[other]? = some s) (hne : name ≠ other) :
    (c.newStatement name query oids).cacheKey ≠ s.cacheKey := by
  have hlt := hc.cacheKey_lt hs
  have hzero := hc.cacheKey_eq_zero hs
  rw [newStatement]
  dsimp only
  split
  · rename_i hname
    rw [List.isEmpty_iff] at hname
    intro h
    exact hne (hname.trans (hzero.1 h.symm).symm)
  · omega

theorem Keyed.upsert (hc : c.Keyed) (name query : Text) (oids : List Int) :
    (c.upsert name query oids).Keyed := by
  have hnext := c.nextStatementId_le_upsert name query oids
  refine ⟨lt_of_lt_of_le hc.pos hnext, fun s hs => ?_, fun other s hother hs => ?_,
    fun one other s s' hs hs' hkey => ?_⟩
  · rw [getElem?_statements_upsert] at hs
    split at hs
    · rename_i heq
      subst heq
      cases hs
      exact ⟨rfl, rfl⟩
    · exact hc.unnamed s hs
  · obtain ⟨c', hc', h⟩ := c.upsert_eq name query oids
    rw [getElem?_statements_upsert] at hs
    rw [h] at hnext ⊢
    rw [hc'.sessionId]
    split at hs
    · rename_i heq
      subst heq
      cases hs
      have hname : name.isEmpty = false := by rwa [isEmpty_eq_false_iff]
      have hpos := hc.pos
      simp only [newStatement, hname, Bool.false_eq_true, if_false, true_and]
      omega
    · obtain ⟨hbackend, hpos, hlt⟩ := hc.named other s hother hs
      exact ⟨hbackend, hpos, lt_of_lt_of_le hlt hnext⟩
  -- two entries with one key: the new one shares its key with no old one
  · rw [getElem?_statements_upsert] at hs hs'
    split at hs <;> split at hs'
    · rename_i h h'
      exact h.symm.trans h'
    · rename_i h'
      cases hs
      exact absurd hkey (hc.newStatement_cacheKey_ne hs' h')
    · rename_i h _
      cases hs'
      exact absurd hkey.symm (hc.newStatement_cacheKey_ne hs h)
    · exact hc.distinct one other s s' hs hs' hkey

theorem WellFormed.upsert (hc : c.WellFormed) (name query : Text) (oids : List Int) :
    (c.upsert name query oids).WellFormed := by
  have hkeyed := hc.keyed.upsert name query oids
  have hnext := c.nextStatementId_le_upsert name query oids
  refine ⟨hkeyed.pos, fun other s hs => ⟨?_, fun hother => ?_, fun hother =>
    hkeyed.named other s hother hs⟩, hkeyed.distinct,
    fun b key hm => lt_of_lt_of_le (hc.given b key (marks_upsert hm)) hnext⟩
  · obtain ⟨c', hc', h⟩ := c.upsert_eq name query oids
    rw [getElem?_statements_upsert] at hs
    rw [h]
    rw [hc'.routeMapGenerationId]
    split at hs
    · cases hs
      rfl
    · exact (hc.entry other s hs).current
  · subst hother
    exact hkeyed.unnamed s hs

/-- `remove` erases one entry and forgets. -/
theorem remove_eq_some (h : c.remove name = some (s, c')) :
    c.statements[name]? = some s ∧ Forgets { c with statements := c.statements.erase name } c' := by
  rw [remove, map_eq_some_iff] at h
  obtain ⟨removed, hs, heq⟩ := h
  cases heq
  exact ⟨hs, forgets_forgetCacheKey _ _⟩

theorem getElem?_statements_remove (h : c.remove name = some (s, c')) (other : Text) :
    c'.statements[other]? = if name = other then none else c.statements[other]? := by
  rw [(remove_eq_some h).2.statements, Std.ExtTreeMap.getElem?_erase]
  simp only [Std.compare_eq_iff_eq]

theorem WellFormed.remove (hc : c.WellFormed) (h : c.remove name = some (s, c')) :
    c'.WellFormed := by
  have herase : ∀ (other : Text) (s : PreparedStatement),
      (c.statements.erase name)[other]? = some s → c.statements[other]? = some s := by
    intro other s hs
    rw [Std.ExtTreeMap.getElem?_erase] at hs
    split at hs
    · cases hs
    · exact hs
  have herased : WellFormed { c with statements := c.statements.erase name } := by
    refine ⟨hc.pos, fun other s hs => ?_, fun one other s s' hs hs' => ?_, hc.given⟩
    · have he := hc.entry other s (herase other s hs)
      exact ⟨he.current, he.unnamed, he.named⟩
    · exact hc.distinct one other s s' (herase one s hs) (herase other s' hs')
  exact herased.forgets (remove_eq_some h).2

end PreparedCatalog

end PgKinetic
