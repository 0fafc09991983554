import PgKinetic.Pool.Accounting

/-!
# What `reap_idle` keeps

The loop looks at each idle backend once and evicts an expired one if enough backends are left
without it, those retained so far and those still to come. The two numbers change as the loop goes
on, but their sum goes down with an eviction only; so **how many** are evicted has a closed form.
-/

namespace PgKinetic

namespace Pool

open List

/-- `BackendLifecycle`, with instants as numbers. -/
structure BackendLifecycle where
  createdAt : Nat
  lastReleasedAt : Nat

/-- `PoolLifecycleConfig`, as far as `reap_idle` reads it. -/
structure PoolLifecycleConfig where
  idleTimeout : Nat
  maxLifetime : Nat
  minIdle : Nat

/-- Why a backend is evicted. -/
inductive EvictionReason where
  | idleTimeout
  | maxLifetime

/-- What `reap_idle` leaves behind, and what it has evicted. -/
structure Reaped (α : Type) where
  evicted : List (Conn α)
  lifecycle : BackendId → Option BackendLifecycle
  store : Store α

variable {α : Type}

/-- One evicted backend goes: its entry, its permit and its slot. -/
def Reaped.evict (r : Reaped α) (conn : Conn α) : Reaped α where
  evicted := r.evicted
  lifecycle := Function.update r.lifecycle conn.id none
  store := (r.store.removePermit conn.id).releaseReservedBackendSlot

section

variable (lifecycle : PoolLifecycleConfig) (now : Nat)

/-- The `eviction_reason` of a backend; `duration_since` a later instant is zero. -/
def evictionReason (entry : BackendLifecycle) : Option EvictionReason :=
  if lifecycle.idleTimeout ≠ 0 ∧ lifecycle.idleTimeout ≤ now - entry.lastReleasedAt then
    some .idleTimeout
  else if lifecycle.maxLifetime ≠ 0 ∧ lifecycle.maxLifetime ≤ now - entry.createdAt then
    some .maxLifetime
  else none

/-- A timeout that is not zero has run out. -/
def Expired (entry : BackendLifecycle) : Prop :=
  (lifecycle.idleTimeout ≠ 0 ∧ lifecycle.idleTimeout ≤ now - entry.lastReleasedAt) ∨
    (lifecycle.maxLifetime ≠ 0 ∧ lifecycle.maxLifetime ≤ now - entry.createdAt)

instance (entry : BackendLifecycle) : Decidable (Expired lifecycle now entry) :=
  inferInstanceAs (Decidable (_ ∨ _))

variable (table : BackendId → Option BackendLifecycle)

/-- The backends of the queue that the lifecycle table says have expired. -/
def expiredIds (idle : List (Conn α)) : List BackendId :=
  (idle.map (·.id)).filter fun id => ((table id).bind (evictionReason lifecycle now)).isSome

/-- `BackendStore::reap_idle`. -/
def reapIdle (s : Store α) : Reaped α :=
  let (retained, evicted) :=
    reapQueue lifecycle.minIdle (expiredIds lifecycle now table s.idle) [] s.idle
  evicted.foldl Reaped.evict ⟨evicted, table, { s with idle := retained }⟩

/-- The backend is in the table, and has expired. -/
def hasExpired (conn : Conn α) : Bool := (table conn.id).any (Expired lifecycle now ·)

/-- **What reaping should do.** The queue that is left is the old one without the evicted backends,
in its order. Only expired backends are evicted, as many as have expired, but not so many that fewer
than `min_idle` are left. The entry, the permit and one slot go for each of them, and for no
other. -/
structure ReapsExactly (s : Store α) (r : Reaped α) : Prop where
  retained : r.store.idle <+ s.idle
  rest : (r.store.idle ++ r.evicted).Perm s.idle
  expired : ∀ conn ∈ r.evicted, hasExpired lifecycle now table conn = true
  count : r.evicted.length =
    min (s.idle.countP (hasExpired lifecycle now table)) (s.idle.length - lifecycle.minIdle)
  entries : ∀ id, r.lifecycle id = if id ∈ r.evicted.map (·.id) then none else table id
  permits : r.store.globalPermits = s.globalPermits.diff (r.evicted.map (·.id))
  slots : r.store.activeBackends = fetchSub^[r.evicted.length] s.activeBackends

end

/-! ### The loop over the queue -/

section

variable {minIdle : Nat} {expired : List BackendId}

/-- **How many are evicted**, when some are retained already. -/
theorem length_evicted (retained idle : List (Conn α)) :
    (reapQueue minIdle expired retained idle).2.length =
      min (idle.countP (·.id ∈ expired)) (retained.length + idle.length - minIdle) := by
  induction idle generalizing retained with
  | nil => exact (Nat.zero_min _).symm
  | cons conn idle ih =>
    rw [reapQueue, countP_cons, length_cons]
    split
    · next h =>
      rw [length_cons, ih, if_pos (by simpa using h.1)]
      omega
    · next h =>
      rw [ih, length_append, length_singleton]
      by_cases hexpired : conn.id ∈ expired
      · have hfew : ¬minIdle ≤ retained.length + idle.length := fun hle => h ⟨hexpired, hle⟩
        omega
      · rw [if_neg (by simpa using hexpired)]
        omega

/-- The retained backends keep their order, and only expired ones are evicted. -/
theorem sublist_retained (retained idle : List (Conn α)) :
    (reapQueue minIdle expired retained idle).1 <+ retained ++ idle ∧
      ∀ conn ∈ (reapQueue minIdle expired retained idle).2, conn.id ∈ expired := by
  induction idle generalizing retained with
  | nil => exact ⟨(append_nil retained).symm ▸ Sublist.refl _, nofun⟩
  | cons conn idle ih =>
    rw [reapQueue]
    split
    · next h =>
      obtain ⟨hsublist, hevicted⟩ := ih retained
      refine ⟨hsublist.trans ((Sublist.refl retained).append (sublist_cons_self conn idle)), ?_⟩
      exact forall_mem_cons.2 ⟨h.1, hevicted⟩
    · exact append_cons retained conn idle ▸ ih (retained ++ [conn])

end

/-! ### The loop over the evicted backends -/

theorem globalPermits_removePermit (s : Store α) (id : BackendId) :
    (s.removePermit id).globalPermits = s.globalPermits.erase id := by
  unfold Store.removePermit
  split
  · rfl
  · next h => exact (erase_of_not_mem h).symm

/-- What the evictions change. -/
theorem foldl_evict (conns : List (Conn α)) (r : Reaped α) :
    let r' := conns.foldl Reaped.evict r
    r'.evicted = r.evicted ∧ r'.store.idle = r.store.idle ∧
    (∀ id, r'.lifecycle id = if id ∈ conns.map (·.id) then none else r.lifecycle id) ∧
    r'.store.globalPermits = r.store.globalPermits.diff (conns.map (·.id)) ∧
    r'.store.activeBackends = fetchSub^[conns.length] r.store.activeBackends := by
  induction conns generalizing r with
  | nil => exact ⟨rfl, rfl, fun id => (if_neg not_mem_nil).symm, rfl, rfl⟩
  | cons conn conns ih =>
    obtain ⟨hactive, hidle, -⟩ := @Store.removePermit_keeps α r.store conn.id
    obtain ⟨h₁, h₂, h₃, h₄, h₅⟩ := ih (r.evict conn)
    refine ⟨h₁, h₂.trans hidle, fun id => ?_, ?_, ?_⟩
    · rw [foldl_cons, h₃, map_cons, Reaped.evict]
      by_cases hid : id = conn.id <;> simp [hid]
    · rw [foldl_cons, h₄, map_cons, diff_cons, ← globalPermits_removePermit]
      rfl
    · rw [foldl_cons, h₅, length_cons, Function.iterate_succ_apply, ← hactive]
      rfl

/-! ### The whole call -/

section

variable {lifecycle : PoolLifecycleConfig} {now : Nat} {table : BackendId → Option BackendLifecycle}

theorem isSome_evictionReason (entry : BackendLifecycle) :
    (evictionReason lifecycle now entry).isSome = decide (Expired lifecycle now entry) := by
  unfold evictionReason
  split
  · next h => exact (decide_eq_true (.inl h)).symm
  · next h =>
    split
    · next h' => exact (decide_eq_true (.inr h')).symm
    · next h' => exact (decide_eq_false (not_or_intro h h')).symm

theorem mem_expiredIds {idle : List (Conn α)} {conn : Conn α} (h : conn ∈ idle) :
    conn.id ∈ expiredIds lifecycle now table idle ↔ hasExpired lifecycle now table conn = true := by
  rw [expiredIds, mem_filter, and_iff_right (mem_map_of_mem h), Option.isSome_bind, hasExpired]
  simp only [isSome_evictionReason]

end

/-- **Idle reaping keeps exactly what it should**, for every queue, table, clock and config. -/
theorem reapIdle_exact (lifecycle : PoolLifecycleConfig) (now : Nat)
    (table : BackendId → Option BackendLifecycle) (s : Store α) :
    ReapsExactly lifecycle now table s (reapIdle lifecycle now table s) := by
  have hmem := @mem_expiredIds α lifecycle now table s.idle
  unfold reapIdle
  generalize expiredIds lifecycle now table s.idle = expired at hmem ⊢
  have hperm := reapQueue_perm lifecycle.minIdle expired [] s.idle
  obtain ⟨hsublist, hexpired⟩ := @sublist_retained α lifecycle.minIdle expired [] s.idle
  have hlength := @length_evicted α lifecycle.minIdle expired [] s.idle
  generalize reapQueue lifecycle.minIdle expired [] s.idle = queues
    at hperm hsublist hexpired hlength
  obtain ⟨hevicted, hidle, htable, hpermits, hactive⟩ :=
    foldl_evict queues.2 ⟨queues.2, table, { s with idle := queues.1 }⟩
  refine ⟨hidle ▸ hsublist, hidle.symm ▸ hevicted.symm ▸ hperm, fun conn h => ?_, ?_,
    fun id => hevicted.symm ▸ htable id, hevicted.symm ▸ hpermits, hevicted.symm ▸ hactive⟩
  · rw [hevicted] at h
    exact (hmem (hperm.subset (mem_append_right _ h))).1 (hexpired conn h)
  · rw [hevicted, hlength, length_nil, Nat.zero_add]
    refine congrArg (min · _) (countP_congr fun conn h => ?_)
    rw [decide_eq_true_iff]
    exact hmem h

end Pool

end PgKinetic
