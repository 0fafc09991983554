import PgKinetic.Lib.Tally
import PgKinetic.Pool.Moves
import Mathlib.Algebra.Order.Group.Multiset
import Mathlib.Data.Multiset.Range

/-!
# Slots and permits

A pool counts its slots in `active_backends` and gives every backend a permit of the shared
semaphore. Whether the two are right is a matter of **balance**: each move of a task changes the
counter, the queue and what the task itself stands for by the same amount, so the counter stays
the number of idle backends, leased backends and connects in progress, and the permits stay
those of the registered backends (`PoolState.Accounted`).

One move is out of balance. A checkout that `checkout_timeout` cancels while `connect` is pending
drops its permit but not its slot, and no other task will ever give that slot back. Even so no
two tasks ever have the same backend (`backends_nodup`).
-/

namespace PgKinetic

open EventMachine Tally List Option Multiset

namespace Pool

variable {α : Type}

/-! ### What a task stands for -/

/-- A task that has a lease, or is about to have given up the slot of one. -/
@[simp] def Place.leasedSlots : Place α → Nat
  | .leased _ _ | .serving _ _ | .returning _ | .discarding _ | .leaving => 1
  | _ => 0

/-- A task that has reserved a slot to connect, from the moment it is counted. -/
@[simp] def Place.connectingSlots : Place α → Nat
  | .reserved _ | .withoutPermit _ | .connecting _ _ | .connectFailed _ => 1
  | _ => 0

/-- The slots of a task. -/
def Place.slots (p : Place α) : Nat := p.leasedSlots + p.connectingSlots

/-- The registered backend of a task. -/
@[simp] def Place.backends : Place α → Multiset BackendId
  | .leased conn _ | .serving conn _ | .returning conn => {conn.id}
  | .discarding id => {id}
  | _ => 0

/-- The permit a task holds itself. -/
@[simp] def Place.permits : Place α → Nat
  | .connecting _ true => 1
  | _ => 0

/-- The slots of the backends a reaper has evicted. -/
@[simp] def Reaper.slots : Reaper → Nat
  | .evicting ids => ids.length
  | .evicted ids => ids.length + 1

/-- The backends a reaper has evicted that still have a permit. -/
@[simp] def Reaper.backends : Reaper → Multiset BackendId
  | .evicting ids => ids
  | .evicted ids => ids

variable {p : Place α}

theorem Place.OwnsNothing.nothing (h : p.OwnsNothing) :
    p.slots = 0 ∧ p.backends = 0 ∧ p.permits = 0 := by
  cases p <;> first | exact ⟨rfl, rfl, rfl⟩ | exact h.elim

theorem Place.GivesBack.slot (h : p.GivesBack) : p.slots = 1 ∧ p.backends = 0 ∧ p.permits = 0 := by
  cases p <;> first | exact ⟨rfl, rfl, rfl⟩ | exact h.elim

/-- The ids of the idle backends. -/
def Store.idleIds (s : Store α) : Multiset BackendId := (s.idle.map (·.id) : List BackendId)

/-! ### The operations of the store -/

section

variable {s s' : Store α} {permit : Bool}

variable {n : Nat} {id : BackendId}

theorem fetchSub_of_pos (h : 0 < n) : fetchSub n + 1 = n := by
  rw [fetchSub, if_neg (by omega)]
  omega

/-- Dropping a permit changes nothing but the semaphore. -/
theorem Store.dropPermit_eq (s : Store α) (permit : Bool) :
    s.dropPermit permit = { s with globalSlots :=
      if permit then s.globalSlots.map (· + 1) else s.globalSlots } := by
  cases permit <;> rfl

theorem Store.acquirePermit_some (hn : s.globalSlots = some n)
    (h : s.acquirePermit = some (s', permit)) :
    permit = true ∧ ∃ m, n = m + 1 ∧ s' = { s with globalSlots := some m } := by
  rw [acquirePermit, hn] at h
  cases n with
  | zero => cases h
  | succ m =>
    cases h
    exact ⟨rfl, m, rfl, rfl⟩

theorem Store.acquirePermit_none (hn : s.globalSlots = none)
    (h : s.acquirePermit = some (s', permit)) : permit = false ∧ s' = s := by
  rw [acquirePermit, hn] at h
  cases h
  exact ⟨rfl, rfl⟩

/-- Acquiring a permit changes nothing but the semaphore. -/
theorem Store.acquirePermit_eq (h : s.acquirePermit = some (s', permit)) :
    ∃ slots, s' = { s with globalSlots := slots } ∧ slots.isSome = s.globalSlots.isSome ∧
      permit = s.globalSlots.isSome := by
  cases hn : s.globalSlots with
  | none =>
    obtain ⟨rfl, rfl⟩ := Store.acquirePermit_none hn h
    refine ⟨none, ?_, rfl, rfl⟩
    rw [← hn]
  | some n =>
    obtain ⟨rfl, m, -, rfl⟩ := Store.acquirePermit_some hn h
    exact ⟨some m, rfl, rfl, rfl⟩

theorem Store.registerBackend_true (hfresh : s.nextId ∉ s.globalPermits) :
    s.registerBackend true =
      ({ s with nextId := s.nextId + 1, globalPermits := s.nextId :: s.globalPermits },
        ⟨s.nextId, none⟩) := by
  simp [registerBackend, hfresh]

/-- Registering a backend changes neither the counter nor the queue. -/
theorem Store.registerBackend_keeps :
    (s.registerBackend permit).1.activeBackends = s.activeBackends ∧
      (s.registerBackend permit).1.idle = s.idle := by
  unfold registerBackend
  dsimp only
  split
  · exact ⟨rfl, rfl⟩
  · split <;> exact ⟨rfl, rfl⟩

theorem Store.removePermit_keeps (id : BackendId) :
    (s.removePermit id).activeBackends = s.activeBackends ∧
      (s.removePermit id).idle = s.idle ∧ (s.removePermit id).nextId = s.nextId := by
  unfold removePermit
  split <;> exact ⟨rfl, rfl, rfl⟩

theorem Store.isSome_removePermit (id : BackendId) :
    (s.removePermit id).globalSlots.isSome = s.globalSlots.isSome := by
  unfold removePermit
  split
  · simp [dropPermit]
  · rfl

theorem Store.removePermit_fresh (hfresh : ∀ id ∈ s.globalPermits, id < s.nextId)
    (hnodup : s.globalPermits.Nodup) :
    (∀ i ∈ (s.removePermit id).globalPermits, i < (s.removePermit id).nextId) ∧
      (s.removePermit id).globalPermits.Nodup := by
  unfold removePermit
  split
  · exact ⟨fun i hi => hfresh i (List.mem_of_mem_erase hi), hnodup.erase id⟩
  · exact ⟨hfresh, hnodup⟩

/-- Removing the permit of a registered backend gives it back to the semaphore. -/
theorem Store.removePermit_balance (hn : s.globalSlots = some n) (h : id ∈ s.globalPermits) :
    (s.removePermit id).globalSlots = some (n + 1) ∧
      (s.removePermit id).globalPermits.length + 1 = s.globalPermits.length ∧
      ((s.removePermit id).globalPermits : Multiset BackendId) + {id} = s.globalPermits := by
  rw [removePermit, if_pos h]
  refine ⟨by simp [dropPermit, hn], length_erase_add_one h, ?_⟩
  change ((s.globalPermits.erase id : List BackendId) : Multiset BackendId) + {id} = _
  rw [add_comm, singleton_add, ← coe_erase]
  exact cons_erase (by simpa using h)

end

/-! ### Moves in balance -/

section

variable {cfg : Config} {t : Task α} {s s' : Store α} {action : Action} {place : Place α}
  {events : List (Event α)}

section

variable (h : Move cfg t s action s' place events)
include h

/-- A move that does not cancel a pending connect keeps the slots in balance. -/
theorem Move.slots
    (hcancel : action = .cancel → ∀ site permit, t.place ≠ .connecting site permit)
    (hslots : t.place.slots + s.idle.length ≤ s.activeBackends) :
    s'.activeBackends + (s.idle.length + t.place.slots) =
      s.activeBackends + (s'.idle.length + place.slots) := by
  cases h with
  | wander h h' => rw [h.nothing.1, h'.nothing.1]
  | reserve h =>
    simp only [h, Place.slots, Place.leasedSlots, Place.connectingSlots]
    omega
  | acquire h hs =>
    obtain ⟨slots, rfl, -⟩ := Store.acquirePermit_eq hs
    simp [h, Place.slots]
  | giveBack h h' =>
    rw [h.slot.1] at hslots ⊢
    rw [h'.nothing.1]
    -- the slot is counted, so the decrement does not wrap around
    have hsub := fetchSub_of_pos (n := s.activeBackends) (by omega)
    simp only [Store.releaseReservedBackendSlot]
    omega
  | connect h =>
    rw [Store.registerBackend_keeps.1, Store.registerBackend_keeps.2]
    simp [h, Place.slots]
  | connectFailed h =>
    rw [Store.dropPermit_eq]
    simp [h, Place.slots]
  | cancelConnect h => exact absurd h (hcancel rfl _ _)
  | take h hs =>
    rw [h.nothing.1, hs]
    simp [Place.slots]
  | discard h => rcases h with h | h <;> simp [h, Place.slots]
  | putBack h => simp [h, Store.returnBackend, Place.slots]
  | unregister h =>
    rw [(Store.removePermit_keeps _).1, (Store.removePermit_keeps _).2.1]
    simp [h, Place.slots]
  | noPermit h | start h | startFailed h | noStart h | query h | restart h | restartFailed h
  | release h => simp [h, Place.slots]

/-- A move takes a slot only where there is one, and gives one back only where one is taken. -/
theorem Move.activeBackends
    (hslots : t.place.slots ≤ s.activeBackends) (hmax : s.activeBackends ≤ cfg.maxBackends) :
    s'.activeBackends ≤ cfg.maxBackends ∧ ∀ n, .slotReleased n ∈ events → 0 < n := by
  cases h with
  | reserve h hslot => exact ⟨hslot, by simp⟩
  | acquire h hs =>
    obtain ⟨slots, rfl, -⟩ := Store.acquirePermit_eq hs
    exact ⟨hmax, by simp⟩
  | giveBack h h' =>
    rw [h.slot.1] at hslots
    have hsub := fetchSub_of_pos (n := s.activeBackends) (by omega)
    refine ⟨?_, by simp; omega⟩
    simp only [Store.releaseReservedBackendSlot]
    omega
  | connect h =>
    rw [Store.registerBackend_keeps.1]
    exact ⟨hmax, by simp⟩
  | connectFailed h | cancelConnect h =>
    rw [Store.dropPermit_eq]
    exact ⟨hmax, by simp⟩
  | unregister h =>
    rw [(Store.removePermit_keeps _).1]
    exact ⟨hmax, by simp⟩
  | _ => exact ⟨hmax, by simp⟩

/-- A move keeps the permits in balance, both with the semaphore and with the backends. -/
theorem Move.permits {n : Nat}
    (hn : s.globalSlots = some n)
    (hconnecting : ∀ site permit, t.place = .connecting site permit → permit = true)
    (hfresh : ∀ id ∈ s.globalPermits, id < s.nextId)
    (hmem : ∀ id ∈ t.place.backends, id ∈ s.globalPermits) :
    ∃ n', s'.globalSlots = some n' ∧
      n' + s'.globalPermits.length + place.permits =
        n + s.globalPermits.length + t.place.permits ∧
      (s'.globalPermits : Multiset BackendId) + (s.idleIds + t.place.backends) =
        s.globalPermits + (s'.idleIds + place.backends) := by
  cases h with
  | wander h h' =>
    obtain ⟨-, hbackends, hpermits⟩ := h.nothing
    obtain ⟨-, hbackends', hpermits'⟩ := h'.nothing
    exact ⟨n, hn, by rw [hpermits, hpermits'], by rw [hbackends, hbackends']⟩
  | reserve h => exact ⟨n, hn, by simp [h], by simp [h, Store.idleIds]⟩
  | acquire h hs =>
    obtain ⟨rfl, m, rfl, rfl⟩ := Store.acquirePermit_some hn hs
    refine ⟨m, rfl, ?_, by simp [h, Store.idleIds]⟩
    simp only [h, Place.permits]
    omega
  | giveBack h h' =>
    obtain ⟨-, hbackends, hpermits⟩ := h.slot
    obtain ⟨-, hbackends', hpermits'⟩ := h'.nothing
    exact ⟨n, hn, by rw [hpermits, hpermits']; rfl, by rw [hbackends, hbackends']; rfl⟩
  | connect h =>
    -- the permit of the pending connect is registered under the new id
    obtain rfl := hconnecting _ _ h
    have hnew : s.nextId ∉ s.globalPermits := fun hid => lt_irrefl _ (hfresh _ hid)
    rw [Store.registerBackend_true hnew]
    refine ⟨n, hn, ?_, ?_⟩
    · simp only [h, Place.permits, length_cons]
      omega
    · simp only [h, Place.backends, Store.idleIds, ← cons_coe, ← singleton_add]
      abel
  | connectFailed h | cancelConnect h =>
    obtain rfl := hconnecting _ _ h
    refine ⟨n + 1, by simp [Store.dropPermit, hn], ?_, by simp [h, Store.dropPermit, Store.idleIds]⟩
    simp only [h, Place.permits, Store.dropPermit, if_true]
    omega
  | take h hs =>
    -- the backend goes from the queue to the task, its permit stays registered
    obtain ⟨-, hbackends, hpermits⟩ := h.nothing
    refine ⟨n, hn, by rw [hpermits]; rfl, ?_⟩
    rw [hbackends]
    simp only [Store.idleIds, hs, List.map_cons, Place.backends, ← cons_coe, ← singleton_add]
    abel
  | discard h => rcases h with h | h <;> exact ⟨n, hn, by simp [h], by simp [h]⟩
  | putBack h =>
    refine ⟨n, hn, by simp [h, Store.returnBackend], ?_⟩
    simp only [h, Place.backends, Store.idleIds, Store.returnBackend, map_append,
      List.map_singleton, ← coe_add, coe_singleton, add_zero]
  | @unregister id h =>
    obtain ⟨hslots, hlen, hids⟩ := Store.removePermit_balance hn (hmem id (by simp [h]))
    refine ⟨n + 1, hslots, ?_, ?_⟩
    · simp only [h, Place.permits]
      omega
    · simp only [h, Place.backends, Store.idleIds, (Store.removePermit_keeps _).2.1]
      rw [← hids]
      abel
  | noPermit h | start h | startFailed h | noStart h | query h | restart h | restartFailed h
  | release h => exact ⟨n, hn, by simp [h], by simp [h]⟩

/-- A connect in progress holds a permit exactly if there is a semaphore. -/
theorem Move.connecting {site : Site} {permit : Bool}
    (hplace : place = .connecting site permit) : permit = s.globalSlots.isSome := by
  cases h with
  | wander h h' | giveBack h h' =>
    subst hplace
    exact h'.elim
  | acquire h hs =>
    cases hplace
    obtain ⟨-, -, -, hpermit⟩ := Store.acquirePermit_eq hs
    exact hpermit
  | _ => cases hplace

/-- There is a semaphore as before, and permits are registered under new ids, and only under
those. -/
theorem Move.fresh
    (hfresh : ∀ id ∈ s.globalPermits, id < s.nextId) (hnodup : s.globalPermits.Nodup) :
    s'.globalSlots.isSome = s.globalSlots.isSome ∧ (∀ id ∈ s'.globalPermits, id < s'.nextId) ∧
      s'.globalPermits.Nodup := by
  cases h with
  | acquire h hs =>
    obtain ⟨slots, rfl, hslots, -⟩ := Store.acquirePermit_eq hs
    exact ⟨hslots, hfresh, hnodup⟩
  | @connect site permit h =>
    have hnew : s.nextId ∉ s.globalPermits := fun hid => lt_irrefl _ (hfresh _ hid)
    have hlater : ∀ id ∈ s.globalPermits, id < s.nextId + 1 :=
      fun id hid => Nat.lt_succ_of_lt (hfresh id hid)
    cases permit with
    | false => exact ⟨rfl, hlater, hnodup⟩
    | true =>
      rw [Store.registerBackend_true hnew]
      refine ⟨rfl, fun id hid => ?_, List.nodup_cons.2 ⟨hnew, hnodup⟩⟩
      rcases List.mem_cons.1 hid with rfl | hid
      · exact Nat.lt_succ_self _
      · exact hlater id hid
  | connectFailed h | cancelConnect h =>
    rw [Store.dropPermit_eq]
    refine ⟨?_, hfresh, hnodup⟩
    split <;> simp
  | unregister h => exact ⟨Store.isSome_removePermit _, Store.removePermit_fresh hfresh hnodup⟩
  | _ => exact ⟨rfl, hfresh, hnodup⟩

end

end

section

variable {s s' : Store α} {r r' : Reaper} {events : List (Event α)}

/-- A move of a reaper keeps the slots in balance. -/
theorem Reaper.slots_step (h : r.step s = some (s', r', events))
    (hslots : r.slots ≤ s.activeBackends) :
    s'.idle = s.idle ∧ s'.activeBackends + r.slots = s.activeBackends + r'.slots ∧
      s'.activeBackends ≤ s.activeBackends ∧ ∀ n, .slotReleased n ∈ events → 0 < n := by
  cases r with
  | evicting ids =>
    cases ids with
    | nil => cases h
    | cons id ids =>
      cases h
      obtain ⟨hactive, hidle, -⟩ := Store.removePermit_keeps (s := s) id
      exact ⟨hidle, by rw [hactive]; rfl, hactive.le, by simp⟩
  | evicted ids =>
    cases h
    simp only [Reaper.slots] at hslots
    have hsub := fetchSub_of_pos (n := s.activeBackends) (by omega)
    refine ⟨rfl, ?_, ?_, by simp; omega⟩
    · simp only [Store.releaseReservedBackendSlot, Reaper.slots]
      omega
    · simp only [Store.releaseReservedBackendSlot]
      omega

/-- A move of a reaper keeps the permits in balance. -/
theorem Reaper.permits_step {n : Nat} (h : r.step s = some (s', r', events))
    (hn : s.globalSlots = some n) (hmem : ∀ id ∈ r.backends, id ∈ s.globalPermits) :
    ∃ n', s'.globalSlots = some n' ∧
      n' + s'.globalPermits.length = n + s.globalPermits.length ∧
      (s'.globalPermits : Multiset BackendId) + r.backends = s.globalPermits + r'.backends := by
  cases r with
  | evicting ids =>
    cases ids with
    | nil => cases h
    | cons id ids =>
      cases h
      have hid : id ∈ s.globalPermits := hmem id (by simp [Reaper.backends])
      obtain ⟨hslots, hlen, hids⟩ := Store.removePermit_balance hn hid
      refine ⟨n + 1, hslots, by omega, ?_⟩
      rw [← hids]
      abel
  | evicted ids =>
    cases h
    exact ⟨n, hn, rfl, rfl⟩

theorem Reaper.fresh_step (h : r.step s = some (s', r', events))
    (hfresh : ∀ id ∈ s.globalPermits, id < s.nextId) (hnodup : s.globalPermits.Nodup) :
    s'.globalSlots.isSome = s.globalSlots.isSome ∧ (∀ id ∈ s'.globalPermits, id < s'.nextId) ∧
      s'.globalPermits.Nodup := by
  cases r with
  | evicting ids =>
    cases ids with
    | nil => cases h
    | cons id ids =>
      cases h
      exact ⟨Store.isSome_removePermit id, Store.removePermit_fresh hfresh hnodup⟩
  | evicted ids =>
    cases h
    exact ⟨rfl, hfresh, hnodup⟩

end

/-! ### The accounts of a pool -/

namespace PoolState

variable (st : PoolState α)

/-- The idle backends, those on their way out included. -/
def idleCount : Nat := st.store.idle.length + tally Reaper.slots st.reapers

/-- The leased backends. -/
def leasedCount : Nat := tally (fun t => t.place.leasedSlots) st.tasks

/-- The connects in progress. -/
def connectingCount : Nat := tally (fun t => t.place.connectingSlots) st.tasks

/-- The permits held by connects in progress. -/
def connectingPermits : Nat := tally (fun t => t.place.permits) st.tasks

/-- The registered backends. -/
def backends : Multiset BackendId :=
  st.store.idleIds + tally (fun t => t.place.backends) st.tasks +
    tally Reaper.backends st.reapers

/-- **The accounts of a pool are right**, on a semaphore of `permits` permits if there is one: the
counter is the number of idle and leased backends and connects in progress, and within its bound;
every registered backend has exactly one permit, and so has every connect in progress; and all
the permits that are taken are these and the other pools'. -/
structure Accounted (cfg : Config) (permits : Option Nat) : Prop where
  active_eq : st.store.activeBackends = st.idleCount + st.leasedCount + st.connectingCount
  active_le : st.store.activeBackends ≤ cfg.maxBackends
  isSome_eq : st.store.globalSlots.isSome = permits.isSome
  permits_eq : permits.isSome → (st.store.globalPermits : Multiset BackendId) = st.backends
  permits_nodup : st.store.globalPermits.Nodup
  permits_lt : ∀ id ∈ st.store.globalPermits, id < st.store.nextId
  connecting : ∀ t ∈ st.tasks, ∀ site permit,
    t.place = .connecting site permit → permit = permits.isSome
  total : ∀ n, st.store.globalSlots = some n → permits =
    some (n + st.elsewhere + st.store.globalPermits.length + st.connectingPermits)

variable {st} {cfg : Config} {permits : Option Nat}

theorem initial_accounted : (initial permits : PoolState α).Accounted cfg permits where
  active_eq := rfl
  active_le := Nat.zero_le _
  isSome_eq := rfl
  permits_eq _ := rfl
  permits_nodup := nodup_nil
  permits_lt := by simp [initial]
  connecting := by simp [initial]
  total n hn := hn.trans (by simp [initial, connectingPermits])

theorem tally_slots : tally (fun t => t.place.slots) st.tasks =
    st.leasedCount + st.connectingCount :=
  tally_add _ _ _

/-- The counter, as the queue and the slots of tasks and reapers. -/
theorem Accounted.active_tally (h : st.Accounted cfg permits) :
    st.store.activeBackends = st.store.idle.length + tally Reaper.slots st.reapers +
      tally (fun t => t.place.slots) st.tasks := by
  rw [h.active_eq, tally_slots, idleCount, Nat.add_assoc]

variable {t : Task α} {i : Nat} {s' : Store α} {events : List (Event α)}

theorem Accounted.mem_of_task (h : st.Accounted cfg permits) (hsome : permits.isSome)
    (ht : st.tasks[i]? = some t) : ∀ id ∈ t.place.backends, id ∈ st.store.globalPermits := by
  intro id hid
  obtain ⟨rest, hrest⟩ := exists_tally_eq (fun t : Task α => t.place.backends) ht
  rw [← mem_coe, h.permits_eq hsome, backends, hrest]
  exact mem_add.2 (.inl (mem_add.2 (.inr (mem_add.2 (.inl hid)))))

theorem Accounted.mem_of_reaper {r : Reaper} (h : st.Accounted cfg permits) (hsome : permits.isSome)
    (hr : st.reapers[i]? = some r) : ∀ id ∈ r.backends, id ∈ st.store.globalPermits := by
  intro id hid
  obtain ⟨rest, hrest⟩ := exists_tally_eq Reaper.backends hr
  rw [← mem_coe, h.permits_eq hsome, backends, hrest]
  exact mem_add.2 (.inr (mem_add.2 (.inl hid)))

/-! ### Steps in balance -/

section

variable (h : st.Accounted cfg permits)
include h

/-- A move of a task keeps the accounts right, unless it cancels a pending connect. -/
theorem Accounted.move {action : Action} {place : Place α}
    (ht : st.tasks[i]? = some t) (hmove : Move cfg t st.store action s' place events)
    (hcancel : action = .cancel → ∀ site permit, t.place ≠ .connecting site permit) :
    Accounted { st with store := s', tasks := st.tasks.set i { t with place } } cfg permits ∧
      ∀ n, .slotReleased n ∈ events → 0 < n := by
  have hactive := h.active_tally
  have hslots := le_tally (fun t : Task α => t.place.slots) ht
  obtain ⟨hle, hevents⟩ := hmove.activeBackends (by omega) h.active_le
  obtain ⟨hisSome, hfresh, hnodup⟩ := hmove.fresh h.permits_lt h.permits_nodup
  have hconnecting : ∀ site permit, t.place = .connecting site permit → permit = permits.isSome :=
    h.connecting t (mem_of_getElem? ht)
  refine ⟨⟨?_, hle, hisSome.trans h.isSome_eq, ?_, hnodup, hfresh, ?_, ?_⟩, hevents⟩
  -- the counter: a single task of the tally has moved
  · have hbalance := hmove.slots hcancel (by omega)
    have hset := balance_set (fun t : Task α => t.place.slots) ht hactive
      (b := { t with place }) (v := s'.idle.length + tally Reaper.slots st.reapers)
      (u := s'.activeBackends) (by dsimp only; omega)
    rw [hset]
    simp only [idleCount, leasedCount, connectingCount, Place.slots, tally_add]
    omega
  -- the registered permits, as a multiset of backends
  · intro hsome
    obtain ⟨n, hn⟩ := isSome_iff_exists.1 (h.isSome_eq.trans hsome)
    obtain ⟨n', -, -, hids⟩ := hmove.permits hn
      (fun site permit hp => (hconnecting site permit hp).trans hsome) h.permits_lt
      (h.mem_of_task hsome ht)
    have hbackends : (st.store.globalPermits : Multiset BackendId) =
        st.store.idleIds + tally Reaper.backends st.reapers +
          tally (fun t => t.place.backends) st.tasks := by
      rw [h.permits_eq hsome, backends, add_right_comm]
    have hset := balance_set (fun t : Task α => t.place.backends) ht hbackends
      (b := { t with place }) (v := s'.idleIds + tally Reaper.backends st.reapers)
      (u := (s'.globalPermits : Multiset BackendId)) (by
        rw [add_right_comm st.store.idleIds, ← add_assoc, hids]
        abel)
    rw [hset, backends, add_right_comm]
  · intro u hu site permit hp
    rcases mem_or_eq_of_mem_set hu with hu | rfl
    · exact h.connecting u hu site permit hp
    · exact (hmove.connecting hp).trans h.isSome_eq
  -- the semaphore: its free permits and those in use add up to the same number
  · intro n' hn'
    have hsome : permits.isSome := by
      rw [← h.isSome_eq, ← hisSome, hn']
      rfl
    obtain ⟨n, hn⟩ := isSome_iff_exists.1 (h.isSome_eq.trans hsome)
    obtain ⟨m, hm, hcount, -⟩ := hmove.permits hn
      (fun site permit hp => (hconnecting site permit hp).trans hsome) h.permits_lt
      (h.mem_of_task hsome ht)
    obtain rfl : n' = m := some.inj (hn'.symm.trans hm)
    have hset := tally_set (fun t : Task α => t.place.permits) ht { t with place }
    rw [h.total n hn]
    simp only [connectingPermits]
    congr 1
    dsimp only at hset
    omega

/-- A move of a reaper keeps the accounts right. -/
theorem Accounted.reaper {r r' : Reaper}
    (hr : st.reapers[i]? = some r) (hstep : r.step st.store = some (s', r', events)) :
    Accounted { st with store := s', reapers := st.reapers.set i r' } cfg permits ∧
      ∀ n, .slotReleased n ∈ events → 0 < n := by
  have hactive := h.active_tally
  have hslots := le_tally Reaper.slots hr
  obtain ⟨hidle, hbalance, hle, hevents⟩ := Reaper.slots_step hstep (by omega)
  obtain ⟨hisSome, hfresh, hnodup⟩ := Reaper.fresh_step hstep h.permits_lt h.permits_nodup
  refine ⟨⟨?_, hle.trans h.active_le, hisSome.trans h.isSome_eq, ?_, hnodup, hfresh,
    h.connecting, ?_⟩, hevents⟩
  · have hset := tally_set Reaper.slots hr r'
    rw [h.active_eq] at hbalance
    simp only [idleCount, leasedCount, connectingCount, hidle] at hbalance ⊢
    omega
  · intro hsome
    obtain ⟨n, hn⟩ := isSome_iff_exists.1 (h.isSome_eq.trans hsome)
    obtain ⟨n', -, -, hids⟩ := Reaper.permits_step hstep hn (h.mem_of_reaper hsome hr)
    have hbackends := h.permits_eq hsome
    have hset := balance_set Reaper.backends hr hbackends (b := r')
      (v := st.store.idleIds + tally (fun t => t.place.backends) st.tasks)
      (u := (s'.globalPermits : Multiset BackendId)) (by
        rw [add_left_comm, hids]
        abel)
    rw [hset, backends, Store.idleIds, Store.idleIds, hidle]
  · intro n' hn'
    have hsome : permits.isSome := by
      rw [← h.isSome_eq, ← hisSome, hn']
      rfl
    obtain ⟨n, hn⟩ := isSome_iff_exists.1 (h.isSome_eq.trans hsome)
    obtain ⟨m, hm, hcount, -⟩ := Reaper.permits_step hstep hn (h.mem_of_reaper hsome hr)
    obtain rfl : n' = m := some.inj (hn'.symm.trans hm)
    rw [h.total n hn]
    simp only [connectingPermits]
    congr 1
    omega

/-- A reaper that takes backends out of the queue keeps the accounts right. -/
theorem Accounted.evict {idle evicted : List (Conn α)}
    (hperm : (idle ++ evicted).Perm st.store.idle) :
    Accounted { st with store := { st.store with idle },
                        reapers := st.reapers ++ [.evicting (evicted.map (·.id))] }
      cfg permits := by
  have hlen := hperm.length_eq
  rw [length_append] at hlen
  have hids : (idle.map (·.id) : Multiset BackendId) + (evicted.map (·.id) : List BackendId) =
      st.store.idleIds := by
    rw [coe_add, ← map_append]
    exact coe_eq_coe.2 (hperm.map _)
  refine ⟨?_, h.active_le, h.isSome_eq, fun hsome => ?_, h.permits_nodup, h.permits_lt,
    h.connecting, h.total⟩
  -- the reaper stands for the slots of what it has taken out of the queue
  · have hactive := h.active_eq
    simp only [idleCount, leasedCount, connectingCount, tally_append, tally_cons, tally_nil,
      Reaper.slots, length_map] at hactive ⊢
    omega
  · refine (h.permits_eq hsome).trans ?_
    simp only [backends, tally_append, tally_cons, tally_nil, Reaper.backends, add_zero]
    rw [← hids, Store.idleIds]
    abel

/-- A new task has nothing yet. -/
theorem Accounted.checkout (owner : α) (mode : CheckoutMode)
    (shared : Bool) :
    Accounted { st with tasks := st.tasks ++ [⟨owner, mode, shared, .gates⟩] } cfg permits := by
  have hzero : ∀ {M : Type} [AddCommMonoid M] (f : Place α → M), f .gates = 0 →
      tally (fun t => f t.place) (st.tasks ++ [⟨owner, mode, shared, .gates⟩]) =
        tally (fun t => f t.place) st.tasks := by
    intro M _ f hf
    rw [tally_append, tally_cons, hf, tally_nil, add_zero, add_zero]
  refine ⟨?_, h.active_le, h.isSome_eq, fun hsome => ?_, h.permits_nodup, h.permits_lt, ?_, ?_⟩
  · simp only [idleCount, leasedCount, connectingCount]
    rw [hzero Place.leasedSlots rfl, hzero Place.connectingSlots rfl]
    exact h.active_eq
  · simp only [backends]
    rw [hzero Place.backends rfl]
    exact h.permits_eq hsome
  · intro t ht site permit hp
    rcases mem_append.1 ht with ht | ht
    · exact h.connecting t ht site permit hp
    · obtain rfl := List.mem_singleton.1 ht
      cases hp
  · intro n hn
    simp only [connectingPermits]
    rw [hzero Place.permits rfl]
    exact h.total n hn

/-- Permits that come and go elsewhere keep the accounts right, if the semaphore says so. -/
theorem Accounted.elsewhere (slots elsewhere : Nat)
    (hsum : ∀ n, st.store.globalSlots = some n → slots + elsewhere = n + st.elsewhere)
    (hsome : st.store.globalSlots.isSome) :
    Accounted { st with store := { st.store with globalSlots := some slots }, elsewhere }
      cfg permits := by
  refine ⟨h.active_eq, h.active_le, hsome.symm.trans h.isSome_eq, h.permits_eq, h.permits_nodup,
    h.permits_lt, h.connecting, fun m hm => ?_⟩
  obtain ⟨n, hn⟩ := isSome_iff_exists.1 hsome
  obtain rfl : slots = m := some.inj hm
  rw [h.total n hn, ← hsum n hn]
  rfl

end

end PoolState

/-! ### Every run -/

/-- The input cancels a checkout whose connect is pending. -/
def cancelsConnect (st : PoolState α) : Input α → Bool
  | .task i .cancel =>
    match st.tasks[i]? with
    | some ⟨_, _, _, .connecting _ _⟩ => true
    | _ => false
  | _ => false

theorem not_connecting_of_cancel {st : PoolState α} {i : Nat} {t : Task α} {action : Action}
    (ht : st.tasks[i]? = some t) (h : cancelsConnect st (.task i action) = false) :
    action = .cancel → ∀ site permit, t.place ≠ .connecting site permit := by
  rintro rfl site permit hp
  obtain ⟨owner, mode, shared, place⟩ := t
  obtain rfl : place = .connecting site permit := hp
  simp [cancelsConnect, ht] at h

/-- **One step keeps the accounts right**, if it cancels no pending connect. -/
theorem accounted_step {cfg : Config} {permits : Option Nat} {st st' : PoolState α}
    {input : Input α} {events : List (Event α)} (hst : st.Accounted cfg permits)
    (hcancel : cancelsConnect st input = false) (h : step cfg st input = some (st', events)) :
    st'.Accounted cfg permits ∧ ∀ n, .slotReleased n ∈ events → 0 < n := by
  cases input with
  | checkout owner mode shared =>
    cases h
    exact ⟨hst.checkout owner mode shared, by simp⟩
  | task i action =>
    obtain ⟨t, store, place, ht, hmove, rfl⟩ := step_task h
    exact hst.move ht hmove (not_connecting_of_cancel ht hcancel)
  | reap expired =>
    cases h
    exact ⟨hst.evict (reapQueue_perm cfg.minIdle expired [] st.store.idle), by simp⟩
  | retire =>
    cases h
    exact ⟨hst.evict (List.Perm.refl _), by simp⟩
  | reaper i =>
    obtain ⟨r, store, r', hr, hstep, rfl⟩ := step_reaper h
    exact hst.reaper hr hstep
  | acquireElsewhere =>
    simp only [step] at h
    split at h
    · rename_i n hn
      cases h
      refine ⟨hst.elsewhere n (st.elsewhere + 1) (fun m hm => ?_) (by simp [hn]), by simp⟩
      obtain rfl : n + 1 = m := some.inj (hn.symm.trans hm)
      omega
    · cases h
  | releaseElsewhere =>
    simp only [step] at h
    split at h
    · cases h
    · rename_i n hn
      cases h
      refine ⟨?_, by simp⟩
      cases hslots : st.store.globalSlots with
      | none =>
        -- without a semaphore no other pool has taken a permit
        refine ⟨hst.active_eq, hst.active_le, hst.isSome_eq ▸ by simp [Store.dropPermit],
          hst.permits_eq, hst.permits_nodup, hst.permits_lt, hst.connecting, fun m hm => ?_⟩
        simp [Store.dropPermit, hslots] at hm
      | some m =>
        have hrelease := hst.elsewhere (m + 1) n
          (fun k hk => by
            obtain rfl : m = k := some.inj (hslots.symm.trans hk)
            omega) (by simp [hslots])
        simpa [Store.dropPermit, hslots] using hrelease

/-- **The accounts of a pool are right in every run in which no pending connect is cancelled**, on
a semaphore with any number of permits or on none, and the counter is never decremented from
zero. -/
theorem accounted_of_no_cancelled_connect (cfg : Config) (permits : Option Nat)
    (inputs : List (Input α)) (st : PoolState α) (es : List (Event α))
    (hrun : (machine cfg).run (.initial permits) inputs = some (st, es))
    (hcancel : (machine cfg).Meets (fun st input => cancelsConnect st input = false)
      (.initial permits) inputs) :
    st.Accounted cfg permits ∧ ∀ n, .slotReleased n ∈ es → 0 < n := by
  refine (machine cfg).invariant_of_step_of (I := fun st => st.Accounted cfg permits) .slotReleased
    ?_ PoolState.initial_accounted hrun hcancel
  exact fun _ _ _ _ hst hcancel h => accounted_step hst hcancel h

/-- A checkout that connects, its lease released, and the backend reaped. -/
def connectThenReap : List (Input Unit) :=
  [.checkout () .allowConnect false, .task 0 .pass, .task 0 (.look false false),
    .task 0 .proceed, .task 0 .proceed, .task 0 .connected, .task 0 (.startup true),
    .task 0 .release, .task 0 .proceed, .reap [1], .reaper 0, .reaper 0]

theorem accounted_connectThenReap :
    ∃ st es, (machine ⟨1, 0⟩).run (.initial (some 1)) connectThenReap = some (st, es) ∧
      .slotReleased 1 ∈ es ∧ st.Accounted ⟨1, 0⟩ (some 1) := by
  have hrun : ((machine ⟨1, 0⟩).run (.initial (some 1)) connectThenReap).map
      (fun p => decide (.slotReleased 1 ∈ p.2)) = some true := by decide +kernel
  obtain ⟨p, hp, hreleased⟩ := map_eq_some_iff.1 hrun
  exact ⟨p.1, p.2, hp, of_decide_eq_true hreleased,
    (accounted_of_no_cancelled_connect ⟨1, 0⟩ (some 1) connectThenReap p.1 p.2 hp
      (by decide +kernel)).1⟩

/-- **A checkout cancelled while it connects keeps its slot**: the counter says one, and there is
no backend, no lease and no connect in the pool. -/
theorem slot_lost_by_cancelled_connect :
    ((machine ⟨1, 0⟩).run (.initial (some 1) : PoolState Unit)
      [.checkout () .allowConnect false, .task 0 .pass, .task 0 (.look false false),
        .task 0 .proceed, .task 0 .proceed, .task 0 .cancel]).map
      (fun p => (p.1.store.activeBackends,
        p.1.idleCount + p.1.leasedCount + p.1.connectingCount)) = some (1, 0) := by
  decide +kernel

/-! ### Exclusive backends -/

/-- The ids below the next one to be given out. -/
def Store.issued (s : Store α) : Multiset BackendId := Multiset.range s.nextId

variable {cfg : Config} {events : List (Event α)}

/-- A move lets a backend go, or makes one under the next id. -/
theorem Move.backends_le {t : Task α} {s s' : Store α} {action : Action} {place : Place α}
    (h : Move cfg t s action s' place events) :
    s'.idleIds + place.backends + s.issued ≤ s.idleIds + t.place.backends + s'.issued := by
  have hsame : ∀ {s' : Store α} {place : Place α}, s'.nextId = s.nextId → s'.idle = s.idle →
      place.backends ≤ t.place.backends →
      s'.idleIds + place.backends + s.issued ≤ s.idleIds + t.place.backends + s'.issued := by
    intro s' place hnext hidle hle
    rw [Store.issued, Store.issued, hnext, Store.idleIds, hidle]
    exact add_le_add_left (add_le_add_right hle _) _
  cases h with
  | wander h h' | giveBack h h' => exact hsame rfl rfl (h'.nothing.2.1 ▸ zero_le _)
  | acquire h hs =>
    obtain ⟨slots, rfl, -⟩ := Store.acquirePermit_eq hs
    exact hsame rfl rfl (zero_le _)
  | @connect site permit h =>
    have hnext : (s.registerBackend permit).1.nextId = s.nextId + 1 := by
      grind [Store.registerBackend, Store.dropPermit_eq]
    obtain ⟨hconn, hidle⟩ := s.registerBackend_conn permit
    rw [Store.issued, Store.issued, hnext, hconn, Store.idleIds, hidle, Multiset.range_succ]
    simp [h, Store.idleIds, ← singleton_add, add_assoc]
  | connectFailed h | cancelConnect h =>
    rw [Store.dropPermit_eq]
    exact hsame rfl rfl (zero_le _)
  | take h hs =>
    rw [h.nothing.2.1]
    simp [Store.issued, Store.idleIds, hs, ← cons_coe, ← singleton_add, add_comm]
  | discard h => rcases h with h | h <;> exact hsame rfl rfl (by simp [h])
  | putBack h => simp [h, Store.issued, Store.idleIds, Store.returnBackend, ← coe_add]
  | unregister h =>
    obtain ⟨-, hidle, hnext⟩ := s.removePermit_keeps _
    exact hsame hnext hidle (zero_le _)
  | _ => exact hsame rfl rfl (by simp [*])

/-- A reaper lets backends go. -/
theorem Reaper.backends_le {s s' : Store α} {r r' : Reaper}
    (h : r.step s = some (s', r', events)) : r'.backends ≤ r.backends ∧ s'.nextId = s.nextId := by
  unfold Reaper.step at h
  split at h <;> cases h
  · exact ⟨le_cons_self _ _, (s.removePermit_keeps _).2.2⟩
  · exact ⟨le_rfl, rfl⟩

/-- A step lets backends go, or makes one under the next id. -/
theorem backends_step {st st' : PoolState α} {input : Input α}
    (h : step cfg st input = some (st', events)) :
    st'.backends + st.store.issued ≤ st.backends + st'.store.issued := by
  cases input with
  | checkout owner mode shared =>
    cases h
    simp [PoolState.backends, tally_append, tally_cons]
  | task i action =>
    obtain ⟨t, store, place, ht, hmove, rfl⟩ := step_task h
    have hset := tally_set (fun t : Task α => t.place.backends) ht { t with place }
    have hle := add_le_add hset.le hmove.backends_le
    refine le_of_add_le_add_right (a := t.place.backends + place.backends) ?_
    dsimp only [PoolState.backends] at hle ⊢
    convert add_le_add_left hle (tally Reaper.backends st.reapers) using 1 <;> abel
  | reap expired =>
    cases h
    -- what is retained and evicted is what was in the queue
    have hids := coe_eq_coe.2 ((reapQueue_perm cfg.minIdle expired [] st.store.idle).map (·.id))
    rw [map_append, ← coe_add, nil_append] at hids
    simp only [PoolState.backends, tally_append, tally_cons, tally_nil, Reaper.backends,
      Store.idleIds, ← hids]
    exact le_of_eq (by abel)
  | retire =>
    cases h
    simp only [PoolState.backends, tally_append, tally_cons, tally_nil, Reaper.backends,
      Store.idleIds, map_nil, coe_nil]
    exact le_of_eq (by abel)
  | reaper i =>
    obtain ⟨r, store, r', hr, hstep, rfl⟩ := step_reaper h
    obtain ⟨hle, hnext⟩ := Reaper.backends_le hstep
    have hset := (tally_set Reaper.backends hr r').trans_le (add_le_add_right hle _)
    simp only [PoolState.backends, Store.issued, Store.idleIds, (Reaper.idle_step hstep).1, hnext]
    exact add_le_add_left (add_le_add_right (le_of_add_le_add_right hset) _) _
  | acquireElsewhere | releaseElsewhere =>
    simp only [step] at h
    split at h <;> cases h
    exact le_rfl

/-- **No two clients share a backend.** In every run, whatever is cancelled, reaped or retired, a
backend is in one place only, the queue, a lease or a reaper, and no id is given out twice. -/
theorem backends_nodup (cfg : Config) (permits : Option Nat) (inputs : List (Input α))
    {st : PoolState α} {es : List (Event α)}
    (hrun : (machine cfg).run (.initial permits) inputs = some (st, es)) :
    st.backends.Nodup ∧ ∀ id ∈ st.backends, id < st.store.nextId := by
  have hle := (machine cfg).history_invariant (h := [])
    (I := fun _ st => st.backends ≤ st.store.issued)
    (fun _ st input st' es hst hstep => le_of_add_le_add_right
      ((backends_step hstep).trans (by rw [add_comm]; gcongr))) (zero_le _) hrun
  exact ⟨nodup_of_le hle (Multiset.nodup_range _),
    fun id hid => Multiset.mem_range.1 (mem_of_le hle hid)⟩

theorem backends_nodup_connectThenReap :
    ∃ r, (machine ⟨1, 0⟩).run (.initial (some 1)) (connectThenReap.take 10) = some r ∧
      r.1.backends = {1} ∧ r.1.backends.Nodup :=
  ⟨_, rfl, rfl, (backends_nodup ⟨1, 0⟩ (some 1) (connectThenReap.take 10) rfl).1⟩

end Pool

end PgKinetic
