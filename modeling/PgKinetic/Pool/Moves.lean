import PgKinetic.Pool.Checkout

/-!
# The moves of a task

Every fact about the pool is a fact about one move of one task, carried through a run. `Move`
lists the moves once, by what they do to the store and to the task: where a task only goes from
one place to another at which it owns nothing, that is one move, whatever the places are.
-/

namespace PgKinetic

open EventMachine List Option

namespace Pool

variable {α : Type}

/-- At these places a task has no slot, no permit and no backend. -/
def Place.OwnsNothing : Place α → Prop
  | .gates | .reserving _ | .looking | .looping | .waiting | .done => True
  | .reserved _ | .withoutPermit _ | .connecting _ _ | .connectFailed _ | .leased _ _
  | .serving _ _ | .returning _ | .discarding _ | .leaving => False

/-- At these places a task has a slot that it is about to give back. -/
def Place.GivesBack : Place α → Prop
  | .withoutPermit _ | .connectFailed _ | .leaving => True
  | _ => False

theorem Task.ownsNothing_afterNoSlot (site : Site) :
    (Task.afterNoSlot site : Place α).OwnsNothing := by
  cases site <;> trivial

theorem Task.ownsNothing_afterConnectFailed (site : Site) :
    (Task.afterConnectFailed site : Place α).OwnsNothing := by
  cases site <;> trivial

theorem Task.ownsNothing_afterLook (t : Task α) (again : Bool) (h : t.place.OwnsNothing) :
    (t.afterLook again t.place).OwnsNothing := by
  unfold Task.afterLook
  split
  · split
    · trivial
    · split <;> trivial
  · split <;> trivial
  · split
    · exact h
    · trivial

section

variable (cfg : Config) (t : Task α) (s : Store α)

/-- What one move of task `t` may do. -/
inductive Move : Action → Store α → Place α → List (Event α) → Prop where
  | wander {action : Action} {place : Place α} (h : t.place.OwnsNothing)
    (h' : place.OwnsNothing) : Move action s place []
  | reserve {site : Site} (h : t.place = .reserving site)
    (hslot : s.activeBackends < cfg.maxBackends) :
    Move .proceed { s with activeBackends := s.activeBackends + 1 } (.reserved site) []
  | acquire {site : Site} {s' : Store α} {permit : Bool} (h : t.place = .reserved site)
    (hs : s.acquirePermit = some (s', permit)) :
    Move .proceed s' (.connecting site permit) []
  | noPermit {site : Site} (h : t.place = .reserved site) : Move .proceed s (.withoutPermit site) []
  | giveBack {place : Place α} (h : t.place.GivesBack) (h' : place.OwnsNothing) :
    Move .proceed s.releaseReservedBackendSlot place [.slotReleased s.activeBackends]
  | connect {site : Site} {permit : Bool} (h : t.place = .connecting site permit) :
    Move .connected (s.registerBackend permit).1
      (.leased (s.registerBackend permit).2 site.requiresStartup)
      [.leased (s.registerBackend permit).2 t.owner site.requiresStartup true]
  | connectFailed {site : Site} {permit : Bool} (h : t.place = .connecting site permit) :
    Move .connectFailed (s.dropPermit permit) (.connectFailed site) []
  | cancelConnect {site : Site} {permit : Bool} (h : t.place = .connecting site permit) :
    Move .cancel (s.dropPermit permit) .done []
  | take {again : Bool} {conn : Conn α} {idle : List (Conn α)} (h : t.place.OwnsNothing)
    (hs : s.idle = conn :: idle) :
    Move (.look false again) { s with idle } (.leased conn false)
      [.leased conn t.owner false false]
  | start {ok : Bool} {conn : Conn α} (h : t.place = .leased conn true) :
    Move (.startup ok) s (.serving { conn with startedAs := some t.owner } true)
      [.started conn t.owner]
  | startFailed {ok : Bool} {conn : Conn α} (h : t.place = .leased conn true) :
    Move (.startup ok) s (.discarding conn.id) [.started conn t.owner]
  | noStart {ok : Bool} {conn : Conn α} (h : t.place = .leased conn false) :
    Move (.startup ok) s (.serving conn false) []
  | query {ok requiresStartup : Bool} {conn : Conn α}
    (h : t.place = .serving conn requiresStartup) :
    Move (.query ok) s (.serving conn requiresStartup) [.queried conn t.owner]
  | restart {ok : Bool} {conn : Conn α} (h : t.place = .serving conn true)
    (hshared : t.shared = true) :
    Move (.query ok) s (.serving { conn with startedAs := some t.owner } true)
      [.started conn t.owner, .queried { conn with startedAs := some t.owner } t.owner]
  | restartFailed {ok : Bool} {conn : Conn α} (h : t.place = .serving conn true)
    (hshared : t.shared = true) :
    Move (.query ok) s (.discarding conn.id) [.started conn t.owner]
  | release {conn : Conn α} {requiresStartup : Bool}
    (h : t.place = .serving conn requiresStartup) : Move .release s (.returning conn) []
  | discard {conn : Conn α} {requiresStartup : Bool}
    (h : t.place = .leased conn requiresStartup ∨ t.place = .serving conn requiresStartup) :
    Move .discard s (.discarding conn.id) []
  | putBack {conn : Conn α} (h : t.place = .returning conn) :
    Move .proceed (s.returnBackend conn) .done []
  | unregister {id : BackendId} (h : t.place = .discarding id) :
    Move .proceed (s.removePermit id) .leaving []

variable {cfg t s}

variable {s' : Store α} {place : Place α} {events : List (Event α)}

theorem Task.move_of_look {locked again : Bool} (hown : t.place.OwnsNothing)
    (h : t.look s locked again = (s', place, events)) :
    Move cfg t s (.look locked again) s' place events := by
  have hnone : Move cfg t s (.look locked again) s (t.afterLook again t.place) [] :=
    .wander hown (t.ownsNothing_afterLook again hown)
  unfold Task.look at h
  cases locked with
  | true =>
    cases h
    exact hnone
  | false =>
    cases hidle : s.idle with
    | nil =>
      simp only [Store.tryCheckoutIdleBackend, hidle] at h
      cases h
      exact hnone
    | cons conn idle =>
      simp only [Store.tryCheckoutIdleBackend, hidle] at h
      cases h
      exact .take hown hidle

/-- **The moves of a task are those listed.** -/
theorem Task.move_of_step {action : Action} (h : t.step cfg s action = some (s', place, events)) :
    Move cfg t s action s' place events := by
  have hnothing : ∀ {p : Place α}, t.place = p → p.OwnsNothing → t.place.OwnsNothing := by
    rintro p hp hown
    rw [hp]
    exact hown
  have hback : ∀ {p : Place α}, t.place = p → p.GivesBack → t.place.GivesBack := by
    rintro p hp hgives
    rw [hp]
    exact hgives
  -- one case for each line of the step function: a place and an action
  unfold Task.step at h
  split at h
  case h_1 hp =>
    cases h
    refine .wander (hnothing hp trivial) ?_
    split <;> trivial
  case h_2 hp | h_3 hp | h_4 hp =>
    cases h
    exact .wander (hnothing hp trivial) trivial
  case h_5 site hp =>
    unfold Store.reserveSlot at h
    by_cases hslot : s.activeBackends < cfg.maxBackends
    · simp only [hslot, if_true] at h
      cases h
      exact .reserve hp hslot
    · simp only [hslot, if_false] at h
      cases h
      exact .wander (hnothing hp trivial) (Task.ownsNothing_afterNoSlot site)
  case h_6 site hp =>
    cases hs : s.acquirePermit with
    | some p =>
      simp only [hs] at h
      cases h
      exact .acquire hp hs
    | none =>
      simp only [hs] at h
      cases h
      exact .noPermit hp
  case h_7 site hp =>
    cases h
    exact .giveBack (hback hp trivial) (Task.ownsNothing_afterNoSlot site)
  case h_8 hp =>
    cases h
    exact .connect hp
  case h_9 hp =>
    cases h
    exact .connectFailed hp
  case h_10 hp =>
    cases h
    exact .cancelConnect hp
  case h_11 site hp =>
    cases h
    exact .giveBack (hback hp trivial) (Task.ownsNothing_afterConnectFailed site)
  case h_12 hp | h_13 hp | h_14 hp => exact Task.move_of_look (hnothing hp trivial) (some.inj h)
  case h_15 conn requiresStartup ok hp =>
    cases requiresStartup with
    | false =>
      cases h
      exact .noStart hp
    | true => cases ok <;> cases h <;> first | exact .start hp | exact .startFailed hp
  -- the shared loop reads the flag of the lease again before each cycle
  case h_16 conn requiresStartup ok hp =>
    split at h
    · rename_i hboth
      rw [Bool.and_eq_true] at hboth
      obtain ⟨hshared, rfl⟩ := hboth
      cases ok <;> cases h <;> first | exact .restart hp hshared | exact .restartFailed hp hshared
    · cases h
      exact .query hp
  case h_17 hp =>
    cases h
    exact .release hp
  case h_18 hp =>
    cases h
    exact .discard (.inl hp)
  case h_19 hp =>
    cases h
    exact .discard (.inr hp)
  case h_20 hp =>
    cases h
    exact .putBack hp
  case h_21 hp =>
    cases h
    exact .unregister hp
  case h_22 hp =>
    cases h
    exact .giveBack (hback hp trivial) trivial
  case h_23 => cases h

theorem Store.registerBackend_conn (s : Store α) (permit : Bool) :
    (s.registerBackend permit).2 = ⟨s.nextId, none⟩ ∧
      (s.registerBackend permit).1.idle = s.idle := by
  unfold registerBackend
  dsimp only
  split
  · exact ⟨rfl, rfl⟩
  · split <;> exact ⟨rfl, rfl⟩

/-- A move leaves no connection in the queue that was not there, but for one it returns. -/
theorem Move.mem_idle {action : Action} (h : Move cfg t s action s' place events) {conn : Conn α}
    (hconn : conn ∈ s'.idle) : conn ∈ s.idle ∨ t.place = .returning conn := by
  cases h with
  | acquire h hs =>
    unfold Store.acquirePermit at hs
    split at hs <;> cases hs <;> exact .inl hconn
  | connect h =>
    rw [(Store.registerBackend_conn _ _).2] at hconn
    exact .inl hconn
  | connectFailed h | cancelConnect h =>
    unfold Store.dropPermit at hconn
    split at hconn <;> exact .inl hconn
  | take h hs =>
    rw [hs]
    exact .inl (mem_cons_of_mem _ hconn)
  | putBack h =>
    rcases mem_append.1 hconn with hconn | hconn
    · exact .inl hconn
    · rw [mem_singleton.1 hconn]
      exact .inr h
  | unregister h =>
    unfold Store.removePermit at hconn
    split at hconn <;> exact .inl hconn
  | _ => exact .inl hconn

end

section

variable {cfg : Config} {st st' : PoolState α} {events : List (Event α)}

/-- A step of a task is a move, and nothing else changes. -/
theorem step_task {i : Nat} {action : Action}
    (h : step cfg st (.task i action) = some (st', events)) :
    ∃ t store place, st.tasks[i]? = some t ∧ Move cfg t st.store action store place events ∧
      st' = { st with store, tasks := st.tasks.set i { t with place } } := by
  simp only [step, bind_eq_bind, bind_eq_some_iff, some.injEq, Prod.mk.injEq] at h
  obtain ⟨t, ht, ⟨store, place, es⟩, hstep, rfl, rfl⟩ := h
  exact ⟨t, store, place, ht, Task.move_of_step hstep, rfl⟩

theorem step_reaper {i : Nat} (h : step cfg st (.reaper i) = some (st', events)) :
    ∃ r store r', st.reapers[i]? = some r ∧ r.step st.store = some (store, r', events) ∧
      st' = { st with store, reapers := st.reapers.set i r' } := by
  simp only [step, bind_eq_bind, bind_eq_some_iff, some.injEq, Prod.mk.injEq] at h
  obtain ⟨r, hr, ⟨store, r', es⟩, hstep, rfl, rfl⟩ := h
  exact ⟨r, store, r', hr, hstep, rfl⟩

variable {input : Input α}

/-- A task after a step was there before, or is new, or has made the move. -/
theorem mem_tasks_of_step (h : step cfg st input = some (st', events)) {u : Task α}
    (hu : u ∈ st'.tasks) :
    u ∈ st.tasks ∨
      (∃ owner mode shared, input = .checkout owner mode shared ∧
        u = ⟨owner, mode, shared, .gates⟩) ∨
      ∃ i action t store place, input = .task i action ∧ st.tasks[i]? = some t ∧
        Move cfg t st.store action store place events ∧ u = { t with place } := by
  cases input with
  | checkout owner mode shared =>
    cases h
    rcases mem_append.1 hu with hu | hu
    · exact .inl hu
    · exact .inr (.inl ⟨owner, mode, shared, rfl, mem_singleton.1 hu⟩)
  | task i action =>
    obtain ⟨t, store, place, ht, hmove, rfl⟩ := step_task h
    rcases mem_or_eq_of_mem_set hu with hu | rfl
    · exact .inl hu
    · exact .inr (.inr ⟨i, action, t, store, place, rfl, ht, hmove, rfl⟩)
  | reap expired | retire =>
    cases h
    exact .inl hu
  | reaper i =>
    obtain ⟨r, store, r', -, -, rfl⟩ := step_reaper h
    exact .inl hu
  | acquireElsewhere | releaseElsewhere =>
    simp only [step] at h
    split at h <;> cases h
    exact .inl hu

/-- A move of a reaper leaves the queue as it is. -/
theorem Reaper.idle_step {s s' : Store α} {r r' : Reaper}
    (h : r.step s = some (s', r', events)) :
    s'.idle = s.idle ∧ ∀ e ∈ events, ∃ n, e = .slotReleased n := by
  cases r with
  | evicting ids =>
    cases ids with
    | nil => cases h
    | cons id ids =>
      cases h
      refine ⟨?_, by simp⟩
      unfold Store.removePermit
      split <;> rfl
  | evicted ids =>
    cases h
    exact ⟨rfl, by simp⟩

/-- A queue is split into the backends that are retained and those that are evicted. -/
theorem reapQueue_perm (minIdle : Nat) (expired : List BackendId) (retained idle : List (Conn α)) :
    ((reapQueue minIdle expired retained idle).1 ++
      (reapQueue minIdle expired retained idle).2).Perm (retained ++ idle) := by
  induction idle generalizing retained with
  | nil => simp [reapQueue]
  | cons conn idle ih =>
    unfold reapQueue
    split
    · exact perm_middle.trans (((ih retained).cons conn).trans perm_middle.symm)
    · refine (ih (retained ++ [conn])).trans ?_
      simp

/-- A backend in the queue after a step was there before, or is one that a task returns. -/
theorem mem_idle_of_step (h : step cfg st input = some (st', events)) {conn : Conn α}
    (hconn : conn ∈ st'.store.idle) :
    conn ∈ st.store.idle ∨ ∃ t ∈ st.tasks, t.place = .returning conn := by
  cases input with
  | checkout owner mode shared =>
    cases h
    exact .inl hconn
  | task i action =>
    obtain ⟨t, store, place, ht, hmove, rfl⟩ := step_task h
    rcases hmove.mem_idle hconn with hconn | hreturning
    · exact .inl hconn
    · exact .inr ⟨t, mem_of_getElem? ht, hreturning⟩
  | reap expired =>
    cases h
    exact .inl ((reapQueue_perm cfg.minIdle expired [] st.store.idle).subset
      (mem_append_left _ hconn))
  | retire =>
    cases h
    cases hconn
  | reaper i =>
    obtain ⟨r, store, r', -, hstep, rfl⟩ := step_reaper h
    rw [(Reaper.idle_step hstep).1] at hconn
    exact .inl hconn
  | acquireElsewhere | releaseElsewhere =>
    simp only [step] at h
    split at h <;> cases h
    exact .inl hconn

/-- An event of a step is the end of a slot, or of a move of a task. -/
theorem mem_events_of_step (h : step cfg st input = some (st', events)) {e : Event α}
    (he : e ∈ events) :
    (∃ n, e = .slotReleased n) ∨
      ∃ i action t store place, input = .task i action ∧ st.tasks[i]? = some t ∧
        Move cfg t st.store action store place events := by
  cases input with
  | task i action =>
    obtain ⟨t, store, place, ht, hmove, rfl⟩ := step_task h
    exact .inr ⟨i, action, t, store, place, rfl, ht, hmove⟩
  | reaper i =>
    obtain ⟨r, store, r', -, hstep, rfl⟩ := step_reaper h
    exact .inl ((Reaper.idle_step hstep).2 e he)
  | checkout owner mode shared | reap expired | retire =>
    cases h
    cases he
  | acquireElsewhere | releaseElsewhere =>
    simp only [step] at h
    split at h <;> cases h
    cases he

end

end Pool

end PgKinetic
