import PgKinetic.Pool.Moves

/-!
# The startup flag of a lease

A connection is used by the session that leases it; whether the session has to run the PostgreSQL
startup on it first is told by the lease (`requires_startup`). The flag is **sound** if it is set
exactly on the leases whose checkout has connected the backend. Then a connection is started
once, before its first query, and what is said of every owner that starts connections is true of
every connection that is queried (`Started`).

The flag is wrong in one place: the lease made after the waiting loop of `checkout_with_mode`
has it unset, also where the loop has connected. And the shared session loop reads it again for
each cycle on a backend that it holds, so that a backend it has connected is started again.
-/

namespace PgKinetic

open EventMachine

namespace Pool

variable {α : Type} {P : α → Prop}

/-! ### Started connections -/

/-- The connection has been started, by an owner with the property. -/
def Conn.Started (P : α → Prop) (conn : Conn α) : Prop :=
  ∃ owner, conn.startedAs = some owner ∧ P owner

/-- A task past the startup of its backend has a started one, and one before it a fresh one
exactly if the lease says so. -/
def Place.Started (P : α → Prop) : Place α → Prop
  | .leased conn true => conn.startedAs = none
  | .leased conn false | .serving conn _ | .returning conn => conn.Started P
  | _ => True

/-- **The pool's connections are as the leases say**: idle ones have been started. -/
structure PoolState.Started (P : α → Prop) (st : PoolState α) : Prop where
  idle : ∀ conn ∈ st.store.idle, conn.Started P
  owner : ∀ t ∈ st.tasks, P t.owner
  place : ∀ t ∈ st.tasks, t.place.Started P

/-- A lease says whether its checkout has connected, and connections that are leased again or
queried have been started; all by owners with the property. -/
def Event.Owned (P : α → Prop) : Event α → Prop
  | .leased conn owner requiresStartup connected =>
    P owner ∧ requiresStartup = connected ∧ (Place.leased conn requiresStartup).Started P
  | .started _ owner => P owner
  | .queried conn owner => P owner ∧ conn.Started P
  | .slotReleased _ => True

/-- **The startup flag is sound**: a lease requires a startup exactly if its checkout has
connected, which is if the connection has not been started; a startup is the first on its
connection, and a query comes after it. -/
def Event.Sound : Event α → Prop
  | .leased conn _ requiresStartup connected =>
    requiresStartup = connected ∧ (requiresStartup = true ↔ conn.startedAs = none)
  | .started conn _ => conn.startedAs = none
  | .queried conn _ => conn.startedAs ≠ none
  | .slotReleased _ => True

/-- The task does not connect where its lease will not say so. -/
def Task.flagsConnect (t : Task α) : Action → Bool
  | .connected =>
    match t.place with
    | .connecting site _ => site.requiresStartup
    | _ => true
  | _ => true

/-- The task does not start a backend that it has started. -/
def Task.startsOnce (t : Task α) : Action → Bool
  | .query _ =>
    match t.place with
    | .serving _ requiresStartup => !(t.shared && requiresStartup)
    | _ => true
  | _ => true

/-- **No checkout connects inside the waiting loop.** -/
def flagsConnect (st : PoolState α) : Input α → Bool
  | .task i action => st.tasks[i]?.all fun t => t.flagsConnect action
  | _ => true

/-- **No shared session runs another cycle on a backend that it has connected itself.** -/
def startsOnce (st : PoolState α) : Input α → Bool
  | .task i action => st.tasks[i]?.all fun t => t.startsOnce action
  | _ => true

theorem Place.OwnsNothing.started {p : Place α} (h : p.OwnsNothing) : p.Started P := by
  cases p <;> trivial

/-! ### One move -/

section

variable {cfg : Config} {t : Task α} {s s' : Store α} {action : Action} {place : Place α}
  {events : List (Event α)}

/-- A move leaves the connection of its task as the lease says. -/
theorem Move.started (h : Move cfg t s action s' place events)
    (hflag : t.flagsConnect action = true)
    (hidle : ∀ conn ∈ s.idle, conn.Started P) (howner : P t.owner) (hplace : t.place.Started P) :
    place.Started P ∧ ∀ e ∈ events, e.Owned P := by
  have hstart : ∀ conn : Conn α, Conn.Started P { conn with startedAs := some t.owner } :=
    fun conn => ⟨t.owner, rfl, howner⟩
  cases h with
  | wander h h' => exact ⟨h'.started, by simp⟩
  | giveBack h h' => exact ⟨h'.started, by simp [Event.Owned]⟩
  | @connect site permit h =>
    -- at the site in the loop the lease would not say that the checkout has connected
    have hsite : site.requiresStartup = true := by simpa [Task.flagsConnect, h] using hflag
    rw [hsite, (Store.registerBackend_conn s permit).1]
    exact ⟨rfl, by simp [Event.Owned, Place.Started, howner]⟩
  | take h hs =>
    have hconn : Conn.Started P _ := hidle _ (by rw [hs]; exact List.mem_cons_self)
    exact ⟨hconn, by simpa [Event.Owned, Place.Started, howner] using hconn⟩
  | start h => exact ⟨hstart _, by simp [Event.Owned, howner]⟩
  | startFailed h => exact ⟨trivial, by simp [Event.Owned, howner]⟩
  | restart h hshared => exact ⟨hstart _, by simp [Event.Owned, howner, hstart]⟩
  | restartFailed h hshared => exact ⟨trivial, by simp [Event.Owned, howner]⟩
  | noStart h =>
    rw [h] at hplace
    exact ⟨hplace, by simp⟩
  | query h =>
    rw [h] at hplace
    exact ⟨hplace, by simpa [Event.Owned, Place.Started, howner] using hplace⟩
  | release h =>
    rw [h] at hplace
    exact ⟨hplace, by simp⟩
  | _ => exact ⟨trivial, by simp⟩

/-- A move that starts a connection is the first to do so. -/
theorem Move.startedAs_eq_none (h : Move cfg t s action s' place events)
    (honce : t.startsOnce action = true) (hplace : t.place.Started P) {conn : Conn α} {owner : α}
    (hconn : .started conn owner ∈ events) : conn.startedAs = none := by
  cases h with
  | start h | startFailed h =>
    rw [h] at hplace
    obtain ⟨rfl, -⟩ : conn = _ ∧ owner = t.owner := by simpa using hconn
    exact hplace
  -- the second startup of a shared session, which the condition rules out
  | restart h hshared | restartFailed h hshared => simp [Task.startsOnce, h, hshared] at honce
  | _ => simp at hconn

end

/-! ### Every run -/

variable {cfg : Config} {input : Input α} {events : List (Event α)}

/-- **One step keeps the connections as the leases say**, if the flag tells of every connect and
new owners have the property. -/
theorem started_step {st st' : PoolState α} (hst : st.Started P)
    (hflag : flagsConnect st input = true)
    (howner : ∀ owner mode shared, input = .checkout owner mode shared → P owner)
    (h : step cfg st input = some (st', events)) : st'.Started P ∧ ∀ e ∈ events, e.Owned P := by
  have hmoved : ∀ {i action t store place}, input = .task i action → st.tasks[i]? = some t →
      Move cfg t st.store action store place events →
      place.Started P ∧ ∀ e ∈ events, e.Owned P := by
    rintro i action t store place rfl ht hmove
    have htask := List.mem_of_getElem? ht
    have hflag : t.flagsConnect action = true := by simpa [flagsConnect, ht] using hflag
    exact hmove.started hflag hst.idle (hst.owner t htask) (hst.place t htask)
  refine ⟨⟨fun conn hconn => ?_, fun u hu => ?_, fun u hu => ?_⟩, fun e he => ?_⟩
  -- what is new in the queue comes from a task that has served with it
  · rcases mem_idle_of_step h hconn with hconn | ⟨t, ht, hreturning⟩
    · exact hst.idle conn hconn
    · have hreturned := hst.place t ht
      rw [hreturning] at hreturned
      exact hreturned
  · rcases mem_tasks_of_step h hu with hu | ⟨owner, mode, shared, hinput, rfl⟩ |
      ⟨i, action, t, store, place, -, ht, -, rfl⟩
    · exact hst.owner u hu
    · exact howner owner mode shared hinput
    · exact hst.owner t (List.mem_of_getElem? ht)
  · rcases mem_tasks_of_step h hu with hu | ⟨owner, mode, shared, -, rfl⟩ |
      ⟨i, action, t, store, place, hinput, ht, hmove, rfl⟩
    · exact hst.place u hu
    · trivial
    · exact (hmoved hinput ht hmove).1
  · rcases mem_events_of_step h he with ⟨n, rfl⟩ | ⟨i, action, t, store, place, hinput, ht, hmove⟩
    · trivial
    · exact (hmoved hinput ht hmove).2 e he

theorem PoolState.initial_started (permits : Option Nat) :
    (initial permits : PoolState α).Started P where
  idle := by simp [initial]
  owner := by simp [initial]
  place := by simp [initial]

theorem Event.Owned.sound {e : Event α} (h : e.Owned P)
    (hstarted : ∀ conn owner, e = .started conn owner → conn.startedAs = none) : e.Sound := by
  cases e with
  | leased conn owner requiresStartup connected =>
    refine ⟨h.2.1, ?_⟩
    have hconn := h.2.2
    cases requiresStartup with
    | true => exact ⟨fun _ => hconn, fun _ => rfl⟩
    | false =>
      obtain ⟨x, hx, -⟩ := hconn
      simp [hx]
  | started conn owner => exact hstarted conn owner rfl
  | queried conn owner =>
    obtain ⟨x, hx, -⟩ := h.2
    exact ne_of_eq_of_ne hx (Option.some_ne_none x)
  | slotReleased n => trivial

/-- **One step is sound.** -/
theorem sound_step {st st' : PoolState α} (hst : st.Started fun _ => True)
    (hflag : flagsConnect st input = true) (honce : startsOnce st input = true)
    (h : step cfg st input = some (st', events)) :
    (st'.Started fun _ => True) ∧ ∀ e ∈ events, e.Sound := by
  obtain ⟨hst', howned⟩ := started_step hst hflag (fun _ _ _ _ => trivial) h
  refine ⟨hst', fun e he => (howned e he).sound ?_⟩
  rintro conn owner rfl
  rcases mem_events_of_step h he with ⟨n, heq⟩ | ⟨i, action, t, store, place, rfl, ht, hmove⟩
  · cases heq
  · have honce : t.startsOnce action = true := by simpa [startsOnce, ht] using honce
    exact hmove.startedAs_eq_none honce (hst.place t (List.mem_of_getElem? ht)) he

/-- **The startup flag is sound in every run** in which no checkout connects inside the waiting
loop and no shared session runs another cycle on a backend that it has connected. -/
theorem startupFlag_sound (cfg : Config) (permits : Option Nat) (inputs : List (Input α))
    (st : PoolState α) (es : List (Event α))
    (hrun : (machine cfg).run (.initial permits) inputs = some (st, es))
    (hflag : (machine cfg).Meets
      (fun st input => flagsConnect st input = true ∧ startsOnce st input = true)
      (.initial permits) inputs) :
    ∀ e ∈ es, e.Sound := by
  refine ((machine cfg).invariant_of_step (I := fun st => st.Started fun _ => True) ?_
    (PoolState.initial_started permits) hrun hflag).2
  exact fun _ _ _ _ hst hflag h => sound_step hst hflag.1 hflag.2 h

/-- A checkout that connects, runs the startup and a query, and another that reuses the backend. -/
def connectThenReuse : List (Input Unit) :=
  [.checkout () .allowConnect false, .task 0 .pass, .task 0 (.look false false),
    .task 0 .proceed, .task 0 .proceed, .task 0 .connected, .task 0 (.startup true),
    .task 0 (.query true), .task 0 .release, .task 0 .proceed,
    .checkout () .reuseOnly false, .task 1 .pass, .task 1 (.look false false),
    .task 1 (.startup true), .task 1 (.query true)]

theorem startupFlag_sound_connectThenReuse :
    ∃ st es, (machine ⟨1, 0⟩).run (.initial none) connectThenReuse = some (st, es) ∧
      es = [.leased ⟨1, none⟩ () true true, .started ⟨1, none⟩ (), .queried ⟨1, some ()⟩ (),
        .leased ⟨1, some ()⟩ () false false, .queried ⟨1, some ()⟩ ()] ∧
      ∀ e ∈ es, e.Sound := by
  have hrun : ((machine ⟨1, 0⟩).run (.initial none) connectThenReuse).map (·.2) =
      some [.leased ⟨1, none⟩ () true true, .started ⟨1, none⟩ (), .queried ⟨1, some ()⟩ (),
        .leased ⟨1, some ()⟩ () false false, .queried ⟨1, some ()⟩ ()] := by decide +kernel
  obtain ⟨p, hp, hes⟩ := Option.map_eq_some_iff.1 hrun
  exact ⟨p.1, p.2, hp, hes,
    startupFlag_sound ⟨1, 0⟩ none connectThenReuse p.1 p.2 hp (by decide +kernel)⟩

/-- **A backend connected in the waiting loop is queried without a startup.** The second checkout
finds the only slot taken and goes on to the loop, where the slot has been given back. -/
theorem unstarted_backend_queried :
    ((machine ⟨1, 0⟩).run (.initial none : PoolState Unit)
      [.checkout () .allowConnect false, .task 0 .pass, .task 0 (.look false false),
        .task 0 .proceed, .task 0 .proceed,
        .checkout () .allowConnect false, .task 1 .pass, .task 1 (.look false false),
        .task 1 .proceed, .task 0 .connectFailed, .task 0 .proceed,
        .task 1 (.look false false), .task 1 .proceed, .task 1 .proceed, .task 1 .connected,
        .task 1 (.startup true), .task 1 (.query true)]).map (·.2) =
      some [.slotReleased 1, .leased ⟨1, none⟩ () false true, .queried ⟨1, none⟩ ()] := by
  decide +kernel

end Pool

end PgKinetic
