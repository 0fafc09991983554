import PgKinetic.Pool.StartupFlag
import PgKinetic.Proxy.RoutePools

/-!
# Whose connection a session gets

A connection belongs to the database and user it has been started for, and a pool hands it to
whoever checks out next: neither the idle queue nor a lease records that identity. So a session
runs on a connection of its **own identity** as far as all the clients of a pool have the same
one.

The machine of this module is all the pools of a proxy at once. A checkout for a session goes to
the pool that the plan for its startup packet names, and carries the identity of that packet;
everything else happens in one pool or another. The default pool, and the default pool of the
io_uring runtime, serve everybody.
-/

namespace PgKinetic

open EventMachine

namespace RoutePools

/-- The proxy's settings, those of each pool, and the semaphore's permits. -/
structure Config where
  proxy : ProxyConfig
  pool : PoolId → Pool.Config
  permits : Option Nat := none

/-- An input: a checkout for the session of a client with these startup parameters, or anything
else in one of the pools. -/
inductive Input where
  | checkout (parameters : StartupParameters) (shared : Bool) (target : Target)
    (mode : Pool.CheckoutMode)
  | pool (id : PoolId) (input : Pool.Input BackendIdentity)

/-- Something that happens in a pool. -/
structure Event where
  pool : PoolId
  event : Pool.Event BackendIdentity
  deriving DecidableEq, Repr

abbrev State := PoolId → Pool.PoolState BackendIdentity

/-- The pool a checkout goes to, and the identity it is for. -/
def Input.destination (cfg : ProxyConfig) : Input → Option (PoolId × BackendIdentity)
  | .checkout parameters shared target _ => do
    let plan ← startupBackendPlan cfg parameters
    let id ← plan.pool cfg shared target
    some (id, backendIdentity plan.backendStartupPacket)
  | .pool _ _ => none

/-- Whether the input is a checkout. -/
def isCheckout : Pool.Input BackendIdentity → Bool
  | .checkout _ _ _ => true
  | _ => false

/-- A step of one pool. -/
def poolStep (cfg : Config) (st : State) (id : PoolId) (input : Pool.Input BackendIdentity) :
    Option (State × List Event) :=
  (Pool.step (cfg.pool id) (st id) input).map fun p =>
    (Function.update st id p.1, p.2.map (⟨id, ·⟩))

/-- One step. -/
def step (cfg : Config) (st : State) (input : Input) : Option (State × List Event) :=
  match input with
  | .checkout _ shared _ mode =>
    match input.destination cfg.proxy with
    | some (id, identity) => poolStep cfg st id (.checkout identity mode shared)
    | none => none
  | .pool id input => if isCheckout input then none else poolStep cfg st id input

/-- All the pools, as a machine. -/
def machine (cfg : Config) : Machine State Input Event where
  step := step cfg

/-- Pools that nothing has happened in. -/
def initial (cfg : Config) : State := fun _ => .initial cfg.permits

/-- No checkout connects inside the waiting loop. -/
def flagsConnect (st : State) : Input → Bool
  | .pool id input => Pool.flagsConnect (st id) input
  | .checkout _ _ _ _ => true

/-- **Clients of one pool are alike**: checkouts that go to the same pool are for the same
identity. -/
def Alike (cfg : ProxyConfig) (inputs : List Input) : Prop :=
  ∀ a ∈ inputs.filterMap (·.destination cfg), ∀ b ∈ inputs.filterMap (·.destination cfg),
    a.1 = b.1 → a.2 = b.2

instance (cfg : ProxyConfig) (inputs : List Input) : Decidable (Alike cfg inputs) :=
  inferInstanceAs (Decidable (∀ a ∈ inputs.filterMap (·.destination cfg),
    ∀ b ∈ inputs.filterMap (·.destination cfg), a.1 = b.1 → a.2 = b.2))

/-- A backend that is leased again, or queried, has been started for the identity of the session
that does so. -/
def Event.OwnIdentity (e : Event) : Prop :=
  match e.event with
  | .leased conn owner requiresStartup _ => requiresStartup = false → conn.startedAs = some owner
  | .queried conn owner => conn.startedAs = some owner
  | .started _ _ | .slotReleased _ => True

/-! ### Every run -/

section

variable {cfg : Config} {inputs : List Input}

/-- In each pool, connections are started for identities that have been sent there. -/
def SentThere (cfg : ProxyConfig) (inputs : List Input) (id : PoolId) (x : BackendIdentity) :
    Prop :=
  (id, x) ∈ inputs.filterMap (·.destination cfg)

theorem eq_of_started (halike : Alike cfg.proxy inputs) {id : PoolId} {owner : BackendIdentity}
    {conn : Pool.Conn BackendIdentity} (howner : SentThere cfg.proxy inputs id owner)
    (hconn : conn.Started (SentThere cfg.proxy inputs id)) : conn.startedAs = some owner := by
  obtain ⟨x, hx, hsent⟩ := hconn
  have heq : x = owner := halike _ hsent _ howner rfl
  rw [hx, heq]

theorem ownIdentity_of_owned (halike : Alike cfg.proxy inputs) {e : Event}
    (h : e.event.Owned (SentThere cfg.proxy inputs e.pool)) : e.OwnIdentity := by
  obtain ⟨id, event⟩ := e
  cases event with
  | leased conn owner requiresStartup connected =>
    rintro rfl
    exact eq_of_started halike h.1 h.2.2
  | queried conn owner => exact eq_of_started halike h.1 h.2
  | started conn owner => trivial
  | slotReleased n => trivial

/-- A step of one pool keeps what is known of its connections. -/
theorem started_poolStep {st st' : State} {id : PoolId} {input : Pool.Input BackendIdentity}
    {es : List Event} (hst : ∀ id, (st id).Started (SentThere cfg.proxy inputs id))
    (hflag : Pool.flagsConnect (st id) input = true)
    (howner : ∀ owner mode shared, input = .checkout owner mode shared →
      SentThere cfg.proxy inputs id owner)
    (h : poolStep cfg st id input = some (st', es)) :
    (∀ id, (st' id).Started (SentThere cfg.proxy inputs id)) ∧
      ∀ e ∈ es, e.event.Owned (SentThere cfg.proxy inputs e.pool) := by
  obtain ⟨⟨s, events⟩, hstep, heq⟩ := Option.map_eq_some_iff.1 h
  obtain ⟨rfl, rfl⟩ := Prod.mk.inj heq
  obtain ⟨hs, hevents⟩ := Pool.started_step (hst id) hflag howner hstep
  refine ⟨fun other => ?_, fun e he => ?_⟩
  -- a step in one pool leaves the others alone
  · by_cases hother : other = id
    · subst hother
      rw [Function.update_self]
      exact hs
    · rw [Function.update_of_ne hother]
      exact hst other
  · obtain ⟨event, hevent, rfl⟩ := List.mem_map.1 he
    exact hevents event hevent

theorem started_step {st st' : State} {input : Input} {es : List Event}
    (hst : ∀ id, (st id).Started (SentThere cfg.proxy inputs id))
    (hmem : input ∈ inputs) (hflag : flagsConnect st input = true)
    (h : step cfg st input = some (st', es)) :
    (∀ id, (st' id).Started (SentThere cfg.proxy inputs id)) ∧
      ∀ e ∈ es, e.event.Owned (SentThere cfg.proxy inputs e.pool) := by
  cases input with
  | checkout parameters shared target mode =>
    unfold step at h
    dsimp only at h
    split at h
    · rename_i id identity hdestination
      refine started_poolStep hst rfl ?_ h
      rintro owner mode' shared' heq
      cases heq
      exact List.mem_filterMap.2 ⟨_, hmem, hdestination⟩
    · cases h
  | pool id input =>
    unfold step at h
    dsimp only at h
    split at h
    · cases h
    · rename_i hcheckout
      refine started_poolStep hst hflag ?_ h
      rintro owner mode shared rfl
      exact absurd rfl hcheckout

end

/-- **A session runs on connections of its own identity**, in every run of any number of clients
and pools in which the clients of one pool are alike and no checkout connects inside the waiting
loop. -/
theorem ownIdentity_of_alike (cfg : Config) (inputs : List Input) (st : State) (es : List Event)
    (hrun : (machine cfg).run (initial cfg) inputs = some (st, es))
    (hflag : (machine cfg).Meets (fun st input => flagsConnect st input = true) (initial cfg)
      inputs)
    (halike : Alike cfg.proxy inputs) : ∀ e ∈ es, e.OwnIdentity := by
  have hinit : ∀ id, (initial cfg id).Started (SentThere cfg.proxy inputs id) :=
    fun id => Pool.PoolState.initial_started cfg.permits
  -- the condition is about the whole list, so a step has to know that its input is in it
  have hinputs : (machine cfg).Meets (fun _ input => input ∈ inputs) (initial cfg) inputs :=
    Machine.meets_of_forall _ fun _ hi => hi
  obtain ⟨-, hes⟩ := (machine cfg).invariant_of_step
    (I := fun st => ∀ id, (st id).Started (SentThere cfg.proxy inputs id))
    (fun _ _ _ _ hst hinput h => started_step hst hinput.1 hinput.2 h) hinit hrun
    (Machine.Meets.and _ hinputs hflag)
  exact fun e he => ownIdentity_of_owned halike (hes e he)

/-- A proxy without configured pools, and with one backend at most. -/
def oneBackend : Config where
  proxy := {}
  pool _ := ⟨1, 0⟩

/-- The pool of such a proxy. -/
def thePool : PoolId := .routePool 0 .primary

/-- The checkout of a client, as task `i` of the pool. -/
def arrival (user database : Text) (i : Nat) : List Input :=
  [.checkout [("user", user), ("database", database)] false .primary .allowConnect,
    .pool thePool (.task i .pass), .pool thePool (.task i (.look false false))]

/-- A client whose backend is connected, started, queried and released. -/
def firstSession (user database : Text) : List Input :=
  arrival user database 0 ++
    [.pool thePool (.task 0 .proceed), .pool thePool (.task 0 .proceed),
      .pool thePool (.task 0 .connected), .pool thePool (.task 0 (.startup true)),
      .pool thePool (.task 0 (.query true)), .pool thePool (.task 0 .release),
      .pool thePool (.task 0 .proceed)]

/-- A client that gets the backend another has released. -/
def nextSession (user database : Text) : List Input :=
  arrival user database 1 ++
    [.pool thePool (.task 1 (.startup true)), .pool thePool (.task 1 (.query true))]

theorem ownIdentity_of_same_client :
    ∃ st es, (machine oneBackend).run (initial oneBackend)
        (firstSession "reader" "shop" ++ nextSession "reader" "shop") = some (st, es) ∧
      ⟨thePool, .queried ⟨1, some ⟨"shop", "reader"⟩⟩ ⟨"shop", "reader"⟩⟩ ∈ es ∧
      ∀ e ∈ es, e.OwnIdentity := by
  have hrun : ((machine oneBackend).run (initial oneBackend)
      (firstSession "reader" "shop" ++ nextSession "reader" "shop")).map (fun p =>
        decide (⟨thePool, .queried ⟨1, some ⟨"shop", "reader"⟩⟩ ⟨"shop", "reader"⟩⟩ ∈ p.2)) =
      some true := by decide +kernel
  obtain ⟨p, hp, hmem⟩ := Option.map_eq_some_iff.1 hrun
  exact ⟨p.1, p.2, hp, of_decide_eq_true hmem, ownIdentity_of_alike oneBackend _ p.1 p.2 hp
    (by decide +kernel) (by decide +kernel)⟩

/-- **A session runs on a connection opened for another database and another user**: the default
pool is shared by all. -/
theorem queried_as_another_user :
    ((machine oneBackend).run (initial oneBackend)
      (firstSession "reader" "shop" ++ nextSession "writer" "bank")).map (fun p => p.2.getLast?) =
    some (some ⟨thePool, .queried ⟨1, some ⟨"shop", "reader"⟩⟩ ⟨"bank", "writer"⟩⟩) := by
  decide +kernel

end RoutePools

end PgKinetic
