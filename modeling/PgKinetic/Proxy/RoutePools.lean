import PgKinetic.Lib.Text
import Mathlib.Data.List.Basic

/-!
# Which pool a client gets

`startup_backend_plan` reads database and user from a client's startup packet, looks up the pools
configured for them, and prepares the packet that is sent to backends. Without configured pools
all clients share one set of pools. The io_uring runtime has pools of its own, chosen by the
address of the backend: for the default address there is one pool, whatever the route.

A startup packet is kept as the parameters it parses to.
-/

namespace PgKinetic

open Text

/-! ### Startup packets -/

/-- The parameters of a startup packet, in order. -/
abbrev StartupParameters := List (Text × Text)

/-- `startup_parameter`: the first with the name, in whatever case. -/
def startupParameter (parameters : StartupParameters) (key : Text) : Option Text :=
  (parameters.find? fun p => p.1.eqIgnoreAsciiCase key).map (·.2)

/-- What `selection_key` leaves of a `RouteKey`. -/
structure RouteKey where
  database : Text
  user : Text
  deriving DecidableEq, Repr

/-- `startup_route_key`, without the application name. -/
def startupRouteKey (parameters : StartupParameters) : Option RouteKey := do
  let database ← startupParameter parameters "database"
  let user ← startupParameter parameters "user"
  some ⟨database, user⟩

/-- `rewrite_backend_startup_user`. -/
def rewriteBackendStartupUser (parameters : StartupParameters) :
    Option Text → Option StartupParameters
  | none => some parameters
  | some backendUser =>
    if parameters.any fun p => p.1.eqIgnoreAsciiCase "user" then
      some (parameters.map fun p => if p.1.eqIgnoreAsciiCase "user" then (p.1, backendUser) else p)
    else none

/-- A parameter as PostgreSQL reads it: the last with exactly the name. -/
def postgresParameter (parameters : StartupParameters) (key : Text) : Option Text :=
  (parameters.reverse.find? fun p => p.1 == key).map (·.2)

/-- **The identity of a connection**: the database and the user that PostgreSQL takes from the
packet it is started with. The database defaults to the user. -/
structure BackendIdentity where
  database : Text
  user : Text
  deriving DecidableEq, Repr

/-- The identity a packet asks for. -/
def backendIdentity (parameters : StartupParameters) : BackendIdentity :=
  let user := (postgresParameter parameters "user").getD []
  ⟨(postgresParameter parameters "database").getD user, user⟩

/-! ### Pools -/

/-- `PoolConfig`; an address is a number. -/
structure PoolConfig where
  database : Text
  user : Text
  backendAddr : Nat
  deriving DecidableEq, Repr

/-- What a pool stands for in the configuration. -/
def PoolConfig.key (pool : PoolConfig) : RouteKey := ⟨pool.database, pool.user⟩

/-- The settings that decide about pools: the configured pools, the addresses used if there are
none, and the user of the service credentials, if any. -/
structure ProxyConfig where
  pools : List PoolConfig := []
  primaryAddr : Nat := 0
  replicaAddrs : List Nat := []
  backendUser : Option Text := none

/-- `RoutePoolSelector`: route pools are known by a number. -/
structure RoutePoolSelector where
  defaultPools : Option Nat
  /-- The latest insertion first. -/
  registry : List (RouteKey × Nat)

/-- `build_route_pool_selector`. -/
def buildRoutePoolSelector (cfg : ProxyConfig) : RoutePoolSelector :=
  if cfg.pools.isEmpty then ⟨some 0, []⟩
  else ⟨none, (cfg.pools.zipIdx.map fun p => (p.1.key, p.2)).reverse⟩

/-- `RoutePoolSelector::resolve`. -/
def RoutePoolSelector.resolve (selector : RoutePoolSelector) (route : RouteKey) : Option Nat :=
  ((selector.registry.find? fun p => p.1 == route).map (·.2)).or selector.defaultPools

/-- `StartupBackendPlan`. -/
structure StartupBackendPlan where
  sessionRoute : RouteKey
  routePools : Nat
  backendStartupPacket : StartupParameters
  deriving DecidableEq, Repr

/-- `startup_backend_plan`. -/
def startupBackendPlan (cfg : ProxyConfig) (parameters : StartupParameters) :
    Option StartupBackendPlan := do
  let route ← startupRouteKey parameters
  let pools ← (buildRoutePoolSelector cfg).resolve route
  let packet ← rewriteBackendStartupUser parameters cfg.backendUser
  some ⟨route, pools, packet⟩

/-- `RoutingTarget`, as far as it names a backend. -/
inductive Target where
  | primary
  | replica (index : Nat)
  deriving DecidableEq, Repr

/-- The address of a target; configured pools have no replicas. -/
def ProxyConfig.targetAddr (cfg : ProxyConfig) (routePools : Nat) (target : Target) : Option Nat :=
  match cfg.pools, target with
  | [], .primary => some cfg.primaryAddr
  | [], .replica index => cfg.replicaAddrs[index]?
  | _ :: _, .primary => cfg.pools[routePools]?.map (·.backendAddr)
  | _ :: _, .replica _ => none

/-- `default_primary_backend_addr`. -/
def ProxyConfig.defaultConnection (cfg : ProxyConfig) : Nat :=
  (cfg.pools.head?.map (·.backendAddr)).getD cfg.primaryAddr

/-- A pool: one for each target of route pools; and the pools of the io_uring runtime, the default
one and one for each route and other address. -/
inductive PoolId where
  | routePool (routePools : Nat) (target : Target)
  | sharedDefault
  | sharedRoute (route : RouteKey) (addr : Nat)
  deriving DecidableEq, Repr

/-- The pool a checkout goes to: `checkout_target`, or `pool_for_route` with `shared`. -/
def StartupBackendPlan.pool (cfg : ProxyConfig) (plan : StartupBackendPlan) (shared : Bool)
    (target : Target) : Option PoolId :=
  (cfg.targetAddr plan.routePools target).map fun addr =>
    if !shared then .routePool plan.routePools target
    else if addr = cfg.defaultConnection then .sharedDefault
    else .sharedRoute plan.sessionRoute addr

end PgKinetic
