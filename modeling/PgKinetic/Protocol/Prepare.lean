import PgKinetic.Traffic.Routing
import PgKinetic.Wire.Frame
import Std.Data.ExtTreeMap

/-!
# The prepared-statement catalog of a session

A client's prepared statements live in the proxy: `PreparedCatalog` keeps, for every client
name, the text and parameter types last parsed under it and the name it goes by on backends,
and a table of the backends on which each statement is believed to be **materialized**. The
unnamed statement has backend name `""` and cache key `0`; a named one has a name and a key of
its own, fresh at every `upsert`.

A statement's class and command are functions of its text and are not stored again.
-/

namespace PgKinetic

/-- The number of a backend connection (`backend_id`). -/
abbrev BackendId := Nat

/-- `InvalidationScope`. -/
inductive InvalidationScope where
  | none
  | backend
  | allBackends
  deriving DecidableEq, Repr

/-- `PreparedShardSummary`. -/
inductive PreparedShardSummary where
  | currentShard
  | deferred
  | shard (id : ShardId)
  deriving DecidableEq

/-- `PreparedShardSummary::shard_id`. -/
def PreparedShardSummary.shardId : PreparedShardSummary → Option ShardId
  | .shard id => some id
  | .currentShard | .deferred => none

/-- `PreparedStatement`. -/
structure PreparedStatement where
  clientName : Text
  backendName : Text
  query : Text
  parameterTypeOids : List Int
  routeMapGenerationId : Nat
  shardSummary : PreparedShardSummary
  cacheKey : Nat
  deriving DecidableEq

/-- `MaterializedStatement`. -/
structure MaterializedStatement where
  shardId : Option ShardId
  deriving DecidableEq

/-- `PreparedCatalog`. -/
structure PreparedCatalog where
  sessionId : Nat
  nextStatementId : Nat := 1
  routeMapGenerationId : Nat := 0
  statements : Std.ExtTreeMap Text PreparedStatement := ∅
  materialized : Std.ExtTreeMap BackendId (Std.ExtTreeMap Nat MaterializedStatement) := ∅
  invalidationCounts : Std.ExtTreeMap Nat Nat := ∅
  deriving DecidableEq

/-- The backend name `pgk_{session_id}_{cache_key}`. -/
def backendStatementName (sessionId cacheKey : Nat) : Text :=
  ("pgk_" : Text) ++ (Nat.repr sessionId).toList ++ ('_' :: (Nat.repr cacheKey).toList)

namespace PreparedCatalog

/-- `PreparedCatalog::new`. -/
def new (sessionId : Nat) : PreparedCatalog := { sessionId }

/-- `set_route_map_generation_id`. -/
def setRouteMapGenerationId (c : PreparedCatalog) (generation : Nat) : PreparedCatalog :=
  if c.routeMapGenerationId = generation then c
  else
    { c with routeMapGenerationId := generation, materialized := ∅, invalidationCounts := ∅ }

/-- `remove_materialized_statement`. -/
def removeMaterializedStatement (c : PreparedCatalog) (cacheKey : Nat) : PreparedCatalog :=
  if cacheKey = 0 then c
  else
    { c with
      materialized := c.materialized.filterMap fun _ statements =>
        if (statements.erase cacheKey).isEmpty then none else some (statements.erase cacheKey) }

/-- Forgets what is recorded under a cache key that is about to disappear. -/
def forgetCacheKey (c : PreparedCatalog) (cacheKey : Nat) : PreparedCatalog :=
  let c := c.removeMaterializedStatement cacheKey
  { c with invalidationCounts := c.invalidationCounts.erase cacheKey }

/-- The statement `upsert` records. -/
def newStatement (c : PreparedCatalog) (clientName query : Text) (oids : List Int) :
    PreparedStatement where
  clientName
  backendName := if clientName.isEmpty then [] else backendStatementName c.sessionId
    c.nextStatementId
  query
  parameterTypeOids := oids
  routeMapGenerationId := c.routeMapGenerationId
  shardSummary := if clientName.isEmpty then .currentShard else .deferred
  cacheKey := if clientName.isEmpty then 0 else c.nextStatementId

/-- `upsert`; the statement it returns is `newStatement`. -/
def upsert (c : PreparedCatalog) (clientName query : Text) (oids : List Int) : PreparedCatalog :=
  let statement := c.newStatement clientName query oids
  let c := match c.statements[clientName]? with
    | some previous => c.forgetCacheKey previous.cacheKey
    | none => c
  { c with
    statements := c.statements.insert clientName statement
    nextStatementId := if clientName.isEmpty then c.nextStatementId else c.nextStatementId + 1 }

/-- `is_current_route_map`. -/
def isCurrentRouteMap (c : PreparedCatalog) (statement : PreparedStatement) : Bool :=
  statement.routeMapGenerationId == c.routeMapGenerationId

/-- `get_for_current_route_map`. -/
def getForCurrentRouteMap (c : PreparedCatalog) (clientName : Text) : Option PreparedStatement :=
  c.statements[clientName]?.filter c.isCurrentRouteMap

/-- `remove`: the statement that was removed, and the catalog without it. -/
def remove (c : PreparedCatalog) (clientName : Text) :
    Option (PreparedStatement × PreparedCatalog) :=
  c.statements[clientName]?.map fun removed =>
    (removed,
      PreparedCatalog.forgetCacheKey { c with statements := c.statements.erase clientName }
        removed.cacheKey)

/-- `has_named_statements`. -/
def hasNamedStatements (c : PreparedCatalog) : Bool :=
  c.statements.keys.any fun name => !name.isEmpty

/-- `is_materialized`. -/
def isMaterialized (c : PreparedCatalog) (backendId : BackendId) (statement : PreparedStatement) :
    Bool :=
  c.isCurrentRouteMap statement &&
    (statement.cacheKey == 0 ||
      ((c.materialized[backendId]?.bind fun statements => statements[statement.cacheKey]?).any
        fun materialized => materialized.shardId == statement.shardSummary.shardId))

/-- `mark_materialized`. -/
def markMaterialized (c : PreparedCatalog) (backendId : BackendId)
    (statement : PreparedStatement) : PreparedCatalog :=
  if statement.cacheKey = 0 ∨ !c.isCurrentRouteMap statement then c
  else
    { c with
      materialized := c.materialized.insert backendId
        ((c.materialized[backendId]?.getD ∅).insert statement.cacheKey
          ⟨statement.shardSummary.shardId⟩) }

/-- `increment_invalidation_count`, for each of the keys. -/
def incrementInvalidationCounts (c : PreparedCatalog) (cacheKeys : List Nat) : PreparedCatalog :=
  { c with
    invalidationCounts := cacheKeys.foldl
      (fun counts key => if key = 0 then counts else counts.insert key ((counts[key]?.getD 0) + 1))
      c.invalidationCounts }

/-- `invalidate_for_sqlstate`. -/
def invalidateForSqlstate (c : PreparedCatalog) (sqlstate : SqlState) (backendId : BackendId) :
    PreparedCatalog × InvalidationScope :=
  match sqlstate with
  | .invalidSqlStatementName =>
    match c.materialized[backendId]? with
    | some statements =>
      (PreparedCatalog.incrementInvalidationCounts
        { c with materialized := c.materialized.erase backendId } statements.keys, .backend)
    | none => (c, .backend)
  | .featureNotSupported | .undefinedTable | .undefinedColumn =>
    (PreparedCatalog.incrementInvalidationCounts { c with materialized := ∅ }
      (c.materialized.toList.flatMap fun entry => entry.2.keys), .allBackends)
  | _ => (c, .none)

end PreparedCatalog

end PgKinetic
