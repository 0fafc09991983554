import PgKinetic.Protocol.Sql
import PgKinetic.Protocol.SqlClassify
import PgKinetic.Traffic.Routing
import Std.Data.ExtTreeMap

/-!
# The virtual session

`VirtualSession` is the proxy's own record of what a client has done to its backend, made from
the texts of its statements: the transaction it is in, the settings to replay on another
backend, and one flag for every kind of state that cannot be replayed. `pin_reason` condenses
the record to the **first** reason, in a fixed order, to keep the backend.

Methods that change the session are functions `VirtualSession → VirtualSession`; those that
read a statement fail where `Sql.classify` does.
-/

namespace PgKinetic

/-- `PinReason`. -/
inductive PinReason where
  | openTransaction
  | failedTransaction
  | sessionState
  | tempTable
  | advisoryLock
  | copy
  | listenNotify
  | unknownProtocolState
  deriving DecidableEq, Repr

/-- `TransactionState`. -/
inductive TransactionState where
  | idle
  | inTransaction
  | failed
  deriving DecidableEq, Repr

/-- `PgLsn`, a position of the write-ahead log. -/
abbrev PgLsn := Nat

/-- `ReadAfterWriteState`. -/
inductive ReadAfterWriteState where
  | disabled
  | required (lsn : PgLsn)
  | unknown
  deriving DecidableEq, Repr

/-! ### What a transaction records -/

/-- `ReadRoutingTransactionState`. -/
structure ReadRoutingTransactionState where
  accessMode : TransactionAccessMode
  targetRole : BackendRole
  routeReason : RoutingReason
  primaryForced : Bool
  deriving DecidableEq

namespace ReadRoutingTransactionState

/-- `refresh`: the role and the reason follow from the access mode and the flag. -/
def refresh (state : ReadRoutingTransactionState) : ReadRoutingTransactionState :=
  if state.primaryForced then { state with targetRole := .primary, routeReason := .writeQuery }
  else
    match state.accessMode with
    | .readOnly => { state with targetRole := .replica, routeReason := .readOnlyQuery }
    | .readWrite => { state with targetRole := .primary, routeReason := .transactionControl }

/-- `ReadRoutingTransactionState::new`. -/
def new (accessMode : TransactionAccessMode) : ReadRoutingTransactionState :=
  refresh ⟨accessMode, .primary, .transactionControl, false⟩

/-- `set_access_mode`. -/
def setAccessMode (state : ReadRoutingTransactionState) (accessMode : TransactionAccessMode) :
    ReadRoutingTransactionState :=
  refresh { state with accessMode }

/-- `force_primary`. -/
def forcePrimary (state : ReadRoutingTransactionState) : ReadRoutingTransactionState :=
  refresh { state with primaryForced := true }

end ReadRoutingTransactionState

/-- `TransactionShardState`. -/
structure TransactionShardState where
  currentShardId : ShardId
  currentShardRouteReason : RoutingReason
  crossShardViolation : Bool := false
  deriving DecidableEq

/-- `TransactionShardDecision`. -/
inductive TransactionShardDecision where
  | accepted
  | rejected
  | followMultiShardPolicy
  deriving DecidableEq

/-! ### The session -/

/-- `VirtualSession`; the defaults are those of `VirtualSession::default`. -/
structure VirtualSession where
  transaction : TransactionState := .idle
  readRoutingTransaction : Option ReadRoutingTransactionState := none
  transactionShard : Option TransactionShardState := none
  readAfterWrite : ReadAfterWriteState := .disabled
  settings : Std.ExtTreeMap Text Text := ∅
  hasUnsafeSessionState : Bool := false
  hasTempTable : Bool := false
  hasAdvisoryLock : Bool := false
  inCopy : Bool := false
  hasListen : Bool := false
  unknownProtocolState : Bool := false
  deriving DecidableEq

/-- `is_replayable_setting`. -/
def isReplayableSetting (key : Text) : Bool :=
  key == "application_name" || key == "timezone" || key == "datestyle" ||
    key == "search_path" || key == "extra_float_digits"

namespace VirtualSession

/-- `begin_transaction`. -/
def beginTransaction (s : VirtualSession) (accessMode : TransactionAccessMode) : VirtualSession :=
  { s with
    transaction := .inTransaction
    readRoutingTransaction := some (.new accessMode) }

/-- `end_transaction`. -/
def endTransaction (s : VirtualSession) : VirtualSession :=
  { s with transaction := .idle, readRoutingTransaction := none, transactionShard := none }

/-- `set_transaction_access_mode`. -/
def setTransactionAccessMode (s : VirtualSession) (accessMode : TransactionAccessMode) :
    VirtualSession :=
  if s.transaction ≠ .inTransaction then s
  else
    { s with
      readRoutingTransaction :=
        some ((s.readRoutingTransaction.getD (.new accessMode)).setAccessMode accessMode) }

/-- `mark_transaction_write`. -/
def markTransactionWrite (s : VirtualSession) : VirtualSession :=
  if s.transaction ≠ .inTransaction then s
  else
    { s with
      readRoutingTransaction :=
        some (s.readRoutingTransaction.getD (.new .readWrite)).forcePrimary }

/-- `mark_failed_transaction`. -/
def markFailedTransaction (s : VirtualSession) : VirtualSession :=
  { s.markTransactionWrite with transaction := .failed }

/-- `mark_ready_after_copy`. -/
def markReadyAfterCopy (s : VirtualSession) : VirtualSession := { s with inCopy := false }

/-- `mark_unknown_protocol_state`. -/
def markUnknownProtocolState (s : VirtualSession) : VirtualSession :=
  { s with unknownProtocolState := true }

/-- `apply_set`. -/
def applySet (s : VirtualSession) (scope : SetScope) (key value : Text) : VirtualSession :=
  if scope = .local then s
  else if isReplayableSetting key then { s with settings := s.settings.insert key value }
  else { s with hasUnsafeSessionState := true }

/-- `apply_sql`. -/
def applySql (s : VirtualSession) : SqlCommand → VirtualSession
  | .begin accessMode => s.beginTransaction accessMode
  | .commit | .rollback => s.endTransaction
  | .setTransaction accessMode => s.setTransactionAccessMode accessMode
  | .set scope key value => s.applySet scope key value
  | .reset key =>
    { s with
      settings := s.settings.erase key
      hasUnsafeSessionState := s.hasUnsafeSessionState || !isReplayableSetting key }
  -- everything is forgotten, an open transaction included
  | .discardAll => {}
  | .discardTemp => { s with hasTempTable := false }
  | .discardPlans => s
  | .createTemp => { s with hasTempTable := true }
  | .advisoryLock => { s with hasAdvisoryLock := true }
  | .advisoryUnlock => { s with hasAdvisoryLock := false }
  | .copy => { s with inCopy := true }
  | .listen => { s with hasListen := true }
  -- one `UNLISTEN` is taken for all channels
  | .unlisten => { s with hasListen := false }
  | .query => s

/-- `apply_transaction_command`. -/
def applyTransactionCommand (s : VirtualSession) (command : SqlCommand) (isWrite : Bool) :
    VirtualSession :=
  let s := match command with
    | .begin accessMode => s.beginTransaction accessMode
    | .commit | .rollback => s.endTransaction
    | .setTransaction accessMode => s.setTransactionAccessMode accessMode
    | _ => s
  if isWrite then s.markTransactionWrite else s

/-- The visits of `apply_transaction_sql_with_routing` to the top-level statements of a text;
the flag is `committed_write_transaction`. -/
def applyTransactionStatements (track : Bool) :
    VirtualSession → Bool → List Text → Option (VirtualSession × Bool)
  | s, committedWrite, [] => some (s, committedWrite)
  | s, committedWrite, statement :: statements =>
    match Sql.classify statement with
    | none => none
    | some command =>
      let committedWrite := committedWrite ||
        (command == .commit && s.readRoutingTransaction.any (·.primaryForced))
      applyTransactionStatements track
        (s.applyTransactionCommand command
          (track && SqlClassify.classifySql statement == .write))
        committedWrite statements

/-- `apply_transaction_sql_with_routing`. -/
def applyTransactionSqlWithRouting (s : VirtualSession) (sql : Text) (track : Bool) :
    Option (VirtualSession × Bool) :=
  applyTransactionStatements track s false (SqlClassify.splitTopLevelStatements sql)

/-- `mark_transaction_cross_shard_violation`. -/
def markTransactionCrossShardViolation (s : VirtualSession) : VirtualSession :=
  { s with
    transactionShard := s.transactionShard.map fun t => { t with crossShardViolation := true } }

/-- `apply_transaction_shard_affinity`; its policy argument is ignored by the source. -/
def applyTransactionShardAffinity (s : VirtualSession) (shardId : Option ShardId)
    (reason : RoutingReason) : VirtualSession × TransactionShardDecision :=
  if s.transaction ≠ .inTransaction then (s, .accepted)
  else
    match shardId with
    | none => (s, .followMultiShardPolicy)
    | some shardId =>
      match s.transactionShard with
      | none => ({ s with transactionShard := some { currentShardId := shardId,
                                                      currentShardRouteReason := reason } },
                 .accepted)
      | some t =>
        if t.currentShardId = shardId then
          if t.currentShardRouteReason = .unknownQuery ∧ reason ≠ .unknownQuery then
            ({ s with transactionShard := some { t with currentShardRouteReason := reason } },
              .accepted)
          else (s, .accepted)
        else (s.markTransactionCrossShardViolation, .rejected)

/-- `update_transaction_shard_state_from_sql`. -/
def updateTransactionShardState (s : VirtualSession) (sql : Text) : VirtualSession :=
  match s.readRoutingTransaction with
  | none => s
  | some routing =>
    match ShardHint.transactionShardId sql with
    | none => s.markTransactionCrossShardViolation
    | some shardId =>
      match s.applyTransactionShardAffinity (some shardId) routing.routeReason with
      | (s, .rejected) => s.markTransactionCrossShardViolation
      | (s, _) => s

/-- Tracking the shard of a transaction changes nothing else. -/
theorem updateTransactionShardState_eq (s : VirtualSession) (sql : Text) :
    ∃ shard, s.updateTransactionShardState sql = { s with transactionShard := shard } := by
  have haffinity : ∀ shardId reason, ∃ shard,
      (s.applyTransactionShardAffinity shardId reason).1 =
        { s with transactionShard := shard } := by
    intro shardId reason
    unfold applyTransactionShardAffinity
    repeat' split
    all_goals exact ⟨_, rfl⟩
  unfold updateTransactionShardState
  split
  · exact ⟨s.transactionShard, rfl⟩
  · split
    · exact ⟨_, rfl⟩
    · rename_i routing _ _ shardId _
      obtain ⟨shard, hkept⟩ := haffinity (some shardId) routing.routeReason
      split
      all_goals
        rename_i heq
        rw [heq] at hkept
        dsimp only at hkept
        rw [hkept]
        exact ⟨_, rfl⟩

/-! ### Reading the session -/

/-- `pin_reason`. -/
def pinReason (s : VirtualSession) : Option PinReason :=
  if s.unknownProtocolState then some .unknownProtocolState
  else if s.inCopy then some .copy
  else if s.transaction = .failed then some .failedTransaction
  else if s.transaction = .inTransaction then some .openTransaction
  else if s.hasTempTable then some .tempTable
  else if s.hasAdvisoryLock then some .advisoryLock
  else if s.hasListen then some .listenNotify
  else if s.hasUnsafeSessionState then some .sessionState
  else none

/-- `has_replayable_settings`. -/
def hasReplayableSettings (s : VirtualSession) : Bool := !s.settings.isEmpty

/-- `replay_sql`. -/
def replaySql (s : VirtualSession) : List Text :=
  s.settings.toList.map fun (key, value) => ("SET " : Text) ++ key ++ (" = " : Text) ++ value

end VirtualSession

end PgKinetic
