import PgKinetic.Protocol.VirtualSession
import PgKinetic.Wire.Frame

/-!
# What to do with a backend: cleanup and recovery policies

`cleanup_action` decides what happens to a backend once a cycle has ended with ReadyForQuery,
from the tracked session and the reported status. `recovery_action` decides how to bring a
backend back that was left in the middle of something.
-/

namespace PgKinetic

/-- `CleanupAction`. -/
inductive CleanupAction where
  | reuse
  | resetThenReuse
  | keepPinned
  | rollbackThenReuse
  | rollbackThenKeepPinned
  | discard
  deriving DecidableEq, Repr

/-- `PoolMode`. -/
inductive PoolMode where
  | transaction
  | session
  deriving DecidableEq, Repr

/-- `cleanup_action`. -/
def cleanupAction (session : VirtualSession) (backendStatus : ReadyStatus) (mode : PoolMode) :
    CleanupAction :=
  if session.pinReason = some .unknownProtocolState then .discard
  else
    -- the reported status comes first; the tracked session counts only on an idle backend
    match backendStatus, mode with
    | .failedTransaction, .session => .rollbackThenKeepPinned
    | .failedTransaction, .transaction => .rollbackThenReuse
    | .inTransaction, _ => .keepPinned
    | .idle, .session => .keepPinned
    | .idle, .transaction =>
      if session.pinReason.isSome then .keepPinned
      else if session.hasReplayableSettings then .resetThenReuse
      else .reuse

/-- `RecoveryMode`. -/
inductive RecoveryMode where
  | recover
  | rollbackOnly
  | drop
  deriving DecidableEq, Repr

/-- `RecoveryTrigger`. -/
inductive RecoveryTrigger where
  | failedTransaction
  | abandonedTransaction
  | abandonedResponse
  | unknownProtocolState
  deriving DecidableEq, Repr

/-- `RecoveryAction`. -/
inductive RecoveryAction where
  | none
  | rollback
  | drainAndSync
  | rollbackAndDrain
  | discard
  deriving DecidableEq, Repr

/-- `recovery_action`. -/
def recoveryAction (trigger : RecoveryTrigger) (mode : RecoveryMode) : RecoveryAction :=
  match mode, trigger with
  | .drop, _ => .discard
  | .rollbackOnly, .failedTransaction | .rollbackOnly, .abandonedTransaction => .rollback
  | .rollbackOnly, .abandonedResponse | .rollbackOnly, .unknownProtocolState => .discard
  | .recover, .failedTransaction | .recover, .abandonedTransaction => .rollback
  | .recover, .abandonedResponse => .drainAndSync
  | .recover, .unknownProtocolState => .discard

end PgKinetic
