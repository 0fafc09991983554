import PgKinetic.Cluster.Cleanup
import PgKinetic.Proxy.Forwarding

/-!
# Batches of the proxy's own and recovery

The proxy talks to a backend on its own account when it replays settings, resets, rolls back or
drains. Each such **batch** waits for a ReadyForQuery; a `BatchReply` is how it ends. In
`recover_backend` the batches share one timeout, so their replies form a list, and the timeout
strikes where the list ends.
-/

namespace PgKinetic

/-- How `execute_backend_batch` and `await_ready_status` end: with the last status of the first
read that holds one, over the buffer budget, or with another error. -/
inductive BatchReply where
  | ready (status : ReadyStatus)
  | bufferLimit
  | failed
  deriving DecidableEq, Repr

/-- The two kinds of errors `recover_backend` distinguishes. -/
inductive BatchError where
  | bufferLimit
  | other
  deriving DecidableEq, Repr

/-- `execute_backend_batch`: the backend with the status it reports. -/
def executeBackendBatch (backend : Backend) : BatchReply → Except BatchError Backend
  | .ready status => .ok { backend with status }
  | .bufferLimit => .error .bufferLimit
  | .failed => .error .other

/-- A batch that must leave the backend `Idle`: `execute_simple_query`, the replay of a session
and the drain of a recovery. -/
def executeToIdle (backend : Backend) (reply : BatchReply) : Except BatchError Backend :=
  match executeBackendBatch backend reply with
  | .ok backend => if backend.status = .idle then .ok backend else .error .other
  | .error e => .error e

theorem executeToIdle_ok {backend backend' : Backend} {reply : BatchReply}
    (h : executeToIdle backend reply = .ok backend') :
    backend' = { backend with status := .idle } := by
  cases reply with
  | ready status =>
    simp only [executeToIdle, executeBackendBatch] at h
    split at h
    · cases h
      simp_all
    · cases h
  | bufferLimit => cases h
  | failed => cases h

/-- What a recovery that did not fail leaves; `reuse` is its answer. -/
structure Recovered where
  reuse : Bool
  backend : Backend
  session : VirtualSession

/-- The recovery batches, each of which must leave the backend `Idle`, under the recovery
timeout: running over the buffer budget or out of time gives up on the backend. -/
def recoverWith (session onSuccess : VirtualSession) :
    Nat → Backend → List BatchReply → Except BatchError Recovered
  | 0, backend, _ => .ok ⟨true, backend, onSuccess⟩
  | _ + 1, backend, [] => .ok ⟨false, backend, session⟩
  | n + 1, backend, reply :: replies =>
    match executeToIdle backend reply with
    | .ok backend => recoverWith session onSuccess n backend replies
    | .error .bufferLimit => .ok ⟨false, backend, session⟩
    | .error .other => .error .other

/-- `recover_backend`: a rollback is one batch, a drain another. -/
def recoverBackend (trigger : RecoveryTrigger) (mode : RecoveryMode) (session : VirtualSession)
    (backend : Backend) (replies : List BatchReply) : Except BatchError Recovered :=
  match recoveryAction trigger mode with
  | .none => .ok ⟨true, backend, session⟩
  | .rollback => recoverWith session (session.applySql .rollback) 1 backend replies
  | .drainAndSync => recoverWith session session 1 backend replies
  | .rollbackAndDrain => recoverWith session (session.applySql .rollback) 2 backend replies
  | .discard => .ok ⟨false, backend, session⟩

/-- The proxy's own messages in a recovery: `Sync` where the drain needs one, then
`ROLLBACK`. -/
def recoveryMessages (trigger : RecoveryTrigger) (mode : RecoveryMode) (needsSync : Bool) :
    List FrontendMessage :=
  let drain := if needsSync then [FrontendMessage.sync] else []
  match recoveryAction trigger mode with
  | .rollback => [.query "ROLLBACK"]
  | .drainAndSync => drain
  | .rollbackAndDrain => drain ++ [.query "ROLLBACK"]
  | .none | .discard => []

end PgKinetic
