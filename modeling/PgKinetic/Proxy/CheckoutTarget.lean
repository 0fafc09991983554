import PgKinetic.Proxy.Forwarding
import PgKinetic.Traffic.ReadRouting

/-!
# Where a cycle is checked out

`select_checkout_target` routes a cycle by its first request plan and by the transaction its
session is in. What it looks at beyond these, the cached health of the replicas and the replica
that the selector would pick for a read-only transaction, comes from outside and may differ from
one look to the next: a `Poll`.

With a policy that protects the session's writes, a replica that is returned has replayed what
the session requires, as far as the poll knows (`selectCheckoutTarget_fresh`).
-/

namespace PgKinetic

open ReadRouting List

/-- `routing_reason_from_core`. -/
def routingReasonFromCore : RoutingReason → ReadRouting.RoutingReason
  | .off => .off
  | .primaryOnlyMode => .primaryOnlyMode
  | .preferReplicaMode => .readCandidateQuery
  | .requireReplicaMode => .requireReplicaMode
  | .writeQuery => .writeQuery
  | .readOnlyQuery => .readOnlyQuery
  | .readCandidateQuery => .readCandidateQuery
  | .transactionControl => .transactionControl
  | .sessionMutation => .sessionMutation
  | .copy => .copyQuery
  | .unknownQuery => .unknownQuery
  | .freshnessRequired => .freshnessRequired
  | .replicaStale => .replicaStale
  | .replicaUnavailable => .replicaUnavailable
  | .fallbackPrimary => .fallbackPrimary
  | .fallbackReject => .fallbackReject
  | .fallbackWait => .fallbackWait

namespace VirtualSession

/-- `transaction_cross_shard_violation`. -/
def transactionCrossShardViolation (s : VirtualSession) : Bool :=
  s.transactionShard.any (·.crossShardViolation)

/-- `current_transaction_target_role`. -/
def currentTransactionTargetRole (s : VirtualSession) : Option BackendRole :=
  s.readRoutingTransaction.map (·.targetRole)

/-- `current_transaction_route_reason`. -/
def currentTransactionRouteReason (s : VirtualSession) : Option RoutingReason :=
  s.readRoutingTransaction.map (·.routeReason)

end VirtualSession

/-- What one look at the replicas shows: the snapshot that `build_route_health_snapshot` makes of
cached health, and the replica `ReplicaSelector::select` returns, with its health. -/
structure Poll where
  health : List ReplicaCandidate := []
  selected : Option (Nat × Bool) := none
  deriving DecidableEq

/-- `ReadRoutingSelection`; the mode and the fallback policy are those of the planner. -/
structure ReadRoutingSelection where
  planner : Planner
  session : VirtualSession
  requestPlan : Option RequestPlan

namespace ReadRoutingSelection

variable (selection : ReadRoutingSelection)

/-- The text that is routed. -/
def sql : Text := (selection.requestPlan.map (·.sql)).getD []

/-- The context of a selection: never that of a transaction. -/
def context (poll : Poll) : Context where
  queryClass := SqlClassify.classifySql selection.sql
  routingHint := RoutingHint.extract selection.sql
  transactionState := .idle
  readAfterWriteState := selection.session.readAfterWrite
  health := poll.health

/-- `fallback_target` of the checkout. -/
def fallbackTarget (policy : FallbackPolicy) : RoutingTarget :=
  if selection.planner.readRoutingMode = .requireReplica then .reject .requireReplicaMode
  else ReadRouting.fallbackTarget policy

/-- The target of a cycle in a transaction. -/
def transactionTarget (poll : Poll) (role : BackendRole) : RoutingTarget :=
  let reason := (selection.session.currentTransactionRouteReason.map routingReasonFromCore).getD
    .transactionControl
  match role with
  | .primary => .primary reason
  | .replica =>
    match poll.selected with
    -- nothing is known about what this replica has replayed
    | some (replicaId, healthy) =>
      .replica { replicaId, healthy, replayLsn := none, lagMs := none } reason
    | none => selection.fallbackTarget selection.planner.fallbackPolicy
  | .unknown => .primary .unknownQuery

/-- `select_checkout_target`. -/
def selectCheckoutTarget (poll : Poll) : RoutingTarget :=
  let context := selection.context poll
  let policy := fun target => applyPolicyToRoutingTarget selection.planner context (some target)
  if applyPolicyToRoutingTarget selection.planner context none = .reject .policyDenied then
    .reject .policyDenied
  else
    match selection.planner.readRoutingMode with
    | .off => policy (.primary .off)
    | .primaryOnly => policy (.primary .primaryOnlyMode)
    | .preferReplica | .requireReplica =>
      if selection.session.transactionCrossShardViolation then policy (.reject .fallbackReject)
      else
        match selection.session.currentTransactionTargetRole with
        | some role => policy (policy (selection.transactionTarget poll role))
        | none => policy (policy (chooseRoutingTarget selection.planner context))

/-- `wait_for_checkout_target`: one poll every so often; where the list ends, the timeout does. -/
def waitForCheckoutTarget : List Poll → RoutingTarget
  | [] => selection.fallbackTarget .primary
  | poll :: polls =>
    let target := selection.selectCheckoutTarget poll
    if target = .wait .fallbackWait then waitForCheckoutTarget polls else target

/-- The target `handle_frame_cycle` checks out: a session that holds a backend does not wait. -/
def checkoutTarget (held : Bool) (poll : Poll) (polls : List Poll) : RoutingTarget :=
  if selection.planner.readRoutingMode = .off then .primary .off
  else
    let target := selection.selectCheckoutTarget poll
    if held then target
    else if target = .wait .fallbackWait then selection.waitForCheckoutTarget polls
    else target

/-! ### Fresh targets -/

/-- The statement does not waive the session's own writes. -/
def ProtectsWrites : Prop :=
  selection.planner.freshnessPolicy.requiresSessionWriteLsn = true ∧
    (RoutingHint.extract selection.sql = .staleOk →
      selection.planner.freshnessPolicy ≠ .sessionWriteLsnAndMaxLag)

variable {selection} {candidate : ReplicaCandidate} {reason : ReadRouting.RoutingReason}

/-- The candidate has replayed what the session requires, as far as one of the polls knows. -/
def Fresh (selection : ReadRoutingSelection) (polls : List Poll) (candidate : ReplicaCandidate) :
    Prop :=
  candidate.satisfiesSessionWrite selection.session.readAfterWrite = true ∧
    ((∃ poll ∈ polls, candidate ∈ poll.health) ∨ candidate.replayLsn = none)

variable {poll : Poll}

theorem Fresh.of_choose (hprotects : selection.ProtectsWrites)
    (h : chooseRoutingTarget selection.planner (selection.context poll) =
      .replica candidate reason) : selection.Fresh [poll] candidate := by
  obtain ⟨hmem, hfresh⟩ := chooseRoutingTarget_replica h
  have hpolicy := requiresSessionWriteLsn_effective hprotects.1 hprotects.2
  exact ⟨satisfiesSessionWrite_of_satisfiesFreshness hpolicy hfresh,
    .inl ⟨poll, mem_singleton_self poll, hmem⟩⟩

/-- A target that is a replica only if that replica is fresh. -/
def FreshTarget (selection : ReadRoutingSelection) (polls : List Poll) (target : RoutingTarget) :
    Prop :=
  ∀ candidate reason, target = .replica candidate reason → selection.Fresh polls candidate

/-- The policy keeps a replica that is fresh, and takes no other from the planner. -/
theorem FreshTarget.policy (hprotects : selection.ProtectsWrites) {target : RoutingTarget}
    (horigin : ∀ candidate reason, target = .replica candidate reason →
      candidate ∈ poll.health ∨ candidate.replayLsn = none) :
    selection.FreshTarget [poll]
      (applyPolicyToRoutingTarget selection.planner (selection.context poll) (some target)) := by
  intro candidate reason h
  rcases applyPolicyToRoutingTarget_replica h with ⟨rfl, hfresh⟩ | hchoose
  · refine ⟨satisfiesSessionWrite_of_satisfiesFreshness hprotects.1 hfresh, ?_⟩
    rcases horigin candidate reason rfl with hmem | hnone
    · exact .inl ⟨poll, mem_singleton_self poll, hmem⟩
    · exact .inr hnone
  · exact .of_choose hprotects hchoose

theorem Fresh.origin (h : selection.Fresh [poll] candidate) :
    candidate ∈ poll.health ∨ candidate.replayLsn = none := by
  rcases h.2 with ⟨other, hother, hmem⟩ | hnone
  · obtain rfl := mem_singleton.1 hother
    exact .inl hmem
  · exact .inr hnone

theorem fallbackTarget_ne (policy : FallbackPolicy) :
    selection.fallbackTarget policy ≠ .replica candidate reason := by
  rw [fallbackTarget]
  split
  · nofun
  · exact ReadRouting.fallbackTarget_ne policy

/-- The replica of a read-only transaction comes without a position. -/
theorem replayLsn_of_transactionTarget {role : BackendRole}
    (h : selection.transactionTarget poll role = .replica candidate reason) :
    candidate.replayLsn = none := by
  cases role with
  | primary => cases h
  | unknown => cases h
  | replica =>
    rw [transactionTarget] at h
    split at h
    · obtain ⟨rfl, -⟩ := RoutingTarget.replica.inj h
      rfl
    · exact absurd h (fallbackTarget_ne _)

/-- **A selected replica is fresh.** -/
theorem selectCheckoutTarget_fresh (hprotects : selection.ProtectsWrites) (poll : Poll) :
    selection.FreshTarget [poll] (selection.selectCheckoutTarget poll) := by
  have hnone : ∀ target : RoutingTarget, (∀ c r, target ≠ .replica c r) →
      selection.FreshTarget [poll]
        (applyPolicyToRoutingTarget selection.planner (selection.context poll) (some target)) :=
    fun target htarget => .policy hprotects fun c r h => absurd h (htarget c r)
  have htwice : ∀ target : RoutingTarget, (∀ c r, target = .replica c r →
      c ∈ poll.health ∨ c.replayLsn = none) →
      selection.FreshTarget [poll]
        (applyPolicyToRoutingTarget selection.planner (selection.context poll)
          (some (applyPolicyToRoutingTarget selection.planner (selection.context poll)
            (some target)))) := by
    intro target horigin
    refine .policy hprotects fun c r h => ?_
    exact (FreshTarget.policy hprotects horigin c r h).origin
  unfold selectCheckoutTarget
  dsimp only
  split
  · nofun
  · split
    · exact hnone _ nofun
    · exact hnone _ nofun
    all_goals
      split
      · exact hnone _ nofun
      · split
        · exact htwice _ fun c r h => .inr (replayLsn_of_transactionTarget h)
        · exact htwice _ fun c r h => .inl (chooseRoutingTarget_replica h).1

/-- **Every target of a cycle is fresh**, however long the cycle has waited for it. -/
theorem checkoutTarget_fresh (hprotects : selection.ProtectsWrites) (held : Bool) (poll : Poll)
    (polls : List Poll) :
    selection.FreshTarget (poll :: polls) (selection.checkoutTarget held poll polls) := by
  have hmono : ∀ {target : RoutingTarget} {ps qs : List Poll}, (∀ p ∈ ps, p ∈ qs) →
      selection.FreshTarget ps target → selection.FreshTarget qs target := by
    intro target ps qs hsubset h c r htarget
    obtain ⟨hwrite, ⟨p, hp, hmem⟩ | hnone⟩ := h c r htarget
    · exact ⟨hwrite, .inl ⟨p, hsubset p hp, hmem⟩⟩
    · exact ⟨hwrite, .inr hnone⟩
  have hwait : selection.FreshTarget polls (selection.waitForCheckoutTarget polls) := by
    induction polls with
    | nil => exact fun c r h => absurd h (fallbackTarget_ne _)
    | cons next polls ih =>
      rw [waitForCheckoutTarget]
      split
      · exact hmono (fun p hp => mem_cons_of_mem _ hp) ih
      · refine hmono ?_ (selectCheckoutTarget_fresh hprotects next)
        exact fun p hp => mem_cons.2 (.inl (mem_singleton.1 hp))
  have hselect : selection.FreshTarget (poll :: polls) (selection.selectCheckoutTarget poll) :=
    hmono (fun p hp => mem_cons.2 (.inl (mem_singleton.1 hp)))
      (selectCheckoutTarget_fresh hprotects poll)
  unfold checkoutTarget
  dsimp only
  split
  · nofun
  · split
    · exact hselect
    · split
      · exact hmono (fun p hp => mem_cons_of_mem _ hp) hwait
      · exact hselect

end ReadRoutingSelection

end PgKinetic
