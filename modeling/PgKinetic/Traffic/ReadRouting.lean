import PgKinetic.Protocol.VirtualSession

/-!
# Read routing

`choose_routing_target` decides where a statement goes: to the primary, to a replica, nowhere
yet (**wait**) or nowhere at all (**reject**). Only reads outside a transaction may go to a
replica, and only to one that is healthy and **fresh**: what freshness asks is the policy of the
route as the hint in the statement's leading comments bends it.

The facts about it are one lemma for each function that can return a replica: the candidate it
returns is one it has been shown, and fresh under the policy it was checked with.
-/

namespace PgKinetic

/-- `ReadRoutingMode`. -/
inductive ReadRoutingMode where
  | off
  | preferReplica
  | requireReplica
  | primaryOnly
  deriving DecidableEq, Repr

/-- `FallbackPolicy`. -/
inductive FallbackPolicy where
  | primary
  | reject
  | wait
  deriving DecidableEq, Repr

/-- `FreshnessPolicy`. -/
inductive FreshnessPolicy where
  | none
  | sessionWriteLsn
  | maxReplicaLag
  | sessionWriteLsnAndMaxLag
  deriving DecidableEq, Repr

/-- `requires_session_write_lsn`. -/
def FreshnessPolicy.requiresSessionWriteLsn : FreshnessPolicy → Bool
  | .sessionWriteLsn | .sessionWriteLsnAndMaxLag => true
  | _ => false

/-- `requires_replica_lag`. -/
def FreshnessPolicy.requiresReplicaLag : FreshnessPolicy → Bool
  | .maxReplicaLag | .sessionWriteLsnAndMaxLag => true
  | _ => false

/-! ### Hints -/

/-- `RoutingHint`. -/
inductive RoutingHint where
  | primary
  | replica
  | staleOk
  | strictFresh
  | none
  deriving DecidableEq, Repr

namespace RoutingHint

/-- The hint a comment gives. -/
def ofComment (comment : Text) : RoutingHint :=
  if comment = "pg-kinetic: primary" then .primary
  else if comment = "pg-kinetic: replica" then .replica
  else if comment = "pg-kinetic: stale-ok" then .staleOk
  else if comment = "pg-kinetic: strict-fresh" then .strictFresh
  else .none

/-- `extract_routing_hint`: the first hint among the leading block comments. Every comment
shortens the text, so its length bounds the loop. -/
def extract (sql : Text) : RoutingHint := go (sql.length + 1) sql.trimStart
where
  go : Nat → Text → RoutingHint
    | 0, _ => .none
    | n + 1, rest =>
      match rest.stripLeading "/*" with
      | some afterComment =>
        match Text.splitAtFirst "*/" afterComment with
        | .none => .none
        | some (comment, rest) =>
          if ofComment comment.trim ≠ .none then ofComment comment.trim
          else go n rest.trimStart
      | .none =>
        match rest.stripLeading "--" with
        | some afterComment =>
          match Text.splitAtFirst "\n" afterComment with
          | some (_, rest) => go n rest.trimStart
          | .none => .none
        | .none => .none

end RoutingHint

namespace ReadRouting

/-- `RoutingReason` of the proxy; the reasons a session records are those of
`PgKinetic.RoutingReason`. -/
inductive RoutingReason where
  | off
  | primaryOnlyMode
  | requireReplicaMode
  | inTransaction
  | failedTransaction
  | writeQuery
  | unknownQuery
  | transactionControl
  | sessionMutation
  | copyQuery
  | readCandidateQuery
  | readOnlyQuery
  | primaryHint
  | replicaHint
  | staleOkHint
  | strictFreshHint
  | freshnessRequired
  | replicaStale
  | replicaUnavailable
  | fallbackPrimary
  | fallbackReject
  | fallbackWait
  | policyDenied
  deriving DecidableEq, Repr

/-- `ReadRoutingPlanner`. -/
structure Planner where
  readRoutingMode : ReadRoutingMode
  fallbackPolicy : FallbackPolicy
  freshnessPolicy : FreshnessPolicy
  maxReplicaLagMs : Nat
  deriving DecidableEq

/-- `ReplicaCandidate`. -/
structure ReplicaCandidate where
  replicaId : Nat
  healthy : Bool
  splitBrain : Bool := false
  replayLsn : Option PgLsn
  lagMs : Option Nat
  deriving DecidableEq

/-- `RoutingContext`, with the replicas of its `RouteHealthSnapshot`. -/
structure Context where
  queryClass : QueryClass
  routingHint : RoutingHint
  transactionState : TransactionState
  readAfterWriteState : ReadAfterWriteState
  health : List ReplicaCandidate

/-- `RoutingTarget`. -/
inductive RoutingTarget where
  | primary (reason : RoutingReason)
  | replica (candidate : ReplicaCandidate) (reason : RoutingReason)
  | wait (reason : RoutingReason)
  | reject (reason : RoutingReason)
  deriving DecidableEq

/-! ### Freshness -/

/-- The candidate has replayed what the session requires. -/
def ReplicaCandidate.satisfiesSessionWrite (candidate : ReplicaCandidate) :
    ReadAfterWriteState → Bool
  | .disabled => true
  | .unknown => false
  | .required lsn => candidate.replayLsn.any (lsn ≤ ·)

/-- `replica_satisfies_freshness`. -/
def replicaSatisfiesFreshness (candidate : ReplicaCandidate) (freshnessPolicy : FreshnessPolicy)
    (readAfterWriteState : ReadAfterWriteState) (maxReplicaLagMs : Nat) : Bool :=
  (!freshnessPolicy.requiresSessionWriteLsn ||
      candidate.satisfiesSessionWrite readAfterWriteState) &&
    (!freshnessPolicy.requiresReplicaLag || candidate.lagMs.any (· ≤ maxReplicaLagMs))

/-- `effective_freshness_policy`. -/
def effectiveFreshnessPolicy (configured : FreshnessPolicy) : RoutingHint → FreshnessPolicy
  | .strictFresh => .sessionWriteLsnAndMaxLag
  -- a statement may waive what its own session has written
  | .staleOk => if configured = .sessionWriteLsnAndMaxLag then .maxReplicaLag else configured
  | .primary | .replica | .none => configured

/-- The key of `select_safe_replica`: the lag, unknown lags last, then the id. -/
def ReplicaCandidate.key (candidate : ReplicaCandidate) : Nat × Nat :=
  (candidate.lagMs.getD (2 ^ 64 - 1), candidate.replicaId)

/-- `min_by_key`, which returns the first of several minima. -/
def minByKey : List ReplicaCandidate → Option ReplicaCandidate
  | [] => none
  | candidate :: rest =>
    match minByKey rest with
    | none => some candidate
    | some best =>
      if best.key.1 < candidate.key.1 ∨
          best.key.1 = candidate.key.1 ∧ best.key.2 < candidate.key.2 then some best
      else some candidate

/-- `select_safe_replica`. -/
def selectSafeReplica (health : List ReplicaCandidate) (readAfterWriteState : ReadAfterWriteState)
    (maxReplicaLagMs : Nat) (freshnessPolicy : FreshnessPolicy) : Option ReplicaCandidate :=
  minByKey (health.filter fun candidate =>
    (candidate.healthy && !candidate.splitBrain) &&
      replicaSatisfiesFreshness candidate freshnessPolicy readAfterWriteState maxReplicaLagMs)

/-! ### The target -/

/-- `primary_for_query_class`. -/
def primaryForQueryClass (queryClass : QueryClass) : RoutingTarget :=
  .primary <| match queryClass with
    | .write => .writeQuery
    | .readOnly => .readOnlyQuery
    | .readCandidate => .readCandidateQuery
    | .transactionControl => .transactionControl
    | .sessionMutation => .sessionMutation
    | .copy => .copyQuery
    | .unknown => .unknownQuery

/-- `success_reason`. -/
def successReason : RoutingHint → RoutingReason
  | .primary => .primaryHint
  | .replica => .replicaHint
  | .staleOk => .staleOkHint
  | .strictFresh => .strictFreshHint
  | .none => .readCandidateQuery

/-- `fallback_target` of the planner. -/
def fallbackTarget : FallbackPolicy → RoutingTarget
  | .primary => .primary .fallbackPrimary
  | .reject => .reject .fallbackReject
  | .wait => .wait .fallbackWait

/-- What becomes of a read for which there is no safe replica. -/
def targetWithoutReplica (planner : Planner) (context : Context) : RoutingTarget :=
  if planner.readRoutingMode = .requireReplica then .reject .requireReplicaMode
  else if !context.health.any (·.healthy) then fallbackTarget planner.fallbackPolicy
  else if (effectiveFreshnessPolicy planner.freshnessPolicy
        context.routingHint).requiresSessionWriteLsn ∧
      context.readAfterWriteState ≠ .disabled then
    match planner.fallbackPolicy with
    | .primary => .primary .fallbackPrimary
    | .reject =>
      .reject (if context.readAfterWriteState = .unknown then .freshnessRequired
        else .replicaStale)
    | .wait => .wait .fallbackWait
  else fallbackTarget planner.fallbackPolicy

/-- `choose_routing_target`. -/
def chooseRoutingTarget (planner : Planner) (context : Context) : RoutingTarget :=
  match planner.readRoutingMode with
  | .off => .primary .off
  | .primaryOnly => .primary .primaryOnlyMode
  | .requireReplica | .preferReplica =>
    match context.transactionState with
    | .inTransaction => .primary .inTransaction
    | .failed => .primary .failedTransaction
    | .idle =>
      if !context.queryClass.routesToReplica then primaryForQueryClass context.queryClass
      else if context.routingHint = .primary then .primary .primaryHint
      else if context.routingHint = .strictFresh ∧ context.readAfterWriteState = .disabled then
        fallbackTarget planner.fallbackPolicy
      else
        match selectSafeReplica context.health context.readAfterWriteState planner.maxReplicaLagMs
            (effectiveFreshnessPolicy planner.freshnessPolicy context.routingHint) with
        | some candidate => .replica candidate (successReason context.routingHint)
        | none => targetWithoutReplica planner context

/-- `ensure_policy_action_target_is_safe`. -/
def ensurePolicyActionTargetIsSafe (planner : Planner) (context : Context) :
    RoutingTarget → RoutingTarget
  | .replica candidate reason =>
    if candidate.healthy ∧ !candidate.splitBrain ∧
        replicaSatisfiesFreshness candidate planner.freshnessPolicy context.readAfterWriteState
          planner.maxReplicaLagMs then .replica candidate reason
    else chooseRoutingTarget planner context
  | other => other

/-- `apply_policy_action_to_routing_target` without an action, the only one
`select_checkout_target` passes. -/
def applyPolicyToRoutingTarget (planner : Planner) (context : Context)
    (currentTarget : Option RoutingTarget) : RoutingTarget :=
  ensurePolicyActionTargetIsSafe planner context
    (currentTarget.getD (chooseRoutingTarget planner context))

/-! ### Replicas that are returned -/

theorem mem_of_minByKey {candidates : List ReplicaCandidate} {best : ReplicaCandidate}
    (h : minByKey candidates = some best) : best ∈ candidates := by
  induction candidates generalizing best with
  | nil => cases h
  | cons candidate rest ih =>
    rw [minByKey] at h
    split at h
    · obtain rfl := Option.some.inj h
      exact List.mem_cons_self
    · rename_i other hother
      split at h
      · obtain rfl := Option.some.inj h
        exact List.mem_cons_of_mem _ (ih hother)
      · obtain rfl := Option.some.inj h
        exact List.mem_cons_self

variable {planner : Planner} {context : Context} {candidate : ReplicaCandidate}
  {reason : RoutingReason}

theorem fallbackTarget_ne (policy : FallbackPolicy) :
    fallbackTarget policy ≠ .replica candidate reason := by
  cases policy <;> nofun

theorem targetWithoutReplica_ne :
    targetWithoutReplica planner context ≠ .replica candidate reason := by
  rw [targetWithoutReplica]
  split
  · nofun
  · split
    · exact fallbackTarget_ne _
    · split
      · cases planner.fallbackPolicy <;> nofun
      · exact fallbackTarget_ne _

/-- **A replica the planner chooses** is one of the snapshot and fresh under the policy that the
hint leaves. -/
theorem chooseRoutingTarget_replica
    (h : chooseRoutingTarget planner context = .replica candidate reason) :
    candidate ∈ context.health ∧
      replicaSatisfiesFreshness candidate
        (effectiveFreshnessPolicy planner.freshnessPolicy context.routingHint)
        context.readAfterWriteState planner.maxReplicaLagMs = true := by
  have hchoice : selectSafeReplica context.health context.readAfterWriteState
      planner.maxReplicaLagMs
      (effectiveFreshnessPolicy planner.freshnessPolicy context.routingHint) = some candidate := by
    unfold chooseRoutingTarget at h
    split at h
    · cases h
    · cases h
    all_goals
      split at h
      · cases h
      · cases h
      · split at h
        · cases h
        · split at h
          · cases h
          · split at h
            · exact absurd h (fallbackTarget_ne _)
            · split at h
              · rename_i chosen hchosen
                obtain ⟨rfl, -⟩ := RoutingTarget.replica.inj h
                exact hchosen
              · exact absurd h targetWithoutReplica_ne
  obtain ⟨hmem, hsafe⟩ := List.mem_filter.1 (mem_of_minByKey hchoice)
  exact ⟨hmem, (Bool.and_eq_true_iff.1 hsafe).2⟩

/-- A policy without an action lets a replica through that is fresh under the policy of the
route, or has the planner choose again. -/
theorem applyPolicyToRoutingTarget_replica {target : RoutingTarget}
    (h : applyPolicyToRoutingTarget planner context (some target) = .replica candidate reason) :
    (target = .replica candidate reason ∧
      replicaSatisfiesFreshness candidate planner.freshnessPolicy context.readAfterWriteState
        planner.maxReplicaLagMs = true) ∨
    chooseRoutingTarget planner context = .replica candidate reason := by
  rw [applyPolicyToRoutingTarget, Option.getD_some] at h
  cases target with
  | replica other otherReason =>
    rw [ensurePolicyActionTargetIsSafe] at h
    split at h
    · rename_i hsafe
      obtain ⟨rfl, rfl⟩ := RoutingTarget.replica.inj h
      exact .inl ⟨rfl, hsafe.2.2⟩
    · exact .inr h
  | _ => cases h

/-- The hint leaves the session's own writes protected. -/
theorem requiresSessionWriteLsn_effective {configured : FreshnessPolicy} {hint : RoutingHint}
    (h : configured.requiresSessionWriteLsn = true)
    (hhint : hint = .staleOk → configured ≠ .sessionWriteLsnAndMaxLag) :
    (effectiveFreshnessPolicy configured hint).requiresSessionWriteLsn = true := by
  cases hint with
  | strictFresh => rfl
  | staleOk => rwa [effectiveFreshnessPolicy, if_neg (hhint rfl)]
  | _ => exact h

theorem satisfiesSessionWrite_of_satisfiesFreshness {policy : FreshnessPolicy}
    {state : ReadAfterWriteState} {maxLag : Nat} (hpolicy : policy.requiresSessionWriteLsn = true)
    (h : replicaSatisfiesFreshness candidate policy state maxLag = true) :
    candidate.satisfiesSessionWrite state = true := by
  rw [replicaSatisfiesFreshness, hpolicy] at h
  exact (Bool.and_eq_true_iff.1 h).1

end ReadRouting

end PgKinetic
