import PgKinetic.Proxy.CheckoutTarget
import PgKinetic.Traffic.RoutingChoice
import Mathlib.Data.List.MinMax

/-!
# What the routing of a cycle is safe from

`select_checkout_target` looks at one request plan, at the transaction of the session, and at the
replicas. Outside a transaction its target is that of `choose_routing_target`
(`selectCheckoutTarget_eq`): the policies around it change nothing. Three things are left out.

* **The rest of the cycle.** Only the first request plan is looked at, so statements behind a read
  go where the read goes; and a cycle that opens a read-only transaction goes where that goes.
* **Split brain in a transaction.** The replica of a read-only transaction is made up on the spot,
  with nothing known about it, a warning included.
* **A required replica.** A strict-fresh read of a session that has written nothing falls back
  before the mode of the route is looked at.
-/

namespace PgKinetic

open Option

namespace ReadRouting

variable {planner : Planner} {context : Context}

/-- A strict-fresh read for which there is nothing to compare replicas with. -/
def Unprotected (context : Context) : Prop :=
  context.routingHint = .strictFresh ∧ context.readAfterWriteState = .disabled

/-- What keeps a statement on the primary whatever the replicas. -/
def StaysOnPrimary (planner : Planner) (context : Context) : Prop :=
  ¬RoutesReads planner.readRoutingMode ∨ context.queryClass.routesToReplica = false ∨
    context.routingHint = .primary

section

variable (hidle : context.transactionState = .idle)
include hidle

theorem chooseRoutingTarget_of_stays
    (h : StaysOnPrimary planner context) :
    ∃ reason, chooseRoutingTarget planner context = .primary reason := by
  unfold chooseRoutingTarget
  rw [hidle]
  split
  · exact ⟨_, rfl⟩
  · exact ⟨_, rfl⟩
  all_goals
    next hmode =>
    dsimp only
    split
    · exact ⟨_, rfl⟩
    · next hreads =>
      rcases h with hoff | hclass | hhint
      · exact absurd (by rw [hmode]; first | exact .inl rfl | exact .inr rfl) hoff
      · rw [hclass] at hreads
        exact absurd rfl hreads
      · rw [if_pos hhint]
        exact ⟨_, rfl⟩

theorem eligible_of_not_stays
    (h : ¬StaysOnPrimary planner context) (hprotected : ¬Unprotected context) :
    Eligible planner context := by
  simp only [StaysOnPrimary, not_or, not_not, Bool.not_eq_false] at h
  exact ⟨h.1, hidle, h.2.1, h.2.2, hprotected⟩

theorem chooseRoutingTarget_of_unprotected
    (h : ¬StaysOnPrimary planner context) (hunprotected : Unprotected context) :
    chooseRoutingTarget planner context = fallbackTarget planner.fallbackPolicy := by
  simp only [StaysOnPrimary, not_or, not_not, Bool.not_eq_false] at h
  obtain ⟨hmode, hreads, hhint⟩ := h
  unfold chooseRoutingTarget
  rw [hidle, hreads]
  rcases hmode with hmode | hmode
  all_goals
    simp only [hmode, Bool.not_true, Bool.false_eq_true, if_false, if_neg hhint]
    exact if_pos hunprotected

end

/-- **The choice outside a transaction**, case by case. -/
theorem chooseRoutingTarget_cases (planner : Planner) (hidle : context.transactionState = .idle) :
    (StaysOnPrimary planner context ∧
      ∃ reason, chooseRoutingTarget planner context = .primary reason) ∨
    ¬StaysOnPrimary planner context ∧
      (Unprotected context ∧
        chooseRoutingTarget planner context = fallbackTarget planner.fallbackPolicy ∨
      ¬Unprotected context ∧
        ((∃ candidate reason, Safe planner context candidate ∧
            chooseRoutingTarget planner context = .replica candidate reason) ∨
          (¬∃ candidate, Safe planner context candidate) ∧
            chooseRoutingTarget planner context = targetWithoutReplica planner context)) := by
  by_cases hstays : StaysOnPrimary planner context
  · exact .inl ⟨hstays, chooseRoutingTarget_of_stays hidle hstays⟩
  refine .inr ⟨hstays, ?_⟩
  by_cases hunprotected : Unprotected context
  · exact .inl ⟨hunprotected, chooseRoutingTarget_of_unprotected hidle hstays hunprotected⟩
  refine .inr ⟨hunprotected, ?_⟩
  have heligible := eligible_of_not_stays hidle hstays hunprotected
  rw [chooseRoutingTarget_of_eligible heligible]
  split
  · next chosen hselect =>
    exact .inl ⟨chosen, _, mem_filter_iff_safe.1 (mem_of_minByKey hselect), rfl⟩
  · next hnone =>
    refine .inr ⟨?_, rfl⟩
    rintro ⟨candidate, hsafe⟩
    have hmem := mem_filter_iff_safe.2 hsafe
    rw [minByKey_eq_none_iff.1 hnone] at hmem
    cases hmem

theorem targetWithoutReplica_primary_iff :
    (∃ reason, targetWithoutReplica planner context = .primary reason) ↔
      planner.readRoutingMode ≠ .requireReplica ∧ planner.fallbackPolicy = .primary := by
  unfold targetWithoutReplica fallbackTarget
  split
  · next hmode => exact ⟨nofun, fun h => absurd hmode h.1⟩
  · next hmode =>
    cases hpolicy : planner.fallbackPolicy with
    | primary => simp [hmode]
    | reject | wait => split_ifs <;> simp

variable {policy : FallbackPolicy}

theorem fallbackTarget_primary_iff :
    (∃ reason, fallbackTarget policy = .primary reason) ↔ policy = .primary := by
  cases policy with
  | primary => exact ⟨fun _ => rfl, fun _ => ⟨_, rfl⟩⟩
  | reject | wait => exact ⟨nofun, nofun⟩

/-- **When a statement outside a transaction goes to the primary.** -/
theorem chooseRoutingTarget_primary_iff (hidle : context.transactionState = .idle) :
    (∃ reason, chooseRoutingTarget planner context = .primary reason) ↔
      StaysOnPrimary planner context ∨ planner.fallbackPolicy = .primary ∧
        (Unprotected context ∨ planner.readRoutingMode ≠ .requireReplica ∧
          ¬∃ candidate, Safe planner context candidate) := by
  rcases chooseRoutingTarget_cases planner hidle with ⟨hstays, hprimary⟩ |
    ⟨hstays, ⟨hunprotected, htarget⟩ | ⟨hprotected, ⟨c, r, hsafe, htarget⟩ | ⟨hnone, htarget⟩⟩⟩
  · exact ⟨fun _ => .inl hstays, fun _ => hprimary⟩
  · rw [htarget, fallbackTarget_primary_iff]
    simp [hstays, hunprotected]
  · rw [htarget]
    refine ⟨nofun, fun h => ?_⟩
    rcases h with h | ⟨-, h | ⟨-, h⟩⟩
    · exact absurd h hstays
    · exact absurd h hprotected
    · exact absurd ⟨c, hsafe⟩ h
  · rw [htarget, targetWithoutReplica_primary_iff]
    simp only [hstays, hprotected, hnone, false_or, not_false_eq_true, and_true]
    exact and_comm

/-- Whether a target is a replica or a rejection. -/
def ReplicaOrReject (target : RoutingTarget) : Prop :=
  (∃ candidate reason, target = .replica candidate reason) ∨ ∃ reason, target = .reject reason

theorem replicaOrReject_fallbackTarget_iff :
    ReplicaOrReject (fallbackTarget policy) ↔ policy = .reject := by
  cases policy with
  | reject => exact ⟨fun _ => rfl, fun _ => .inr ⟨_, rfl⟩⟩
  | _ =>
    refine ⟨?_, nofun⟩
    rintro (⟨_, _, h⟩ | ⟨_, h⟩)
    · cases h
    · cases h

/-- **When a required replica is required.** -/
theorem chooseRoutingTarget_replicaOrReject_iff (hidle : context.transactionState = .idle)
    (hmode : planner.readRoutingMode = .requireReplica)
    (hstays : ¬StaysOnPrimary planner context) :
    ReplicaOrReject (chooseRoutingTarget planner context) ↔
      ¬(Unprotected context ∧ planner.fallbackPolicy ≠ .reject) := by
  rcases chooseRoutingTarget_cases planner hidle with ⟨hprimary, -⟩ |
    ⟨-, ⟨hunprotected, htarget⟩ | ⟨hprotected, ⟨c, r, -, htarget⟩ | ⟨-, htarget⟩⟩⟩
  · exact absurd hprimary hstays
  · rw [htarget]
    rw [replicaOrReject_fallbackTarget_iff]
    simp [hunprotected]
  · rw [htarget]
    exact ⟨fun _ h => hprotected h.1, fun _ => .inl ⟨_, _, rfl⟩⟩
  · rw [htarget, targetWithoutReplica, if_pos hmode]
    exact ⟨fun _ h => hprotected h.1, fun _ => .inr ⟨_, rfl⟩⟩

/-! ### Policies without an action -/

theorem applyPolicyToRoutingTarget_choose :
    applyPolicyToRoutingTarget planner context (some (chooseRoutingTarget planner context)) =
      chooseRoutingTarget planner context := by
  rw [applyPolicyToRoutingTarget, getD_some]
  unfold ensurePolicyActionTargetIsSafe
  split
  · next candidate reason htarget =>
    split
    · exact htarget.symm
    · rfl
  · rfl

/-- A policy makes a difference once. -/
theorem applyPolicyToRoutingTarget_twice (target : RoutingTarget) :
    applyPolicyToRoutingTarget planner context
        (some (applyPolicyToRoutingTarget planner context (some target))) =
      applyPolicyToRoutingTarget planner context (some target) := by
  cases target with
  | replica candidate reason =>
    by_cases hsafe : candidate.healthy ∧ !candidate.splitBrain ∧
        replicaSatisfiesFreshness candidate planner.freshnessPolicy context.readAfterWriteState
          planner.maxReplicaLagMs
    · have hkept : applyPolicyToRoutingTarget planner context
          (some (.replica candidate reason)) = .replica candidate reason := if_pos hsafe
      rw [hkept, hkept]
    · have hchosen : applyPolicyToRoutingTarget planner context
          (some (.replica candidate reason)) = chooseRoutingTarget planner context := if_neg hsafe
      rw [hchosen, applyPolicyToRoutingTarget_choose]
  | _ => rfl

/-- The planner never denies a statement. -/
theorem chooseRoutingTarget_ne_denied :
    chooseRoutingTarget planner context ≠ .reject .policyDenied := by
  have hfallback : ∀ policy, fallbackTarget policy ≠ .reject .policyDenied := by
    intro policy
    cases policy <;> nofun
  have hwithout : targetWithoutReplica planner context ≠ .reject .policyDenied := by
    unfold targetWithoutReplica
    split
    · nofun
    · split
      · exact hfallback _
      · split
        · cases planner.fallbackPolicy with
          | reject => dsimp only; split <;> nofun
          | _ => nofun
        · exact hfallback _
  unfold chooseRoutingTarget
  repeat' split
  all_goals first | exact hfallback _ | exact hwithout | nofun

end ReadRouting

/-! ### What is known of the replicas -/

/-- A replica of `RoutePools`. -/
structure Replica where
  id : Nat
  healthy : Bool
  waitingHint : Nat := 0
  weight : Nat := 1
  deriving DecidableEq

/-- `ReplicaHealthSnapshot`; `warning` is whether its role carries a split-brain warning. -/
structure ReplicaHealth where
  endpointId : Nat
  replayLsn : Option PgLsn := none
  lagDurationMs : Option Nat := none
  warning : Bool := false
  deriving DecidableEq

/-- `ReplicaSelectionStrategy`. -/
inductive ReplicaSelectionStrategy where
  | leastWaiting
  | weightedRoundRobin
  deriving DecidableEq, Repr

/-- The replicas of a route, their health as it was last observed, and the selector. -/
structure Replicas where
  replicas : List Replica
  snapshots : List ReplicaHealth
  strategy : ReplicaSelectionStrategy := .leastWaiting
  cursor : Nat := 0
  deriving DecidableEq

namespace Replicas

variable (view : Replicas)

/-- The health of a replica. -/
def healthOf (id : Nat) : Option ReplicaHealth := view.snapshots.find? (·.endpointId == id)

/-- Whether the health of a replica carries a split-brain warning. -/
def warned (id : Nat) : Bool := (view.healthOf id).any (·.warning)

/-- `build_route_health_snapshot`. -/
def buildRouteHealthSnapshot : List ReadRouting.ReplicaCandidate :=
  view.replicas.map fun replica =>
    { replicaId := replica.id
      healthy := replica.healthy
      splitBrain := view.warned replica.id
      replayLsn := (view.healthOf replica.id).bind (·.replayLsn)
      lagMs := (view.healthOf replica.id).bind fun health =>
        health.lagDurationMs.map (min · (2 ^ 64 - 1)) }

/-- The loop of the weighted selection. -/
def pickWeighted (cursor : Nat) : Nat → List Replica → Option Replica
  | _, [] => none
  | offset, replica :: rest =>
    if cursor < offset + replica.weight then some replica
    else pickWeighted cursor (offset + replica.weight) rest

/-- `ReplicaSelector::select`. -/
def select : Option Replica :=
  let healthy := view.replicas.filter (·.healthy)
  match view.strategy with
  | .leastWaiting => healthy.argmin fun replica => toLex (replica.waitingHint, replica.id)
  | .weightedRoundRobin =>
    let totalWeight := (healthy.map (·.weight)).sum
    if totalWeight = 0 then none else pickWeighted (view.cursor % totalWeight) 0 healthy

/-- What `select_checkout_target` sees. -/
def poll : Poll where
  health := view.buildRouteHealthSnapshot
  selected := view.select.map fun replica => (replica.id, replica.healthy)

variable {view}

variable {replica : Replica}

theorem mem_of_pickWeighted {cursor offset : Nat} {replicas : List Replica}
    (h : pickWeighted cursor offset replicas = some replica) : replica ∈ replicas := by
  induction replicas generalizing offset with
  | nil => cases h
  | cons first rest ih =>
    rw [pickWeighted] at h
    split at h
    · obtain rfl := some.inj h
      exact List.mem_cons_self
    · exact List.mem_cons_of_mem _ (ih h)

/-- The selector selects healthy replicas. -/
theorem healthy_of_select (h : view.select = some replica) : replica.healthy = true := by
  have hmem : replica ∈ view.replicas.filter (·.healthy) := by
    unfold select at h
    cases hstrategy : view.strategy with
    | leastWaiting =>
      rw [hstrategy] at h
      exact List.argmin_mem h
    | weightedRoundRobin =>
      simp only [hstrategy] at h
      split at h
      · cases h
      · exact mem_of_pickWeighted h
  exact (List.mem_filter.1 hmem).2

/-- The candidates of the snapshot carry the warnings. -/
theorem splitBrain_of_mem {candidate : ReadRouting.ReplicaCandidate}
    (h : candidate ∈ view.buildRouteHealthSnapshot) :
    candidate.splitBrain = view.warned candidate.replicaId := by
  obtain ⟨replica, -, rfl⟩ := List.mem_map.1 h
  rfl

end Replicas

namespace ReadRoutingSelection

open ReadRouting

variable {selection : ReadRoutingSelection} {poll : Poll}

/-- **The target of a cycle**, without the checks that change nothing. -/
theorem selectCheckoutTarget_eq (selection : ReadRoutingSelection) (poll : Poll) :
    selection.selectCheckoutTarget poll =
      match selection.planner.readRoutingMode with
      | .off => .primary .off
      | .primaryOnly => .primary .primaryOnlyMode
      | .preferReplica | .requireReplica =>
        if selection.session.transactionCrossShardViolation then .reject .fallbackReject
        else
          match selection.session.currentTransactionTargetRole with
          | some role => applyPolicyToRoutingTarget selection.planner (selection.context poll)
              (some (selection.transactionTarget poll role))
          | none => chooseRoutingTarget selection.planner (selection.context poll) := by
  have hnone : applyPolicyToRoutingTarget selection.planner (selection.context poll) none =
      chooseRoutingTarget selection.planner (selection.context poll) :=
    applyPolicyToRoutingTarget_choose
  unfold selectCheckoutTarget
  simp only [hnone, chooseRoutingTarget_ne_denied, if_false, applyPolicyToRoutingTarget_twice,
    applyPolicyToRoutingTarget_choose]
  rfl

/-! ### The rest of the cycle -/

/-- The selection that `handle_frame_cycle` makes for a cycle, once its transaction control has been
tracked, and the request plans of the cycle. -/
def ofCycle (planner : Planner) (session : VirtualSession) (prepared : PreparedCatalog)
    (frames : List FrontendMessage) : Option (ReadRoutingSelection × List RequestPlan) := do
  let plans ← requestPlansForFrames prepared frames
  let tracked ← updateTransactionStateFromRequestPlans (planner.readRoutingMode != .off) session
    false plans
  pure (⟨planner, tracked.1, plans.head?⟩, plans)

/-- The candidate of a transaction on a replica, of which nothing is known. -/
def blankCandidate (id : Nat) : ReplicaCandidate :=
  { replicaId := id, healthy := true, replayLsn := none, lagMs := none }

section

variable (selection : ReadRoutingSelection)

/-- The policy of the route lets a candidate through of which nothing is known. -/
def LetsBlankThrough (id : Nat) : Prop :=
  replicaSatisfiesFreshness (blankCandidate id) selection.planner.freshnessPolicy
    selection.session.readAfterWrite selection.planner.maxReplicaLagMs = true

/-- The planner keeps the first statement of the cycle on the primary: by itself, or by falling
back to it. -/
def PlannerKeeps (poll : Poll) : Prop :=
  StaysOnPrimary selection.planner (selection.context poll) ∨
    selection.planner.fallbackPolicy = .primary ∧
      (Unprotected (selection.context poll) ∨ selection.planner.readRoutingMode ≠ .requireReplica ∧
        ¬∃ candidate, Safe selection.planner (selection.context poll) candidate)

/-- **What sends a cycle to the primary**: the mode of the route, or, if no shard is against it, the
transaction that it is in or has itself opened, or the planner. A transaction on a replica that
is picked unseen goes by the planner only if the policy does not let the replica through. -/
def GoesToPrimary (poll : Poll) : Prop :=
  ¬RoutesReads selection.planner.readRoutingMode ∨
    selection.session.transactionCrossShardViolation = false ∧
      match selection.session.currentTransactionTargetRole, poll.selected with
      | none, _ => selection.PlannerKeeps poll
      | some .replica, some (id, healthy) =>
        ¬(healthy = true ∧ selection.LetsBlankThrough id) ∧ selection.PlannerKeeps poll
      | some .replica, none =>
        selection.planner.readRoutingMode ≠ .requireReplica ∧
          selection.planner.fallbackPolicy = .primary
      | some _, _ => True

end

theorem choose_primary_iff :
    (∃ reason, chooseRoutingTarget selection.planner (selection.context poll) = .primary reason) ↔
      selection.PlannerKeeps poll :=
  chooseRoutingTarget_primary_iff rfl

/-- The replica of a transaction goes to the primary only through the planner. -/
theorem transactionReplica_primary_iff (id : Nat) (healthy : Bool)
    (reason : ReadRouting.RoutingReason) :
    (∃ reason', applyPolicyToRoutingTarget selection.planner (selection.context poll)
        (some (.replica { replicaId := id, healthy, replayLsn := none, lagMs := none } reason)) =
          .primary reason') ↔
      ¬(healthy = true ∧ selection.LetsBlankThrough id) ∧ selection.PlannerKeeps poll := by
  by_cases hlets : healthy = true ∧ selection.LetsBlankThrough id
  · obtain ⟨rfl, hblank⟩ := hlets
    have hkept : applyPolicyToRoutingTarget selection.planner (selection.context poll)
        (some (.replica (blankCandidate id) reason)) = .replica (blankCandidate id) reason :=
      if_pos ⟨rfl, rfl, hblank⟩
    refine iff_of_false ?_ fun h => h.1 ⟨rfl, hblank⟩
    rintro ⟨reason', hprimary⟩
    cases hkept.symm.trans hprimary
  · have hchosen : applyPolicyToRoutingTarget selection.planner (selection.context poll)
        (some (.replica { replicaId := id, healthy, replayLsn := none, lagMs := none } reason)) =
          chooseRoutingTarget selection.planner (selection.context poll) :=
      if_neg fun h => hlets ⟨h.1, h.2.2⟩
    rw [hchosen, choose_primary_iff]
    exact (and_iff_right hlets).symm

/-- A transaction without a replica to pick falls back. -/
theorem transactionFallback_primary_iff :
    (∃ reason, applyPolicyToRoutingTarget selection.planner (selection.context poll)
        (some (selection.fallbackTarget selection.planner.fallbackPolicy)) = .primary reason) ↔
      selection.planner.readRoutingMode ≠ .requireReplica ∧
        selection.planner.fallbackPolicy = .primary := by
  rw [fallbackTarget]
  by_cases hmode : selection.planner.readRoutingMode = .requireReplica
  · rw [if_pos hmode]
    refine iff_of_false ?_ fun h => h.1 hmode
    rintro ⟨reason, h⟩
    cases h
  · rw [if_neg hmode, and_iff_right hmode, ← fallbackTarget_primary_iff]
    cases selection.planner.fallbackPolicy <;> rfl

/-- In a transaction with a role, the policy decides on the target of that role. -/
theorem selectCheckoutTarget_of_role {role : BackendRole}
    (hmode : RoutesReads selection.planner.readRoutingMode)
    (hviolation : selection.session.transactionCrossShardViolation = false)
    (hrole : selection.session.currentTransactionTargetRole = some role) :
    selection.selectCheckoutTarget poll =
      applyPolicyToRoutingTarget selection.planner (selection.context poll)
        (some (selection.transactionTarget poll role)) := by
  rw [selectCheckoutTarget_eq, hviolation, hrole]
  rcases hmode with hmode | hmode
  all_goals
    rw [hmode]
    rfl

/-- Outside a transaction, the planner does. -/
theorem selectCheckoutTarget_of_none
    (hmode : RoutesReads selection.planner.readRoutingMode)
    (hviolation : selection.session.transactionCrossShardViolation = false)
    (hrole : selection.session.currentTransactionTargetRole = none) :
    selection.selectCheckoutTarget poll =
      chooseRoutingTarget selection.planner (selection.context poll) := by
  rw [selectCheckoutTarget_eq, hviolation, hrole]
  rcases hmode with hmode | hmode
  all_goals
    rw [hmode]
    rfl

/-- **When a cycle goes to the primary.** -/
theorem selectCheckoutTarget_primary_iff :
    (∃ reason, selection.selectCheckoutTarget poll = .primary reason) ↔
      selection.GoesToPrimary poll := by
  rw [GoesToPrimary]
  by_cases hmode : RoutesReads selection.planner.readRoutingMode
  · rw [or_iff_right (not_not.2 hmode)]
    cases hviolation : selection.session.transactionCrossShardViolation with
    | true =>
      rw [selectCheckoutTarget_eq, hviolation]
      rcases hmode with hmode | hmode <;> simp [hmode]
    | false =>
      rw [and_iff_right rfl]
      cases hrole : selection.session.currentTransactionTargetRole with
      | none =>
        rw [selectCheckoutTarget_of_none hmode hviolation hrole]
        exact choose_primary_iff
      | some role =>
        rw [selectCheckoutTarget_of_role hmode hviolation hrole]
        cases role with
        | primary | unknown => exact iff_of_true ⟨_, rfl⟩ trivial
        | replica =>
          dsimp only [transactionTarget]
          cases poll.selected with
          | none => exact transactionFallback_primary_iff
          | some picked => exact transactionReplica_primary_iff ..
  · refine iff_of_true ?_ (.inl hmode)
    rw [selectCheckoutTarget_eq]
    cases hoff : selection.planner.readRoutingMode with
    | off | primaryOnly => exact ⟨_, rfl⟩
    | preferReplica => exact absurd (.inl hoff) hmode
    | requireReplica => exact absurd (.inr hoff) hmode

/-- The plan is one of a read. -/
def Reads (plan : RequestPlan) : Prop := (SqlClassify.classifySql plan.sql).routesToReplica = true

/-- **The whole cycle is routed**: it goes to a replica only if all its statements read, and with
one that does not it goes to the primary. -/
def RoutesWhole (plans : List RequestPlan) (target : RoutingTarget) : Prop :=
  ((∃ candidate reason, target = .replica candidate reason) → ∀ plan ∈ plans, Reads plan) ∧
    ((∃ plan ∈ plans, ¬Reads plan) → ∃ reason, target = .primary reason)

/-- The cycle is routed as a whole, if it can be planned and tracked at all. -/
def RoutesCycle (planner : Planner) (session : VirtualSession) (prepared : PreparedCatalog)
    (frames : List FrontendMessage) (poll : Poll) : Prop :=
  ∀ cycle ∈ ofCycle planner session prepared frames,
    RoutesWhole cycle.2 (cycle.1.selectCheckoutTarget poll)

/-- **When the whole cycle is routed**: for every session, outside a transaction as in one, exactly
if all statements of the cycle read or it goes to the primary. -/
theorem routesCycle_iff (planner : Planner) (session : VirtualSession) (prepared : PreparedCatalog)
    (frames : List FrontendMessage) (poll : Poll) :
    RoutesCycle planner session prepared frames poll ↔
      ∀ cycle ∈ ofCycle planner session prepared frames,
        (∀ plan ∈ cycle.2, Reads plan) ∨ cycle.1.GoesToPrimary poll := by
  refine forall₂_congr fun cycle _ => ?_
  rw [← selectCheckoutTarget_primary_iff]
  constructor
  · rintro ⟨-, hprimary⟩
    by_cases hall : ∀ plan ∈ cycle.2, Reads plan
    · exact .inl hall
    · refine .inr (hprimary ?_)
      simpa only [not_forall, exists_prop] using hall
  · rintro (hall | ⟨reason, hprimary⟩)
    · exact ⟨fun _ => hall, fun ⟨plan, hplan, hwrites⟩ => absurd (hall plan hplan) hwrites⟩
    · refine ⟨?_, fun _ => ⟨reason, hprimary⟩⟩
      rintro ⟨candidate, reason', hreplica⟩
      cases hprimary.symm.trans hreplica

/-- A planner that prefers replicas, however stale. -/
def samplePlanner (mode : ReadRoutingMode) (fallback : FallbackPolicy) : Planner :=
  ⟨mode, fallback, .none, 0⟩

/-- A poll with one healthy replica. -/
def samplePoll : Poll where
  health := [{ replicaId := 1, healthy := true, replayLsn := none, lagMs := some 0 }]
  selected := some (1, true)

/-- The statements of a cycle outside a transaction, and the replica that planner sends it to. -/
def sampleView (frames : List FrontendMessage) : Option (List Text × Option Nat) :=
  (ofCycle (samplePlanner .preferReplica .primary) {} { sessionId := 1 } frames).map fun cycle =>
    (cycle.2.map (·.sql), match cycle.1.selectCheckoutTarget samplePoll with
      | .replica candidate _ => some candidate.replicaId
      | _ => none)

theorem not_routesCycle_of_sampleView {frames : List FrontendMessage} (sqls : List Text)
    (sql : Text) (h : sampleView frames = some (sqls, some 1)) (hsql : sql ∈ sqls)
    (hwrites : (SqlClassify.classifySql sql).routesToReplica = false) :
    ¬RoutesCycle (samplePlanner .preferReplica .primary) {} { sessionId := 1 } frames
      samplePoll := by
  intro hroutes
  obtain ⟨cycle, hcycle, hview⟩ := map_eq_some_iff.1 h
  obtain ⟨rfl, htarget⟩ := Prod.mk.inj hview
  obtain ⟨plan, hplan, rfl⟩ := List.mem_map.1 hsql
  split at htarget
  · next candidate reason hreplica =>
    have hreads := (hroutes cycle hcycle).1 ⟨candidate, reason, hreplica⟩ plan hplan
    exact absurd (hreads.symm.trans hwrites) nofun
  · cases htarget

/-- **A write behind a read, and a cycle that opens a transaction.** Queries that arrive together
are one cycle, and it goes to a replica with the read in front of the write, or with the read-only
transaction that its last query opens. -/
theorem routesCycle_delete :
    ¬RoutesCycle (samplePlanner .preferReplica .primary) {} { sessionId := 1 }
      [.query "select 1", .query "delete from t"] samplePoll ∧
    ¬RoutesCycle (samplePlanner .preferReplica .primary) {} { sessionId := 1 }
      [.query "delete from t", .query "begin read only"] samplePoll := by
  refine ⟨?_, ?_⟩
  · exact not_routesCycle_of_sampleView ["select 1".toList, "delete from t".toList]
      "delete from t".toList (by decide +kernel) (by simp) (by decide +kernel)
  · exact not_routesCycle_of_sampleView ["delete from t".toList, "begin read only".toList]
      "delete from t".toList (by decide +kernel) (by simp) (by decide +kernel)

/-! ### Split brain, and required replicas -/

section

variable (selection : ReadRoutingSelection) (view : Replicas)

/-- The cycle is in a transaction on a replica, and the selector has picked this one. -/
structure PicksInTransaction (id : Nat) : Prop where
  mode : RoutesReads selection.planner.readRoutingMode
  noViolation : selection.session.transactionCrossShardViolation = false
  role : selection.session.currentTransactionTargetRole = some .replica
  selected : ∃ replica, view.select = some replica ∧ replica.id = id

/-- **No split brain**: a replica that a cycle goes to carries no warning. -/
def AvoidsSplitBrain : Prop :=
  ∀ candidate reason, selection.selectCheckoutTarget view.poll = .replica candidate reason →
    view.warned candidate.replicaId = false

/-- A read that asks for a replica, in a route that requires one. -/
structure RequiresReplica : Prop where
  mode : selection.planner.readRoutingMode = .requireReplica
  reads : (SqlClassify.classifySql selection.sql).routesToReplica = true
  notPrimary : RoutingHint.extract selection.sql ≠ .primary

/-- Outside a transaction, or in one that is read-only. -/
def OutsideOrReadOnly (session : VirtualSession) : Prop :=
  ∀ transaction, session.readRoutingTransaction = some transaction →
    transaction.accessMode = .readOnly

/-- **A required replica is required**: such a read goes to a replica or is rejected. -/
def KeepsRequirement : Prop :=
  selection.RequiresReplica → OutsideOrReadOnly selection.session →
    ReplicaOrReject (selection.selectCheckoutTarget view.poll)

/-- The strict-fresh fallback does not lead away from the replicas. -/
def FallsBackSafely : Prop :=
  ¬(RoutingHint.extract selection.sql = .strictFresh ∧
    selection.session.readAfterWrite = .disabled ∧ selection.planner.fallbackPolicy ≠ .reject)

end

variable {view : Replicas}

/-- In a transaction on a replica, the target is the replica that the selector has picked, if the
policy lets it through; if not, the planner chooses. -/
theorem selectCheckoutTarget_of_picks {id : Nat} (h : selection.PicksInTransaction view id) :
    (selection.LetsBlankThrough id ∧ ∃ reason,
      selection.selectCheckoutTarget view.poll = .replica (blankCandidate id) reason) ∨
    ¬selection.LetsBlankThrough id ∧
      selection.selectCheckoutTarget view.poll =
        chooseRoutingTarget selection.planner (selection.context view.poll) := by
  obtain ⟨replica, hselect, rfl⟩ := h.selected
  have hselected : view.poll.selected = some (replica.id, true) := by
    rw [Replicas.poll, hselect, map_some, Replicas.healthy_of_select hselect]
  have htarget : selection.selectCheckoutTarget view.poll = _ :=
    selectCheckoutTarget_of_role h.mode h.noViolation h.role
  rw [transactionTarget, hselected] at htarget
  by_cases hblank : selection.LetsBlankThrough replica.id
  · exact .inl ⟨hblank, _, htarget.trans (if_pos ⟨rfl, rfl, hblank⟩)⟩
  · refine .inr ⟨hblank, htarget.trans ?_⟩
    exact if_neg fun hsafe => hblank hsafe.2.2

variable {candidate : ReplicaCandidate} {reason : ReadRouting.RoutingReason}

/-- A replica that the planner chooses carries no warning. -/
theorem warned_of_choose (h : chooseRoutingTarget selection.planner (selection.context view.poll) =
      .replica candidate reason) : view.warned candidate.replicaId = false := by
  have hsafe := safe_of_replica h
  rw [← Replicas.splitBrain_of_mem hsafe.mem]
  exact hsafe.notSplitBrain

/-- Where a replica comes from: the planner, or a transaction on a replica. -/
theorem choose_or_picks (h : selection.selectCheckoutTarget view.poll = .replica candidate reason) :
    chooseRoutingTarget selection.planner (selection.context view.poll) =
      .replica candidate reason ∨ ∃ id, selection.PicksInTransaction view id := by
  rw [selectCheckoutTarget_eq] at h
  split at h
  · cases h
  · cases h
  all_goals
    next hmode =>
    split at h
    · cases h
    · next hviolation =>
      split at h
      · next role hrole =>
        cases role with
        | primary | unknown => cases h
        | replica =>
          cases hselect : view.select with
          | none =>
            have hnone : selection.transactionTarget view.poll .replica =
                selection.fallbackTarget selection.planner.fallbackPolicy := by
              rw [transactionTarget, Replicas.poll, hselect]
              rfl
            rw [hnone] at h
            rcases applyPolicyToRoutingTarget_replica h with ⟨hfallback, -⟩ | hchoose
            · exact absurd hfallback (fallbackTarget_ne _)
            · exact .inl hchoose
          | some replica =>
            refine .inr ⟨replica.id, ?_, Bool.of_not_eq_true hviolation, hrole, replica, hselect,
              rfl⟩
            rw [hmode]
            first | exact .inl rfl | exact .inr rfl
      · exact .inl h

theorem avoidsSplitBrain_iff :
    selection.AvoidsSplitBrain view ↔
      ∀ id, selection.PicksInTransaction view id → selection.LetsBlankThrough id →
        view.warned id = false := by
  constructor
  · intro h id hpicks hblank
    rcases selectCheckoutTarget_of_picks hpicks with ⟨-, reason, htarget⟩ | ⟨hno, -⟩
    · exact h _ _ htarget
    · exact absurd hblank hno
  · intro h candidate reason htarget
    rcases choose_or_picks htarget with hchoose | ⟨id, hpicks⟩
    · exact warned_of_choose hchoose
    · rcases selectCheckoutTarget_of_picks hpicks with ⟨hblank, reason', hreplica⟩ | ⟨-, hchoose⟩
      · obtain ⟨rfl, -⟩ := RoutingTarget.replica.inj (htarget.symm.trans hreplica)
        exact h id hpicks hblank
      · exact warned_of_choose (hchoose.symm.trans htarget)

/-- What it takes for a required replica: the read is rejected for its shards, or it does not fall
back, or the transaction it is in has a replica that is let through unseen. -/
def MeetsRequirement (selection : ReadRoutingSelection) (view : Replicas) : Prop :=
  selection.session.transactionCrossShardViolation = true ∨
  selection.session.currentTransactionTargetRole = none ∧ selection.FallsBackSafely ∨
  selection.session.currentTransactionTargetRole = some .replica ∧
    ((∀ replica, view.select = some replica → selection.LetsBlankThrough replica.id) ∨
      selection.FallsBackSafely)

theorem choose_replicaOrReject_iff (view : Replicas) (h : selection.RequiresReplica) :
    ReplicaOrReject (chooseRoutingTarget selection.planner (selection.context view.poll)) ↔
      selection.FallsBackSafely := by
  have hstays : ¬StaysOnPrimary selection.planner (selection.context view.poll) := by
    rintro (hmode | hreads | hhint)
    · exact hmode (.inr h.mode)
    · exact absurd (h.reads.symm.trans hreads) nofun
    · exact h.notPrimary hhint
  rw [chooseRoutingTarget_replicaOrReject_iff rfl h.mode hstays, FallsBackSafely, Unprotected,
    and_assoc]
  rfl

theorem not_replicaOrReject_primary (reason : ReadRouting.RoutingReason) :
    ¬ReplicaOrReject (.primary reason) := by
  rintro (⟨_, _, h⟩ | ⟨_, h⟩)
  · cases h
  · cases h

/-- A read that requires a replica goes to one or is rejected exactly if it meets the
requirement. -/
theorem replicaOrReject_iff (h : selection.RequiresReplica) :
    ReplicaOrReject (selection.selectCheckoutTarget view.poll) ↔
      selection.MeetsRequirement view := by
  have hchoose := choose_replicaOrReject_iff view h
  have htarget := selectCheckoutTarget_eq selection view.poll
  simp only [h.mode] at htarget
  unfold MeetsRequirement
  cases hviolation : selection.session.transactionCrossShardViolation with
  | true =>
    rw [htarget, if_pos hviolation]
    exact ⟨fun _ => .inl rfl, fun _ => .inr ⟨_, rfl⟩⟩
  | false =>
    rw [if_neg (by rw [hviolation]; nofun)] at htarget
    cases hrole : selection.session.currentTransactionTargetRole with
    | none =>
      simp only [hrole] at htarget
      rw [htarget, hchoose]
      simp
    | some role =>
      simp only [hrole] at htarget
      cases role with
      | primary | unknown =>
        rw [htarget]
        exact ⟨fun hto => absurd hto (not_replicaOrReject_primary _), by simp⟩
      | replica =>
        cases hselect : view.select with
        | none =>
          have hreject :
              selection.selectCheckoutTarget view.poll = .reject .requireReplicaMode := by
            rw [htarget, transactionTarget, Replicas.poll, hselect, fallbackTarget, if_pos h.mode]
            rfl
          rw [hreject]
          exact ⟨fun _ => by simp, fun _ => .inr ⟨_, rfl⟩⟩
        | some replica =>
          have hpicks : selection.PicksInTransaction view replica.id :=
            ⟨.inr h.mode, hviolation, hrole, replica, hselect, rfl⟩
          rcases selectCheckoutTarget_of_picks hpicks with ⟨hblank, reason, hto⟩ | ⟨hno, hto⟩
          · rw [hto]
            exact ⟨fun _ => by simp [hblank], fun _ => .inl ⟨_, _, rfl⟩⟩
          · rw [hto, hchoose]
            simp [hno]

/-- **When routing is safe.** A cycle avoids split brain exactly if no replica that carries a
warning is picked in a transaction and let through unseen; and a read that requires a replica gets
one or is rejected, outside a transaction and in a read-only one, exactly if it meets the
requirement. -/
theorem routing_safety_iff (selection : ReadRoutingSelection) (view : Replicas) :
    (selection.AvoidsSplitBrain view ↔
      ∀ id, selection.PicksInTransaction view id → selection.LetsBlankThrough id →
        view.warned id = false) ∧
    (selection.KeepsRequirement view ↔
      (selection.RequiresReplica → OutsideOrReadOnly selection.session →
        selection.MeetsRequirement view)) := by
  refine ⟨avoidsSplitBrain_iff, ?_⟩
  refine forall_congr' fun hrequires => forall_congr' fun _ => ?_
  exact replicaOrReject_iff hrequires

/-- A read in a read-only transaction. -/
def sampleInTransaction : ReadRoutingSelection where
  planner := samplePlanner .requireReplica .primary
  session := VirtualSession.beginTransaction {} .readOnly
  requestPlan := some ⟨"select 1", .query, true, true⟩

/-- A strict-fresh read outside a transaction. -/
def sampleStrictFresh : ReadRoutingSelection where
  planner := samplePlanner .requireReplica .primary
  session := {}
  requestPlan := some ⟨"/* pg-kinetic: strict-fresh */ select 1", .query, true, true⟩

/-- One replica, which reports the wrong role. -/
def sampleSplitBrain : Replicas where
  replicas := [{ id := 1, healthy := true }]
  snapshots := [{ endpointId := 1, warning := true }]

/-- **A read-only transaction on a split brain, and a required replica that is not.** -/
theorem routing_unsafe :
    ¬sampleInTransaction.AvoidsSplitBrain sampleSplitBrain ∧
      ¬sampleStrictFresh.KeepsRequirement sampleSplitBrain := by
  constructor
  · intro h
    have htarget : sampleInTransaction.selectCheckoutTarget sampleSplitBrain.poll =
        .replica (blankCandidate 1) .readOnlyQuery := by decide +kernel
    exact absurd (h _ _ htarget) (by decide +kernel)
  · intro h
    have htarget : sampleStrictFresh.selectCheckoutTarget sampleSplitBrain.poll =
        .primary .fallbackPrimary := by decide +kernel
    have hrequires : sampleStrictFresh.RequiresReplica :=
      ⟨by decide +kernel, by decide +kernel, by decide +kernel⟩
    have hto := h hrequires nofun
    exact not_replicaOrReject_primary _ hto

end ReadRoutingSelection

end PgKinetic
