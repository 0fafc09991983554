import PgKinetic.Traffic.ReadRouting
import Mathlib.Data.Prod.Lex

/-!
# The choice of a replica

What `choose_routing_target` is for, said without its branches: a statement is **eligible** for a
replica by what it is, a candidate is **safe** by what is known of it, and a replica is chosen
exactly if the statement is eligible and there is a safe candidate. The one that is chosen has the
least lag among the safe ones, and of those with the same lag the least id.
-/

namespace PgKinetic

namespace ReadRouting

/-- Whether the mode of the route looks for replicas at all. -/
def RoutesReads (mode : ReadRoutingMode) : Prop := mode = .preferReplica ∨ mode = .requireReplica

/-- **An eligible statement**: one that may go to a replica if there is a safe one. -/
structure Eligible (planner : Planner) (context : Context) : Prop where
  mode : RoutesReads planner.readRoutingMode
  idle : context.transactionState = .idle
  reads : context.queryClass.routesToReplica = true
  notPrimary : context.routingHint ≠ .primary
  notUnprotected : ¬(context.routingHint = .strictFresh ∧ context.readAfterWriteState = .disabled)

section

variable (policy : FreshnessPolicy) (hint : RoutingHint)

/-- The writes of the session count: by the policy, unless the statement waives them where the
policy leaves the lag to go by, and for a strict-fresh read by all policies. -/
def CountsWrites : Prop :=
  hint = .strictFresh ∨ policy = .sessionWriteLsn ∨
    policy = .sessionWriteLsnAndMaxLag ∧ hint ≠ .staleOk

/-- The lag counts. -/
def CountsLag : Prop :=
  hint = .strictFresh ∨ policy = .maxReplicaLag ∨ policy = .sessionWriteLsnAndMaxLag

/-- The session has written nothing, or nothing that the candidate has not replayed. -/
def Replayed (state : ReadAfterWriteState) (candidate : ReplicaCandidate) : Prop :=
  state = .disabled ∨ ∃ lsn replayed, state = .required lsn ∧
    candidate.replayLsn = some replayed ∧ lsn ≤ replayed

theorem satisfiesSessionWrite_iff {state : ReadAfterWriteState} {candidate : ReplicaCandidate} :
    candidate.satisfiesSessionWrite state = true ↔ Replayed state candidate := by
  cases state with
  | disabled => exact iff_of_true rfl (.inl rfl)
  | unknown => simp [ReplicaCandidate.satisfiesSessionWrite, Replayed]
  | required lsn => simp [ReplicaCandidate.satisfiesSessionWrite, Replayed, Option.any_eq_true]

/-- **Freshness under the policy that the hint leaves**, spelled out. -/
theorem replicaSatisfiesFreshness_iff {state : ReadAfterWriteState} {candidate : ReplicaCandidate}
    {maxReplicaLagMs : Nat} :
    replicaSatisfiesFreshness candidate (effectiveFreshnessPolicy policy hint) state
        maxReplicaLagMs = true ↔
      (CountsWrites policy hint → Replayed state candidate) ∧
        (CountsLag policy hint → ∃ lag, candidate.lagMs = some lag ∧ lag ≤ maxReplicaLagMs) := by
  have hwrites : (effectiveFreshnessPolicy policy hint).requiresSessionWriteLsn = true ↔
      CountsWrites policy hint := by
    cases policy <;> cases hint <;> simp [effectiveFreshnessPolicy, CountsWrites,
      FreshnessPolicy.requiresSessionWriteLsn]
  have hlag : (effectiveFreshnessPolicy policy hint).requiresReplicaLag = true ↔
      CountsLag policy hint := by
    cases policy <;> cases hint <;> simp [effectiveFreshnessPolicy, CountsLag,
      FreshnessPolicy.requiresReplicaLag]
  have himp : ∀ a b : Bool, (!a || b) = true ↔ (a = true → b = true) := by decide
  rw [replicaSatisfiesFreshness, Bool.and_eq_true, himp, himp, hwrites, hlag,
    satisfiesSessionWrite_iff, Option.any_eq_true]
  simp only [decide_eq_true_eq]

end

/-- **A safe candidate**: healthy, of the role it should have, and fresh in what counts. -/
structure Safe (planner : Planner) (context : Context) (candidate : ReplicaCandidate) : Prop where
  mem : candidate ∈ context.health
  healthy : candidate.healthy = true
  notSplitBrain : candidate.splitBrain = false
  replayed : CountsWrites planner.freshnessPolicy context.routingHint →
    Replayed context.readAfterWriteState candidate
  lag : CountsLag planner.freshnessPolicy context.routingHint →
    ∃ lag, candidate.lagMs = some lag ∧ lag ≤ planner.maxReplicaLagMs

/-! ### The least candidate -/

variable {candidates : List ReplicaCandidate} {best : ReplicaCandidate} {reason : RoutingReason}

theorem minByKey_eq_none_iff : minByKey candidates = none ↔ candidates = [] := by
  cases candidates with
  | nil => exact ⟨fun _ => rfl, fun _ => rfl⟩
  | cons candidate rest =>
    refine ⟨fun h => ?_, nofun⟩
    rw [minByKey] at h
    split at h
    · cases h
    · split at h <;> cases h

/-- The comparison of the source is that of pairs. -/
theorem toLex_key_lt_iff {candidate : ReplicaCandidate} :
    toLex best.key < toLex candidate.key ↔
      best.key.1 < candidate.key.1 ∨
        best.key.1 = candidate.key.1 ∧ best.key.2 < candidate.key.2 := by
  rw [Prod.Lex.toLex_lt_toLex]

/-- No candidate has a smaller key than the one that is returned. -/
theorem toLex_key_le_of_minByKey (h : minByKey candidates = some best) :
    ∀ candidate ∈ candidates, toLex best.key ≤ toLex candidate.key := by
  induction candidates generalizing best with
  | nil => cases h
  | cons first rest ih =>
    rw [minByKey] at h
    split at h
    · next hnone =>
      obtain rfl := Option.some.inj h
      rw [minByKey_eq_none_iff.1 hnone]
      exact List.forall_mem_singleton.2 le_rfl
    · next other hother =>
      split at h
      · next hless =>
        obtain rfl := Option.some.inj h
        exact List.forall_mem_cons.2 ⟨(toLex_key_lt_iff.2 hless).le, ih hother⟩
      · next hless =>
        obtain rfl := Option.some.inj h
        have hfirst : toLex first.key ≤ toLex other.key :=
          not_lt.1 fun hlt => hless (toLex_key_lt_iff.1 hlt)
        exact List.forall_mem_cons.2
          ⟨le_rfl, fun candidate hmem => hfirst.trans (ih hother candidate hmem)⟩

variable {planner : Planner} {context : Context} {candidate : ReplicaCandidate}

/-- The candidates that `select_safe_replica` compares are the safe ones. -/
theorem mem_filter_iff_safe :
    candidate ∈ (context.health.filter fun candidate =>
      (candidate.healthy && !candidate.splitBrain) &&
        replicaSatisfiesFreshness candidate
          (effectiveFreshnessPolicy planner.freshnessPolicy context.routingHint)
          context.readAfterWriteState planner.maxReplicaLagMs) ↔
      Safe planner context candidate := by
  rw [List.mem_filter, Bool.and_eq_true, Bool.and_eq_true, Bool.not_eq_true',
    replicaSatisfiesFreshness_iff]
  constructor
  · rintro ⟨hmem, ⟨hhealthy, hsplit⟩, hreplayed, hlag⟩
    exact ⟨hmem, hhealthy, hsplit, hreplayed, hlag⟩
  · rintro ⟨hmem, hhealthy, hsplit, hreplayed, hlag⟩
    exact ⟨hmem, ⟨hhealthy, hsplit⟩, hreplayed, hlag⟩

/-! ### The target -/

/-- A statement that is not eligible goes to no replica. -/
theorem eligible_of_replica (h : chooseRoutingTarget planner context = .replica candidate reason) :
    Eligible planner context := by
  unfold chooseRoutingTarget at h
  split at h
  · cases h
  · cases h
  all_goals
    next hmode =>
    split at h
    · cases h
    · cases h
    · next hidle =>
      split at h
      · cases h
      · next hreads =>
        split at h
        · cases h
        · next hprimary =>
          split at h
          · exact absurd h (fallbackTarget_ne _)
          · next hstrict =>
            refine ⟨?_, hidle, by simpa using hreads, hprimary, hstrict⟩
            rw [hmode]
            first | exact .inl rfl | exact .inr rfl

/-- For an eligible statement the choice is that of `select_safe_replica`. -/
theorem chooseRoutingTarget_of_eligible (h : Eligible planner context) :
    chooseRoutingTarget planner context =
      match selectSafeReplica context.health context.readAfterWriteState planner.maxReplicaLagMs
          (effectiveFreshnessPolicy planner.freshnessPolicy context.routingHint) with
      | some candidate => .replica candidate (successReason context.routingHint)
      | none => targetWithoutReplica planner context := by
  unfold chooseRoutingTarget
  rw [h.idle, h.reads]
  rcases h.mode with hmode | hmode
  all_goals
    simp only [hmode, Bool.not_true, Bool.false_eq_true, if_false]
    exact (if_neg h.notPrimary).trans (if_neg h.notUnprotected)

/-- A replica that is chosen is the one that `select_safe_replica` returned. -/
theorem select_of_replica (h : chooseRoutingTarget planner context = .replica candidate reason) :
    selectSafeReplica context.health context.readAfterWriteState planner.maxReplicaLagMs
      (effectiveFreshnessPolicy planner.freshnessPolicy context.routingHint) = some candidate := by
  rw [chooseRoutingTarget_of_eligible (eligible_of_replica h)] at h
  split at h
  · next chosen hselect =>
    obtain ⟨rfl, -⟩ := RoutingTarget.replica.inj h
    exact hselect
  · exact absurd h targetWithoutReplica_ne

theorem safe_of_replica (h : chooseRoutingTarget planner context = .replica candidate reason) :
    Safe planner context candidate :=
  mem_filter_iff_safe.1 (mem_of_minByKey (select_of_replica h))

/-- **The choice is sound, complete and optimal.** A replica is chosen exactly if the statement is
eligible and some candidate is safe, and then it is a safe one with the least lag, an unknown lag
being the greatest, and among those of the least lag the least id. -/
theorem chooseRoutingTarget_spec (planner : Planner) (context : Context) :
    ((∃ candidate reason, chooseRoutingTarget planner context = .replica candidate reason) ↔
      Eligible planner context ∧ ∃ candidate, Safe planner context candidate) ∧
    ∀ candidate reason, chooseRoutingTarget planner context = .replica candidate reason →
      Safe planner context candidate ∧
        ∀ other, Safe planner context other → toLex candidate.key ≤ toLex other.key := by
  refine ⟨⟨?_, ?_⟩, fun candidate reason h => ?_⟩
  · rintro ⟨candidate, reason, h⟩
    exact ⟨eligible_of_replica h, candidate,
      safe_of_replica h⟩
  · rintro ⟨heligible, candidate, hsafe⟩
    rw [chooseRoutingTarget_of_eligible heligible]
    split
    · next chosen _ => exact ⟨chosen, _, rfl⟩
    · next hnone =>
      have hmem := mem_filter_iff_safe.2 hsafe
      rw [minByKey_eq_none_iff.1 hnone] at hmem
      cases hmem
  · exact ⟨safe_of_replica h, fun other hother =>
      toLex_key_le_of_minByKey (select_of_replica h) other (mem_filter_iff_safe.2 hother)⟩

end ReadRouting

end PgKinetic
