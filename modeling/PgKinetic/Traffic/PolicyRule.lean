import PgKinetic.Protocol.SqlClassify
import PgKinetic.Traffic.Routing

/-!
# Policy rules

`PolicyRuleSet::evaluate` goes through the rules in order. A rule that matches replaces the action
of the one before, and a **terminal** one ends the evaluation. So the rules that count are the
matching ones up to the first terminal one (`reached`), and edits of other rules change nothing
(`evaluate_reached`).
-/

namespace PgKinetic

open List Option

/-- `PolicyHookPoint`. -/
inductive PolicyHookPoint where
  | beforeRouting
  | afterRouting
  | beforeCheckout
  deriving DecidableEq, Repr

/-- `PolicyDecisionReason`. -/
inductive PolicyDecisionReason where
  | policyDenied
  | validationFailed
  | targetIdInvalid
  | contextRedacted
  deriving DecidableEq, Repr

/-- `PolicyRuleContext`. -/
structure PolicyRuleContext where
  database : Text := []
  user : Text := []
  applicationName : Option Text := none
  route : Option Text := none
  shard : Option Text := none
  backendRole : BackendRole := .unknown
  queryClass : QueryClass := .unknown
  hookPoint : PolicyHookPoint := .beforeRouting
  readOnlyTransaction : Bool := false
  hasShardKey : Bool := false
  policyTags : List Text := []

/-- `PolicyRuleMatch`, but for the criterion that the evaluation does not look at. -/
structure PolicyRuleMatch where
  databases : List Text := []
  users : List Text := []
  applicationNames : List Text := []
  routes : List Text := []
  shards : List Text := []
  backendRoles : List BackendRole := []
  queryClasses : List QueryClass := []
  hookPoints : List PolicyHookPoint := []
  readOnlyTransaction : Option Bool := none
  hasShardKey : Option Bool := none
  policyTags : List Text := []

/-- `matches_one_of` and `matches_text_field`. -/
def matchesOneOf {α : Type} [DecidableEq α] (values : List α) (actual : α) : Bool :=
  values.isEmpty || values.contains actual

/-- `matches_optional_text_field`. -/
def matchesOptionalTextField (values : List Text) : Option Text → Bool
  | some actual => matchesOneOf values actual
  | none => values.isEmpty

/-- `matches_optional_bool`. -/
def matchesOptionalBool (expected : Option Bool) (actual : Bool) : Bool :=
  expected.all (· == actual)

/-- `matches_policy_tags`. -/
def matchesPolicyTags (expected actual : List Text) : Bool :=
  expected.isEmpty || actual.any fun actualTag => expected.any (· == actualTag)

/-- `PolicyRuleMatch::matches`. -/
def PolicyRuleMatch.matchesContext (m : PolicyRuleMatch) (context : PolicyRuleContext) : Bool :=
  matchesOneOf m.databases context.database && matchesOneOf m.users context.user &&
    matchesOptionalTextField m.applicationNames context.applicationName &&
    matchesOptionalTextField m.routes context.route &&
    matchesOptionalTextField m.shards context.shard &&
    matchesOneOf m.backendRoles context.backendRole &&
    matchesOneOf m.queryClasses context.queryClass &&
    matchesOneOf m.hookPoints context.hookPoint &&
    matchesOptionalBool m.readOnlyTransaction context.readOnlyTransaction &&
    matchesOptionalBool m.hasShardKey context.hasShardKey &&
    matchesPolicyTags m.policyTags context.policyTags

/-- `PolicyRuleAction`. -/
inductive PolicyRuleAction where
  | allow (audit terminal : Bool)
  | deny (reason : PolicyDecisionReason) (audit terminal : Bool)
  | requirePrimary (audit terminal : Bool)
  | requireReplica (audit terminal : Bool)
  | routeOverride (targetId : Text) (audit terminal : Bool)
  | shardOverride (targetId : Text) (audit terminal : Bool)
  deriving DecidableEq, Repr

/-- `PolicyRuleAction::is_terminal`. -/
def PolicyRuleAction.isTerminal : PolicyRuleAction → Bool
  | allow _ terminal | deny _ _ terminal | requirePrimary _ terminal | requireReplica _ terminal
  | routeOverride _ _ terminal | shardOverride _ _ terminal => terminal

/-- `PolicyRuleAction::records_audit`. -/
def PolicyRuleAction.recordsAudit : PolicyRuleAction → Bool
  | allow audit _ | deny _ audit _ | requirePrimary audit _ | requireReplica audit _
  | routeOverride _ audit _ | shardOverride _ audit _ => audit

/-- `PolicyRule`. -/
structure PolicyRule where
  id : Text
  ruleMatch : PolicyRuleMatch
  action : PolicyRuleAction

/-- `PolicyRuleEvalResult`. -/
structure PolicyRuleEvalResult where
  matchedRuleIndices : List Nat := []
  matchedRuleIds : List Text := []
  auditRuleIds : List Text := []
  appliedRuleIndex : Option Nat := none
  appliedRuleId : Option Text := none
  appliedAction : Option PolicyRuleAction := none
  terminalRuleIndex : Option Nat := none
  terminalRuleId : Option Text := none

namespace PolicyRuleSet

/-- The loop of `evaluate`, from the rule of this index on. -/
def evaluateFrom (context : PolicyRuleContext) (ruleIndex : Nat) (result : PolicyRuleEvalResult) :
    List PolicyRule → PolicyRuleEvalResult
  | [] => result
  | rule :: rules =>
    if !rule.ruleMatch.matchesContext context then evaluateFrom context (ruleIndex + 1) result rules
    else
      let result := { result with
        matchedRuleIndices := result.matchedRuleIndices ++ [ruleIndex]
        matchedRuleIds := result.matchedRuleIds ++ [rule.id]
        appliedRuleIndex := some ruleIndex
        appliedRuleId := some rule.id
        appliedAction := some rule.action
        auditRuleIds := result.auditRuleIds ++ if rule.action.recordsAudit then [rule.id] else [] }
      if rule.action.isTerminal then
        { result with terminalRuleIndex := some ruleIndex, terminalRuleId := some rule.id }
      else evaluateFrom context (ruleIndex + 1) result rules

/-- `PolicyRuleSet::evaluate`. -/
def evaluate (rules : List PolicyRule) (context : PolicyRuleContext) : PolicyRuleEvalResult :=
  evaluateFrom context 0 {} rules

/-! ### The rules that count -/

/-- The elements up to the first that is terminal, and this one. -/
def reached {α : Type} (terminal : α → Bool) (l : List α) : List α :=
  l.takeWhile (!terminal ·) ++ (l.find? terminal).toList

theorem reached_cons {α : Type} (terminal : α → Bool) (a : α) (l : List α) :
    reached terminal (a :: l) = a :: if terminal a then [] else reached terminal l := by
  cases h : terminal a <;> simp [reached, h]

theorem reached_append {α : Type} {terminal : α → Bool} {a : α} (h : terminal a = true)
    (l m m' : List α) : reached terminal (l ++ a :: m) = reached terminal (l ++ a :: m') := by
  induction l with
  | nil => simp [reached_cons, h]
  | cons b l ih => simp [reached_cons, ih]

theorem getLast?_reached {α : Type} (terminal : α → Bool) (l : List α) :
    (reached terminal l).getLast? = (l.find? terminal).or l.getLast? := by
  cases h : l.find? terminal with
  | some a => simp [reached, h]
  | none =>
    have hself : l.takeWhile (!terminal ·) = l :=
      takeWhile_eq_self_iff.2 fun a ha => by simpa using find?_eq_none.1 h a ha
    simp [reached, h, hself]

variable (context : PolicyRuleContext) (rules : List PolicyRule)

/-- The rules that match. -/
def matching : List PolicyRule := rules.filter (·.ruleMatch.matchesContext context)

/-- The rules that match, with their indices. -/
def matchingFrom (ruleIndex : Nat) : List (PolicyRule × Nat) :=
  (rules.zipIdx ruleIndex).filter (·.1.ruleMatch.matchesContext context)

/-- **The loop** records the rules it reaches, and applies the last of them. -/
theorem evaluateFrom_reached (ruleIndex : Nat) (result : PolicyRuleEvalResult) :
    let after := evaluateFrom context ruleIndex result rules
    let rules' := reached (·.action.isTerminal) (matching context rules)
    after.matchedRuleIndices = result.matchedRuleIndices ++
        (reached (·.1.action.isTerminal) (matchingFrom context rules ruleIndex)).map (·.2) ∧
      after.auditRuleIds = result.auditRuleIds ++
        (rules'.filter (·.action.recordsAudit)).map (·.id) ∧
      after.appliedAction = (rules'.getLast?.map (·.action)).or result.appliedAction ∧
      after.appliedRuleId = (rules'.getLast?.map (·.id)).or result.appliedRuleId := by
  induction rules generalizing ruleIndex result with
  | nil => simp [evaluateFrom, matching, matchingFrom, reached]
  | cons rule rules ih =>
    cases hmatch : rule.ruleMatch.matchesContext context with
    | false => simpa [evaluateFrom, matching, matchingFrom, hmatch] using ih (ruleIndex + 1) result
    | true =>
      simp only [matching, matchingFrom, zipIdx_cons, filter_cons, hmatch, if_true, reached_cons,
        evaluateFrom, Bool.not_true, Bool.false_eq_true, if_false]
      cases hterminal : rule.action.isTerminal with
      | true => cases rule.action.recordsAudit <;> simp
      | false =>
        obtain ⟨hindices, haudits, haction, hid⟩ := ih (ruleIndex + 1) _
        simp only [if_false, Bool.false_eq_true]
        rw [hindices, haudits, haction, hid]
        cases rule.action.recordsAudit <;> simp [getLast?_cons, matching, matchingFrom]

/-- What is applied and audited. -/
def effect : Option PolicyRuleAction × Option Text × List Text :=
  let result := evaluate rules context
  (result.appliedAction, result.appliedRuleId, result.auditRuleIds)

theorem effect_congr {rules rules' : List PolicyRule}
    (h : reached (·.action.isTerminal) (matching context rules') =
      reached (·.action.isTerminal) (matching context rules)) :
    effect context rules' = effect context rules := by
  obtain ⟨-, haudits, haction, hid⟩ := evaluateFrom_reached context rules 0 {}
  obtain ⟨-, haudits', haction', hid'⟩ := evaluateFrom_reached context rules' 0 {}
  rw [effect, effect, evaluate, evaluate, haudits, haction, hid, haudits', haction', hid', h]

/-- **Policy rule evaluation.** The rules that count are those that match up to the first terminal
one, and the action applied is that of the terminal one, or of the last one that matches. Neither
edits that keep the rules that match in order nor any behind a terminal match change what is applied
and audited. -/
theorem evaluate_reached :
    (evaluate rules context).matchedRuleIndices =
        (reached (·.1.action.isTerminal) (matchingFrom context rules 0)).map (·.2) ∧
      (evaluate rules context).appliedAction =
        (((matching context rules).find? (·.action.isTerminal)).or
          (matching context rules).getLast?).map (·.action) ∧
      (∀ edited, matching context edited = matching context rules →
        effect context edited = effect context rules) ∧
      ∀ before rule after edited, rules = before ++ rule :: after →
        rule.ruleMatch.matchesContext context = true → rule.action.isTerminal = true →
        effect context (before ++ rule :: edited) = effect context rules := by
  obtain ⟨hindices, -, haction, -⟩ := evaluateFrom_reached context rules 0 {}
  refine ⟨hindices, ?_, fun edited h => effect_congr context (congrArg _ h), ?_⟩
  · rw [getLast?_reached, Option.or_none] at haction
    exact haction
  · rintro before rule after edited rfl hmatch hterminal
    refine effect_congr context ?_
    simp only [matching, filter_append, filter_cons, hmatch, if_true]
    exact @reached_append PolicyRule (·.action.isTerminal) rule hterminal _ _ _

theorem evaluate_reached_deny :
    effect {} [⟨['d'], {}, .deny .policyDenied false true⟩, ⟨['a'], {}, .allow true true⟩] =
      (some (.deny .policyDenied false true), some ['d'], []) :=
  (evaluate_reached {} [⟨['d'], {}, .deny .policyDenied false true⟩]).2.2.2 [] _ [] _ rfl rfl rfl

end PolicyRuleSet

end PgKinetic
