import Repricing.Condition.Holds
import Repricing.Rule

namespace Repricing

/-- What becomes of a rule when an event arrives. -/
inductive MatchOutcome where
  | matched
  | disabled
  | eventTypeMismatch
  | conditionFalse
  deriving DecidableEq

namespace MatchOutcome

def name : MatchOutcome → String
  | matched => "MATCHED"
  | disabled => "DISABLED"
  | eventTypeMismatch => "EVENT_TYPE_MISMATCH"
  | conditionFalse => "CONDITION_FALSE"

def describe : MatchOutcome → String
  | matched => "matched"
  | disabled => "rule is disabled"
  | eventTypeMismatch => "rule listens for a different event type"
  | conditionFalse => "condition is false"

end MatchOutcome

structure MatchTrace where
  ruleId : String
  ruleName : String
  outcome : MatchOutcome
  deriving DecidableEq

/-- The outcome of the rule for an event of the given type in a context. The first obstacle counts: being disabled, the
type, the condition. -/
def Rule.outcome (event : EventType) (c : Context) (rule : Rule) : MatchOutcome :=
  if !rule.enabled then .disabled
  else if rule.eventType ≠ event then .eventTypeMismatch
  else if !rule.condition.holds c then .conditionFalse
  else .matched

def matchRules (event : Event) (sku : Sku) (rules : List Rule) : List Rule :=
  rules.filter fun rule => rule.outcome event.type (.ofEvent event sku) = .matched

def explainMatches (event : Event) (sku : Sku) (rules : List Rule) : List MatchTrace :=
  rules.map fun rule => ⟨rule.id, rule.name, rule.outcome event.type (.ofEvent event sku)⟩

theorem mem_matchRules_iff {event : Event} {sku : Sku} {rules : List Rule} {rule : Rule} :
    rule ∈ matchRules event sku rules ↔
      rule ∈ rules ∧ rule.outcome event.type (.ofEvent event sku) = .matched := by
  simp [matchRules]

end Repricing
