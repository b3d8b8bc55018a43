import Repricing.Guardrail.Enforce
import Repricing.Matching
import Repricing.Synthesis

namespace Repricing

/-- One matched rule's suggestion; a price comes with a verdict. -/
structure Recommendation where
  action : SuggestedAction
  guardrail : Option GuardrailResult
  deriving DecidableEq

namespace Recommendation

def isBlocked (r : Recommendation) : Bool := r.guardrail.any GuardrailResult.isBlocked

def shape : RecordShape Recommendation where
  name := "struct Recommendation"
  fields := Fields.none Recommendation.mk
    |>.more (.required "action" SuggestedAction.decode)
    |>.more (.field "guardrail" (Decoder.optional GuardrailResult.decode) (some none) none)
  closed := false

def decode : Decoder Recommendation := shape.decode .direct

def toJson (r : Recommendation) : Json :=
  let guardrail := match r.guardrail with
    | some result => result.toJson
    | none => .null
  .object [("action", r.action.toJson), ("guardrail", guardrail)]

def ofAction (sku : Sku) (policy : Policy) (action : SuggestedAction) : Recommendation :=
  ⟨action, action.suggestedPrice?.map fun price => enforce sku.cost sku.currentPrice price policy⟩

end Recommendation

/-- The recommendations for an event, or the first error among the matched rules. -/
def evaluate (event : Event) (sku : Sku) (rules : List Rule) (policy : Policy) :
    Except EvaluationError (List Recommendation) :=
  match (matchRules event sku rules).mapM (suggestAction event sku) with
  | .ok actions => .ok (actions.map (Recommendation.ofAction sku policy))
  | .error e => .error e

end Repricing
