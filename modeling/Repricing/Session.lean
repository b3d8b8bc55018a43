import Repricing.Recommendation

namespace Repricing

structure Session where
  sku : Sku
  policy : Policy
  rules : List Rule

namespace Session

inductive Step where
  | setPolicy (policy : Policy)
  | setCost (cost : Decimal)
  | setCurrentPrice (price : Decimal)
  | add (rule : Rule)
  | enable (id : String) (enabled : Bool)
  | remove (id : String)
  | explain (event : Event)
  | evaluate (event : Event)
  | check (price : Decimal)
  | apply (event : Event)

inductive Reply where
  | done
  | count (n : Nat)
  | traces (traces : List MatchTrace)
  | recommendations (recommendations : List Recommendation)
  | verdict (result : GuardrailResult)
  | verdicts (results : List GuardrailResult)

def withCurrentPrice (s : Session) (price : Decimal) : Session :=
  { s with sku := { s.sku with currentPrice := price } }

/-- The verdict on a price as the session stands. -/
def verdict (s : Session) (price : Decimal) : GuardrailResult :=
  enforce s.sku.cost s.sku.currentPrice price s.policy

/-- Applies a price: if it is approved as the session stands, the approved price becomes the current one. -/
def applyPrice (s : Session) (price : Decimal) : Session × GuardrailResult :=
  let result := s.verdict price
  (if result.isOk then s.withCurrentPrice result.suggestedPriceFinal else s, result)

def applyPrices (s : Session) : List Decimal → Session × List GuardrailResult
  | [] => (s, [])
  | price :: rest =>
    let (s, result) := s.applyPrice price
    let (s, results) := applyPrices s rest
    (s, result :: results)

/-- The final price of an approved recommendation. -/
def approvedPrice? (r : Recommendation) : Option Decimal :=
  r.guardrail.bind fun result => if result.isOk then some result.suggestedPriceFinal else none

/-- The session after a step, and the reply; a step that fails leaves the session as it was. -/
def step (s : Session) : Step → Except EvaluationError (Session × Reply)
  | .setPolicy policy => .ok ({ s with policy }, .done)
  | .setCost cost => .ok ({ s with sku := { s.sku with cost } }, .done)
  | .setCurrentPrice price => .ok (s.withCurrentPrice price, .done)
  | .add rule => .ok ({ s with rules := s.rules ++ [rule] }, .count (s.rules.length + 1))
  | .enable id enabled =>
    let rules := s.rules.map fun rule => if rule.id = id then { rule with enabled } else rule
    .ok ({ s with rules }, .count (s.rules.filter fun rule => rule.id = id).length)
  | .remove id =>
    let rules := s.rules.filter fun rule => rule.id ≠ id
    .ok ({ s with rules }, .count rules.length)
  | .explain event => .ok (s, .traces (explainMatches event s.sku s.rules))
  | .evaluate event =>
    match Repricing.evaluate event s.sku s.rules s.policy with
    | .ok found => .ok (s, .recommendations found)
    | .error e => .error e
  | .check price => .ok (s, .verdict (s.verdict price))
  | .apply event =>
    match Repricing.evaluate event s.sku s.rules s.policy with
    | .ok found =>
      let (s, results) := s.applyPrices (found.filterMap approvedPrice?)
      .ok (s, .verdicts results)
    | .error e => .error e

end Session

end Repricing
