import Repricing.Action

namespace Repricing

/-- A competitor's new price, unless the current one is lower. -/
def priceMatch (rule : Rule) (skuId : String) (report : PriceDrop) (sku : Sku) :
    Except EvaluationError (String × ActionDetails) :=
  let suggested := (min report.newPrice sku.currentPrice).toCents
  match suggested.sub? sku.currentPrice with
  | some delta => .ok ("Match competitor price", .price ⟨skuId, sku.currentPrice, suggested, delta⟩)
  | none => .error (.overflow rule.id)

/-- The current price and the growth of the cost, in cents. -/
def priceIncrease (rule : Rule) (skuId : String) (report : CostIncrease) (sku : Sku) :
    Except EvaluationError (String × ActionDetails) :=
  match report.newCost.sub? report.oldCost with
  | some growth =>
    match sku.currentPrice.add? growth.toCents with
    | some suggested =>
      .ok ("Raise price to cover cost increase",
        .price ⟨skuId, sku.currentPrice, suggested.toCents, growth.toCents⟩)
    | none => .error (.overflow rule.id)
  | none => .error (.overflow rule.id)

/-- A notice with the rule's message, if its parameters hold one. -/
def notice (rule : Rule) (skuId : String) (payload : Payload) : String × ActionDetails :=
  let message := (rule.actionTemplate.params.lookup "message").bind Json.asString?
  match payload with
  | .stockLow report =>
    ("Low stock alert", .notify ⟨skuId, some report.available, some report.threshold, message⟩)
  | _ => ("Notification", .notify ⟨skuId, none, none, message⟩)

def suggestAction (event : Event) (sku : Sku) (rule : Rule) : Except EvaluationError SuggestedAction :=
  let type := rule.actionTemplate.type
  let built := match type, event.payload with
    | .priceMatch, .priceDrop report => priceMatch rule event.skuId report sku
    | .priceIncrease, .costIncrease report => priceIncrease rule event.skuId report sku
    | .notify, payload => .ok (notice rule event.skuId payload)
    | _, _ => .error (.templateMismatch rule.id type event.type)
  match built with
  | .ok (title, details) => .ok ⟨type, title, details, rule.id, rule.name⟩
  | .error e => .error e

end Repricing
