import Repricing.Recommendation

namespace Repricing.CommandLine

/-- The lines of a verdict on a price, behind an indentation. -/
def verdictLines (indent : String) (result : GuardrailResult) : List String :=
  let margin := match result.marginPctFinal with
    | some margin => " (margin " ++ margin.toText ++ "%)"
    | none => ""
  let approved :=
    indent ++ "OK " ++ result.suggestedPriceOriginal.toText ++ " -> " ++ result.suggestedPriceFinal.toText ++ margin
  let head := match result.safetyReason with
    | some reason =>
      if result.isBlocked then
        indent ++ "BLOCKED at " ++ result.suggestedPriceOriginal.toText ++ ": " ++ reason.message
      else approved
    | none => approved
  head :: result.reasons.map fun reason => indent ++ "  - " ++ reason

def detailLines : ActionDetails → List String
  | .price d =>
    ["    current " ++ d.currentPrice.toText ++ " suggested " ++ d.suggestedPrice.toText
      ++ " (delta " ++ d.delta.toText ++ ")"]
  | .notify d =>
    let stock := match d.available, d.threshold with
      | some available, some threshold =>
        ["    available " ++ toString available.toInt ++ " threshold " ++ toString threshold.toInt]
      | _, _ => []
    stock ++ (d.message.map fun message => "    " ++ message).toList

def recommendationLines (r : Recommendation) : List String :=
  let action := r.action
  let verdict := match r.guardrail with
    | some result => verdictLines "    " result
    | none => []
  (action.ruleId ++ "  " ++ action.type.name ++ "  " ++ action.title ++ " (" ++ action.reason ++ ")")
    :: (detailLines action.details ++ verdict)

def recommendationsLines (found : List Recommendation) : List String :=
  if found.isEmpty then ["no rules matched"] else found.flatMap recommendationLines

def traceLine (t : MatchTrace) : String :=
  let mark := if t.outcome = .matched then "+" else "-"
  "  " ++ mark ++ " " ++ t.ruleId ++ " (" ++ t.ruleName ++ "): " ++ t.outcome.describe

def matchedCount (traces : List MatchTrace) : Nat := (traces.filter fun t => t.outcome = .matched).length

def traceLines (event : Event) (traces : List MatchTrace) : List String :=
  (event.type.name ++ " event for " ++ event.skuId ++ ": " ++ toString (matchedCount traces) ++ " of "
    ++ toString traces.length ++ " rules matched") :: traces.map traceLine

def traceJson (t : MatchTrace) : Json :=
  .object
    [("ruleId", .string t.ruleId), ("ruleName", .string t.ruleName), ("outcome", .string t.outcome.name)]

end Repricing.CommandLine
