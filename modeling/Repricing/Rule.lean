import Repricing.Event

namespace Repricing

inductive ActionType where
  | priceMatch
  | priceIncrease
  | notify
  deriving DecidableEq

namespace ActionType

def all : List ActionType := [priceMatch, priceIncrease, notify]

def name : ActionType → String
  | priceMatch => "PRICE_MATCH"
  | priceIncrease => "PRICE_INCREASE"
  | notify => "NOTIFY"

/-- The only type of event that the action can be built from, if there is one. -/
def requiredEvent? : ActionType → Option EventType
  | priceMatch => some .competitorPriceDrop
  | priceIncrease => some .costIncrease
  | notify => none

def decode : Decoder ActionType := Decoder.variant all name

end ActionType

/-- An action to build, with its parameters in ascending order of their names. -/
structure ActionTemplate where
  type : ActionType
  params : List (String × Json)

structure Rule where
  id : String
  name : String
  eventType : EventType
  enabled : Bool
  condition : Condition
  actionTemplate : ActionTemplate

/-- Why no action comes from a matched rule: its template needs another event, or a price leaves the range of
decimals. -/
inductive EvaluationError where
  | templateMismatch (ruleId : String) (action : ActionType) (event : EventType)
  | overflow (ruleId : String)
  deriving DecidableEq

def EvaluationError.message : EvaluationError → String
  | templateMismatch ruleId action event =>
    "rule '" ++ ruleId ++ "': " ++ action.name ++ " action cannot be built from a " ++ event.name ++ " event"
  | overflow ruleId => "rule '" ++ ruleId ++ "': price arithmetic overflowed"

namespace ActionTemplate

def shape : RecordShape ActionTemplate where
  name := "struct ActionTemplate"
  fields := Fields.none ActionTemplate.mk
    |>.more (.required "type" ActionType.decode)
    |>.more (.defaulted "params" Decoder.members [])
  closed := false

def toJson (t : ActionTemplate) : Json :=
  .object <| [("type", .string t.type.name)] ++ (if t.params.isEmpty then [] else [("params", .object t.params)])

end ActionTemplate

namespace Rule

def shape : RecordShape Rule where
  name := "struct Rule"
  fields := Fields.none Rule.mk
    |>.more (.required "id" Decoder.text)
    |>.more (.required "name" Decoder.text)
    |>.more (.required "eventType" EventType.decode)
    |>.more (.required "enabled" Decoder.bool)
    |>.more (.required "condition" Decoder.condition)
    |>.more (.required "actionTemplate" (ActionTemplate.shape.decode .direct))
  closed := false

def decode : Decoder Rule := shape.decode .direct

def toJson (r : Rule) : Json :=
  .object
    [("id", .string r.id), ("name", .string r.name), ("eventType", .string r.eventType.name),
      ("enabled", .bool r.enabled), ("condition", r.condition.toJson), ("actionTemplate", r.actionTemplate.toJson)]

def templateFault? (r : Rule) : Option EvaluationError :=
  match r.actionTemplate.type.requiredEvent? with
  | some required =>
    if required = r.eventType then none
    else some (.templateMismatch r.id r.actionTemplate.type r.eventType)
  | none => none

end Rule

end Repricing
