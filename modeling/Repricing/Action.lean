import Repricing.Rule

namespace Repricing

/-- A suggested price, before guardrails. -/
structure PriceDetails where
  skuId : String
  currentPrice : Decimal
  suggestedPrice : Decimal
  delta : Decimal
  deriving DecidableEq

structure NotifyDetails where
  skuId : String
  available : Option Int64
  threshold : Option Int64
  message : Option String
  deriving DecidableEq

inductive ActionDetails where
  | price (details : PriceDetails)
  | notify (details : NotifyDetails)
  deriving DecidableEq

/-- What one matched rule suggests. The reason is the rule's name. -/
structure SuggestedAction where
  type : ActionType
  title : String
  details : ActionDetails
  ruleId : String
  reason : String
  deriving DecidableEq

def PriceDetails.shape : RecordShape PriceDetails where
  name := "struct PriceDetails"
  fields := Fields.none PriceDetails.mk
    |>.more (.required "skuId" Decoder.text)
    |>.more (.required "currentPrice" Decoder.decimal)
    |>.more (.required "suggestedPrice" Decoder.decimal)
    |>.more (.required "delta" Decoder.decimal)
  closed := false

def NotifyDetails.shape : RecordShape NotifyDetails where
  name := "struct NotifyDetails"
  fields := Fields.none NotifyDetails.mk
    |>.more (.required "skuId" Decoder.text)
    |>.more (.optional "available" Decoder.int64)
    |>.more (.optional "threshold" Decoder.int64)
    |>.more (.optional "message" Decoder.text)
  closed := false

namespace ActionDetails

/-- The details carry no type of their own: they are those of a price if they can be read so, else those of a notice. -/
def decode (document : Json) : Except DecodeError ActionDetails :=
  match PriceDetails.shape.decode .buffered document with
  | .ok details => .ok (price details)
  | .error _ =>
    match NotifyDetails.shape.decode .buffered document with
    | .ok details => .ok (notify details)
    | .error _ => .error (.noVariant "ActionDetails")

def toJson : ActionDetails → Json
  | price d =>
    .object
      [("skuId", .string d.skuId), ("currentPrice", .string d.currentPrice.toText),
        ("suggestedPrice", .string d.suggestedPrice.toText), ("delta", .string d.delta.toText)]
  | notify d =>
    .object <| [("skuId", .string d.skuId)]
      ++ Json.optionalMember "available" (fun n : Int64 => Json.ofInt n.toInt) d.available
      ++ Json.optionalMember "threshold" (fun n : Int64 => Json.ofInt n.toInt) d.threshold
      ++ Json.optionalMember "message" .string d.message

end ActionDetails

namespace SuggestedAction

def suggestedPrice? (a : SuggestedAction) : Option Decimal :=
  match a.details with
  | .price d => some d.suggestedPrice
  | .notify _ => none

def shape : RecordShape SuggestedAction where
  name := "struct SuggestedAction"
  fields := Fields.none SuggestedAction.mk
    |>.more (.required "type" ActionType.decode)
    |>.more (.required "title" Decoder.text)
    |>.more (.required "details" ActionDetails.decode)
    |>.more (.required "ruleId" Decoder.text)
    |>.more (.required "reason" Decoder.text)
  closed := false

def decode : Decoder SuggestedAction := shape.decode .direct

def toJson (a : SuggestedAction) : Json :=
  .object
    [("type", .string a.type.name), ("title", .string a.title), ("details", a.details.toJson),
      ("ruleId", .string a.ruleId), ("reason", .string a.reason)]

end SuggestedAction

end Repricing
