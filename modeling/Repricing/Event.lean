import Repricing.Document.Record

namespace Repricing

inductive EventType where
  | competitorPriceDrop
  | costIncrease
  | stockLow
  deriving DecidableEq

namespace EventType

def all : List EventType := [competitorPriceDrop, costIncrease, stockLow]

def name : EventType → String
  | competitorPriceDrop => "COMPETITOR_PRICE_DROP"
  | costIncrease => "COST_INCREASE"
  | stockLow => "STOCK_LOW"

/-- The name of the type in messages about a malformed event. -/
def label : EventType → String
  | competitorPriceDrop => "CompetitorPriceDrop"
  | costIncrease => "CostIncrease"
  | stockLow => "StockLow"

def decode : Decoder EventType := Decoder.variant all name

end EventType

/-- A competitor offers the article at a new price. -/
structure PriceDrop where
  newPrice : Decimal
  oldPrice : Option Decimal
  competitor : Option String
  deriving DecidableEq

/-- The article costs more to buy. -/
structure CostIncrease where
  oldCost : Decimal
  newCost : Decimal
  supplier : Option String
  deriving DecidableEq

/-- The stock of the article is at or below a threshold. -/
structure StockLow where
  available : Int64
  threshold : Int64
  deriving DecidableEq

inductive Payload where
  | priceDrop (report : PriceDrop)
  | costIncrease (report : CostIncrease)
  | stockLow (report : StockLow)
  deriving DecidableEq

structure Event where
  skuId : String
  payload : Payload
  deriving DecidableEq

def PriceDrop.shape : RecordShape PriceDrop where
  name := "struct CompetitorPriceDrop"
  fields := Fields.none PriceDrop.mk
    |>.more (.required "newPrice" Decoder.decimal)
    |>.more (.optional "oldPrice" Decoder.decimal)
    |>.more (.optional "competitor" Decoder.text)
  closed := true

def CostIncrease.shape : RecordShape CostIncrease where
  name := "struct CostIncrease"
  fields := Fields.none CostIncrease.mk
    |>.more (.required "oldCost" Decoder.decimal)
    |>.more (.required "newCost" Decoder.decimal)
    |>.more (.optional "supplier" Decoder.text)
  closed := true

def StockLow.shape : RecordShape StockLow where
  name := "struct StockLow"
  fields := Fields.none StockLow.mk
    |>.more (.required "available" Decoder.int64)
    |>.more (.required "threshold" Decoder.int64)
  closed := true

namespace Payload

def type : Payload → EventType
  | priceDrop _ => .competitorPriceDrop
  | costIncrease _ => .costIncrease
  | stockLow _ => .stockLow

def decode : EventType → Decoder Payload
  | .competitorPriceDrop => fun document => (PriceDrop.shape.decode .buffered document).map priceDrop
  | .costIncrease => fun document => (CostIncrease.shape.decode .buffered document).map costIncrease
  | .stockLow => fun document => (StockLow.shape.decode .buffered document).map stockLow

def toJson : Payload → Json
  | priceDrop r =>
    .object <| [("newPrice", .string r.newPrice.toText)]
      ++ Json.optionalMember "oldPrice" (fun d => .string d.toText) r.oldPrice
      ++ Json.optionalMember "competitor" .string r.competitor
  | costIncrease r =>
    .object <| [("oldCost", .string r.oldCost.toText), ("newCost", .string r.newCost.toText)]
      ++ Json.optionalMember "supplier" .string r.supplier
  | stockLow r => .object [("available", .ofInt r.available.toInt), ("threshold", .ofInt r.threshold.toInt)]

/-- The payload as conditions see it. -/
def record : Payload → List (String × Value)
  | priceDrop r =>
    (r.competitor.map fun s => ("competitor", Value.text s)).toList
      ++ [("newPrice", .number r.newPrice)]
      ++ (r.oldPrice.map fun d => ("oldPrice", Value.number d)).toList
  | costIncrease r =>
    [("newCost", .number r.newCost), ("oldCost", .number r.oldCost)]
      ++ (r.supplier.map fun s => ("supplier", Value.text s)).toList
  | stockLow r =>
    [("available", .number (.ofInt64 r.available)), ("threshold", .number (.ofInt64 r.threshold))]

end Payload

namespace Event

def type (e : Event) : EventType := e.payload.type

/-- An event of the given type, beside the type's name. -/
def shape (type : EventType) : RecordShape Event where
  name := "struct variant Event::" ++ type.label
  fields := Fields.none Event.mk
    |>.more (.required "skuId" Decoder.text)
    |>.more (.required "payload" (Payload.decode type))
  closed := false

def decodeType : Decoder EventType
  | .string s => Decoder.named EventType.all EventType.name s
  | other => .error (.wrongType other "variant identifier")

/-- Reads an event: an object, or an array that starts with the type. -/
def decode : Decoder Event
  | .object members =>
    match members.lookup "type" with
    | none => .error (.missingField "type")
    | some tag => do
      let type ← decodeType tag
      (shape type).ofMembers members
  | .array [] => .error (.missingField "type")
  | .array (tag :: items) => do
    let type ← decodeType tag
    (shape type).ofItems .buffered items
  | other => .error (.wrongType other "internally tagged enum Event")

def toJson (e : Event) : Json :=
  .object [("type", .string e.type.name), ("skuId", .string e.skuId), ("payload", e.payload.toJson)]

end Event

/-- An article with its attributes, in ascending order of their names. -/
structure Sku where
  id : Option String
  cost : Decimal
  currentPrice : Decimal
  attributes : List (String × Json)

namespace Sku

def shape : RecordShape Sku where
  name := "struct SkuSnapshot"
  fields := Fields.none Sku.mk
    |>.more (.optional "id" Decoder.text)
    |>.more (.required "cost" Decoder.decimal)
    |>.more (.required "currentPrice" Decoder.decimal)
    |>.more (.defaulted "attributes" Decoder.members [])
  closed := false

def decode : Decoder Sku := shape.decode .direct

def toJson (s : Sku) : Json :=
  .object <| Json.optionalMember "id" .string s.id
    ++ [("cost", .string s.cost.toText), ("currentPrice", .string s.currentPrice.toText)]
    ++ (if s.attributes.isEmpty then [] else [("attributes", .object s.attributes)])

/-- The article as conditions see it. Without attributes there is no such field. -/
def record (s : Sku) : List (String × Value) :=
  (if s.attributes.isEmpty then [] else [("attributes", .record (Value.fieldsOf s.attributes))])
    ++ [("cost", .number s.cost), ("currentPrice", .number s.currentPrice)]
    ++ (s.id.map fun id => ("id", Value.text id)).toList

end Sku

end Repricing
