import Repricing.Decimal.Wire

namespace Repricing

/-- A value that conditions compare. A list keeps the place of a missing element, a record leaves the field out. -/
inductive Value where
  | number (d : Decimal)
  | text (s : String)
  | bool (b : Bool)
  | record (fields : List (String × Value))
  | list (slots : List (Option Value))

namespace Value

def asNumber? : Value → Option Decimal
  | number d => some d
  | _ => none

mutual

/-- The value of a document. Null has none, and neither has a number that is no decimal. -/
def ofJson : Json → Option Value
  | .null => none
  | .bool b => some (bool b)
  | .number n => n.toDecimal?.map number
  | .string s => some (text s)
  | .array items => some (list (slotsOf items))
  | .object members => some (record (fieldsOf members))

def slotsOf : List Json → List (Option Value)
  | [] => []
  | item :: rest => ofJson item :: slotsOf rest

def fieldsOf : List (String × Json) → List (String × Value)
  | [] => []
  | (key, item) :: rest =>
    match ofJson item with
    | some value => (key, value) :: fieldsOf rest
    | none => fieldsOf rest

end

mutual

def toJson : Value → Json
  | number d => d.toJson
  | text s => .string s
  | bool b => .bool b
  | record fields => .object (fieldsToJson fields)
  | list slots => .array (slotsToJson slots)

def fieldsToJson : List (String × Value) → List (String × Json)
  | [] => []
  | (key, value) :: rest => (key, toJson value) :: fieldsToJson rest

def slotsToJson : List (Option Value) → List Json
  | [] => []
  | none :: rest => .null :: slotsToJson rest
  | some value :: rest => toJson value :: slotsToJson rest

end

mutual

/-- Equality of values; numbers are equal by value, whatever their scale. -/
def same : Value → Value → Bool
  | number a, number b => decide (Decimal.SameValue a b)
  | text a, text b => a == b
  | bool a, bool b => a == b
  | record a, record b => sameFields a b
  | list a, list b => sameSlots a b
  | _, _ => false

def sameFields : List (String × Value) → List (String × Value) → Bool
  | [], [] => true
  | (key, a) :: as, (key', b) :: bs => key == key' && same a b && sameFields as bs
  | _, _ => false

def sameSlots : List (Option Value) → List (Option Value) → Bool
  | [], [] => true
  | none :: as, none :: bs => sameSlots as bs
  | some a :: as, some b :: bs => same a b && sameSlots as bs
  | _, _ => false

end

/-- Equality where a value may be missing: a missing value equals only a missing value. -/
def same? : Option Value → Option Value → Bool
  | none, none => true
  | some a, some b => same a b
  | _, _ => false

theorem slotsOf_eq_map (items : List Json) : slotsOf items = items.map ofJson := by
  induction items with
  | nil => simp [slotsOf]
  | cons item rest ih => simp [slotsOf, ih]

end Value

end Repricing
