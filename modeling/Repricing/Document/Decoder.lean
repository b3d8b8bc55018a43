import Repricing.Document.Error

namespace Repricing.Decoder

def text : Decoder String
  | .string s => .ok s
  | other => .error (.wrongType other "a string")

def bool : Decoder Bool
  | .bool b => .ok b
  | other => .error (.wrongType other "a boolean")

/-- A whole number that fits 64 bits with a sign. -/
def int64 : Decoder Int64
  | .number (.integer n) =>
    if IsInt64 n then .ok (Int64.ofInt n)
    else .error (.wrongValue (.number (.integer n)) "i64")
  | other => .error (.wrongType other "i64")

/-- An amount: a number, or a string that spells one. -/
def decimal (document : Json) : Except DecodeError Decimal :=
  let expected := "a Decimal type representing a fixed-point number"
  let found := match document with
    | .number n => some (Decimal.ofNumber? n)
    | .string s => some (Decimal.ofText? s)
    | _ => none
  match found with
  | some (some d) => .ok d
  | some none => .error (.wrongValue document expected)
  | none => .error (.wrongType document expected)

def members : Decoder (List (String × Json))
  | .object members => .ok members
  | other => .error (.wrongType other "a map")

/-- The items of an array, each read in turn. -/
def items {α : Type} (item : Decoder α) : Decoder (List α)
  | .array items => items.mapM item
  | other => .error (.wrongType other "a sequence")

def optional {α : Type} (value : Decoder α) : Decoder (Option α)
  | .null => .ok none
  | document => (value document).map some

/-- One of a fixed choice, by name. -/
def named {α : Type} (choice : List α) (name : α → String) (given : String) : Except DecodeError α :=
  match choice.find? fun a => name a = given with
  | some a => .ok a
  | none => .error (.unknownVariant given (choice.map name))

/-- One of a fixed choice: its name, or an object with its name as the only key, over null. -/
def variant {α : Type} (choice : List α) (name : α → String) : Decoder α
  | .string s => named choice name s
  | .object [(key, value)] =>
    match named choice name key, value with
    | .ok a, .null => .ok a
    | .ok _, other => .error (.wrongType other "unit")
    | .error e, _ => .error e
  | .object members => .error (.wrongValue (.object members) "map with a single key")
  | other => .error (.wrongType other "string or map")

def condition (document : Json) : Except DecodeError Condition :=
  match Condition.ofJson document with
  | .ok c => .ok c
  | .error e => .error (.badCondition e)

end Repricing.Decoder
