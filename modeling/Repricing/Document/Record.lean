import Repricing.Document.Decoder

/-!
Records of a fixed list of fields. A record is an object with a member for each field, or an array with the fields in
their order. Of the members that cannot be read the one with the least key is reported; a missing member is reported
only if all members that are there can be read, and then the first missing one in the order of the fields.
-/

namespace Repricing

/-- Why the fields of a record cannot be read from the members of an object. -/
inductive FieldFault where
  | bad (key : String) (cause : DecodeError)
  | missing (key : String)

namespace FieldFault

/-- The fault that is reported of two: a bad member before a missing one, the lesser key among bad members, the
first among missing ones. -/
def first : FieldFault → FieldFault → FieldFault
  | bad k e, bad k' e' => if k' < k then bad k' e' else bad k e
  | missing _, bad k e => bad k e
  | fault, missing _ => fault

def toError : FieldFault → DecodeError
  | bad _ cause => cause
  | missing key => .missingField key

end FieldFault

/-- Why the fields of a record cannot be read from the items of an array: one is bad, or they end too early. -/
inductive ItemFault where
  | bad (cause : DecodeError)
  | short (length : Nat)

/-- How the fields of a record are read, by name and by place. -/
structure Fields (α : Type) where
  names : List String
  ofMembers : List (String × Json) → Except FieldFault α
  /-- Reads from the items that are left, of which the first stands at the given place. -/
  ofItems : Nat → List Json → Except ItemFault (α × Nat × List Json)

namespace Fields

def none {α : Type} (a : α) : Fields α :=
  ⟨[], fun _ => .ok a, fun place items => .ok (a, place, items)⟩

/-- One more field: the record so far takes its value. -/
def more {α β : Type} (f : Fields (α → β)) (x : Fields α) : Fields β where
  names := f.names ++ x.names
  ofMembers := fun members =>
    match f.ofMembers members, x.ofMembers members with
    | .ok g, .ok a => .ok (g a)
    | .error e, .ok _ => .error e
    | .ok _, .error e => .error e
    | .error e, .error e' => .error (e.first e')
  ofItems := fun place items =>
    match f.ofItems place items with
    | .error e => .error e
    | .ok (g, place, items) =>
      match x.ofItems place items with
      | .error e => .error e
      | .ok (a, place, items) => .ok (g a, place, items)

/-- One field. `absent` is its value when an object has no such member, `leftOff` when an array ends before it. -/
def field {α : Type} (name : String) (value : Decoder α) (absent leftOff : Option α) : Fields α where
  names := [name]
  ofMembers := fun members =>
    match members.lookup name, absent with
    | some document, _ =>
      match value document with
      | .ok a => .ok a
      | .error e => .error (.bad name e)
    | Option.none, some a => .ok a
    | Option.none, Option.none => .error (.missing name)
  ofItems := fun place items =>
    match items, leftOff with
    | document :: rest, _ =>
      match value document with
      | .ok a => .ok (a, place + 1, rest)
      | .error e => .error (.bad e)
    | [], some a => .ok (a, place + 1, [])
    | [], Option.none => .error (.short place)

def required {α : Type} (name : String) (value : Decoder α) : Fields α := field name value .none .none

/-- A field that may be null or left out, of an object and at the end of an array. -/
def optional {α : Type} (name : String) (value : Decoder α) : Fields (Option α) :=
  field name (Decoder.optional value) (some .none) (some .none)

/-- A field that has a value of its own when it is left out. -/
def defaulted {α : Type} (name : String) (value : Decoder α) (default : α) : Fields α :=
  field name value (some default) (some default)

end Fields

/-- Where a record stands: on its own, or inside a document that is read in two passes. The second kind counts
superfluous items in another way. -/
inductive Setting where
  | direct
  | buffered
  deriving DecidableEq

/-- What a message expects of an array with too many items, of which `used` were read. -/
def Setting.expected (used : Nat) : Setting → String
  | direct => "fewer elements in array"
  | buffered => if used = 1 then "1 element in sequence" else toString used ++ " elements in sequence"

/-- A kind of record: its name in messages, its fields, and whether other members are refused. -/
structure RecordShape (α : Type) where
  name : String
  fields : Fields α
  closed : Bool

namespace RecordShape

/-- The first member that is no field, as a fault, if such members are refused. -/
def surplus? {α : Type} (shape : RecordShape α) (members : List (String × Json)) : Option FieldFault :=
  if shape.closed then
    (members.find? fun m => !shape.fields.names.contains m.1).map fun m =>
      .bad m.1 (.unknownField m.1 shape.fields.names)
  else none

def ofMembers {α : Type} (shape : RecordShape α) (members : List (String × Json)) : Except DecodeError α :=
  match shape.fields.ofMembers members, shape.surplus? members with
  | .ok a, none => .ok a
  | .ok _, some fault => .error fault.toError
  | .error fault, none => .error fault.toError
  | .error fault, some other => .error (fault.first other).toError

def ofItems {α : Type} (shape : RecordShape α) (setting : Setting) (items : List Json) : Except DecodeError α :=
  match shape.fields.ofItems 0 items with
  | .error (.bad cause) => .error cause
  | .error (.short length) =>
    let count := shape.fields.names.length
    .error (.wrongLength length (shape.name ++ " with " ++ toString count ++ " elements"))
  | .ok (a, _, []) => .ok a
  | .ok (_, used, _) => .error (.wrongLength items.length (setting.expected used))

def decode {α : Type} (shape : RecordShape α) (setting : Setting) : Decoder α
  | .object members => shape.ofMembers members
  | .array items => shape.ofItems setting items
  | other => .error (.wrongType other shape.name)

end RecordShape

end Repricing
