import Repricing.Event

namespace Repricing

/-- The two records that paths start from. -/
structure Context where
  payload : List (String × Value)
  sku : List (String × Value)

namespace Context

def ofEvent (event : Event) (sku : Sku) : Context := ⟨event.payload.record, sku.record⟩

/-- The position in a list that a segment writes: digits behind an optional plus sign, within 64 bits. -/
def position? (segment : String) : Option Nat := Decimal.readCount? (twoPow 64) segment.toList

/-- One segment further from a value: a field of a record or a filled place of a list. -/
def step? (segment : String) : Value → Option Value
  | .record fields => fields.lookup segment
  | .list slots => (position? segment).bind fun n => (slots[n]?).join
  | _ => none

def follow (segments : List String) (value : Value) : Option Value :=
  segments.foldlM (fun v segment => step? segment v) value

def root (c : Context) : Root → List (String × Value)
  | .payload => c.payload
  | .sku => c.sku

def resolve (c : Context) (p : Path) : Option Value := follow p.segments (.record (c.root p.root))

/-- The value at a path, given by its text; a text that is no path leads nowhere. -/
def lookup (c : Context) (path : String) : Option Value := (Path.ofText? path).bind c.resolve

def operand (c : Context) : Operand → Option Value
  | .path p => c.resolve p
  | .literal v => some v
  | .absent => none

end Context

end Repricing
