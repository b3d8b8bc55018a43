import Repricing.Condition.Basic
import Repricing.Json.Printer

namespace Repricing

inductive ConditionError where
  | noOperator (node : Json)
  | noChildren (op : Connective)
  | emptyChildren (op : Connective)
  | unknownOperator (name : String)
  | noLeft (op : Comparison)
  | noRight (op : Comparison)
  | notRepresentable (operand : Json)
  | notScalar (operand : Json)

def ConditionError.message : ConditionError → String
  | noOperator node => "condition node missing string 'op': " ++ node.compact
  | noChildren op => "'" ++ op.name ++ "' missing 'children' array"
  | emptyChildren op => "'" ++ op.name ++ "' requires at least one child"
  | unknownOperator name => "unknown operator '" ++ name ++ "'"
  | noLeft op => "'" ++ op.name ++ "' missing 'left'"
  | noRight op => "'" ++ op.name ++ "' missing 'right'"
  | notRepresentable operand => "operand " ++ operand.compact ++ " is not representable"
  | notScalar operand => "operand must be a scalar or a dotted path, got " ++ operand.compact

/-- The operand that a document holds. A string with the beginning of a path is a path. -/
def Operand.ofJson (document : Json) : Except ConditionError Operand :=
  match document with
  | .null => .ok absent
  | .string s =>
    match Path.ofText? s with
    | some p => .ok (path p)
    | none => .ok (literal (.text s))
  | .bool b => .ok (literal (.bool b))
  | .number n =>
    match n.toDecimal? with
    | some d => .ok (literal (.number d))
    | none => .error (.notRepresentable document)
  | .array _ => .error (.notScalar document)
  | .object _ => .error (.notScalar document)

namespace Json

theorem sizeOf_lookup_lt {key : String} {value : Json} {members : List (String × Json)}
    (h : members.lookup key = some value) : sizeOf value < sizeOf members := by
  induction members with
  | nil => simp at h
  | cons m rest ih =>
    obtain ⟨k, v⟩ := m
    rw [List.lookup_cons] at h
    split at h
    · cases h
      simp
      omega
    · have := ih h
      simp
      omega

theorem sizeOf_get?_lt {key : String} {document value : Json} (h : document.get? key = some value) :
    sizeOf value < sizeOf document := by
  cases document with
  | object members =>
    have := sizeOf_lookup_lt (show members.lookup key = some value from h)
    simp
    omega
  | _ => simp [get?] at h

end Json

namespace Condition

mutual

def ofJson (document : Json) : Except ConditionError Condition :=
  match document.get? "op" with
  | some (.string name) =>
    match Connective.ofName? name with
    | some op =>
      match _h : document.get? "children" with
      | some (.array items) =>
        if items.isEmpty then .error (.emptyChildren op)
        else
          match ofItems items with
          | .ok children => .ok (junction op children)
          | .error e => .error e
      | _ => .error (.noChildren op)
    | none =>
      match Comparison.ofName? name with
      | none => .error (.unknownOperator name)
      | some op =>
        match document.get? "left" with
        | none => .error (.noLeft op)
        | some left =>
          match document.get? "right" with
          | none => .error (.noRight op)
          | some right => do
            let left ← Operand.ofJson left
            let right ← Operand.ofJson right
            .ok (compare op left right)
  | _ => .error (.noOperator document)
termination_by sizeOf document
decreasing_by
  have := Json.sizeOf_get?_lt _h
  simp at this
  omega

/-- The conditions of a list of documents, or the fault of the first that is none. -/
def ofItems : List Json → Except ConditionError (List Condition)
  | [] => .ok []
  | item :: rest =>
    match ofJson item with
    | .error e => .error e
    | .ok child =>
      match ofItems rest with
      | .error e => .error e
      | .ok children => .ok (child :: children)
termination_by items => sizeOf items

end

end Condition

end Repricing
