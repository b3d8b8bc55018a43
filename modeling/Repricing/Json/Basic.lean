import Repricing.Binary64.Shortest
import Repricing.Decimal.Text

namespace Repricing

/-- A number of a document: whole within 64 bits, signed or unsigned, else binary floating-point. -/
inductive Json.Number where
  | integer (n : Int)
  | float (x : Binary64)
  deriving DecidableEq

/-- A document. The reader keeps the members of an object in ascending order of their keys, each key once. -/
inductive Json where
  | null
  | bool (b : Bool)
  | number (n : Json.Number)
  | string (s : String)
  | array (items : List Json)
  | object (members : List (String × Json))

namespace Json

/-- The members with `value` under `key`, in ascending order of keys. -/
def insertMember {α : Type} (key : String) (value : α) : List (String × α) → List (String × α)
  | [] => [(key, value)]
  | (k, v) :: rest =>
    if key = k then (key, value) :: rest
    else if key < k then (key, value) :: (k, v) :: rest
    else (k, v) :: insertMember key value rest

/-- The members of a list in which a key may stand twice, sorted, the last value of each key. -/
def sortMembers {α : Type} (members : List (String × α)) : List (String × α) :=
  members.foldl (fun sorted m => insertMember m.1 m.2 sorted) []

theorem lookup_insertMember_self {α : Type} (key : String) (value : α) (members : List (String × α)) :
    (insertMember key value members).lookup key = some value := by
  induction members with
  | nil => simp [insertMember]
  | cons m rest ih =>
    obtain ⟨k, v⟩ := m
    unfold insertMember
    split
    · simp
    · next hne =>
      split
      · simp
      · simp [List.lookup_cons, beq_eq_false_iff_ne.2 hne, ih]

theorem lookup_insertMember_of_ne {α : Type} {key other : String} (value : α) (members : List (String × α))
    (h : other ≠ key) : (insertMember key value members).lookup other = members.lookup other := by
  induction members with
  | nil => simp [insertMember, List.lookup_cons, beq_eq_false_iff_ne.2 h]
  | cons m rest ih =>
    obtain ⟨k, v⟩ := m
    unfold insertMember
    split
    · next he =>
      subst he
      simp [List.lookup_cons, beq_eq_false_iff_ne.2 h]
    · split
      · simp [List.lookup_cons, beq_eq_false_iff_ne.2 h]
      · simp [List.lookup_cons, ih]

/-- The value under a key, if the document is an object that has the key. -/
def get? (key : String) : Json → Option Json
  | object members => members.lookup key
  | _ => none

def asString? : Json → Option String
  | string s => some s
  | _ => none

/-- A whole number as a document shows it: an integer where 64 bits hold it. -/
def ofInt (n : Int) : Json := number (.integer n)

/-- A member with a value, and none without. -/
def optionalMember {α : Type} (name : String) (toJson : α → Json) : Option α → List (String × Json)
  | some a => [(name, toJson a)]
  | none => []

/-- The characters of a number as a document shows it. -/
def Number.toChars : Number → List Char
  | integer n => (if n < 0 then ['-'] else []) ++ Nat.toDigits 10 n.natAbs
  | float x => x.documentText

def Number.toText (n : Number) : String := String.ofList n.toChars

/-- The decimal that the number's text spells, where there is one. -/
def Number.toDecimal? (n : Number) : Option Decimal := Decimal.ofChars? n.toChars

end Json

end Repricing
