import Repricing.Value

namespace Repricing

/-- What a dotted path starts from: the payload of the event, or the article. -/
inductive Root where
  | payload
  | sku
  deriving DecidableEq

def Root.lead : Root → List Char
  | payload => ['p', 'a', 'y', 'l', 'o', 'a', 'd', '.']
  | sku => ['s', 'k', 'u', '.']

/-- A dotted path: where it starts, and what stands behind the first dot. -/
structure Path where
  root : Root
  rest : List Char
  deriving DecidableEq

namespace Path

def text (p : Path) : String := String.ofList (p.root.lead ++ p.rest)

/-- The path that a text writes; a text with another beginning is none. -/
def ofText? (s : String) : Option Path :=
  match s.toList with
  | 'p' :: 'a' :: 'y' :: 'l' :: 'o' :: 'a' :: 'd' :: '.' :: rest => some ⟨.payload, rest⟩
  | 's' :: 'k' :: 'u' :: '.' :: rest => some ⟨.sku, rest⟩
  | _ => none

theorem ofText?_text (p : Path) : ofText? p.text = some p := by
  obtain ⟨root, rest⟩ := p
  cases root <;> simp [ofText?, text, Root.lead]

theorem text_of_ofText? {s : String} {p : Path} (h : ofText? s = some p) : p.text = s := by
  unfold ofText? at h
  split at h
  · next rest hs =>
    cases h
    simp only [text, Root.lead, List.cons_append, List.nil_append]
    rw [← hs, String.ofList_toList]
  · next rest hs =>
    cases h
    simp only [text, Root.lead, List.cons_append, List.nil_append]
    rw [← hs, String.ofList_toList]
  · cases h

/-- The parts of a text between its dots; a text without dots is one part. -/
def splitDots : List Char → List (List Char)
  | [] => [[]]
  | c :: rest =>
    match splitDots rest with
    | [] => [[c]]
    | part :: parts => if c = '.' then [] :: part :: parts else (c :: part) :: parts

def segments (p : Path) : List String := (splitDots p.rest).map String.ofList

end Path

inductive Comparison where
  | lt
  | lte
  | gt
  | gte
  | eq
  | neq
  deriving DecidableEq

namespace Comparison

def name : Comparison → String
  | lt => "lt"
  | lte => "lte"
  | gt => "gt"
  | gte => "gte"
  | eq => "eq"
  | neq => "neq"

def ofName? (s : String) : Option Comparison :=
  [lt, lte, gt, gte, eq, neq].find? fun op => op.name = s

end Comparison

inductive Connective where
  | all
  | any
  deriving DecidableEq

namespace Connective

def name : Connective → String
  | all => "and"
  | any => "or"

def ofName? (s : String) : Option Connective :=
  [all, any].find? fun op => op.name = s

end Connective

/-- One side of a comparison. An absent operand equals only a missing value. -/
inductive Operand where
  | path (p : Path)
  | literal (v : Value)
  | absent

inductive Condition where
  | compare (op : Comparison) (left right : Operand)
  | junction (op : Connective) (children : List Condition)

def Operand.toJson : Operand → Json
  | path p => .string p.text
  | literal v => v.toJson
  | absent => .null

namespace Condition

mutual

def toJson : Condition → Json
  | compare op left right =>
    .object [("left", left.toJson), ("op", .string op.name), ("right", right.toJson)]
  | junction op children =>
    .object [("children", .array (childrenToJson children)), ("op", .string op.name)]

def childrenToJson : List Condition → List Json
  | [] => []
  | child :: rest => toJson child :: childrenToJson rest

end

end Condition

end Repricing
