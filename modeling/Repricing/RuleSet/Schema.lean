import Repricing.Rule

namespace Repricing.RuleSet

inductive SchemaFault where
  | wrongType (found : Json) (expected : String)
  | missingMember (name : String)
  | otherMembers (names : List String)
  | notOneOf (found : Json) (choice : List String)
  | notConstant (expected : String)
  | tooShort (found : Json)
  | noAlternative (found : Json)

/-- Texts joined by commas, the last one by "or". -/
def alternatives : List String → String
  | [] => ""
  | [a] => a
  | [a, b] => a ++ " or " ++ b
  | a :: rest => a ++ ", " ++ alternatives rest

namespace SchemaFault

def message : SchemaFault → String
  | wrongType found expected => found.compact ++ " is not of type " ++ Json.quote expected
  | missingMember name => Json.quote name ++ " is a required property"
  | otherMembers names =>
    let verb := if names.length = 1 then " was unexpected)" else " were unexpected)"
    "Additional properties are not allowed (" ++ ", ".intercalate (names.map fun name => "'" ++ name ++ "'") ++ verb
  | notOneOf found choice => found.compact ++ " is not one of " ++ alternatives (choice.map Json.quote)
  | notConstant expected => Json.quote expected ++ " was expected"
  | tooShort found => found.compact ++ " is shorter than 1 character"
  | noAlternative found =>
    found.compact ++ " is not valid under any of the schemas listed in the 'oneOf' keyword"

end SchemaFault

def isScalar : Json → Bool
  | .array _ => false
  | .object _ => false
  | _ => true

def isOneOf (choice : List String) : Json → Bool
  | .string s => choice.contains s
  | _ => false

/-- The object has members of all the given names, and no others. -/
def hasExactly (names : List String) (members : List (String × Json)) : Bool :=
  names.all (fun name => (members.lookup name).isSome) && members.all fun m => names.contains m.1

/-- A comparison: an operator and two scalars. -/
def isComparison : Json → Bool
  | .object members =>
    hasExactly ["op", "left", "right"] members
      && (members.lookup "op").any (isOneOf ["lt", "lte", "gt", "gte", "eq", "neq"])
      && (members.lookup "left").any isScalar && (members.lookup "right").any isScalar
  | _ => false

mutual

/-- A condition: a comparison, or a junction of at least one condition. -/
def isCondition (document : Json) : Bool :=
  isComparison document ||
    match document with
    | .object members =>
      hasExactly ["op", "children"] members && (members.lookup "op").any (isOneOf ["and", "or"]) &&
        match _h : members.lookup "children" with
        | some (.array items) => !items.isEmpty && areConditions items
        | _ => false
    | _ => false
termination_by sizeOf document
decreasing_by
  have := Json.sizeOf_lookup_lt _h
  simp at this ⊢
  omega

def areConditions : List Json → Bool
  | [] => true
  | item :: rest => isCondition item && areConditions rest
termination_by items => sizeOf items

end

/-- Faults of the members that an object has none of. -/
def missingFaults (names : List String) (members : List (String × Json)) : List SchemaFault :=
  (names.filter fun name => (members.lookup name).isNone).map .missingMember

/-- The fault of the members that are not among the given ones. -/
def otherFaults (names : List String) (members : List (String × Json)) : List SchemaFault :=
  match (members.filter fun m => !names.contains m.1).map Prod.fst with
  | [] => []
  | others => [.otherMembers others]

def textFaults : Json → List SchemaFault
  | .string _ => []
  | other => [.wrongType other "string"]

def idFaults : Json → List SchemaFault
  | .string s => if s.isEmpty then [.tooShort (.string s)] else []
  | other => [.wrongType other "string"]

def flagFaults : Json → List SchemaFault
  | .bool _ => []
  | other => [.wrongType other "boolean"]

def choiceFaults (choice : List String) (document : Json) : List SchemaFault :=
  if isOneOf choice document then [] else [.notOneOf document choice]

def conditionFaults (document : Json) : List SchemaFault :=
  if isCondition document then [] else [.noAlternative document]

def paramsFaults : Json → List SchemaFault
  | .object _ => []
  | other => [.wrongType other "object"]

/-- Faults of an action template: its members in their order, then members that do not belong, then missing ones. -/
def templateFaults : Json → List SchemaFault
  | .object members =>
    (members.flatMap fun m =>
      if m.1 = "type" then choiceFaults ["PRICE_MATCH", "PRICE_INCREASE", "NOTIFY"] m.2
      else if m.1 = "params" then paramsFaults m.2
      else [])
      ++ otherFaults ["type", "params"] members ++ missingFaults ["type"] members
  | other => [.wrongType other "object"]

def memberFaults (name : String) (document : Json) : List SchemaFault :=
  if name = "id" then idFaults document
  else if name = "name" then textFaults document
  else if name = "eventType" then choiceFaults ["COMPETITOR_PRICE_DROP", "COST_INCREASE", "STOCK_LOW"] document
  else if name = "enabled" then flagFaults document
  else if name = "condition" then conditionFaults document
  else if name = "actionTemplate" then templateFaults document
  else []

/-- Nothing shows that the rule's template has another type than the given action. -/
def mayBe (action : String) (members : List (String × Json)) : Bool :=
  match members.lookup "actionTemplate" with
  | some (.object template) =>
    match template.lookup "type" with
    | some type => isOneOf [action] type
    | none => true
  | _ => true

/-- A rule that may have the given action listens for the event that the action needs. -/
def pairingFaults (action event : String) (members : List (String × Json)) : List SchemaFault :=
  if mayBe action members then
    match members.lookup "eventType" with
    | some type => if isOneOf [event] type then [] else [.notConstant event]
    | none => []
  else []

def ruleMembers : List String := ["id", "name", "eventType", "enabled", "condition", "actionTemplate"]

/-- Faults of one rule: missing members, its members in their order, members that do not belong, and pairings. -/
def ruleFaults : Json → List SchemaFault
  | .object members =>
    missingFaults ruleMembers members ++ members.flatMap (fun m => memberFaults m.1 m.2)
      ++ otherFaults ruleMembers members
      ++ pairingFaults "PRICE_MATCH" "COMPETITOR_PRICE_DROP" members
      ++ pairingFaults "PRICE_INCREASE" "COST_INCREASE" members
  | other => [.wrongType other "object"]

def faults : Json → List SchemaFault
  | .array items => items.flatMap ruleFaults
  | other => [.wrongType other "array"]

theorem isArray_of_faults_eq_nil {document : Json} (h : faults document = []) :
    ∃ items, document = .array items ∧ ∀ item ∈ items, ruleFaults item = [] := by
  cases document with
  | array items => exact ⟨items, rfl, by simpa [faults] using h⟩
  | _ => simp [faults] at h

end Repricing.RuleSet
