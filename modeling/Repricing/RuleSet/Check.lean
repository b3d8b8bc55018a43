import Repricing.RuleSet.Schema

namespace Repricing.RuleSet

/-- One thing that is wrong with a rule, given by its place in the set. -/
inductive RuleFault where
  | unreadable (place : Nat) (cause : DecodeError)
  | template (place : Nat) (cause : EvaluationError)
  | duplicate (place : Nat) (id : String)

def RuleFault.message : RuleFault → String
  | unreadable place cause => "rules[" ++ toString place ++ "]: deserialization error: " ++ cause.message
  | template place cause => "rules[" ++ toString place ++ "]: " ++ cause.message
  | duplicate place id => "rules[" ++ toString place ++ "]: duplicate rule id '" ++ id ++ "'"

/-- The faults of one document at a place, where rules with the `seen` ids stand before it. -/
def faultsAt (place : Nat) (seen : List String) (document : Json) : List RuleFault :=
  match Rule.decode document with
  | .error e => [.unreadable place e]
  | .ok rule =>
    (rule.templateFault?.map (RuleFault.template place)).toList
      ++ (if seen.contains rule.id then [.duplicate place rule.id] else [])

def seenAfter (seen : List String) (document : Json) : List String :=
  match Rule.decode document with
  | .error _ => seen
  | .ok rule => rule.id :: seen

/-- The faults of documents, the first of which stands at the given place. -/
def faultsFrom (place : Nat) (seen : List String) : List Json → List RuleFault
  | [] => []
  | document :: rest => faultsAt place seen document ++ faultsFrom (place + 1) (seenAfter seen document) rest

/-- The rules of a set; what is no array holds none. -/
def itemsOf : Json → List Json
  | .array items => items
  | _ => []

/-- How many rules the set has, or everything that is wrong with them. -/
def check (document : Json) : Except (List RuleFault) Nat :=
  match faultsFrom 0 [] (itemsOf document) with
  | [] => .ok (itemsOf document).length
  | found => .error found

end Repricing.RuleSet
