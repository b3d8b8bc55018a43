import Repricing.Condition.Reader
import Repricing.Text.Printable

namespace Repricing

inductive DecodeError where
  | wrongType (found : Json) (expected : String)
  | wrongValue (found : Json) (expected : String)
  | wrongLength (length : Nat) (expected : String)
  | missingField (name : String)
  | unknownField (name : String) (expected : List String)
  | unknownVariant (name : String) (expected : List String)
  | noVariant (type : String)
  | badCondition (cause : ConditionError)

namespace DecodeError

/-- What a document is, in the words of a message. -/
def describe : Json → String
  | .null => "null"
  | .bool true => "boolean `true`"
  | .bool false => "boolean `false`"
  | .number (.integer n) => "integer `" ++ toString n ++ "`"
  | .number (.float x) => "floating point `" ++ String.ofList x.documentText ++ "`"
  | .string s => "string " ++ Text.quoted s
  | .array _ => "sequence"
  | .object _ => "map"

/-- A choice of names: two are joined by "or", more follow "one of". -/
def choice (names : List String) : String :=
  match names.map fun name => "`" ++ name ++ "`" with
  | [] => "nothing"
  | [a] => a
  | [a, b] => a ++ " or " ++ b
  | all => "one of " ++ ", ".intercalate all

def message : DecodeError → String
  | wrongType found expected => "invalid type: " ++ describe found ++ ", expected " ++ expected
  | wrongValue found expected => "invalid value: " ++ describe found ++ ", expected " ++ expected
  | wrongLength length expected => "invalid length " ++ toString length ++ ", expected " ++ expected
  | missingField name => "missing field `" ++ name ++ "`"
  | unknownField name expected => "unknown field `" ++ name ++ "`, expected " ++ choice expected
  | unknownVariant name expected => "unknown variant `" ++ name ++ "`, expected " ++ choice expected
  | noVariant type => "data did not match any variant of untagged enum " ++ type
  | badCondition cause => "invalid condition: " ++ cause.message

end DecodeError

/-- Reads a value of the domain from a document. -/
abbrev Decoder (α : Type) := Json → Except DecodeError α

end Repricing
