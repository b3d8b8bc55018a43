import Repricing.Policy
import Repricing.Toml.Reader

namespace Repricing

/-- What a policy file sets. The rounding mode is kept as it is written. -/
structure PolicySettings where
  minMarginPct : Option Decimal
  maxChangePct : Option Decimal
  roundingMode : Option String
  deriving DecidableEq

namespace PolicySettings

def empty : PolicySettings := ⟨none, none, none⟩

/-- An amount: a whole or floating-point number, or a string that spells one. -/
def amount? : Toml.Value → Option Decimal
  | .integer n => Decimal.ofInt? n
  | .float x => Decimal.ofChars? x.positionalText
  | .string s => Decimal.ofText? s
  | _ => none

def text? : Toml.Value → Option String
  | .string s => some s
  | _ => none

/-- Sets one part; what is no part of a policy, or set already, fails. -/
def set? (s : PolicySettings) (name : String) (value : Toml.Value) : Option PolicySettings :=
  if name = "min_margin_pct" then
    if s.minMarginPct.isSome then none
    else (amount? value).map fun d => { s with minMarginPct := some d }
  else if name = "max_change_pct" then
    if s.maxChangePct.isSome then none
    else (amount? value).map fun d => { s with maxChangePct := some d }
  else if name = "rounding_mode" then
    if s.roundingMode.isSome then none
    else (text? value).map fun mode => { s with roundingMode := some mode }
  else none

/-- The settings of a table that is written as one value: its members, or its parts in their order. -/
def ofValue? : Toml.Value → Option PolicySettings
  | .table members =>
    members.foldlM (fun s m =>
      match m with
      | ([name], value) => s.set? name value
      | _ => none) empty
  | .array (minMargin :: maxChange :: mode :: _) =>
    (amount? minMargin).bind fun minMargin =>
      (amount? maxChange).bind fun maxChange =>
        (text? mode).map fun mode => ⟨some minMargin, some maxChange, some mode⟩
  | _ => none

/-- How the table of guardrails is written in a file. -/
inductive Layout where
  | header
  | dotted
  | whole
  deriving DecidableEq

/-- The settings of the statements read so far, and how their table is written. -/
structure Draft where
  layout : Option Layout
  settings : PolicySettings

def Draft.add? (d : Draft) : Toml.Statement → Option Draft
  | .table ["guardrails"] => if d.layout = none then some ⟨some .header, d.settings⟩ else none
  | .assignment key value =>
    match d.layout, key with
    | some .header, [name] => (d.settings.set? name value).map fun s => ⟨some .header, s⟩
    | none, ["guardrails"] => (ofValue? value).map fun s => ⟨some .whole, s⟩
    | none, ["guardrails", name] => (d.settings.set? name value).map fun s => ⟨some .dotted, s⟩
    | some .dotted, ["guardrails", name] => (d.settings.set? name value).map fun s => ⟨some .dotted, s⟩
    | _, _ => none
  | _ => none

def ofText? (text : String) : Option PolicySettings :=
  (Toml.ofText? text).bind fun statements =>
    (statements.foldlM Draft.add? ⟨none, empty⟩).map Draft.settings

end PolicySettings

end Repricing
