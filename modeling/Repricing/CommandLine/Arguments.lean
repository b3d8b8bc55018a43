import Repricing.Policy.Resolve

/-!
The arguments of a run: options that hold for every command, a command, and its own options. An option's value follows
it as the next argument or behind an equals sign; an argument that starts with a hyphen is no such next argument,
unless the option takes negative numbers and it is one. Every misuse is one and the same answer.
-/

namespace Repricing.CommandLine

inductive OutputFormat where
  | text
  | json
  deriving DecidableEq

structure Common where
  format : OutputFormat
  quiet : Bool
  logLevel : Option String
  deriving DecidableEq

structure InputFiles where
  event : String
  sku : String
  rules : String
  deriving DecidableEq

inductive Command where
  | evaluate (inputs : InputFiles) (policy : PolicyFlags) (failOnBlocked : Bool)
  | checkPrice (cost currentPrice price : Decimal) (policy : PolicyFlags)
  | explain (inputs : InputFiles)
  | validate (rules : String)
  deriving DecidableEq

inductive Request where
  | run (common : Common) (command : Command)
  | version
  | help
  | misuse
  deriving DecidableEq

/-- An option: a flag, or a value that satisfies a test. -/
structure OptionSpec where
  name : List Char
  takesValue : Bool
  accepts : String → Bool
  takesNegative : Bool

structure Read where
  values : List (List Char × String)
  others : List String

namespace Read

def value? (r : Read) (name : String) : Option String := r.values.lookup name.toList

def has (r : Read) (name : String) : Bool := (r.value? name).isSome

end Read

/-- How reading arguments ends before their end, or that they were read. -/
inductive Reading where
  | done (r : Read)
  | command (r : Read) (name : String) (rest : List String)
  | version
  | help
  | misuse

/-- The text behind a minus sign writes a number: digits with at most one point, not at the start, and at most one power
of ten, not at the end. -/
def isNumber (text : List Char) : Bool :=
  let isMark : Char → Bool := fun c => c = 'e' || c = 'E'
  let mantissa := text.takeWhile fun c => !isMark c
  let whole := mantissa.takeWhile (· ≠ '.')
  let fraction := (mantissa.dropWhile (· ≠ '.')).drop 1
  let digits := whole.all Char.isDigit && fraction.all Char.isDigit && (mantissa.head? != some '.')
  match text.dropWhile (fun c => !isMark c) with
  | [] => digits
  | _ :: power => digits && !mantissa.isEmpty && !power.isEmpty && power.all Char.isDigit

def isValue (spec : OptionSpec) (argument : List Char) : Bool :=
  match argument with
  | ['-'] => true
  | '-' :: rest => spec.takesNegative && isNumber rest
  | _ => true

/-- Which arguments may stand alone: none, a command's name, or as many as the given number. -/
inductive Standing where
  | command
  | upTo (count : Nat)

/-- What one argument leads to: the end of reading, or the next argument, which may have to be an option's value. -/
inductive Turn where
  | stop (reading : Reading)
  | next (r : Read) (pending : Option OptionSpec)

def Read.withValue (r : Read) (spec : OptionSpec) (value : String) : Turn :=
  if spec.accepts value then .next ⟨(spec.name, value) :: r.values, r.others⟩ none else .stop .misuse

def Read.withOthers (r : Read) (count : Nat) (arguments : List String) : Turn :=
  if r.others.length + arguments.length ≤ count ∧ arguments.all (fun a => !a.isEmpty) then
    .next ⟨r.values, r.others ++ arguments⟩ none
  else .stop .misuse

/-- Takes in an option with two hyphens, given by what stands behind them. An option stands once. -/
def Read.withOption (r : Read) (specs : List OptionSpec) (versioned : Bool) (text : List Char) : Turn :=
  let name := text.takeWhile (· ≠ '=')
  let given := text.dropWhile (· ≠ '=')
  if name = "help".toList then .stop (if given = [] then .help else .misuse)
  else if name = "version".toList ∧ versioned then .stop (if given = [] then .version else .misuse)
  else
    match specs.find? fun spec => spec.name = name with
    | none => .stop .misuse
    | some spec =>
      if (r.values.lookup name).isSome then .stop .misuse
      else
        match given, spec.takesValue with
        | [], true => .next r (some spec)
        | _ :: value, true => r.withValue spec (String.ofList value)
        | [], false => .next ⟨(name, "") :: r.values, r.others⟩ none
        | _ :: _, false => .stop .misuse

/-- Takes in one argument that is no option's value; `rest` stands behind it. -/
def Read.turn (r : Read) (specs : List OptionSpec) (standing : Standing) (versioned : Bool) (argument : String)
    (rest : List String) : Turn :=
  match argument.toList with
  | '-' :: '-' :: [] =>
    match standing with
    | .command => .stop (if rest.isEmpty then .done r else .misuse)
    | .upTo count =>
      match r.withOthers count rest with
      | .next r _ => .stop (.done r)
      | stopped => stopped
  | '-' :: '-' :: text => r.withOption specs versioned text
  | '-' :: 'h' :: _ => .stop .help
  | '-' :: 'V' :: _ => .stop (if versioned then .version else .misuse)
  | '-' :: _ :: _ => .stop .misuse
  | _ =>
    match standing with
    | .command => .stop (.command r argument rest)
    | .upTo count => r.withOthers count [argument]

/-- Reads arguments from left to right; `versioned` says that the version may be asked for. -/
def readArguments (specs : List OptionSpec) (standing : Standing) (versioned : Bool) (r : Read)
    (pending : Option OptionSpec) : List String → Reading
  | [] => if pending.isSome then .misuse else .done r
  | argument :: rest =>
    let turn := match pending with
      | some spec => if isValue spec argument.toList then r.withValue spec argument else .stop .misuse
      | none => r.turn specs standing versioned argument rest
    match turn with
    | .stop reading => reading
    | .next r pending => readArguments specs standing versioned r pending rest

def anything (_ : String) : Bool := true

def isPath (s : String) : Bool := !s.isEmpty

def isDecimal (s : String) : Bool := (Decimal.ofText? s).isSome

def isMode (s : String) : Bool := (RoundingMode.ofText? s).isSome

def isFormat (s : String) : Bool := s = "text" || s = "json"

def flag (name : String) : OptionSpec := ⟨name.toList, false, anything, false⟩

def value (name : String) (accepts : String → Bool) : OptionSpec := ⟨name.toList, true, accepts, false⟩

def signedAmount (name : String) : OptionSpec := ⟨name.toList, true, isDecimal, true⟩

def commonOptions : List OptionSpec := [value "output" isFormat, flag "quiet", value "log-level" anything]

def inputOptions : List OptionSpec := [value "event" isPath, value "sku" isPath, value "rules" isPath]

def policyOptions : List OptionSpec :=
  [value "policy" isPath, signedAmount "min-margin", signedAmount "max-change", value "rounding" isMode]

def checkPriceOptions : List OptionSpec :=
  [value "cost" isDecimal, signedAmount "current", value "price" isDecimal]

/-- What holds for every command, given before the command and behind it; the latter counts. -/
def common (before behind : Read) : Common :=
  let pick := fun name => (behind.value? name).or (before.value? name)
  let format := if pick "output" = some "json" then OutputFormat.json else .text
  ⟨format, before.has "quiet" || behind.has "quiet", pick "log-level"⟩

def inputFiles? (r : Read) : Option InputFiles :=
  (r.value? "event").bind fun event =>
    (r.value? "sku").bind fun sku => (r.value? "rules").map fun rules => ⟨event, sku, rules⟩

def policyFlags (r : Read) : PolicyFlags :=
  ⟨r.value? "policy", (r.value? "min-margin").bind Decimal.ofText?, (r.value? "max-change").bind Decimal.ofText?,
    (r.value? "rounding").bind RoundingMode.ofText?⟩

def checkPrice? (r : Read) : Option Command :=
  ((r.value? "cost").bind Decimal.ofText?).bind fun cost =>
    ((r.value? "current").bind Decimal.ofText?).bind fun current =>
      ((r.value? "price").bind Decimal.ofText?).map fun price => .checkPrice cost current price (policyFlags r)

/-- A command: its options, how many arguments may stand alone, and what comes of them. -/
structure CommandSpec where
  options : List OptionSpec
  standing : Nat
  build : Read → Option Command

def commandSpec? (name : String) : Option CommandSpec :=
  match name with
  | "evaluate" =>
    some ⟨inputOptions ++ policyOptions ++ [flag "fail-on-blocked"], 0, fun r =>
      (inputFiles? r).map fun inputs => .evaluate inputs (policyFlags r) (r.has "fail-on-blocked")⟩
  | "check-price" => some ⟨checkPriceOptions ++ policyOptions, 0, checkPrice?⟩
  | "explain" => some ⟨inputOptions, 0, fun r => (inputFiles? r).map .explain⟩
  | "validate" => some ⟨[], 1, fun r => r.others.head?.map .validate⟩
  | _ => none

def ofCommand (before : Read) (spec : CommandSpec) (arguments : List String) : Request :=
  match readArguments (spec.options ++ commonOptions) (.upTo spec.standing) false ⟨[], []⟩ none arguments with
  | .done r =>
    match spec.build r with
    | some command => .run (common before r) command
    | none => .misuse
  | .help => .help
  | _ => .misuse

def Request.ofArguments (arguments : List String) : Request :=
  match readArguments commonOptions .command true ⟨[], []⟩ none arguments with
  | .command before name rest =>
    match commandSpec? name with
    | some spec => ofCommand before spec rest
    | none =>
      let known : Bool := match rest with
        | [] => true
        | [topic] => topic = "help" || (commandSpec? topic).isSome
        | _ => false
      if name = "help" ∧ known then .help else .misuse
  | .version => .version
  | .help => .help
  | _ => .misuse

def Request.paths : Request → List String
  | .run _ (.evaluate inputs policy _) => policy.file.toList ++ [inputs.event, inputs.sku, inputs.rules]
  | .run _ (.checkPrice _ _ _ policy) => policy.file.toList
  | .run _ (.explain inputs) => [inputs.event, inputs.sku, inputs.rules]
  | .run _ (.validate rules) => [rules]
  | _ => []

end Repricing.CommandLine
