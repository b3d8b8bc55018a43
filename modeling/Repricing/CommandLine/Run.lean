import Repricing.CommandLine.Arguments
import Repricing.CommandLine.Summary
import Repricing.Json.Reader
import Repricing.Log.Reader
import Repricing.RuleSet.Check

namespace Repricing.CommandLine

/-- What a run has written so far, line by line, the last line first; and the filter of its log. -/
structure Transcript where
  output : List String
  errors : List String
  filter : LogFilter

/-- A part of a run: it writes, and may end the run with a status. -/
abbrev Run (α : Type) := ExceptT Nat (StateM Transcript) α

def say (line : String) : Run Unit := modify fun t => { t with output := line :: t.output }

def complain (line : String) : Run Unit := modify fun t => { t with errors := line :: t.errors }

def log (record : LogRecord) : Run Unit :=
  modify fun t => if t.filter.shows record then { t with errors := record.line :: t.errors } else t

def failWith {α : Type} (common : Common) (message : String) : Run α := do
  if !common.quiet then
    match common.format with
    | .text => complain message
    | .json => complain (Json.object [("error", .string message)]).compact
  throw 1

/-- Writes a result: as a document, or in lines unless the run is quiet. -/
def present (common : Common) (document : Json) (lines : List String) : Run Unit :=
  match common.format with
  | .json => say document.pretty
  | .text => if common.quiet then pure () else lines.forM say

def resolvePolicy (files : Files) (common : Common) (flags : PolicyFlags) : Run Policy := do
  match flags.file with
  | some path =>
    if let .ok _ := Policy.ofFile files flags.file then
      log ⟨.debug, "priceguard::config", "loaded policy file", [("path", path)]⟩
  | none => pure ()
  match Policy.resolve files flags with
  | .ok policy =>
    let details :=
      [("min_margin_pct", policy.minMarginPct.toText), ("max_change_pct", policy.maxChangePct.toText),
        ("rounding_mode", policy.roundingMode.name)]
    log ⟨.debug, "priceguard::config", "resolved guardrail policy", details⟩
    pure policy
  | .error found =>
    let messages := found.map PolicyError.message
    failWith common <|
      match common.format with
      | .text => "invalid policy:\n  - " ++ "\n  - ".intercalate messages
      | .json => "invalid policy: " ++ "; ".intercalate messages

def readJson (files : Files) (common : Common) (path : String) : Run Json :=
  match files path with
  | .error fault => failWith common ("error reading file '" ++ path ++ "': " ++ fault.message)
  | .ok text =>
    match Json.ofText text with
    | .error e => failWith common ("error parsing JSON in '" ++ path ++ "': " ++ e.message)
    | .ok document => pure document

def readValue {α : Type} (files : Files) (common : Common) (kind : String) (decode : Decoder α) (path : String) :
    Run α := do
  let document ← readJson files common path
  match decode document with
  | .error e => failWith common ("invalid " ++ kind ++ " in '" ++ path ++ "': " ++ e.message)
  | .ok a =>
    log ⟨.debug, "priceguard::input", "loaded " ++ kind, [("path", path)]⟩
    pure a

structure Inputs where
  event : Event
  sku : Sku
  rules : List Rule

def readInputs (files : Files) (common : Common) (paths : InputFiles) : Run Inputs := do
  let event ← readValue files common "event" Event.decode paths.event
  let sku ← readValue files common "SKU snapshot" Sku.decode paths.sku
  let rules ← readValue files common "rule set" (Decoder.items Rule.decode) paths.rules
  let details :=
    [("event_type", event.type.name), ("sku_id", Text.quoted event.skuId), ("rules", toString rules.length)]
  log ⟨.debug, "priceguard::input", "inputs loaded", details⟩
  pure ⟨event, sku, rules⟩

def reasonText (result : GuardrailResult) : String := (result.safetyReason.map BlockReason.message).getD ""

def recommendationRecord (r : Recommendation) : LogRecord :=
  let source := "priceguard::commands::evaluate"
  let subject := [("rule_id", r.action.ruleId), ("action", r.action.type.name)]
  match r.guardrail with
  | some result =>
    if result.isBlocked then
      ⟨.warn, source, "recommendation blocked by guardrails",
        subject ++ [("price", result.suggestedPriceOriginal.toText), ("reason", reasonText result)]⟩
    else
      ⟨.info, source, "price recommendation",
        subject ++
          [("original", result.suggestedPriceOriginal.toText), ("final_price", result.suggestedPriceFinal.toText),
            ("adjusted", toString result.adjusted)]⟩
  | none => ⟨.info, source, "notification recommendation", subject⟩

def runEvaluate (files : Files) (common : Common) (paths : InputFiles) (flags : PolicyFlags) (failOnBlocked : Bool) :
    Run Unit := do
  let policy ← resolvePolicy files common flags
  let inputs ← readInputs files common paths
  match evaluate inputs.event inputs.sku inputs.rules policy with
  | .error e => failWith common ("evaluation failed: " ++ e.message)
  | .ok found =>
    found.forM fun r => log (recommendationRecord r)
    present common (.array (found.map Recommendation.toJson)) (recommendationsLines found)
    if failOnBlocked && found.any Recommendation.isBlocked then throw 2

def runCheckPrice (files : Files) (common : Common) (cost currentPrice price : Decimal) (flags : PolicyFlags) :
    Run Unit := do
  let policy ← resolvePolicy files common flags
  let result := enforce cost currentPrice price policy
  if result.isBlocked then
    let details := [("price", result.suggestedPriceOriginal.toText), ("reason", reasonText result)]
    log ⟨.warn, "priceguard::commands::check_price", "price blocked by guardrails", details⟩
  present common result.toJson (verdictLines "" result)

def runExplain (files : Files) (common : Common) (paths : InputFiles) : Run Unit := do
  let inputs ← readInputs files common paths
  let traces := explainMatches inputs.event inputs.sku inputs.rules
  let details := [("rules", toString traces.length), ("matched", toString (matchedCount traces))]
  log ⟨.info, "priceguard::commands::explain", "explained rule matches", details⟩
  present common (.array (traces.map traceJson)) (traceLines inputs.event traces)

/-- Everything that is wrong with a rule set. Its rules are looked at only if its schema is kept. -/
def ruleSetFaults (document : Json) : List String :=
  match RuleSet.faults document with
  | [] =>
    match RuleSet.check document with
    | .ok _ => []
    | .error found => found.map RuleSet.RuleFault.message
  | found => found.map RuleSet.SchemaFault.message

def runValidate (files : Files) (common : Common) (path : String) : Run Unit := do
  let document ← readJson files common path
  let found := ruleSetFaults document
  let details := [("path", path), ("errors", toString found.length)]
  log ⟨.debug, "priceguard::commands::validate", "validated rule set", details⟩
  if found.isEmpty then
    let count := (RuleSet.itemsOf document).length
    if !common.quiet then
      match common.format with
      | .text => say ("valid (" ++ toString count ++ " rules)")
      | .json => say (Json.object [("rules", .ofInt count), ("valid", .bool true)]).compact
  else
    match common.format with
    | .text =>
      if !common.quiet then
        complain "invalid rule set"
        found.forM fun fault => complain ("  - " ++ fault)
    | .json =>
      complain (Json.object [("errors", .array (found.map .string)), ("valid", .bool false)]).pretty
    throw 1

def runCommand (files : Files) (common : Common) (command : Command) : Run Unit := do
  match common.logLevel with
  | none => pure ()
  | some text =>
    match LogFilter.ofText text with
    | .ok filter => modify fun t => { t with filter }
    | .error fault => failWith common ("error: invalid log level '" ++ text ++ "': " ++ fault.message)
  match command with
  | .evaluate inputs policy failOnBlocked => runEvaluate files common inputs policy failOnBlocked
  | .checkPrice cost currentPrice price policy => runCheckPrice files common cost currentPrice price policy
  | .explain inputs => runExplain files common inputs
  | .validate rules => runValidate files common rules

structure Outcome where
  status : Nat
  output : String
  errors : String
  deriving DecidableEq

def joinLines (lines : List String) : String := String.join (lines.reverse.map fun line => line ++ "\n")

def versionLine : String := "priceguard 0.1.0"

def run (files : Files) (arguments : List String) : Outcome :=
  match Request.ofArguments arguments with
  | .version => ⟨0, versionLine ++ "\n", ""⟩
  | .help => ⟨0, "", ""⟩
  | .misuse => ⟨2, "", "usage error"⟩
  | .run common command =>
    let (result, t) := (runCommand files common command).run ⟨[], [], .standard⟩
    let status := match result with
      | .ok _ => 0
      | .error status => status
    ⟨status, joinLines t.output, joinLines t.errors⟩

end Repricing.CommandLine
