import Repricing.Guardrail.Band
import Repricing.Policy

namespace Repricing

/-- The rule that moved a price. -/
inductive Adjustment.Rule where
  | maxChange (pct : Decimal)
  | minMargin (pct : Decimal)
  | rounding (mode : RoundingMode)
  | lowerBoundAfterRounding
  | marginAfterRounding
  | upperBoundAfterRounding
  deriving DecidableEq

def Adjustment.Rule.message : Adjustment.Rule → String
  | maxChange pct => "adjusted by max-change guardrail (" ++ pct.toText ++ "%)"
  | minMargin pct => "raised to meet minimum margin (" ++ pct.toText ++ "%)"
  | rounding mode => "rounded by workspace setting (" ++ mode.name ++ ")"
  | lowerBoundAfterRounding => "raised to max-change lower bound after rounding"
  | marginAfterRounding => "raised to meet minimum margin after rounding"
  | upperBoundAfterRounding => "lowered to max-change upper bound after rounding"

structure Adjustment where
  rule : Adjustment.Rule
  before : Decimal
  after : Decimal
  deriving DecidableEq

/-- The entry of the log: the rule, and both prices in cents. -/
def Adjustment.message (a : Adjustment) : String :=
  a.rule.message ++ ": " ++ a.before.toCents.toText ++ " -> " ++ a.after.toCents.toText

inductive SafetyStatus where
  | ok
  | blocked
  deriving DecidableEq

namespace SafetyStatus

def all : List SafetyStatus := [ok, blocked]

def name : SafetyStatus → String
  | ok => "OK"
  | blocked => "BLOCKED"

end SafetyStatus

structure GuardrailResult where
  safetyStatus : SafetyStatus
  safetyReason : Option BlockReason
  suggestedPriceOriginal : Decimal
  suggestedPriceFinal : Decimal
  adjusted : Bool
  /-- Every adjustment, in the order in which it was made. -/
  reasons : List String
  marginPctFinal : Option Decimal
  deriving DecidableEq

namespace GuardrailResult

def isOk (r : GuardrailResult) : Bool := r.safetyStatus = .ok

def isBlocked (r : GuardrailResult) : Bool := r.safetyStatus = .blocked

def shape : RecordShape GuardrailResult where
  name := "struct GuardrailResult"
  fields := Fields.none GuardrailResult.mk
    |>.more (.required "safetyStatus" (Decoder.variant SafetyStatus.all SafetyStatus.name))
    |>.more (.optional "safetyReason" (Decoder.variant BlockReason.all BlockReason.message))
    |>.more (.required "suggestedPriceOriginal" Decoder.decimal)
    |>.more (.required "suggestedPriceFinal" Decoder.decimal)
    |>.more (.required "adjusted" Decoder.bool)
    |>.more (.required "reasons" (Decoder.items Decoder.text))
    |>.more (.optional "marginPctFinal" Decoder.decimal)
  closed := false

def decode : Decoder GuardrailResult := shape.decode .direct

def toJson (r : GuardrailResult) : Json :=
  .object <| [("safetyStatus", .string r.safetyStatus.name)]
    ++ Json.optionalMember "safetyReason" (fun reason : BlockReason => .string reason.message) r.safetyReason
    ++ [("suggestedPriceOriginal", .string r.suggestedPriceOriginal.toText),
      ("suggestedPriceFinal", .string r.suggestedPriceFinal.toText), ("adjusted", .bool r.adjusted),
      ("reasons", .array (r.reasons.map .string))]
    ++ Json.optionalMember "marginPctFinal" (fun d : Decimal => .string d.toText) r.marginPctFinal

end GuardrailResult

end Repricing
