import Repricing.RoundingMode

namespace Repricing

structure Policy where
  minMarginPct : Decimal
  maxChangePct : Decimal
  roundingMode : RoundingMode
  deriving DecidableEq

inductive PolicyFault where
  | minMargin (given : Decimal)
  | maxChange (given : Decimal)
  deriving DecidableEq

def PolicyFault.message : PolicyFault → String
  | minMargin given => "min_margin_pct must be in [0, 100), got " ++ given.toText
  | maxChange given => "max_change_pct must be >= 0, got " ++ given.toText

namespace Policy

/-- Ten percent margin, fifteen percent change, whole prices. -/
def standard : Policy := ⟨.ten, .ofNat 15, .nearest1⟩

def faults (p : Policy) : List PolicyFault :=
  (if p.minMarginPct < .zero ∨ .hundred ≤ p.minMarginPct then [.minMargin p.minMarginPct] else [])
    ++ (if p.maxChangePct < .zero then [.maxChange p.maxChangePct] else [])

def shape : RecordShape Policy where
  name := "struct GuardrailPolicy"
  fields := Fields.none Policy.mk
    |>.more (.required "minMarginPct" Decoder.decimal)
    |>.more (.required "maxChangePct" Decoder.decimal)
    |>.more (.required "roundingMode" RoundingMode.decode)
  closed := false

def decode : Decoder Policy := shape.decode .direct

def toJson (p : Policy) : Json :=
  .object
    [("minMarginPct", .string p.minMarginPct.toText), ("maxChangePct", .string p.maxChangePct.toText),
      ("roundingMode", .string p.roundingMode.name)]

end Policy

end Repricing
