import Repricing.Decimal.Quotient

namespace Repricing

/-- A percentage as a fraction of one. -/
def percent? (pct : Decimal) : Option Decimal := pct.div? .hundred

/-- The margin at a price in percent, rounded to cents; none for a price that is not above zero. -/
def marginPct? (price cost : Decimal) : Option Decimal :=
  if price.IsPositive then
    (price.sub? cost).bind fun gain =>
      (gain.div? price).bind fun fraction => (fraction.mul? .hundred).map Decimal.toCents
  else none

/-- The least price with the given margin: the cost over what the margin leaves of the price. None for a margin that
leaves nothing. -/
def minPriceForMargin? (cost minMarginPct : Decimal) : Option Decimal :=
  if Decimal.hundred ≤ minMarginPct then none
  else
    (percent? minMarginPct).bind fun fraction =>
      (Decimal.one.sub? fraction).bind fun left => if left.IsPositive then cost.div? left else none

inductive BlockReason where
  | invalidMinMargin
  | marginOutsideBand
  | marginAfterRounding
  | maxChangeAfterRounding
  | outOfRange
  deriving DecidableEq

namespace BlockReason

def all : List BlockReason :=
  [invalidMinMargin, marginOutsideBand, marginAfterRounding, maxChangeAfterRounding, outOfRange]

def message : BlockReason → String
  | invalidMinMargin => "invalid min margin requirement"
  | marginOutsideBand => "cannot satisfy margin within max price change guardrail"
  | marginAfterRounding => "cannot satisfy minimum margin after rounding and max-change guardrail"
  | maxChangeAfterRounding => "cannot satisfy max price change guardrail after rounding"
  | outOfRange => "price is outside the supported numeric range"

end BlockReason

structure Band where
  lower : Decimal
  upper : Decimal
  deriving DecidableEq

namespace Band

/-- The band around a current price. A price that is not above zero has none: there is nothing to measure a change
against. -/
def around (currentPrice maxChangePct : Decimal) : Except BlockReason (Option Band) :=
  if currentPrice.IsPositive then
    match (percent? maxChangePct).bind fun fraction =>
      ((Decimal.one.sub? fraction).bind fun factor => currentPrice.mul? factor).bind fun lower =>
        ((Decimal.one.add? fraction).bind fun factor => currentPrice.mul? factor).map fun upper => Band.mk lower upper
    with
    | some band => .ok (some band)
    | none => .error .outOfRange
  else .ok none

def Contains (b : Band) (price : Decimal) : Prop := b.lower ≤ price ∧ price ≤ b.upper

instance (b : Band) (price : Decimal) : Decidable (b.Contains price) :=
  inferInstanceAs (Decidable (b.lower ≤ price ∧ price ≤ b.upper))

/-- The price in the band that is nearest to the given one. -/
def clamp (b : Band) (price : Decimal) : Decimal := min (max price b.lower) b.upper

end Band

end Repricing
