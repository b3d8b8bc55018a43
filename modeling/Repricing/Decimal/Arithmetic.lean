import Repricing.Decimal.Basic

namespace Repricing.Decimal

instance : Neg Decimal :=
  ⟨fun d => ⟨-d.coefficient, d.scale, by simpa using d.coefficient_lt, d.scale_le⟩⟩

/-- The decimal nearest to `coefficient / 10 ^ scale` at the largest scale that fits, a tie going to the even
coefficient. -/
def fit? (coefficient : Int) (scale : Nat) : Option Decimal :=
  (List.range (scale + 1)).findSome? fun dropped =>
    make? (Rounding.halfEven.quotient coefficient (tenPow dropped)) (scale - dropped)

/-- The sum at the finer of the two scales, where it fits. A zero leaves the other operand as it is written. -/
def add? (a b : Decimal) : Option Decimal :=
  if a.IsZero then some b
  else if b.IsZero then some a
  else
    let scale := max a.scale b.scale
    fit? (a.aligned scale + b.aligned scale) scale

/-- The difference, by the rules of the sum. -/
def sub? (a b : Decimal) : Option Decimal := add? a (-b)

/-- More than 47 fraction digits in a product of two coefficients of at most 32 bits. -/
def IsNegligible (a b : Decimal) : Prop :=
  a.coefficient.natAbs < twoPow 32 ∧ b.coefficient.natAbs < twoPow 32 ∧ 47 < a.scale + b.scale

instance (a b : Decimal) : Decidable (IsNegligible a b) :=
  inferInstanceAs (Decidable (a.coefficient.natAbs < twoPow 32 ∧ b.coefficient.natAbs < twoPow 32 ∧ _))

/-- The product. It is zero without fraction digits where a factor is zero or the product is negligible; any other
product that rounds to zero keeps its 28 places. -/
def mul? (a b : Decimal) : Option Decimal :=
  if a.IsZero ∨ b.IsZero ∨ IsNegligible a b then some zero
  else fit? (a.coefficient * b.coefficient) (a.scale + b.scale)

/-- The decimal with at most `digits` fraction digits; one that has no more keeps its scale. -/
def round (rule : Rounding) (digits : Nat) (d : Decimal) : Decimal :=
  if h : d.scale ≤ digits then d
  else
    ⟨rule.quotient d.coefficient (tenPow (d.scale - digits)), digits,
      Nat.lt_of_le_of_lt (Rounding.natAbs_quotient_le rule _ (tenPow_pos _)) d.coefficient_lt,
      by have := d.scale_le; omega⟩

/-- Rounded to cents, halves away from zero. -/
def toCents (d : Decimal) : Decimal := d.round .halfAway 2

end Repricing.Decimal
