import Repricing.Binary64.Basic

/-!
The shortest decimal digits that read back as a given binary number, and two ways to write them. The numbers that read
back as `x` fill the interval halfway to its two neighbours, ends included when its significand is even. On the grid
of multiples of `10 ^ p` only the two grid points next to `x` can be in it, so the coarsest grid with a hit gives the
fewest digits.
-/

namespace Repricing

/-- The number `digits * 10 ^ power`, by its significant digits. -/
structure Numeral where
  digits : Nat
  power : Int
  deriving DecidableEq

/-- Which of two equally near neighbours on a grid is taken: the even one, or the one farther from zero. -/
inductive Tie where
  | even
  | away
  deriving DecidableEq

namespace Binary64

/-- The size of `2 ^ (x.exponent - 2)` in units of `10 ^ power`. -/
def quarterUnit (x : Binary64) (power : Int) : Nat × Nat :=
  let (n, d) := inUnits 1 1 (2 - x.exponent)
  if 0 ≤ power then (n, d * tenPow power.toNat) else (n * tenPow (-power).toNat, d)

/-- `digits * 10 ^ power` reads back as `x`, up to sign: it lies between the midpoints to the neighbours of `x`, of
which the lower one is half as far below a power of two. -/
def ReadsBack (x : Binary64) (c : Numeral) : Prop :=
  let (n, d) := x.quarterUnit c.power
  let low := if x.significand = twoPow 52 ∧ x.exponent ≠ -1074 then 4 * x.significand - 1 else 4 * x.significand - 2
  let high := 4 * x.significand + 2
  if x.significand % 2 = 0 then low * n ≤ c.digits * d ∧ c.digits * d ≤ high * n
  else low * n < c.digits * d ∧ c.digits * d < high * n

instance (x : Binary64) (c : Numeral) : Decidable (x.ReadsBack c) := by
  unfold ReadsBack
  split
  infer_instance

/-- The nearest multiple of `10 ^ power` that reads back as `x`, if the grid has one. -/
def onGrid? (tie : Tie) (x : Binary64) (power : Int) : Option Numeral :=
  let (n, d) := x.quarterUnit power
  let value := 4 * x.significand * n
  let below : Numeral := ⟨value / d, power⟩
  let above : Numeral := ⟨value / d + 1, power⟩
  if x.ReadsBack below then
    if x.ReadsBack above then
      let middle := (2 * below.digits + 1) * d
      if 2 * value < middle then some below
      else if middle < 2 * value then some above
      else if tie = .even ∧ below.digits % 2 = 0 then some below
      else some above
    else some below
  else if x.ReadsBack above then some above
  else none

/-- The exponent of a power of ten that is not below the number. -/
def coarsestPower (x : Binary64) : Int := (x.exponent + 53) * 30103 / 100000 + 1

/-- The fewest digits that read back as `x`, and of those the nearest. Seventeen digits always suffice, and the leading
digit of the smallest numbers is seventeen places below the coarsest power. -/
def shortest (tie : Tie) (x : Binary64) : Numeral :=
  if x.significand = 0 then ⟨0, 0⟩
  else
    match (List.range 40).findSome? fun step : Nat => x.onGrid? tie (x.coarsestPower - step) with
    | some c => c
    | none => ⟨0, 0⟩

end Binary64

namespace Numeral

/-- The number in positional notation, without a point if it is whole. -/
def positional (c : Numeral) : List Char :=
  let digits := Nat.toDigits 10 c.digits
  if 0 ≤ c.power then digits ++ List.replicate c.power.toNat '0'
  else
    let places := (-c.power).toNat
    if places < digits.length then
      digits.take (digits.length - places) ++ '.' :: digits.drop (digits.length - places)
    else '0' :: '.' :: (List.replicate (places - digits.length) '0' ++ digits)

/-- The number as one digit, the rest behind a point, and a signed power of ten. -/
def scientific (c : Numeral) : List Char :=
  let digits := Nat.toDigits 10 c.digits
  let power := c.power + (digits.length - 1 : Nat)
  let fraction := match digits.drop 1 with
    | [] => []
    | rest => '.' :: rest
  digits.take 1 ++ fraction ++ 'e' :: (if power < 0 then '-' else '+') :: Nat.toDigits 10 power.natAbs

def magnitude (c : Numeral) : Int := c.power + ((Nat.toDigits 10 c.digits).length - 1 : Nat)

end Numeral

namespace Binary64

def withSign (x : Binary64) (text : List Char) : List Char :=
  if x.negative then '-' :: text else text

/-- The number written out in full: shortest digits, ties away from zero, no point if it is whole. -/
def positionalText (x : Binary64) : List Char := x.withSign (x.shortest .away).positional

/-- The number as a document shows it: shortest digits, ties to even; positional from `10 ^ (-5)` up to `10 ^ 16`,
there with at least one fraction digit, and with a power of ten elsewhere. -/
def documentText (x : Binary64) : List Char :=
  let c := x.shortest .even
  x.withSign <|
    if c.digits ≠ 0 ∧ (c.magnitude < -5 ∨ 16 ≤ c.magnitude) then c.scientific
    else if 0 ≤ c.power then c.positional ++ ['.', '0']
    else c.positional

end Binary64

end Repricing
