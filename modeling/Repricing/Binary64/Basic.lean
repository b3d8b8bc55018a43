import Repricing.Rounding

namespace Repricing

/-- The number `± significand * 2 ^ exponent`, in the one form that has the longest significand. Zero has a sign. -/
structure Binary64 where
  negative : Bool
  significand : Nat
  exponent : Int
  significand_lt : significand < twoPow 53
  exponent_ge : -1074 ≤ exponent
  exponent_le : exponent ≤ 971
  normal : twoPow 52 ≤ significand ∨ exponent = -1074
  deriving DecidableEq

namespace Binary64

def make? (negative : Bool) (significand : Nat) (exponent : Int) : Option Binary64 :=
  if h : significand < twoPow 53 ∧ -1074 ≤ exponent ∧ exponent ≤ 971 ∧ (twoPow 52 ≤ significand ∨ exponent = -1074) then
    some ⟨negative, significand, exponent, h.1, h.2.1, h.2.2.1, h.2.2.2⟩
  else none

def signedZero (negative : Bool) : Binary64 := ⟨negative, 0, -1074, by decide, by decide, by decide, by decide⟩

def inUnits (n d : Nat) (exponent : Int) : Nat × Nat :=
  if 0 ≤ exponent then (n, d * twoPow exponent.toNat) else (n * twoPow (-exponent).toNat, d)

/-- The power of two that gives the ratio `n / d` a significand of 53 bits, or the least power that there is. -/
def unitExponent (n d : Nat) : Int :=
  let guess : Int := n.log2 - d.log2 - 52
  let (a, b) := inUnits n d guess
  let exact := if a < twoPow 52 * b then guess - 1 else guess
  if exact < -1074 then -1074 else exact

/-- The number nearest to `± n / d`, of two equally near the one with the even significand; none when that lies past the
largest number. -/
def nearest? (negative : Bool) (n d : Nat) : Option Binary64 :=
  if n = 0 then some (signedZero negative)
  else
    let exponent := unitExponent n d
    let (a, b) := inUnits n d exponent
    let significand := Rounding.nearestEven a b
    if significand = twoPow 53 then make? negative (twoPow 52) (exponent + 1) else make? negative significand exponent

def ofRat? (q : Rat) : Option Binary64 := nearest? (q < 0) q.num.natAbs q.den

def ofInt? (n : Int) : Option Binary64 := nearest? (n < 0) n.natAbs 1

/-- The number nearest to `± digits * 10 ^ power`. A power far out of range is decided without building it. -/
def ofDigits? (negative : Bool) (digits : Nat) (power : Int) : Option Binary64 :=
  let magnitude := (Nat.toDigits 10 digits).length + power
  if digits = 0 ∨ magnitude < -400 then some (signedZero negative)
  else if 400 < magnitude then none
  else if 0 ≤ power then nearest? negative (digits * tenPow power.toNat) 1
  else nearest? negative digits (tenPow (-power).toNat)

def toRat (x : Binary64) : Rat :=
  let (n, d) := inUnits x.significand 1 (-x.exponent)
  mkRat (if x.negative then -n else n) d

def add? (x y : Binary64) : Option Binary64 := ofRat? (x.toRat + y.toRat)

def mul? (x y : Binary64) : Option Binary64 := ofRat? (x.toRat * y.toRat)

/-- The quotient, rounded once; none by zero. -/
def div? (x y : Binary64) : Option Binary64 := if y.significand = 0 then none else ofRat? (x.toRat / y.toRat)

/-- The number `± significand * 10 ^ power`, rounded twice: the significand first, then its product with the power of
ten or its quotient by one. A power below `10 ^ (-308)` divides in two steps. -/
def ofScaled? (negative : Bool) (significand : Nat) (power : Int) : Option Binary64 :=
  let ten (n : Nat) : Option Binary64 := nearest? false (tenPow n) 1
  let magnitude := (nearest? false significand 1).bind fun x =>
    if x.significand = 0 ∨ power < -616 then some (signedZero false)
    else if 308 < power then none
    else if 0 ≤ power then (ten power.toNat).bind x.mul?
    else if -308 ≤ power then (ten (-power).toNat).bind x.div?
    else (ten 308).bind fun t => (x.div? t).bind fun y => (ten (-power - 308).toNat).bind y.div?
  magnitude.map fun x => { x with negative := negative }

/-- The nearest whole number, halves away from zero. -/
def toWhole? (x : Binary64) : Option Binary64 := ofInt? (Rounding.halfAway.quotient x.toRat.num x.toRat.den)

end Binary64

end Repricing
