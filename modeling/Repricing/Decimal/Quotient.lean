import Repricing.Decimal.Arithmetic

/-!
The quotient of two decimals. The digits come in groups of up to nine: the whole quotient first, then as many further
fraction digits at a time as the coefficient has room for, until nothing remains or no room is left, where the last
digit is rounded half to even. A quotient that had a remainder at the start may end in zeros; up to seven of them are
taken off, by eights, fours, twos and ones.
-/

namespace Repricing.Decimal

/-- A division under way: the digits found so far as a whole number, what remains to be divided, and the scale of
the digits, which is negative while whole digits are still owed. -/
structure Division where
  digits : Nat
  remainder : Nat
  scale : Int
  deriving DecidableEq

/-- Digits found by a division, with their scale. -/
structure Digits where
  value : Nat
  scale : Int
  deriving DecidableEq

/-- The digits after a last digit too many: they go down to 96 bits by a tenth, rounded half to even, where
`inexact` says that something was already cut off. -/
def Digits.dropLast? (value : Nat) (scale : Int) (inexact : Bool) : Option Digits :=
  let tenth := value / 10
  let last := value % 10
  let tenth := if 5 < last ∨ (last = 5 ∧ (inexact ∨ tenth % 2 = 1)) then tenth + 1 else tenth
  if scale ≤ 0 then none else some ⟨tenth, scale - 1⟩

/-- The digits, or the digits without the last one if they pass 96 bits. -/
def Digits.fit? (value : Nat) (scale : Int) (inexact : Bool) : Option Digits :=
  if value < twoPow 96 then some ⟨value, scale⟩ else dropLast? value scale inexact

/-- A group of `n` more digits fits 96 bits and 28 fraction digits. -/
def Division.HasRoom (x : Division) (n : Nat) : Prop := x.digits * tenPow n < twoPow 96 ∧ x.scale + n ≤ 28

instance (x : Division) (n : Nat) : Decidable (x.HasRoom n) :=
  inferInstanceAs (Decidable (x.digits * tenPow n < twoPow 96 ∧ x.scale + n ≤ 28))

/-- How many digits the next group has: as many as fit, and at most nine. -/
def Division.groupSize (x : Division) : Nat :=
  ([9, 8, 7, 6, 5, 4, 3, 2, 1].find? fun n => x.HasRoom n).getD 0

theorem Division.hasRoom_groupSize {x : Division} (h : x.groupSize ≠ 0) : x.HasRoom x.groupSize := by
  unfold groupSize at h ⊢
  generalize hf : [9, 8, 7, 6, 5, 4, 3, 2, 1].find? (fun n => decide (x.HasRoom n)) = found at h ⊢
  cases found with
  | none => exact absurd rfl h
  | some n =>
    have fits : decide (x.HasRoom n) = true := List.find?_some (p := fun n => decide (x.HasRoom n)) hf
    exact of_decide_eq_true fits

/-- The division after a group of `n` further digits. -/
def Division.extend (x : Division) (divisor n : Nat) : Division :=
  ⟨x.digits * tenPow n + x.remainder * tenPow n / divisor, x.remainder * tenPow n % divisor, x.scale + n⟩

/-- The digits when there is no room for more: the remainder decides the rounding of the last one. -/
def Division.roundLast? (x : Division) (divisor : Nat) : Option Digits :=
  if divisor < 2 * x.remainder ∨ (2 * x.remainder = divisor ∧ x.digits % 2 = 1) then
    Digits.fit? (x.digits + 1) x.scale true
  else some ⟨x.digits, x.scale⟩

/-- How many more digits the scale has room for. -/
def Division.room (x : Division) : Nat := (28 - x.scale).toNat

theorem Division.room_lt {x : Division} {divisor n : Nat} (hn : 0 < n) (hs : x.scale < 28) :
    (x.extend divisor n).room < x.room := by
  simp only [room, extend]
  omega

/-- The digits of the quotient, to the end of the group in which nothing remains or to the last digit that fits. -/
def Division.finish? (x : Division) (divisor : Nat) : Option Digits :=
  if x.remainder = 0 then
    if 0 ≤ x.scale then some ⟨x.digits, x.scale⟩
    else
      let owed := min 9 (-x.scale).toNat
      if x.digits * tenPow owed < twoPow 96 then (x.extend divisor owed).finish? divisor else none
  else
    let n := x.groupSize
    if n < 9 ∧ x.scale + n < 0 then none
    else if _ : n = 0 then x.roundLast? divisor
    else
      let next := x.extend divisor n
      if next.digits < twoPow 96 then next.finish? divisor
      else Digits.dropLast? next.digits next.scale (next.remainder ≠ 0)
termination_by x.room
decreasing_by
  · exact room_lt (by omega) (by omega)
  · have := (hasRoom_groupSize ‹¬x.groupSize = 0›).2
    exact room_lt (by omega) (by omega)

/-- Takes `n` zeros off the end, if there are so many. -/
def Digits.strip (n : Nat) (d : Digits) : Digits :=
  if d.value % twoPow n = 0 ∧ n ≤ d.scale ∧ d.value % tenPow n = 0 then ⟨d.value / tenPow n, d.scale - n⟩ else d

/-- Takes zeros off by eights, as long as the digits are a multiple of `2 ^ 32`. A scale of at most 28 has room for
three such steps. -/
def Digits.stripEights (d : Digits) : Nat → Digits
  | 0 => d
  | n + 1 =>
    if d.value % twoPow 32 = 0 ∧ 8 ≤ d.scale ∧ d.value % tenPow 8 = 0 then
      (⟨d.value / tenPow 8, d.scale - 8⟩ : Digits).stripEights n
    else d

/-- The digits without the zeros at their end, apart from runs longer than seven. -/
def Digits.shorten (d : Digits) : Digits :=
  (((d.stripEights 3).strip 4).strip 2).strip 1

/-- The quotient, where it fits; none by zero. A quotient of zero is written without fraction digits. -/
def div? (a b : Decimal) : Option Decimal :=
  if b.IsZero then none
  else if a.IsZero then some zero
  else
    let n := a.coefficient.natAbs
    let divisor := b.coefficient.natAbs
    let start : Division := ⟨n / divisor, n % divisor, a.scale - b.scale⟩
    (start.finish? divisor).bind fun digits =>
      let digits := if start.remainder = 0 then digits else digits.shorten
      make? (Rounding.signed (a.coefficient * b.coefficient) digits.value) digits.scale.toNat

end Repricing.Decimal
