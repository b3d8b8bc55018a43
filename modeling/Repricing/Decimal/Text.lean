import Repricing.Decimal.Arithmetic

/-!
The text of a decimal. Writing shows a minus sign below zero, the whole part without leading zeros and exactly `scale`
fraction digits. Reading also takes a plus sign, a missing whole or fraction part, underscores after the first digit,
more fraction digits than fit (the first that does not fit rounds, five and more away from zero), and a power of ten
after `e` or `E`.
-/

namespace Repricing.Decimal

/-- The last `width` digits of `n`, with leading zeros. -/
def fixedDigits : (width n : Nat) → List Char
  | 0, _ => []
  | width + 1, n => fixedDigits width (n / 10) ++ [Nat.digitChar (n % 10)]

theorem length_fixedDigits (width n : Nat) : (fixedDigits width n).length = width := by
  induction width generalizing n with
  | zero => rfl
  | succ w ih => simp [fixedDigits, ih]

def toChars (d : Decimal) : List Char :=
  let n := d.coefficient.natAbs
  (if d.coefficient < 0 then ['-'] else []) ++ Nat.toDigits 10 (n / tenPow d.scale)
    ++ (if d.scale = 0 then [] else '.' :: fixedDigits d.scale (n % tenPow d.scale))

/-- The text of a decimal: sign, whole part, point and exactly `scale` fraction digits. -/
def toText (d : Decimal) : String := String.ofList d.toChars

def digitValue (c : Char) : Nat := c.toNat - '0'.toNat

/-- Adds the digits of a whole part to a coefficient, over its underscores. -/
def readWhole (coefficient : Nat) : List Char → Option Nat
  | [] => some coefficient
  | c :: rest =>
    if c = '_' then readWhole coefficient rest
    else
      let next := coefficient * 10 + digitValue c
      if next < twoPow 96 then readWhole next rest else none

/-- The first digit that does not fit rounds the coefficient up from five on. A coefficient that leaves 96 bits by
that gives up its last fraction digit. -/
def roundUpFrom (coefficient scale digit : Nat) : Option (Nat × Nat) :=
  if digit < 5 then some (coefficient, scale)
  else if coefficient + 1 < twoPow 96 then some (coefficient + 1, scale)
  else if scale = 0 then none
  else some ((coefficient + 5) / 10, scale - 1)

/-- Adds the digits of a fraction to a coefficient, over its underscores, as far as they fit in 28 places and 96 bits.
The first digit that does not fit rounds. -/
def readFraction (coefficient scale : Nat) : List Char → Option (Nat × Nat)
  | [] => some (coefficient, scale)
  | c :: rest =>
    if c = '_' then readFraction coefficient scale rest
    else
      let next := coefficient * 10 + digitValue c
      if scale < 28 ∧ next < twoPow 96 then readFraction next (scale + 1) rest
      else roundUpFrom coefficient scale (digitValue c)

def splitSign : List Char → Bool × List Char
  | '-' :: rest => (true, rest)
  | '+' :: rest => (false, rest)
  | text => (false, text)

/-- Digits, with underscores after the first one. -/
def IsNumeral (text : List Char) : Prop :=
  (text.head?.any (·.isDigit) && text.all fun c => c.isDigit || c = '_') = true

instance (text : List Char) : Decidable (IsNumeral text) := inferInstanceAs (Decidable (_ = true))

def ofPlain? (text : List Char) : Option Decimal :=
  let (negative, unsigned) := splitSign text
  let whole := unsigned.takeWhile (· ≠ '.')
  let fraction := (unsigned.dropWhile (· ≠ '.')).drop 1
  if IsNumeral (whole ++ fraction) then
    (readWhole 0 whole).bind fun w =>
      (readFraction w 0 fraction).bind fun (coefficient, scale) =>
        make? (if negative then -coefficient else coefficient) scale
  else none

/-- Reads a whole number below `limit`: an optional plus sign and digits. -/
def readCount? (limit : Nat) (text : List Char) : Option Nat :=
  let digits := match text with
    | '+' :: rest => rest
    | _ => text
  if digits ≠ [] ∧ digits.all (·.isDigit) then
    let n := digits.foldl (fun n c => n * 10 + digitValue c) 0
    if n < limit then some n else none
  else none

/-- The decimal times `10 ^ exponent`. What a larger scale leaves no place for is rounded off first, halves away from
zero; a power beyond the fraction digits has to fit as a whole number. -/
def shift? (d : Decimal) (negative : Bool) (exponent : Nat) : Option Decimal :=
  if negative then
    if 28 < exponent then none
    else
      let kept := if 28 < d.scale + exponent then d.round .halfAway (28 - exponent) else d
      make? kept.coefficient (kept.scale + exponent)
  else if exponent ≤ d.scale then make? d.coefficient (d.scale - exponent)
  else if 28 < exponent then none
  else make? (d.coefficient * tenPow (exponent - d.scale)) 0

def ofScientific? (text : List Char) : Option Decimal :=
  let isMark : Char → Bool := fun c => c = 'e' || c = 'E'
  match text.dropWhile (fun c => !isMark c) with
  | [] => none
  | _ :: power =>
    let (negative, power) := match power with
      | '-' :: rest => (true, rest)
      | _ => (false, power)
    (ofPlain? (text.takeWhile fun c => !isMark c)).bind fun base =>
      (readCount? (twoPow 32) power).bind fun exponent => base.shift? negative exponent

def ofChars? (text : List Char) : Option Decimal :=
  (ofPlain? text).or (ofScientific? text)

def ofText? (text : String) : Option Decimal := ofChars? text.toList

end Repricing.Decimal
