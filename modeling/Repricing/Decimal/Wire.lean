import Repricing.Json.Basic

namespace Repricing.Decimal

/-- The value as a signed 64-bit number, if it is one. -/
def toInt64? (d : Decimal) : Option Int :=
  let whole := d.coefficient / tenPow d.scale
  if d.coefficient % tenPow d.scale = 0 ∧ IsInt64 whole then some whole else none

/-- The floating-point number for a decimal. Whole part and fraction are converted apart and added; the sum is then
rounded to the decimal's fraction digits. -/
def toBinary64? (d : Decimal) : Option Binary64 :=
  if d.scale = 0 then Binary64.ofInt? d.coefficient
  else
    let n := d.coefficient.natAbs
    (Binary64.ofInt? (tenPow d.scale)).bind fun unit =>
      (Binary64.ofInt? (n / tenPow d.scale : Nat)).bind fun whole =>
        (Binary64.ofInt? (n % tenPow d.scale : Nat)).bind fun part =>
          (part.div? unit).bind fun fraction =>
            let magnitude :=
              if fraction.significand = 0 then some whole
              else
                (whole.add? fraction).bind fun sum =>
                  (sum.mul? unit).bind fun scaled =>
                    scaled.toWhole?.bind fun rounded => rounded.div? unit
            magnitude.map fun x => { x with negative := decide (d.coefficient < 0) }

def toJson (d : Decimal) : Json :=
  match d.toInt64? with
  | some n => Json.ofInt n
  | none =>
    match d.toBinary64? with
    | some x =>
      match ofChars? x.positionalText with
      | some shown => if SameValue shown d then .number (.float x) else .string d.toText
      | none => .string d.toText
    | none => .string d.toText

/-- The decimal that a number of a document stands for where an amount is expected: floating-point numbers are written
out in full first. -/
def ofNumber? : Json.Number → Option Decimal
  | .integer n => ofInt? n
  | .float x => ofChars? x.positionalText

end Repricing.Decimal
