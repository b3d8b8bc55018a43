import Repricing.Binary64.Shortest
import Repricing.Decimal.Text
import Repricing.Text.Character

namespace Repricing.Toml

/-- A value of a settings file. No setting is a truth value, a day, a time or a number that is not finite, so of those
only the kind is kept. -/
inductive Value where
  | integer (n : Int)
  | float (x : Binary64)
  /-- An infinity, or a result that is no number. -/
  | nonFinite
  | boolean
  /-- A day, a time of day, or both. -/
  | moment
  | string (s : String)
  | array (items : List Value)
  /-- The assignments between braces, each to a dotted key. -/
  | table (members : List (List String × Value))

/-- One line of a settings file, apart from blanks and comments. -/
inductive Statement where
  | table (key : List String)
  | tableItem (key : List String)
  | assignment (key : List String) (value : Value)

/-- Digits with single underscores between them, without those. -/
def ungroup? (isDigit : Char → Bool) (text : List Char) : Option (List Char) :=
  match text with
  | [] => none
  | [c] => if isDigit c then some [c] else none
  | c :: '_' :: rest => if isDigit c then (ungroup? isDigit rest).map (c :: ·) else none
  | c :: rest => if isDigit c then (ungroup? isDigit rest).map (c :: ·) else none

/-- The whole part of a number: digits that start with a zero only if it is the only one. -/
def wholeDigits? (text : List Char) : Option (List Char) :=
  match ungroup? Char.isDigit text with
  | some ('0' :: _ :: _) => none
  | digits => digits

/-- A whole number within 64 bits. -/
def integer? (n : Int) : Option Value :=
  if IsInt64 n then some (.integer n) else none

def isOctal (c : Char) : Bool := '0' ≤ c && c ≤ '7'

def isBinary (c : Char) : Bool := c = '0' || c = '1'

def isHex (c : Char) : Bool := (Text.hexDigit? c).isSome

/-- The number that digits spell in a base up to ten. -/
def digitsValue (base : Nat) (digits : List Char) : Nat :=
  digits.foldl (fun n c => n * base + Decimal.digitValue c) 0

/-- The floating-point number with the given whole part, fraction and power of ten. One below all of them is not finite;
one above all of them is refused. -/
def float? (negative : Bool) (whole fraction power : List Char) : Option Value :=
  let (powerNegative, power) := Decimal.splitSign power
  (wholeDigits? whole).bind fun whole =>
    (if fraction = [] then some [] else ungroup? Char.isDigit fraction).bind fun fraction =>
      (if power = [] then some [] else ungroup? Char.isDigit power).bind fun power =>
        let exponent : Int := digitsValue 10 power
        let shift := (if powerNegative then -exponent else exponent) - fraction.length
        match Binary64.ofDigits? negative (digitsValue 10 (whole ++ fraction)) shift with
        | some x => some (.float x)
        | none => if negative then some .nonFinite else none

def number? (word : List Char) : Option Value :=
  match word with
  | '0' :: 'x' :: digits => (ungroup? isHex digits).bind fun digits => (Text.hexNumber? digits).bind fun n => integer? n
  | '0' :: 'o' :: digits => (ungroup? isOctal digits).bind fun digits => integer? (digitsValue 8 digits)
  | '0' :: 'b' :: digits => (ungroup? isBinary digits).bind fun digits => integer? (digitsValue 2 digits)
  | _ =>
    let (negative, unsigned) := Decimal.splitSign word
    let isMark : Char → Bool := fun c => c = 'e' || c = 'E'
    let digits := unsigned.takeWhile fun c => !isMark c
    let power := unsigned.dropWhile fun c => !isMark c
    let whole := digits.takeWhile (· ≠ '.')
    match digits.dropWhile (· ≠ '.'), power with
    | [], [] => (wholeDigits? whole).bind fun whole =>
      let n : Int := digitsValue 10 whole
      integer? (if negative then -n else n)
    | ['.'], _ => none
    | _, [_] => none
    | [], _ :: power => if (Decimal.splitSign power).2 = [] then none else float? negative whole [] power
    | _ :: fraction, [] => float? negative whole fraction []
    | _ :: fraction, _ :: power =>
      if (Decimal.splitSign power).2 = [] then none else float? negative whole fraction power

/-- The value that a word without blanks spells: a number or a truth value. -/
def word? (word : List Char) : Option Value :=
  let unsigned := (Decimal.splitSign word).2
  if unsigned = "inf".toList ∨ unsigned = "nan".toList then some .nonFinite
  else if word = "true".toList ∨ word = "false".toList then some .boolean
  else number? word

end Repricing.Toml
