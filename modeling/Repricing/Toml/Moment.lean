import Repricing.Toml.Number
import Repricing.Toml.Quoted

namespace Repricing.Toml

/-- Reads a number of exactly `width` digits that lies between two bounds. -/
def readWithin (width low high : Nat) (text : List Char) : Step Nat :=
  let digits := text.take width
  let n := digitsValue 10 digits
  if digits.length = width ∧ digits.all Char.isDigit ∧ low ≤ n ∧ n ≤ high then some (n, text.drop width) else none

/-- The text behind a character that has to stand here. -/
def behind? (c : Char) : List Char → Option (List Char)
  | [] => none
  | d :: rest => if d = c then some rest else none

def monthLength (year month : Nat) : Nat :=
  if month = 2 then (if year % 4 = 0 ∧ (year % 100 ≠ 0 ∨ year % 400 = 0) then 29 else 28)
  else if month ∈ [4, 6, 9, 11] then 30
  else 31

/-- The text behind a day: year, month and day of the month. -/
def skipDay? (text : List Char) : Option (List Char) := do
  let (year, rest) ← readWithin 4 0 9999 text
  let (month, rest) ← readWithin 2 1 12 (← behind? '-' rest)
  let (_, rest) ← readWithin 2 1 (monthLength year month) (← behind? '-' rest)
  pure rest

/-- The text behind a time of day: hour, minute, second and perhaps a fraction of a second. -/
def skipTime? (text : List Char) : Option (List Char) := do
  let (_, rest) ← readWithin 2 0 23 text
  let (_, rest) ← readWithin 2 0 59 (← behind? ':' rest)
  let (_, rest) ← readWithin 2 0 60 (← behind? ':' rest)
  match rest with
  | '.' :: digits => if digits.takeWhile Char.isDigit = [] then none else some (digits.dropWhile Char.isDigit)
  | _ => some rest

/-- The text behind the distance of a time of day from the common one, if one stands here. -/
def skipOffset (text : List Char) : List Char :=
  match text with
  | [] => []
  | c :: rest =>
    if c = 'Z' ∨ c = 'z' then rest
    else if c = '+' ∨ c = '-' then
      let behind : Option (List Char) := do
        let (_, rest) ← readWithin 2 0 23 rest
        let (_, rest) ← readWithin 2 0 59 (← behind? ':' rest)
        pure rest
      behind.getD text
    else text

/-- The text behind a day, a time of day, or both, the second after a blank or a `T`. -/
def skipMoment? (text : List Char) : Option (List Char) :=
  match skipDay? text with
  | none => skipTime? text
  | some [] => some []
  | some (c :: rest) =>
    if c = 'T' ∨ c = 't' ∨ c = ' ' then
      match skipTime? rest with
      | some rest => some (skipOffset rest)
      | none => some (c :: rest)
    else some (c :: rest)

end Repricing.Toml
