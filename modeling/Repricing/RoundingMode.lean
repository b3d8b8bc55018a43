import Repricing.Decimal.Quotient
import Repricing.Document.Record
import Repricing.Text.Character

namespace Repricing

inductive RoundingMode where
  | none
  | nearest1
  | nearest5
  | nearest10
  deriving DecidableEq

namespace RoundingMode

def all : List RoundingMode := [none, nearest1, nearest5, nearest10]

def name : RoundingMode → String
  | none => "NONE"
  | nearest1 => "NEAREST_1"
  | nearest5 => "NEAREST_5"
  | nearest10 => "NEAREST_10"

def step : RoundingMode → Option Decimal
  | none => .none
  | nearest1 => some .one
  | nearest5 => some .five
  | nearest10 => some .ten

def decode : Decoder RoundingMode := Decoder.variant all name

/-- A name as it is compared: without blanks around it, in capitals, with underscores for hyphens. -/
def normalize (text : List Char) : List Char :=
  (Text.trimBlanks text).map fun c => if c = '-' then '_' else c.toUpper

/-- The mode that a text names, in either case and with hyphens or underscores. -/
def ofText? (text : String) : Option RoundingMode :=
  all.find? fun mode => mode.name.toList = normalize text.toList

def unknownMessage (text : String) : String :=
  "unknown rounding mode '" ++ text ++ "' (expected NONE, NEAREST_1, NEAREST_5 or NEAREST_10)"

/-- The multiple of the mode's step that the rule leads to from a price. -/
def snap? (mode : RoundingMode) (rule : Rounding) (price : Decimal) : Option Decimal :=
  match mode.step with
  | .none => some price
  | some step => (price.div? step).bind fun quotient => (quotient.round rule 0).mul? step

/-- The nearest multiple; a price halfway between two goes to the one farther from zero. -/
def snapNearest? (mode : RoundingMode) : Decimal → Option Decimal := mode.snap? .halfAway

/-- The least multiple that is not below the price. -/
def snapUp? (mode : RoundingMode) : Decimal → Option Decimal := mode.snap? .up

/-- The largest multiple that is not above the price. -/
def snapDown? (mode : RoundingMode) : Decimal → Option Decimal := mode.snap? .down

end RoundingMode

end Repricing
