import Repricing.Guardrail.Result

namespace Repricing

/-- A price under way, with the log of its moves so far. -/
structure Candidate where
  price : Decimal
  log : List Adjustment
  deriving DecidableEq

/-- A price that was given up: why, and the log up to there. -/
structure Blocked where
  reason : BlockReason
  log : List Adjustment
  deriving DecidableEq

namespace Candidate

/-- The candidate at another price, with an entry in the log. -/
def moveTo (c : Candidate) (rule : Adjustment.Rule) (price : Decimal) : Candidate :=
  ⟨price, c.log ++ [⟨rule, c.price, price⟩]⟩

def block (c : Candidate) (reason : BlockReason) : Except Blocked Candidate := .error ⟨reason, c.log⟩

/-- Goes on with a price if there is one; a price that has no decimal blocks. -/
def withPrice (c : Candidate) (price : Option Decimal) (next : Decimal → Except Blocked Candidate) :
    Except Blocked Candidate :=
  match price with
  | some price => next price
  | none => c.block .outOfRange

def clampToBand (band : Option Band) (maxChangePct : Decimal) (c : Candidate) : Candidate :=
  match band with
  | none => c
  | some band =>
    let clamped := band.clamp c.price
    if clamped.SameValue c.price then c else c.moveTo (.maxChange maxChangePct) clamped

def raiseToFloor (floor minMarginPct : Decimal) (c : Candidate) : Candidate :=
  if c.price < floor then c.moveTo (.minMargin minMarginPct) floor else c

def ensureWithinBand (band : Option Band) (c : Candidate) : Except Blocked Candidate :=
  match band with
  | some band => if band.upper < c.price then c.block .marginOutsideBand else .ok c
  | none => .ok c

def round (mode : RoundingMode) (c : Candidate) : Except Blocked Candidate :=
  c.withPrice (mode.snapNearest? c.price) fun rounded =>
    .ok (if rounded.SameValue c.price then c else c.moveTo (.rounding mode) rounded)

/-- Below the band after rounding: moves to the least multiple in the band, if there is one. -/
def repairLowerBound (band : Option Band) (mode : RoundingMode) (c : Candidate) : Except Blocked Candidate :=
  match band with
  | none => .ok c
  | some band =>
    if band.lower ≤ c.price then .ok c
    else
      c.withPrice (mode.snapUp? band.lower) fun repaired =>
        .ok (if repaired ≤ band.upper then c.moveTo .lowerBoundAfterRounding repaired else c)

/-- Below the floor after rounding: moves to the least multiple that is not below it, or blocks if that is above the
band. -/
def repairMargin (floor : Decimal) (band : Option Band) (mode : RoundingMode) (c : Candidate) :
    Except Blocked Candidate :=
  if floor ≤ c.price then .ok c
  else
    c.withPrice (mode.snapUp? floor) fun repaired =>
      match band with
      | some band =>
        if band.upper < repaired then c.block .marginAfterRounding
        else .ok (c.moveTo .marginAfterRounding repaired)
      | none => .ok (c.moveTo .marginAfterRounding repaired)

/-- Above the band after rounding: moves to the largest multiple that is not above it, or blocks if that is below the
cost or the floor. -/
def repairUpperBound (band : Option Band) (cost floor : Decimal) (mode : RoundingMode) (c : Candidate) :
    Except Blocked Candidate :=
  match band with
  | none => .ok c
  | some band =>
    if c.price ≤ band.upper then .ok c
    else
      c.withPrice (mode.snapDown? band.upper) fun repaired =>
        if repaired < cost ∨ repaired < floor then c.block .maxChangeAfterRounding
        else .ok (c.moveTo .upperBoundAfterRounding repaired)

/-- All steps, in their order. -/
def guard (cost currentPrice : Decimal) (policy : Policy) (c : Candidate) : Except Blocked Candidate :=
  match Band.around currentPrice policy.maxChangePct with
  | .error reason => c.block reason
  | .ok band =>
    let c := c.clampToBand band policy.maxChangePct
    match minPriceForMargin? cost policy.minMarginPct with
    | none => c.block .invalidMinMargin
    | some floor => do
      let c ← (c.raiseToFloor floor policy.minMarginPct).ensureWithinBand band
      let c ← c.round policy.roundingMode
      let c ← c.repairLowerBound band policy.roundingMode
      let c ← c.repairMargin floor band policy.roundingMode
      c.repairUpperBound band cost floor policy.roundingMode

end Candidate

/-- The verdict on a suggested price, of which cents alone count. -/
def enforce (cost currentPrice suggestedPrice : Decimal) (policy : Policy) : GuardrailResult :=
  let suggested := suggestedPrice.toCents
  match Candidate.guard cost currentPrice policy ⟨suggested, []⟩ with
  | .ok c =>
    let final := c.price.toCents
    { safetyStatus := .ok
      safetyReason := none
      suggestedPriceOriginal := suggested
      suggestedPriceFinal := final
      adjusted := !decide (final.SameValue suggested)
      reasons := c.log.map Adjustment.message
      marginPctFinal := marginPct? final cost }
  | .error b =>
    { safetyStatus := .blocked
      safetyReason := some b.reason
      suggestedPriceOriginal := suggested
      suggestedPriceFinal := suggested
      adjusted := false
      reasons := b.log.map Adjustment.message
      marginPctFinal := none }

end Repricing
