import Repricing.Rounding

namespace Repricing

/-- The decimal number `coefficient / 10 ^ scale`. -/
@[ext] structure Decimal where
  coefficient : Int
  scale : Nat
  coefficient_lt : coefficient.natAbs < twoPow 96
  scale_le : scale ≤ 28
  deriving DecidableEq

namespace Decimal

/-- The decimal with the given coefficient and scale, where both are in range. -/
def make? (coefficient : Int) (scale : Nat) : Option Decimal :=
  if h : coefficient.natAbs < twoPow 96 ∧ scale ≤ 28 then some ⟨coefficient, scale, h.1, h.2⟩ else none

theorem make?_eq_some_iff {c : Int} {s : Nat} {d : Decimal} :
    make? c s = some d ↔ d.coefficient = c ∧ d.scale = s := by
  unfold make?
  constructor
  · intro h
    split at h
    · cases h
      exact ⟨rfl, rfl⟩
    · cases h
  · rintro ⟨rfl, rfl⟩
    rw [dif_pos ⟨d.coefficient_lt, d.scale_le⟩]

/-- A whole number small enough for the coefficient, without fraction digits. -/
def ofNat (n : Nat) (h : n < twoPow 96 := by decide) : Decimal :=
  ⟨n, 0, by simpa using h, by decide⟩

/-- A whole number without fraction digits, where it fits. -/
def ofInt? (n : Int) : Option Decimal := make? n 0

def zero : Decimal := ofNat 0

def one : Decimal := ofNat 1

def five : Decimal := ofNat 5

def ten : Decimal := ofNat 10

def hundred : Decimal := ofNat 100

theorem natAbs_int64_lt (n : Int64) : n.toInt.natAbs < twoPow 96 := by
  have := n.toInt_lt
  have := n.le_toInt
  have : twoPow 96 = 79228162514264337593543950336 := rfl
  omega

/-- A 64-bit number without fraction digits; it always fits. -/
def ofInt64 (n : Int64) : Decimal := ⟨n.toInt, 0, natAbs_int64_lt n, by decide⟩

/-- The coefficient over the finer of the two scales, so that two decimals compare as whole numbers. -/
def aligned (d : Decimal) (scale : Nat) : Int := d.coefficient * tenPow (scale - d.scale)

/-- The number that the decimal stands for. -/
def toRat (d : Decimal) : Rat := mkRat d.coefficient (tenPow d.scale)

instance : LE Decimal := ⟨fun a b => a.coefficient * tenPow b.scale ≤ b.coefficient * tenPow a.scale⟩

instance : LT Decimal := ⟨fun a b => a.coefficient * tenPow b.scale < b.coefficient * tenPow a.scale⟩

instance (a b : Decimal) : Decidable (a ≤ b) :=
  inferInstanceAs (Decidable (a.coefficient * tenPow b.scale ≤ b.coefficient * tenPow a.scale))

instance (a b : Decimal) : Decidable (a < b) :=
  inferInstanceAs (Decidable (a.coefficient * tenPow b.scale < b.coefficient * tenPow a.scale))

/-- Two decimals stand for one number, whatever their scales. -/
def SameValue (a b : Decimal) : Prop := a.coefficient * tenPow b.scale = b.coefficient * tenPow a.scale

instance (a b : Decimal) : Decidable (SameValue a b) :=
  inferInstanceAs (Decidable (a.coefficient * tenPow b.scale = b.coefficient * tenPow a.scale))

theorem le_iff {a b : Decimal} : a ≤ b ↔ a.coefficient * tenPow b.scale ≤ b.coefficient * tenPow a.scale := Iff.rfl

theorem lt_iff {a b : Decimal} : a < b ↔ a.coefficient * tenPow b.scale < b.coefficient * tenPow a.scale := Iff.rfl

/-- The larger of two decimals, the left one if they have one value. -/
instance : Max Decimal := ⟨fun a b => if a < b then b else a⟩

/-- The smaller of two decimals, the left one if they have one value. -/
instance : Min Decimal := ⟨fun a b => if b < a then b else a⟩

/-- Zero, at whatever scale. -/
def IsZero (d : Decimal) : Prop := d.coefficient = 0

instance (d : Decimal) : Decidable d.IsZero := inferInstanceAs (Decidable (d.coefficient = 0))

/-- Above zero. -/
def IsPositive (d : Decimal) : Prop := 0 < d.coefficient

instance (d : Decimal) : Decidable d.IsPositive := inferInstanceAs (Decidable (0 < d.coefficient))

theorem isPositive_iff {d : Decimal} : d.IsPositive ↔ zero < d := by
  simp [IsPositive, lt_iff, zero, ofNat, tenPow_zero]

end Decimal

end Repricing
