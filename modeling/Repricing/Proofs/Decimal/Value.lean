import Repricing.Decimal.Arithmetic
import Repricing.Proofs.Rounding

namespace Repricing.Decimal

theorem tenPow_cast (n : Nat) : (tenPow n : Rat) = 10 ^ n := by
  simp [tenPow]

theorem toRat_eq (d : Decimal) : d.toRat = d.coefficient / 10 ^ d.scale := by
  rw [toRat, Rat.mkRat_eq_div, tenPow_cast]

theorem toRat_mul_pow (d : Decimal) : d.toRat * 10 ^ d.scale = d.coefficient := by
  rw [toRat_eq, div_mul_cancel₀ _ (by positivity)]

/-- Over a scale that is fine enough, a decimal is a whole number. -/
theorem exists_toRat_mul_pow (d : Decimal) {s : Nat} (h : d.scale ≤ s) : ∃ k : Int, d.toRat * 10 ^ s = k := by
  refine ⟨d.coefficient * 10 ^ (s - d.scale), ?_⟩
  obtain ⟨n, rfl⟩ := Nat.exists_eq_add_of_le h
  rw [pow_add, ← mul_assoc, toRat_mul_pow]
  simp

/-- The largest coefficient. -/
def largest : Rat := 79228162514264337593543950335

theorem coefficient_le (d : Decimal) : |(d.coefficient : Rat)| ≤ largest := by
  have h : d.coefficient.natAbs < 79228162514264337593543950336 := d.coefficient_lt
  rw [← Int.cast_abs, Int.abs_eq_natAbs, largest]
  exact_mod_cast Nat.le_of_lt_succ h

theorem abs_toRat_le (d : Decimal) : |d.toRat| ≤ largest := by
  rw [toRat_eq, abs_div, abs_of_pos (by positivity : (0 : Rat) < 10 ^ d.scale)]
  exact (div_le_self (abs_nonneg _) (one_le_pow₀ (by norm_num))).trans d.coefficient_le

theorem abs_toRat_mul_ten_le {d : Decimal} (h : 0 < d.scale) : |d.toRat| * 10 ≤ largest := by
  have hten : |d.toRat| * 10 ≤ |d.toRat| * 10 ^ d.scale :=
    mul_le_mul_of_nonneg_left (le_self_pow₀ (by norm_num) (by omega)) (abs_nonneg _)
  have hcoefficient := d.coefficient_le
  rw [← d.toRat_mul_pow, abs_mul, abs_of_pos (by positivity : (0 : Rat) < 10 ^ d.scale)] at hcoefficient
  exact hten.trans hcoefficient

section Order

variable {a b : Decimal}

theorem le_iff_toRat : a ≤ b ↔ a.toRat ≤ b.toRat := by
  rw [le_iff, toRat_eq, toRat_eq, div_le_div_iff₀ (by positivity) (by positivity), ← tenPow_cast, ← tenPow_cast]
  exact_mod_cast Iff.rfl

theorem lt_iff_toRat : a < b ↔ a.toRat < b.toRat := by
  rw [lt_iff, toRat_eq, toRat_eq, div_lt_div_iff₀ (by positivity) (by positivity), ← tenPow_cast, ← tenPow_cast]
  exact_mod_cast Iff.rfl

theorem not_le_iff_toRat : ¬a ≤ b ↔ b.toRat < a.toRat := by rw [le_iff_toRat, not_le]

theorem not_lt_iff_toRat : ¬a < b ↔ b.toRat ≤ a.toRat := by rw [lt_iff_toRat, not_lt]

theorem sameValue_iff_toRat : a.SameValue b ↔ a.toRat = b.toRat := by
  rw [SameValue, toRat_eq, toRat_eq, div_eq_div_iff (by positivity) (by positivity), ← tenPow_cast, ← tenPow_cast]
  exact_mod_cast Iff.rfl

theorem toRat_max (a b : Decimal) : (max a b).toRat = max a.toRat b.toRat := by
  change (if a < b then b else a).toRat = _
  split_ifs with h
  · rw [max_eq_right (lt_iff_toRat.mp h).le]
  · rw [max_eq_left (not_lt_iff_toRat.mp h)]

theorem toRat_min (a b : Decimal) : (min a b).toRat = min a.toRat b.toRat := by
  change (if b < a then b else a).toRat = _
  split_ifs with h
  · rw [min_eq_right (lt_iff_toRat.mp h).le]
  · rw [min_eq_left (not_lt_iff_toRat.mp h)]

theorem toRat_neg (a : Decimal) : (-a).toRat = -a.toRat := by
  rw [toRat_eq, toRat_eq]
  change ((-a.coefficient : Int) : Rat) / 10 ^ a.scale = _
  push_cast
  rw [neg_div]

protected theorem le_refl (a : Decimal) : a ≤ a := le_iff_toRat.mpr le_rfl

theorem isPositive_iff_toRat : a.IsPositive ↔ 0 < a.toRat := by
  rw [IsPositive, toRat_eq, lt_div_iff₀ (by positivity), zero_mul, Int.cast_pos]

theorem isZero_iff_toRat : a.IsZero ↔ a.toRat = 0 := by
  rw [IsZero, toRat_eq, div_eq_zero_iff, Int.cast_eq_zero, or_iff_left (by positivity)]

end Order

@[simp] theorem toRat_ofNat (n : Nat) (h : n < twoPow 96) : (ofNat n h).toRat = n := by
  rw [toRat_eq]
  simp [ofNat]

theorem toRat_zero : zero.toRat = 0 := by simp [zero]

theorem toRat_one : one.toRat = 1 := by simp [one]

theorem toRat_hundred : hundred.toRat = 100 := by simp [hundred]

theorem zero_le_iff_toRat {a : Decimal} : zero ≤ a ↔ 0 ≤ a.toRat := by rw [le_iff_toRat, toRat_zero]

theorem not_hundred_le_iff_toRat {a : Decimal} : ¬hundred ≤ a ↔ a.toRat < 100 := by rw [not_le_iff_toRat, toRat_hundred]

/-- The whole numbers of 96 bits have a decimal. -/
theorem exists_toRat_eq {k : Int} (h : |(k : Rat)| ≤ largest) :
    ∃ d : Decimal, d.coefficient = k ∧ d.scale = 0 ∧ d.toRat = k := by
  have hk : k.natAbs ≤ 79228162514264337593543950335 := by
    rw [← Int.cast_abs, Int.abs_eq_natAbs, largest] at h
    exact_mod_cast h
  refine ⟨⟨k, 0, Nat.lt_succ_of_le hk, by decide⟩, rfl, rfl, ?_⟩
  rw [toRat_eq]
  simp

/-- A whole number of units of some place has a decimal, if the number has 96 bits. -/
theorem exists_toRat_eq_div_pow {k : Int} {s : Nat} (h : |(k : Rat)| ≤ largest) (hs : s ≤ 28) :
    ∃ d : Decimal, d.toRat = k / 10 ^ s := by
  have hk : k.natAbs ≤ 79228162514264337593543950335 := by
    rw [← Int.cast_abs, Int.abs_eq_natAbs, largest] at h
    exact_mod_cast h
  exact ⟨⟨k, s, Nat.lt_succ_of_le hk, hs⟩, toRat_eq _⟩

theorem exists_toRat_eq_half {k : Int} (h : 5 * |(k : Rat)| ≤ largest) : ∃ d : Decimal, d.toRat = k / 2 := by
  have hfive : |((5 * k : Int) : Rat)| ≤ largest := by
    rw [Int.cast_mul, abs_mul]
    simpa using h
  obtain ⟨d, hd⟩ := exists_toRat_eq_div_pow hfive (by decide : 1 ≤ 28)
  refine ⟨d, ?_⟩
  rw [hd]
  push_cast
  ring

/-- Rounding to fraction digits rounds the number of units in the last place. -/
theorem rounds_round (rule : Rounding) (digits : Nat) (d : Decimal) :
    ∃ k : Int, rule.Rounds (d.toRat * 10 ^ digits) k ∧ (d.round rule digits).toRat = k / 10 ^ digits := by
  by_cases h : d.scale ≤ digits
  · obtain ⟨k, hk⟩ := d.exists_toRat_mul_pow h
    refine ⟨k, by rw [hk]; exact Rounding.rounds_intCast rule k, ?_⟩
    rw [round, dif_pos h, ← hk, mul_div_cancel_right₀ _ (by positivity)]
  · refine ⟨rule.quotient d.coefficient (tenPow (d.scale - digits)), ?_, ?_⟩
    · have hx : d.toRat * 10 ^ digits = d.coefficient / (tenPow (d.scale - digits) : Nat) := by
        rw [tenPow_cast, eq_div_iff (by positivity), mul_assoc, ← pow_add, Nat.add_sub_cancel' (by omega),
          toRat_mul_pow]
      rw [hx]
      exact Rounding.rounds_quotient rule _ (tenPow_pos _)
    · rw [toRat_eq, round, dif_neg h]

theorem round_mono {rule : Rounding} {digits : Nat} {a b : Decimal} (h : a ≤ b) :
    a.round rule digits ≤ b.round rule digits := by
  obtain ⟨k, hk, ha⟩ := a.rounds_round rule digits
  obtain ⟨l, hl, hb⟩ := b.rounds_round rule digits
  have hkl : k ≤ l := hk.mono hl (mul_le_mul_of_nonneg_right (le_iff_toRat.mp h) (by positivity))
  rw [le_iff_toRat, ha, hb]
  exact div_le_div_of_nonneg_right (by exact_mod_cast hkl) (by positivity)

theorem toRat_round_of_intCast {rule : Rounding} {digits : Nat} {d : Decimal} {k : Int} (h : d.toRat = k) :
    (d.round rule digits).toRat = k := by
  obtain ⟨l, hl, hd⟩ := d.rounds_round rule digits
  have hk : d.toRat * 10 ^ digits = ((k * 10 ^ digits : Int) : Rat) := by
    rw [h]
    push_cast
    rfl
  rw [hk] at hl
  rw [hd, hl.eq_of_intCast]
  push_cast
  rw [mul_div_cancel_right₀ _ (by positivity)]

theorem scale_round_le (rule : Rounding) (digits : Nat) (d : Decimal) : (d.round rule digits).scale ≤ digits := by
  unfold round
  split_ifs with h
  · exact h
  · exact le_rfl

theorem round_eq_self {rule : Rounding} {digits : Nat} {d : Decimal} (h : d.scale ≤ digits) :
    d.round rule digits = d := dif_pos h

theorem toRat_toCents_mono {a b : Decimal} (h : a.toRat ≤ b.toRat) : a.toCents.toRat ≤ b.toCents.toRat :=
  le_iff_toRat.mp (round_mono (le_iff_toRat.mpr h))

theorem toRat_toCents_congr {a b : Decimal} (h : a.toRat = b.toRat) : a.toCents.toRat = b.toCents.toRat :=
  le_antisymm (toRat_toCents_mono h.le) (toRat_toCents_mono h.ge)

theorem toCents_toCents (d : Decimal) : d.toCents.toCents = d.toCents :=
  round_eq_self (scale_round_le _ _ _)

end Repricing.Decimal
