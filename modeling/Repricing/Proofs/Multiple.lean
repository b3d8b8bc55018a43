import Repricing.Proofs.Decimal.Arithmetic
import Repricing.Proofs.Decimal.Quotient
import Repricing.RoundingMode

namespace Repricing.RoundingMode

/-- The number is a multiple of the mode's step; without a step every number is. -/
def IsMultiple (mode : RoundingMode) (x : Rat) : Prop :=
  match mode.step with
  | .none => True
  | some step => ∃ k : Int, x = k * step.toRat

theorem isMultiple_of_unstepped {mode : RoundingMode} (hm : mode.step = .none) (x : Rat) : mode.IsMultiple x := by
  simp [IsMultiple, hm]

theorem step_spec {mode : RoundingMode} {step : Decimal} (h : mode.step = some step) :
    ∃ g : Int, (g = 1 ∨ g = 5 ∨ g = 10) ∧ step.toRat = g := by
  cases mode with
  | none => cases h
  | nearest1 =>
    cases h
    exact ⟨1, by decide, by simp [Decimal.one]⟩
  | nearest5 =>
    cases h
    exact ⟨5, by decide, by simp [Decimal.five]⟩
  | nearest10 =>
    cases h
    exact ⟨10, by decide, by simp [Decimal.ten]⟩

section Step

variable {mode : RoundingMode} {step : Decimal} (hm : mode.step = some step)
include hm

theorem one_le_step : 1 ≤ step.toRat := by
  obtain ⟨g, hg, hstep⟩ := step_spec hm
  have hpos : 1 ≤ g := by omega
  rw [hstep]
  exact_mod_cast hpos

theorem step_le_ten : step.toRat ≤ 10 := by
  obtain ⟨g, hg, hstep⟩ := step_spec hm
  have hle : g ≤ 10 := by omega
  rw [hstep]
  exact_mod_cast hle

theorem isMultiple_iff {x : Rat} : mode.IsMultiple x ↔ ∃ k : Int, x = k * step.toRat := by
  simp [IsMultiple, hm]

theorem IsMultiple.exists_int {x : Rat} (h : mode.IsMultiple x) : ∃ k : Int, x = k := by
  obtain ⟨k, rfl⟩ := (isMultiple_iff hm).mp h
  obtain ⟨g, -, hstep⟩ := step_spec hm
  refine ⟨k * g, ?_⟩
  rw [hstep]
  push_cast
  rfl

/-- A price is always small enough to be divided by the step. -/
theorem exists_div?_step (price : Decimal) :
    ∃ q, price.div? step = some q ∧ Decimal.Rounded (price.toRat / step.toRat) q := by
  have hg := one_le_step hm
  have hzero : ¬step.IsZero := by
    rw [Decimal.isZero_iff_toRat]
    linarith
  refine (Decimal.roundsTo_div? price hzero).exists_some ?_
  rw [abs_div, abs_of_nonneg (by linarith : 0 ≤ step.toRat)]
  exact (div_le_self (abs_nonneg _) hg).trans price.abs_toRat_le

theorem rounded_div?_step {v q : Decimal} (hq : v.div? step = some q) : Decimal.Rounded (v.toRat / step.toRat) q := by
  obtain ⟨q', hq', hround⟩ := exists_div?_step hm v
  obtain rfl : q' = q := Option.some.inj (hq'.symm.trans hq)
  exact hround

theorem div?_step_mono {v w p q : Decimal} (hp : v.div? step = some p) (hq : w.div? step = some q) (h : v ≤ w) :
    p.toRat ≤ q.toRat := by
  have hg := one_le_step hm
  exact (rounded_div?_step hm hp).mono (rounded_div?_step hm hq)
    (div_le_div_of_nonneg_right (Decimal.le_iff_toRat.mp h) (by linarith))

/-- Distances from the price are those from the quotient, in steps. -/
theorem abs_mul_step_sub (v : Decimal) (x : Rat) :
    |x * step.toRat - v.toRat| = |v.toRat / step.toRat - x| * step.toRat := by
  have hpos : 0 < step.toRat := by linarith [one_le_step hm]
  rw [← abs_of_pos hpos, ← abs_mul, abs_of_pos hpos, sub_mul, div_mul_cancel₀ _ hpos.ne', abs_sub_comm]

/-- How far the rounding of the quotient moves a price. -/
theorem abs_mul_step_sub_le {v q : Decimal} (hq : v.div? step = some q) :
    |q.toRat * step.toRat - v.toRat| ≤ (step.toRat + |v.toRat|) / 10 ^ 28 := by
  have hpos : 0 < step.toRat := by linarith [one_le_step hm]
  have hnear := (rounded_div?_step hm hq).abs_sub_le
  rw [abs_sub_comm, abs_div, abs_of_pos hpos] at hnear
  calc |q.toRat * step.toRat - v.toRat| = |v.toRat / step.toRat - q.toRat| * step.toRat := abs_mul_step_sub hm v _
    _ ≤ (1 + |v.toRat| / step.toRat) / 10 ^ 28 * step.toRat := mul_le_mul_of_nonneg_right hnear hpos.le
    _ = (step.toRat + |v.toRat|) / 10 ^ 28 := by
        rw [div_mul_eq_mul_div, add_mul, div_mul_cancel₀ _ hpos.ne', one_mul]

theorem abs_le_of_half {v : Decimal} {i : Int} (hv : 2 * v.toRat = i * step.toRat) :
    |(i : Rat)| ≤ 2 * |v.toRat| := by
  have hpos := one_le_step hm
  have h := congrArg abs hv
  rw [abs_mul, abs_mul, abs_two, abs_of_nonneg (by linarith : 0 ≤ step.toRat)] at h
  rw [h]
  exact le_mul_of_one_le_right (abs_nonneg _) hpos

/-- A price halfway between two multiples has a fraction digit, unless the step is ten. -/
theorem five_mul_abs_le_of_half {v : Decimal} {i : Int} (hv : 2 * v.toRat = i * step.toRat) (hi : Odd i) :
    5 * |(i : Rat)| ≤ Decimal.largest := by
  have habs := abs_le_of_half hm hv
  obtain ⟨j, rfl⟩ := hi
  rcases Nat.eq_zero_or_pos v.scale with hscale | hscale
  · obtain ⟨g, hg, hstep⟩ := step_spec hm
    have hc : v.toRat = v.coefficient := by simpa [hscale] using v.toRat_mul_pow
    have hint : 2 * v.coefficient = (2 * j + 1) * g := by
      rw [hc, hstep] at hv
      exact_mod_cast hv
    have hten : g = 10 := by
      rcases hg with rfl | rfl | rfl
      · omega
      · omega
      · rfl
    have hfive : v.toRat = 5 * ((2 * j + 1 : Int) : Rat) := by
      rw [hstep, hten] at hv
      push_cast at hv ⊢
      linarith
    have hle := v.abs_toRat_le
    rwa [hfive, abs_mul, abs_of_pos (by norm_num : (0 : Rat) < 5)] at hle
  · linarith [Decimal.abs_toRat_mul_ten_le hscale]

/-- The quotient of a price halfway between two multiples has a decimal. -/
theorem exists_decimal_of_half {v : Decimal} {i : Int} (hv : 2 * v.toRat = i * step.toRat) :
    ∃ e : Decimal, e.toRat = v.toRat / step.toRat := by
  have hdiv : v.toRat / step.toRat = i / 2 := by
    rw [div_eq_div_iff (by linarith [one_le_step hm]) (by norm_num)]
    linarith
  rw [hdiv]
  rcases Int.even_or_odd i with heven | hodd
  · have habs := abs_le_of_half hm hv
    obtain ⟨j, rfl⟩ := heven.two_dvd
    push_cast at habs ⊢
    rw [abs_mul, abs_two] at habs
    have hj : |(j : Rat)| ≤ Decimal.largest := by linarith [v.abs_toRat_le]
    obtain ⟨e, -, -, he⟩ := Decimal.exists_toRat_eq hj
    exact ⟨e, by rw [he]; ring⟩
  · exact Decimal.exists_toRat_eq_half (five_mul_abs_le_of_half hm hv hodd)

/-- The quotient of a price halfway between two multiples is exact. -/
theorem div?_step_of_half {v q : Decimal} {i : Int} (hv : 2 * v.toRat = i * step.toRat)
    (hq : v.div? step = some q) : 2 * q.toRat = i := by
  obtain ⟨e, he⟩ := exists_decimal_of_half hm hv
  have hround := rounded_div?_step hm hq
  rw [← he] at hround
  rw [hround.toRat_eq_toRat, he, mul_div_assoc', hv, mul_div_cancel_right₀ _ (by linarith [one_le_step hm])]

/-- The quotient of a multiple is exact. -/
theorem div?_step_of_multiple {v q : Decimal} {k : Int} (hv : v.toRat = k * step.toRat)
    (hq : v.div? step = some q) : q.toRat = k := by
  have htwice : 2 * v.toRat = (2 * k : Int) * step.toRat := by
    rw [hv]
    push_cast
    ring
  have hq := div?_step_of_half hm htwice hq
  push_cast at hq
  linarith

theorem exists_quotient_le {v d : Decimal} {k : Int} (hd : d.toRat = k * step.toRat) (h : v.toRat ≤ d.toRat) :
    ∃ q, v.div? step = some q ∧ q.toRat ≤ k := by
  obtain ⟨q, hq, -⟩ := exists_div?_step hm v
  obtain ⟨p, hp, -⟩ := exists_div?_step hm d
  refine ⟨q, hq, ?_⟩
  rw [← div?_step_of_multiple hm hd hp]
  exact div?_step_mono hm hq hp (Decimal.le_iff_toRat.mpr h)

theorem exists_le_quotient {v d : Decimal} {k : Int} (hd : d.toRat = k * step.toRat) (h : d.toRat ≤ v.toRat) :
    ∃ q, v.div? step = some q ∧ (k : Rat) ≤ q.toRat := by
  obtain ⟨q, hq, -⟩ := exists_div?_step hm v
  obtain ⟨p, hp, -⟩ := exists_div?_step hm d
  refine ⟨q, hq, ?_⟩
  rw [← div?_step_of_multiple hm hd hp]
  exact div?_step_mono hm hp hq (Decimal.le_iff_toRat.mpr h)

end Step

/-- A multiple of a step that is small enough has a decimal. -/
theorem IsMultiple.exists_decimal {mode : RoundingMode} {step : Decimal} {x : Rat} (h : mode.IsMultiple x)
    (hm : mode.step = some step) (hx : |x| ≤ Decimal.largest) : ∃ d : Decimal, d.toRat = x := by
  obtain ⟨k, rfl⟩ := h.exists_int hm
  obtain ⟨d, -, -, hd⟩ := Decimal.exists_toRat_eq hx
  exact ⟨d, hd⟩

/-- Rounding to cents keeps a multiple of a step. -/
theorem IsMultiple.toRat_toCents {mode : RoundingMode} {step d : Decimal} (h : mode.IsMultiple d.toRat)
    (hm : mode.step = some step) : d.toCents.toRat = d.toRat := by
  obtain ⟨k, hk⟩ := h.exists_int hm
  rw [hk]
  exact Decimal.toRat_round_of_intCast hk

end Repricing.RoundingMode
