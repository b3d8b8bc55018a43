import Repricing.Guardrail.Band
import Repricing.Policy
import Repricing.Proofs.Decimal.Arithmetic
import Repricing.Proofs.Decimal.Cents
import Repricing.Proofs.Decimal.Quotient

namespace Repricing

/-- One without the percentage. -/
def factorDown? (pct : Decimal) : Option Decimal := (percent? pct).bind Decimal.one.sub?

/-- One and the percentage. -/
def factorUp? (pct : Decimal) : Option Decimal := (percent? pct).bind Decimal.one.add?

variable {pct pct' fraction fraction' factor factor' : Decimal}

theorem rounded_percent? (h : percent? pct = some fraction) : Decimal.Rounded (pct.toRat / 100) fraction := by
  rw [← Decimal.toRat_hundred]
  exact Decimal.rounded_div? (by decide) h

theorem percent?_mono (hle : pct ≤ pct') (h : percent? pct = some fraction) (h' : percent? pct' = some fraction') :
    fraction.toRat ≤ fraction'.toRat :=
  (rounded_percent? h).mono (rounded_percent? h')
    (div_le_div_of_nonneg_right (Decimal.le_iff_toRat.mp hle) (by norm_num))

theorem percent?_nonneg (hpct : Decimal.zero ≤ pct) (h : percent? pct = some fraction) : 0 ≤ fraction.toRat := by
  rw [← Decimal.zero_le_iff_toRat, Decimal.le_iff_toRat]
  refine (rounded_percent? h).le_of_ge ?_
  rw [Decimal.toRat_zero]
  exact div_nonneg (Decimal.zero_le_iff_toRat.mp hpct) (by norm_num)

section Exists

/-- A hundredth of a decimal has a decimal, far from the largest one. -/
theorem exists_percent? (pct : Decimal) :
    ∃ fraction, percent? pct = some fraction ∧ |fraction.toRat| ≤ Decimal.largest / 50 := by
  have hpct := pct.abs_toRat_le
  have habs : |pct.toRat / 100| ≤ Decimal.largest / 100 := by
    rw [abs_div, abs_of_pos (by norm_num : (0 : Rat) < 100)]
    exact div_le_div_of_nonneg_right hpct (by norm_num)
  have hrounds := Decimal.roundsTo_div? pct (b := .hundred) (by decide)
  rw [Decimal.toRat_hundred] at hrounds
  obtain ⟨fraction, hfraction, hround⟩ := hrounds.exists_some (habs.trans (by norm_num [Decimal.largest]))
  refine ⟨fraction, hfraction, ?_⟩
  have hsplit := abs_sub_abs_le_abs_sub fraction.toRat (pct.toRat / 100)
  have hnear := hround.abs_sub_le
  unfold Decimal.largest at *
  linarith

theorem one_add_abs_le (h : |fraction.toRat| ≤ Decimal.largest / 50) :
    |Decimal.one.toRat| + |fraction.toRat| ≤ Decimal.largest := by
  rw [Decimal.toRat_one, abs_one]
  unfold Decimal.largest at *
  linarith

theorem exists_factorDown? (pct : Decimal) : ∃ factor, factorDown? pct = some factor := by
  obtain ⟨fraction, hfraction, habs⟩ := exists_percent? pct
  obtain ⟨factor, hfactor, -⟩ :=
    (Decimal.roundsTo_sub? .one fraction).exists_some ((abs_sub _ _).trans (one_add_abs_le habs))
  exact ⟨factor, by rw [factorDown?, hfraction, Option.bind_some, hfactor]⟩

theorem exists_factorUp? (pct : Decimal) : ∃ factor, factorUp? pct = some factor := by
  obtain ⟨fraction, hfraction, habs⟩ := exists_percent? pct
  obtain ⟨factor, hfactor, -⟩ :=
    (Decimal.roundsTo_add? .one fraction).exists_some ((abs_add_le _ _).trans (one_add_abs_le habs))
  exact ⟨factor, by rw [factorUp?, hfraction, Option.bind_some, hfactor]⟩

end Exists

section Order

theorem factorDown?_anti (hle : pct ≤ pct') (h : factorDown? pct = some factor)
    (h' : factorDown? pct' = some factor') : factor'.toRat ≤ factor.toRat := by
  obtain ⟨fraction, hfraction, hfactor⟩ := Option.bind_eq_some_iff.mp h
  obtain ⟨fraction', hfraction', hfactor'⟩ := Option.bind_eq_some_iff.mp h'
  refine (Decimal.rounded_sub? hfactor').mono (Decimal.rounded_sub? hfactor) ?_
  linarith [percent?_mono hle hfraction hfraction']

theorem factorUp?_mono (hle : pct ≤ pct') (h : factorUp? pct = some factor)
    (h' : factorUp? pct' = some factor') : factor.toRat ≤ factor'.toRat := by
  obtain ⟨fraction, hfraction, hfactor⟩ := Option.bind_eq_some_iff.mp h
  obtain ⟨fraction', hfraction', hfactor'⟩ := Option.bind_eq_some_iff.mp h'
  refine (Decimal.rounded_add? hfactor).mono (Decimal.rounded_add? hfactor') ?_
  linarith [percent?_mono hle hfraction hfraction']

theorem factorDown?_le_one (hpct : Decimal.zero ≤ pct) (h : factorDown? pct = some factor) : factor.toRat ≤ 1 := by
  obtain ⟨fraction, hfraction, hfactor⟩ := Option.bind_eq_some_iff.mp h
  rw [← Decimal.toRat_one]
  refine (Decimal.rounded_sub? hfactor).le_of_le ?_
  linarith [percent?_nonneg hpct hfraction]

theorem one_le_factorUp? (hpct : Decimal.zero ≤ pct) (h : factorUp? pct = some factor) : 1 ≤ factor.toRat := by
  obtain ⟨fraction, hfraction, hfactor⟩ := Option.bind_eq_some_iff.mp h
  rw [← Decimal.toRat_one]
  refine (Decimal.rounded_add? hfactor).le_of_ge ?_
  linarith [percent?_nonneg hpct hfraction]

end Order

section Positive

/-- The last decimal before one. -/
def beforeOne : Decimal := ⟨9999999999999999999999999999, 28, by decide, by decide⟩

/-- The first decimal after zero. -/
def afterZero : Decimal := ⟨1, 28, by decide, by decide⟩

theorem toRat_beforeOne : beforeOne.toRat = 1 - 1 / 10 ^ 28 := by
  rw [Decimal.toRat_eq]
  norm_num [beforeOne]

theorem toRat_afterZero : afterZero.toRat = 1 / 10 ^ 28 := by
  rw [Decimal.toRat_eq]
  norm_num [afterZero]

/-- A percentage below a hundred misses it by a unit of the 26th place at least: one with more places is far below. -/
theorem div_hundred_le_of_lt (hlt : pct.toRat < 100) : pct.toRat / 100 ≤ beforeOne.toRat := by
  rw [toRat_beforeOne]
  by_cases hscale : pct.scale ≤ 26
  · obtain ⟨k, hk⟩ := pct.exists_toRat_mul_pow hscale
    have hk_lt : (k : Rat) < (10 ^ 28 : Int) := by
      rw [← hk]
      push_cast
      linarith
    have hk_le : k ≤ 10 ^ 28 - 1 := Int.le_sub_one_of_lt (by exact_mod_cast hk_lt)
    have hk_le : (k : Rat) ≤ 10 ^ 28 - 1 := by exact_mod_cast hk_le
    linarith
  · have hpow : (10 : Rat) ^ 27 ≤ 10 ^ pct.scale := pow_le_pow_right₀ (by norm_num) (by omega)
    have hcoefficient := pct.coefficient_le
    rw [← pct.toRat_mul_pow, abs_mul, abs_of_pos (by positivity : (0 : Rat) < 10 ^ pct.scale)] at hcoefficient
    have hscaled := mul_le_mul_of_nonneg_left hpow (abs_nonneg pct.toRat)
    have hle := le_abs_self pct.toRat
    unfold Decimal.largest at hcoefficient
    linarith

theorem factorDown?_pos (hlt : pct.toRat < 100) (h : factorDown? pct = some factor) : 0 < factor.toRat := by
  obtain ⟨fraction, hfraction, hfactor⟩ := Option.bind_eq_some_iff.mp h
  have hle := (rounded_percent? hfraction).le_of_le (div_hundred_le_of_lt hlt)
  have hge : afterZero.toRat ≤ factor.toRat := by
    refine (Decimal.rounded_sub? hfactor).le_of_ge ?_
    rw [Decimal.toRat_one, toRat_afterZero]
    rw [toRat_beforeOne] at hle
    linarith
  refine lt_of_lt_of_le ?_ hge
  rw [toRat_afterZero]
  positivity

end Positive

section Exact

/-- Hundredths of a percent have decimals as fractions of one. -/
theorem exists_decimal_percent {x : Rat} {k : Int} (hk : x * 100 = k) (hx : |x| ≤ 100) :
    ∃ e : Decimal, e.toRat = x / 100 := by
  have hsmall : |(k : Rat)| ≤ Decimal.largest := by
    rw [← hk, abs_mul, abs_of_pos (by norm_num : (0 : Rat) < 100), Decimal.largest]
    linarith
  obtain ⟨e, he⟩ := Decimal.exists_toRat_eq_div_pow hsmall (by decide : 4 ≤ 28)
  refine ⟨e, ?_⟩
  rw [he, ← hk]
  ring

variable (hcents : pct.InCents) (hpct : 0 ≤ pct.toRat) (hhundred : pct.toRat < 100)
include hcents hpct hhundred

theorem toRat_percent? (h : percent? pct = some fraction) : fraction.toRat = pct.toRat / 100 := by
  obtain ⟨k, hk⟩ := hcents.exists_int
  obtain ⟨e, he⟩ := exists_decimal_percent hk (abs_le.mpr ⟨by linarith, by linarith⟩)
  have hround := rounded_percent? h
  rw [← he] at hround ⊢
  exact hround.toRat_eq_toRat

theorem toRat_factorDown? (h : factorDown? pct = some factor) : factor.toRat = 1 - pct.toRat / 100 := by
  obtain ⟨fraction, hfraction, hfactor⟩ := Option.bind_eq_some_iff.mp h
  obtain ⟨k, hk⟩ := hcents.exists_int
  have hrest : (100 - pct.toRat) * 100 = (10000 - k : Int) := by
    push_cast
    linarith
  obtain ⟨e, he⟩ := exists_decimal_percent hrest (abs_le.mpr ⟨by linarith, by linarith⟩)
  have he : e.toRat = 1 - pct.toRat / 100 := by linarith
  have hround := Decimal.rounded_sub? hfactor
  rw [Decimal.toRat_one, toRat_percent? hcents hpct hhundred hfraction, ← he] at hround
  rw [← he]
  exact hround.toRat_eq_toRat

end Exact

namespace Policy

variable {p : Policy} {fault : PolicyFault}

theorem minMargin_fault_iff :
    p.minMarginPct < .zero ∨ .hundred ≤ p.minMarginPct ↔ ¬(0 ≤ p.minMarginPct.toRat ∧ p.minMarginPct.toRat < 100) := by
  rw [Decimal.lt_iff_toRat, Decimal.toRat_zero, Decimal.le_iff_toRat, Decimal.toRat_hundred, not_and_or, not_le, not_lt]

theorem maxChange_fault_iff : p.maxChangePct < .zero ↔ ¬0 ≤ p.maxChangePct.toRat := by
  rw [Decimal.lt_iff_toRat, Decimal.toRat_zero, not_le]

theorem mem_faults_iff :
    fault ∈ p.faults ↔
      (fault = .minMargin p.minMarginPct ∧ ¬(0 ≤ p.minMarginPct.toRat ∧ p.minMarginPct.toRat < 100)) ∨
        (fault = .maxChange p.maxChangePct ∧ ¬0 ≤ p.maxChangePct.toRat) := by
  rw [← minMargin_fault_iff, ← maxChange_fault_iff, faults, List.mem_append, List.mem_ite_nil_right,
    List.mem_ite_nil_right, List.mem_singleton, List.mem_singleton, and_comm, and_comm (b := fault = _)]

theorem nodup_faults (p : Policy) : p.faults.Nodup := by
  unfold faults
  split <;> split <;> simp

theorem faults_eq_nil_iff :
    p.faults = [] ↔ (0 ≤ p.minMarginPct.toRat ∧ p.minMarginPct.toRat < 100) ∧ 0 ≤ p.maxChangePct.toRat := by
  simp [faults, minMargin_fault_iff, maxChange_fault_iff]

end Policy

end Repricing
