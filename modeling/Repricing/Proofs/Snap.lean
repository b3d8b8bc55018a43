import Mathlib.Order.Bounds.Basic
import Repricing.Proofs.Multiple

namespace Repricing.RoundingMode

/-- The snap of the price is the number `x`, whether that has a decimal or not. -/
def SnapsTo (mode : RoundingMode) (rule : Rounding) (price : Decimal) (x : Rat) : Prop :=
  match mode.step with
  | .none => x = price.toRat
  | some step => ∃ q k, price.div? step = some q ∧ rule.Rounds q.toRat k ∧ x = k * step.toRat

section Unfold

variable {mode : RoundingMode} {rule : Rounding} {v : Decimal} {x : Rat}

theorem snapsTo_iff_of_unstepped (hm : mode.step = .none) : mode.SnapsTo rule v x ↔ x = v.toRat := by
  simp [SnapsTo, hm]

theorem snapsTo_iff {step : Decimal} (hm : mode.step = some step) :
    mode.SnapsTo rule v x ↔ ∃ q k, v.div? step = some q ∧ rule.Rounds q.toRat k ∧ x = k * step.toRat := by
  simp [SnapsTo, hm]

theorem snap?_of_unstepped (hm : mode.step = .none) : mode.snap? rule v = some v := by
  simp [snap?, hm]

theorem snap?_eq_bind {step : Decimal} (hm : mode.step = some step) :
    mode.snap? rule v = (v.div? step).bind fun quotient => (quotient.round rule 0).mul? step := by
  simp [snap?, hm]

end Unfold

theorem exists_snapsTo (mode : RoundingMode) (rule : Rounding) (price : Decimal) : ∃ x, mode.SnapsTo rule price x := by
  cases hm : mode.step with
  | none => exact ⟨price.toRat, (snapsTo_iff_of_unstepped hm).mpr rfl⟩
  | some step =>
    obtain ⟨q, hq, -⟩ := exists_div?_step hm price
    obtain ⟨k, hk, -⟩ := q.rounds_round rule 0
    rw [pow_zero, mul_one] at hk
    exact ⟨k * step.toRat, (snapsTo_iff hm).mpr ⟨q, k, hq, hk, rfl⟩⟩

theorem SnapsTo.isMultiple {mode : RoundingMode} {rule : Rounding} {v : Decimal} {x : Rat}
    (h : mode.SnapsTo rule v x) : mode.IsMultiple x := by
  cases hm : mode.step with
  | none => exact isMultiple_of_unstepped hm x
  | some step =>
    obtain ⟨q, k, -, -, hx⟩ := (snapsTo_iff hm).mp h
    exact (isMultiple_iff hm).mpr ⟨k, hx⟩

theorem SnapsTo.mono {mode : RoundingMode} {rule : Rounding} {v w : Decimal} {x y : Rat}
    (hx : mode.SnapsTo rule v x) (hy : mode.SnapsTo rule w y) (h : v ≤ w) : x ≤ y := by
  cases hm : mode.step with
  | none =>
    rw [(snapsTo_iff_of_unstepped hm).mp hx, (snapsTo_iff_of_unstepped hm).mp hy]
    exact Decimal.le_iff_toRat.mp h
  | some step =>
    obtain ⟨p, k, hp, hk, rfl⟩ := (snapsTo_iff hm).mp hx
    obtain ⟨q, l, hq, hl, rfl⟩ := (snapsTo_iff hm).mp hy
    have hkl : k ≤ l := hk.mono hl (div?_step_mono hm hp hq h)
    have hg := one_le_step hm
    exact mul_le_mul_of_nonneg_right (by exact_mod_cast hkl) (by linarith)

theorem SnapsTo.eq_of_isMultiple {mode : RoundingMode} {rule : Rounding} {v : Decimal} {x : Rat}
    (h : mode.SnapsTo rule v x) (hv : mode.IsMultiple v.toRat) : x = v.toRat := by
  cases hm : mode.step with
  | none => exact (snapsTo_iff_of_unstepped hm).mp h
  | some step =>
    obtain ⟨q, k, hq, hk, rfl⟩ := (snapsTo_iff hm).mp h
    obtain ⟨l, hl⟩ := (isMultiple_iff hm).mp hv
    rw [div?_step_of_multiple hm hl hq] at hk
    rw [hl, hk.eq_of_intCast]

/-- The snap has a decimal exactly where its number is small enough. -/
theorem SnapsTo.roundsTo {mode : RoundingMode} {rule : Rounding} {v : Decimal} {x : Rat}
    (h : mode.SnapsTo rule v x) : Decimal.RoundsTo x (mode.snap? rule v) := by
  cases hm : mode.step with
  | none =>
    rw [snap?_of_unstepped hm, (snapsTo_iff_of_unstepped hm).mp h]
    exact v.rounded_toRat
  | some step =>
    obtain ⟨q, k, hq, hk, rfl⟩ := (snapsTo_iff hm).mp h
    obtain ⟨l, hl, hr⟩ := q.rounds_round rule 0
    rw [pow_zero, mul_one] at hl
    rw [pow_zero, div_one, hl.unique hk] at hr
    rw [snap?_eq_bind hm, hq, Option.bind_some, ← hr]
    exact Decimal.roundsTo_mul? _ _

/-- Rounding to a decimal does not change the number that a snap leads to. -/
theorem SnapsTo.eq_of_rounded {mode : RoundingMode} {rule : Rounding} {v m : Decimal} {x : Rat}
    (h : mode.SnapsTo rule v x) (hr : Decimal.Rounded x m) : m.toRat = x := by
  cases hm : mode.step with
  | none =>
    rw [(snapsTo_iff_of_unstepped hm).mp h] at hr ⊢
    exact hr.toRat_eq_toRat
  | some step =>
    obtain ⟨k, rfl⟩ := h.isMultiple.exists_int hm
    exact hr.eq_intCast

theorem SnapsTo.exists_snap? {mode : RoundingMode} {rule : Rounding} {v : Decimal} {x : Rat}
    (h : mode.SnapsTo rule v x) (hx : |x| ≤ Decimal.largest) : ∃ m, mode.snap? rule v = some m ∧ m.toRat = x := by
  obtain ⟨m, hm, hr⟩ := h.roundsTo.exists_some hx
  exact ⟨m, hm, h.eq_of_rounded hr⟩

theorem snapsTo_of_snap? {mode : RoundingMode} {rule : Rounding} {v m : Decimal} (h : mode.snap? rule v = some m) :
    mode.SnapsTo rule v m.toRat := by
  obtain ⟨x, hx⟩ := exists_snapsTo mode rule v
  have hr := hx.roundsTo
  rw [h] at hr
  rwa [hx.eq_of_rounded hr]

section Quotient

variable {mode : RoundingMode} {step v d m q : Decimal} {rule : Rounding} {k : Int} (hm : mode.step = some step)
include hm

theorem exists_quotient_of_snap? (h : mode.snap? rule v = some m) (hk : m.toRat = k * step.toRat) :
    ∃ q, v.div? step = some q ∧ rule.Rounds q.toRat k := by
  obtain ⟨q, l, hq, hl, hml⟩ := (snapsTo_iff hm).mp (snapsTo_of_snap? h)
  have hg := one_le_step hm
  have hkl : (k : Rat) = l := mul_right_cancel₀ (by linarith) (hk.symm.trans hml)
  obtain rfl : k = l := by exact_mod_cast hkl
  exact ⟨q, hq, hl⟩

/-- The quotient by the step is rounded to a decimal first, and then by the rule. -/
theorem exists_rounded_of_snap? (h : mode.snap? rule v = some d) :
    ∃ q k, Decimal.Rounded (v.toRat / step.toRat) q ∧ rule.Rounds q.toRat k ∧ d.toRat = k * step.toRat ∧
      |q.toRat * step.toRat - v.toRat| ≤ (step.toRat + |v.toRat|) / 10 ^ 28 := by
  obtain ⟨q, k, hq, hk, hd⟩ := (snapsTo_iff hm).mp (snapsTo_of_snap? h)
  exact ⟨q, k, rounded_div?_step hm hq, hk, hd, abs_mul_step_sub_le hm hq⟩

/-- A snap upwards falls short of the price by no more than the rounding of the quotient makes of it. -/
theorem sub_snapUp?_le (h : mode.snapUp? v = some d) : v.toRat - d.toRat ≤ (step.toRat + |v.toRat|) / 10 ^ 28 := by
  have hpos : 0 < step.toRat := by linarith [one_le_step hm]
  obtain ⟨q, k, -, ⟨hle, -⟩, hk, hslack⟩ := exists_rounded_of_snap? hm h
  calc v.toRat - d.toRat ≤ v.toRat - q.toRat * step.toRat := by
        rw [hk]
        exact sub_le_sub_left (mul_le_mul_of_nonneg_right hle hpos.le) _
    _ ≤ |q.toRat * step.toRat - v.toRat| := by
        rw [abs_sub_comm]
        exact le_abs_self _
    _ ≤ (step.toRat + |v.toRat|) / 10 ^ 28 := hslack

theorem snapDown?_sub_le (h : mode.snapDown? v = some d) :
    d.toRat - v.toRat ≤ (step.toRat + |v.toRat|) / 10 ^ 28 := by
  have hpos : 0 < step.toRat := by linarith [one_le_step hm]
  obtain ⟨q, k, -, ⟨hle, -⟩, hk, hslack⟩ := exists_rounded_of_snap? hm h
  calc d.toRat - v.toRat ≤ q.toRat * step.toRat - v.toRat := by
        rw [hk]
        exact sub_le_sub_right (mul_le_mul_of_nonneg_right hle hpos.le) _
    _ ≤ |q.toRat * step.toRat - v.toRat| := le_abs_self _
    _ ≤ (step.toRat + |v.toRat|) / 10 ^ 28 := hslack

/-- A snap to the nearest multiple goes half a step, or farther by no more than the rounding of the quotient makes of
it. -/
theorem abs_snapNearest?_sub_le_half (h : mode.snapNearest? v = some d) :
    |d.toRat - v.toRat| ≤ step.toRat / 2 + (step.toRat + |v.toRat|) / 10 ^ 28 := by
  have hpos : 0 < step.toRat := by linarith [one_le_step hm]
  obtain ⟨q, k, -, ⟨hnear, -⟩, hk, hslack⟩ := exists_rounded_of_snap? hm h
  have hhalf : |k * step.toRat - q.toRat * step.toRat| ≤ step.toRat / 2 := by
    rw [← sub_mul, abs_mul, abs_of_pos hpos, abs_sub_comm]
    linarith [mul_le_mul_of_nonneg_right hnear hpos.le]
  calc |d.toRat - v.toRat| ≤ |k * step.toRat - q.toRat * step.toRat| + |q.toRat * step.toRat - v.toRat| := by
        rw [hk]
        exact abs_sub_le _ _ _
    _ ≤ step.toRat / 2 + (step.toRat + |v.toRat|) / 10 ^ 28 := add_le_add hhalf hslack

/-- A snap upwards that does not lead up comes from a whole quotient. -/
theorem exists_quotient_eq_of_snapUp?_le (h : mode.snapUp? v = some d) (hk : d.toRat = k * step.toRat)
    (hle : d ≤ v) : ∃ q, v.div? step = some q ∧ q.toRat = k := by
  obtain ⟨q, hq, hup, -⟩ := exists_quotient_of_snap? hm h hk
  obtain ⟨q', hq', hlow⟩ := exists_le_quotient hm hk (Decimal.le_iff_toRat.mp hle)
  obtain rfl : q' = q := Option.some.inj (hq'.symm.trans hq)
  exact ⟨q', hq, le_antisymm hup hlow⟩

/-- Of two multiples at the same distance, the snap to the nearest goes to the one farther from zero. -/
theorem abs_le_of_tie {x : Rat} (h : mode.snapNearest? v = some d) (hx : mode.IsMultiple x)
    (htie : |x - v.toRat| = |d.toRat - v.toRat|) : |x| ≤ |d.toRat| := by
  obtain ⟨j, rfl⟩ := (isMultiple_iff hm).mp hx
  obtain ⟨k, hk⟩ := (isMultiple_iff hm).mp (snapsTo_of_snap? h).isMultiple
  obtain ⟨q, hq, hnear, htied⟩ := exists_quotient_of_snap? hm h hk
  rw [hk] at htie ⊢
  rcases abs_eq_abs.mp htie with hsame | hopposite
  · rw [sub_left_inj.mp hsame]
  have htwice : 2 * v.toRat = (j + k : Int) * step.toRat := by
    push_cast
    linarith
  have hsum := div?_step_of_half hm htwice hq
  push_cast at hsum
  have hgap : q.toRat - k = (j - k) / 2 := by linarith
  rw [hgap, abs_div, abs_two] at hnear htied
  have hclose : |j - k| ≤ 1 := by
    have hclose : |(j : Rat) - k| ≤ 1 := by linarith
    exact_mod_cast hclose
  rw [abs_mul, abs_mul]
  refine mul_le_mul_of_nonneg_right ?_ (abs_nonneg _)
  rcases eq_or_ne j k with rfl | hne
  · exact le_rfl
  have hone : |(j : Rat) - k| = 1 := by
    have hpos : 0 < |j - k| := abs_pos.mpr (sub_ne_zero.mpr hne)
    have hone : |j - k| = 1 := by omega
    exact_mod_cast hone
  have hfar : |(j : Rat) + k| < 2 * |(k : Rat)| := by
    rw [← hsum, abs_mul, abs_two]
    linarith [htied (by rw [hone])]
  have hfar : |j + k| < 2 * |k| := by exact_mod_cast hfar
  have hle : |j| ≤ |k| := by
    have hbounds := abs_le.mp hclose
    rcases abs_cases j with hj | hj <;> rcases abs_cases k with hk | hk <;>
      rcases abs_cases (j + k) with hjk | hjk <;> omega
  exact_mod_cast hle

end Quotient

section Rounds

variable {mode : RoundingMode} {step v : Decimal} {k : Int} (hm : mode.step = some step)
include hm

theorem isLeast_of_rounds (h : Rounding.up.Rounds (v.toRat / step.toRat) k) :
    IsLeast {z | mode.IsMultiple z ∧ v.toRat ≤ z} (k * step.toRat) := by
  have hpos : 0 < step.toRat := by linarith [one_le_step hm]
  obtain ⟨hle, hlt⟩ := h
  refine ⟨⟨(isMultiple_iff hm).mpr ⟨k, rfl⟩, (div_le_iff₀ hpos).mp hle⟩, ?_⟩
  rintro z ⟨hz, hvz⟩
  obtain ⟨j, rfl⟩ := (isMultiple_iff hm).mp hz
  have hj : v.toRat / step.toRat ≤ j := (div_le_iff₀ hpos).mpr hvz
  have hkj : k < j + 1 := by
    have hkj : (k : Rat) < j + 1 := by linarith
    exact_mod_cast hkj
  exact mul_le_mul_of_nonneg_right (by exact_mod_cast Int.lt_add_one_iff.mp hkj) hpos.le

theorem isGreatest_of_rounds (h : Rounding.down.Rounds (v.toRat / step.toRat) k) :
    IsGreatest {z | mode.IsMultiple z ∧ z ≤ v.toRat} (k * step.toRat) := by
  have hpos : 0 < step.toRat := by linarith [one_le_step hm]
  obtain ⟨hle, hlt⟩ := h
  refine ⟨⟨(isMultiple_iff hm).mpr ⟨k, rfl⟩, (le_div_iff₀ hpos).mp hle⟩, ?_⟩
  rintro z ⟨hz, hvz⟩
  obtain ⟨j, rfl⟩ := (isMultiple_iff hm).mp hz
  have hj : (j : Rat) ≤ v.toRat / step.toRat := (le_div_iff₀ hpos).mpr hvz
  have hjk : j < k + 1 := by
    have hjk : (j : Rat) < k + 1 := by linarith
    exact_mod_cast hjk
  exact mul_le_mul_of_nonneg_right (by exact_mod_cast Int.lt_add_one_iff.mp hjk) hpos.le

end Rounds

section Exact

variable {mode : RoundingMode} {step v d e : Decimal} (hm : mode.step = some step)
  (he : e.toRat = v.toRat / step.toRat)
include hm he

theorem exists_rounds_of_exact {rule : Rounding} (h : mode.snap? rule v = some d) :
    ∃ k : Int, d.toRat = k * step.toRat ∧ rule.Rounds (v.toRat / step.toRat) k := by
  obtain ⟨q, k, hvq, hround, hk, -⟩ := exists_rounded_of_snap? hm h
  rw [← he] at hvq
  rw [hvq.toRat_eq_toRat, he] at hround
  exact ⟨k, hk, hround⟩

theorem isLeast_snapUp? (h : mode.snapUp? v = some d) :
    IsLeast {z | mode.IsMultiple z ∧ v.toRat ≤ z} d.toRat := by
  obtain ⟨k, hk, hround⟩ := exists_rounds_of_exact hm he h
  rw [hk]
  exact isLeast_of_rounds hm hround

theorem isGreatest_snapDown? (h : mode.snapDown? v = some d) :
    IsGreatest {z | mode.IsMultiple z ∧ z ≤ v.toRat} d.toRat := by
  obtain ⟨k, hk, hround⟩ := exists_rounds_of_exact hm he h
  rw [hk]
  exact isGreatest_of_rounds hm hround

theorem abs_snapNearest?_sub_le (h : mode.snapNearest? v = some d) {z : Rat} (hz : mode.IsMultiple z) :
    |d.toRat - v.toRat| ≤ |z - v.toRat| := by
  have hpos : 0 < step.toRat := by linarith [one_le_step hm]
  obtain ⟨k, hk, hnear, -⟩ := exists_rounds_of_exact hm he h
  obtain ⟨j, rfl⟩ := (isMultiple_iff hm).mp hz
  rw [hk, abs_mul_step_sub hm, abs_mul_step_sub hm]
  refine mul_le_mul_of_nonneg_right ?_ hpos.le
  rcases eq_or_ne j k with rfl | hne
  · exact le_rfl
  have hgap : (1 : Rat) ≤ |(j : Rat) - k| := by exact_mod_cast Int.one_le_abs (sub_ne_zero.mpr hne)
  have hsplit : |(j : Rat) - k| ≤ |v.toRat / step.toRat - k| + |v.toRat / step.toRat - j| := by
    have h := abs_sub_le (j : Rat) (v.toRat / step.toRat) k
    rw [abs_sub_comm (j : Rat) (v.toRat / step.toRat)] at h
    linarith
  linarith

end Exact

section Order

variable {mode : RoundingMode} {rule : Rounding} {u v w a b m : Decimal} {x : Rat}

theorem isMultiple_snap? (h : mode.snap? rule v = some m) : mode.IsMultiple m.toRat := (snapsTo_of_snap? h).isMultiple

theorem snap?_mono (ha : mode.snap? rule v = some a) (hb : mode.snap? rule w = some b) (h : v ≤ w) :
    a.toRat ≤ b.toRat :=
  (snapsTo_of_snap? ha).mono (snapsTo_of_snap? hb) h

/-- A multiple snaps to itself, by every rule. -/
theorem exists_snap?_of_isMultiple (rule : Rounding) (h : mode.IsMultiple v.toRat) :
    ∃ m, mode.snap? rule v = some m ∧ m.toRat = v.toRat := by
  obtain ⟨x, hx⟩ := exists_snapsTo mode rule v
  rw [hx.eq_of_isMultiple h] at hx
  exact hx.exists_snap? v.abs_toRat_le

/-- Where the snap upwards does not lead up, every rule leads to the same multiple. -/
theorem exists_snap?_of_snapUp?_le (rule : Rounding) (h : mode.snapUp? v = some a) (hle : a ≤ v) :
    ∃ m, mode.snap? rule v = some m ∧ m.toRat = a.toRat := by
  cases hm : mode.step with
  | none =>
    obtain rfl : v = a := Option.some.inj ((snap?_of_unstepped hm).symm.trans h)
    exact ⟨v, snap?_of_unstepped hm, rfl⟩
  | some step =>
    obtain ⟨k, hk⟩ := (isMultiple_iff hm).mp (isMultiple_snap? h)
    obtain ⟨q, hq, hqk⟩ := exists_quotient_eq_of_snapUp?_le hm h hk hle
    have hsnap : mode.SnapsTo rule v a.toRat :=
      (snapsTo_iff hm).mpr ⟨q, k, hq, hqk ▸ Rounding.rounds_intCast rule k, hk⟩
    exact hsnap.exists_snap? a.abs_toRat_le

/-- Between two prices that snap to decimals, every price does. -/
theorem exists_snap?_between (ha : mode.snap? rule u = some a) (hb : mode.snap? rule w = some b) (huv : u ≤ v)
    (hvw : v ≤ w) : ∃ m, mode.snap? rule v = some m ∧ a.toRat ≤ m.toRat ∧ m.toRat ≤ b.toRat := by
  obtain ⟨x, hx⟩ := exists_snapsTo mode rule v
  have hax : a.toRat ≤ x := (snapsTo_of_snap? ha).mono hx huv
  have hxb : x ≤ b.toRat := hx.mono (snapsTo_of_snap? hb) hvw
  have habs : |x| ≤ Decimal.largest :=
    abs_le.mpr ⟨(abs_le.mp a.abs_toRat_le).1.trans hax, hxb.trans (abs_le.mp b.abs_toRat_le).2⟩
  obtain ⟨m, hm, rfl⟩ := hx.exists_snap? habs
  exact ⟨m, hm, hax, hxb⟩

/-- A snap passes no multiple: no rule takes a price to the other side of a multiple. -/
theorem snap?_le (hm : mode.snap? rule v = some m) (hx : mode.IsMultiple x) (h : v.toRat ≤ x) : m.toRat ≤ x := by
  have hs := snapsTo_of_snap? hm
  cases hmode : mode.step with
  | none => exact ((snapsTo_iff_of_unstepped hmode).mp hs).le.trans h
  | some step =>
    rcases le_or_gt |x| Decimal.largest with hle | hgt
    · obtain ⟨d, rfl⟩ := hx.exists_decimal hmode hle
      obtain ⟨y, hy⟩ := exists_snapsTo mode rule d
      rw [hy.eq_of_isMultiple hx] at hy
      exact hs.mono hy (Decimal.le_iff_toRat.mpr h)
    · have hv := abs_le.mp v.abs_toRat_le
      have hm := abs_le.mp m.abs_toRat_le
      rcases abs_choice x with habs | habs <;> linarith

theorem le_snap? (hm : mode.snap? rule v = some m) (hx : mode.IsMultiple x) (h : x ≤ v.toRat) : x ≤ m.toRat := by
  have hs := snapsTo_of_snap? hm
  cases hmode : mode.step with
  | none => exact h.trans ((snapsTo_iff_of_unstepped hmode).mp hs).ge
  | some step =>
    rcases le_or_gt |x| Decimal.largest with hle | hgt
    · obtain ⟨d, rfl⟩ := hx.exists_decimal hmode hle
      obtain ⟨y, hy⟩ := exists_snapsTo mode rule d
      rw [hy.eq_of_isMultiple hx] at hy
      exact hy.mono hs (Decimal.le_iff_toRat.mpr h)
    · have hv := abs_le.mp v.abs_toRat_le
      have hm := abs_le.mp m.abs_toRat_le
      rcases abs_choice x with habs | habs <;> linarith

end Order

end Repricing.RoundingMode
