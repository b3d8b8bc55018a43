import Repricing.Proofs.Snap

namespace Repricing.RoundingMode

/-- The quotient of the price by the step has no decimal. -/
def HasLongQuotient (step price : Decimal) : Prop := ¬∃ e : Decimal, e.toRat = price.toRat / step.toRat

/-- The multiple is at most half a step away from the price, and farther from zero if it is just that far. -/
structure IsNearest (mode : RoundingMode) (step price : Decimal) (x : Rat) : Prop where
  isMultiple : mode.IsMultiple x
  abs_sub_le : |x - price.toRat| ≤ step.toRat / 2
  abs_lt : |x - price.toRat| = step.toRat / 2 → |price.toRat| < |x|

section Long

variable {mode : RoundingMode} {rule : Rounding} {step v d q : Decimal} {k l : Int}

/-- Dividing by a divisor of ten takes one more digit, and a coefficient that has room for the other factor. -/
theorem exists_quotient {m g : Int} (hmg : m * g = 10) (hscale : v.scale ≤ 27)
    (hm : |((m * v.coefficient : Int) : Rat)| ≤ Decimal.largest) : ∃ e : Decimal, e.toRat = v.toRat / g := by
  obtain ⟨e, he⟩ := Decimal.exists_toRat_eq_div_pow hm (by omega : v.scale + 1 ≤ 28)
  refine ⟨e, ?_⟩
  have hgm : (m : Rat) * g = 10 := by exact_mod_cast hmg
  have hg : (g : Rat) ≠ 0 := by
    intro hzero
    rw [hzero, mul_zero] at hgm
    norm_num at hgm
  rw [he, Decimal.toRat_eq, div_div, div_eq_div_iff (by positivity) (by positivity), pow_succ, ← hgm]
  push_cast
  ring

theorem not_hasLongQuotient_one (v : Decimal) : ¬HasLongQuotient .one v := by
  intro h
  exact h ⟨v, by rw [Decimal.toRat_one, div_one]⟩

theorem not_hasLongQuotient_ten (hscale : v.scale ≤ 27) : ¬HasLongQuotient .ten v := by
  intro h
  obtain ⟨e, he⟩ := exists_quotient (m := 1) (g := 10) (v := v) (by decide) hscale
    (by rw [one_mul]; exact v.coefficient_le)
  exact h ⟨e, by simpa [Decimal.ten] using he⟩

theorem not_hasLongQuotient_five (hscale : v.scale ≤ 27) (hhalf : 2 * |(v.coefficient : Rat)| ≤ Decimal.largest) :
    ¬HasLongQuotient .five v := by
  intro h
  obtain ⟨e, he⟩ := exists_quotient (m := 2) (g := 5) (v := v) (by decide) hscale
    (by push_cast; rwa [abs_mul, abs_two])
  exact h ⟨e, by simpa [Decimal.five] using he⟩

variable (hm : mode.step = some step)
include hm

theorem not_hasLongQuotient
    (h : mode = .nearest1 ∨ v.scale ≤ 27 ∧ (mode = .nearest10 ∨ 2 * |(v.coefficient : Rat)| ≤ Decimal.largest)) :
    ¬HasLongQuotient step v := by
  cases mode with
  | none => cases hm
  | nearest1 =>
    cases hm
    exact not_hasLongQuotient_one v
  | nearest5 =>
    cases hm
    rcases h with h | ⟨hscale, h | hhalf⟩
    · cases h
    · cases h
    · exact not_hasLongQuotient_five hscale hhalf
  | nearest10 =>
    cases hm
    rcases h with h | ⟨hscale, -⟩
    · cases h
    · exact not_hasLongQuotient_ten hscale

/-- Between two multiples that are opposites of each other, every rule leads to a decimal. -/
theorem exists_snap?_of_abs_le (hv : |v.toRat| ≤ l * step.toRat) (hl : l * step.toRat ≤ Decimal.largest) :
    ∃ d, mode.snap? rule v = some d := by
  have habs : |l * step.toRat| ≤ Decimal.largest := by rwa [abs_of_nonneg ((abs_nonneg _).trans hv)]
  have hhigh : mode.IsMultiple (l * step.toRat) := (isMultiple_iff hm).mpr ⟨l, rfl⟩
  have hlow : mode.IsMultiple (-(l * step.toRat)) := (isMultiple_iff hm).mpr ⟨-l, by push_cast; ring⟩
  obtain ⟨b, hb⟩ := hhigh.exists_decimal hm habs
  rw [← hb] at hhigh hlow hv
  rw [← Decimal.toRat_neg] at hlow
  obtain ⟨high, hhigh, -⟩ := exists_snap?_of_isMultiple rule hhigh
  obtain ⟨low, hlow, -⟩ := exists_snap?_of_isMultiple rule hlow
  have hbounds : -b ≤ v ∧ v ≤ b := by
    rw [Decimal.le_iff_toRat, Decimal.le_iff_toRat, Decimal.toRat_neg]
    exact abs_le.mp hv
  obtain ⟨d, hd, -⟩ := exists_snap?_between hlow hhigh hbounds.1 hbounds.2
  exact ⟨d, hd⟩

/-- Where the quotient has no decimal, the price is small enough to snap to one by every rule. -/
theorem exists_snap?_of_hasLongQuotient (rule : Rounding) (h : HasLongQuotient step v) :
    ∃ d, mode.snap? rule v = some d := by
  cases mode with
  | none => cases hm
  | nearest1 =>
    cases hm
    exact absurd h (not_hasLongQuotient_one v)
  | nearest5 =>
    -- the largest coefficient is a multiple of five
    cases hm
    refine exists_snap?_of_abs_le (l := 15845632502852867518708790067) rfl (v.abs_toRat_le.trans ?_) ?_ <;>
      norm_num [Decimal.five, Decimal.largest]
  | nearest10 =>
    cases hm
    have hscale : 0 < v.scale := by
      by_contra hzero
      exact not_hasLongQuotient_ten (by omega) h
    have hle := Decimal.abs_toRat_mul_ten_le hscale
    unfold Decimal.largest at hle
    refine exists_snap?_of_abs_le (l := 7922816251426433759354395033) rfl ?_ ?_
    · norm_num [Decimal.ten]
      linarith
    · norm_num [Decimal.ten, Decimal.largest]

/-- A snap fails only if the multiple that the rule asks for has no decimal. -/
theorem toRat_ne_of_snap?_eq_none (hl : rule.Rounds (v.toRat / step.toRat) l) (h : mode.snap? rule v = .none)
    (d : Decimal) : d.toRat ≠ l * step.toRat := by
  intro hd
  have hexact : ∃ e : Decimal, e.toRat = v.toRat / step.toRat := by
    by_contra hlong
    obtain ⟨m, hsnap⟩ := exists_snap?_of_hasLongQuotient hm rule hlong
    exact Option.some_ne_none m (hsnap.symm.trans h)
  obtain ⟨e, he⟩ := hexact
  obtain ⟨q, hq, hvq⟩ := exists_div?_step hm v
  rw [← he] at hvq hl
  have hsnaps : mode.SnapsTo rule v d.toRat :=
    (snapsTo_iff hm).mpr ⟨q, l, hq, hvq.toRat_eq_toRat ▸ hl, hd⟩
  obtain ⟨m, hsnap, -⟩ := hsnaps.exists_snap? d.abs_toRat_le
  exact Option.some_ne_none m (hsnap.symm.trans h)

omit hm in
theorem hasLongQuotient_of_ne (hq : Decimal.Rounded (v.toRat / step.toRat) q) (hk : rule.Rounds q.toRat k)
    (hl : rule.Rounds (v.toRat / step.toRat) l) (hne : k ≠ l) : HasLongQuotient step v := by
  rintro ⟨e, he⟩
  rw [← he] at hq hl
  rw [hq.toRat_eq_toRat] at hk
  exact hne (hk.unique hl)

/-- A snap upwards leads to the multiple that the rule asks for, or to the one before it. -/
theorem snapUp?_eq_or (hl : Rounding.up.Rounds (v.toRat / step.toRat) l) (h : mode.snapUp? v = some d) :
    d.toRat = l * step.toRat ∨ HasLongQuotient step v ∧ d.toRat = l * step.toRat - step.toRat := by
  obtain ⟨q, k, hq, hk, hd, -⟩ := exists_rounded_of_snap? hm h
  rcases hq.up_cases hl hk with rfl | hnext
  · exact .inl hd
  · refine .inr ⟨hasLongQuotient_of_ne hq hk hl (by omega), ?_⟩
    rw [hd, hnext]
    push_cast
    ring

theorem snapDown?_eq_or (hl : Rounding.down.Rounds (v.toRat / step.toRat) l) (h : mode.snapDown? v = some d) :
    d.toRat = l * step.toRat ∨ HasLongQuotient step v ∧ d.toRat = l * step.toRat + step.toRat := by
  obtain ⟨q, k, hq, hk, hd, -⟩ := exists_rounded_of_snap? hm h
  rcases hq.down_cases hl hk with rfl | hnext
  · exact .inl hd
  · refine .inr ⟨hasLongQuotient_of_ne hq hk hl (by omega), ?_⟩
    rw [hd, hnext]
    push_cast
    ring

theorem isNearest_of_rounds (hl : Rounding.halfAway.Rounds (v.toRat / step.toRat) l) :
    IsNearest mode step v (l * step.toRat) := by
  have hpos : 0 < step.toRat := by linarith [one_le_step hm]
  obtain ⟨hhalf, haway⟩ := hl
  refine ⟨(isMultiple_iff hm).mpr ⟨l, rfl⟩, ?_, fun htie => ?_⟩
  · rw [abs_mul_step_sub hm]
    linarith [mul_le_mul_of_nonneg_right hhalf hpos.le]
  · rw [abs_mul_step_sub hm] at htie
    have hlt := haway (mul_right_cancel₀ hpos.ne' (by linarith))
    rwa [abs_div, abs_of_pos hpos, div_lt_iff₀ hpos, ← abs_of_pos hpos, ← abs_mul] at hlt

/-- A snap to the nearest multiple leads there, or to the one before or after it. -/
theorem snapNearest?_eq_or (hl : Rounding.halfAway.Rounds (v.toRat / step.toRat) l) (h : mode.snapNearest? v = some d) :
    d.toRat = l * step.toRat ∨ HasLongQuotient step v ∧ |d.toRat - l * step.toRat| = step.toRat := by
  have hpos : 0 < step.toRat := by linarith [one_le_step hm]
  obtain ⟨q, k, hq, hk, hd, -⟩ := exists_rounded_of_snap? hm h
  rcases eq_or_ne k l with rfl | hne
  · exact .inl hd
  refine .inr ⟨hasLongQuotient_of_ne hq hk hl hne, ?_⟩
  have hone : |(k : Rat) - l| = 1 := by
    have hle := hq.abs_sub_le_one hl hk
    have hpos : 0 < |k - l| := abs_pos.mpr (sub_ne_zero.mpr hne)
    have hone : |k - l| = 1 := by omega
    exact_mod_cast hone
  rw [hd, ← sub_mul, abs_mul, hone, one_mul, abs_of_pos hpos]

end Long

/-- A snap fails only if the multiple that it stands for has no decimal. Where the quotient by the step has a decimal,
it leads to that multiple; so it does in steps of one, and for every price with a digit to spare. Elsewhere it may lead
to the next one, which the price is past by no more than the rounding of the quotient makes of it. -/
theorem snap_accuracy {mode : RoundingMode} {step : Decimal} (hm : mode.step = some step) (v : Decimal) :
    (∃ x, IsLeast {z | mode.IsMultiple z ∧ v.toRat ≤ z} x ∧
      (mode.snapUp? v = .none → ∀ d : Decimal, d.toRat ≠ x) ∧
      ∀ d, mode.snapUp? v = some d → d.toRat = x ∨
        HasLongQuotient step v ∧ d.toRat = x - step.toRat ∧
          v.toRat - d.toRat ≤ (step.toRat + |v.toRat|) / 10 ^ 28) ∧
    (∃ x, IsGreatest {z | mode.IsMultiple z ∧ z ≤ v.toRat} x ∧
      (mode.snapDown? v = .none → ∀ d : Decimal, d.toRat ≠ x) ∧
      ∀ d, mode.snapDown? v = some d → d.toRat = x ∨
        HasLongQuotient step v ∧ d.toRat = x + step.toRat ∧
          d.toRat - v.toRat ≤ (step.toRat + |v.toRat|) / 10 ^ 28) ∧
    (∃ x, IsNearest mode step v x ∧
      (mode.snapNearest? v = .none → ∀ d : Decimal, d.toRat ≠ x) ∧
      ∀ d, mode.snapNearest? v = some d → d.toRat = x ∨
        HasLongQuotient step v ∧ mode.IsMultiple d.toRat ∧ |d.toRat - x| = step.toRat ∧
          |d.toRat - v.toRat| ≤ step.toRat / 2 + (step.toRat + |v.toRat|) / 10 ^ 28) ∧
    (mode = .nearest1 ∨ v.scale ≤ 27 ∧ (mode = .nearest10 ∨ 2 * |(v.coefficient : Rat)| ≤ Decimal.largest) →
      ¬HasLongQuotient step v) := by
  refine ⟨?up, ?down, ?nearest, ?short⟩
  case up =>
    obtain ⟨l, hl⟩ := Rounding.up.exists_rounds (v.toRat / step.toRat)
    refine ⟨l * step.toRat, isLeast_of_rounds hm hl, toRat_ne_of_snap?_eq_none hm hl, fun d hd => ?_⟩
    exact (snapUp?_eq_or hm hl hd).imp_right fun ⟨hlong, hnext⟩ => ⟨hlong, hnext, sub_snapUp?_le hm hd⟩
  case down =>
    obtain ⟨l, hl⟩ := Rounding.down.exists_rounds (v.toRat / step.toRat)
    refine ⟨l * step.toRat, isGreatest_of_rounds hm hl, toRat_ne_of_snap?_eq_none hm hl, fun d hd => ?_⟩
    exact (snapDown?_eq_or hm hl hd).imp_right fun ⟨hlong, hnext⟩ => ⟨hlong, hnext, snapDown?_sub_le hm hd⟩
  case nearest =>
    obtain ⟨l, hl⟩ := Rounding.halfAway.exists_rounds (v.toRat / step.toRat)
    refine ⟨l * step.toRat, isNearest_of_rounds hm hl, toRat_ne_of_snap?_eq_none hm hl, fun d hd => ?_⟩
    exact (snapNearest?_eq_or hm hl hd).imp_right fun ⟨hlong, hnext⟩ =>
      ⟨hlong, isMultiple_snap? hd, hnext, abs_snapNearest?_sub_le_half hm hd⟩
  case short => exact not_hasLongQuotient hm

theorem snap_accuracy_above :
    let price : Decimal := ⟨50000000000000000000000000001, 28, by decide, by decide⟩
    nearest5.step = some .five ∧ HasLongQuotient .five price ∧
      IsLeast {z | nearest5.IsMultiple z ∧ price.toRat ≤ z} 10 := by
  intro price
  have hstep : nearest5.step = some .five := rfl
  have hsnap : nearest5.snapUp? price = some .five := by decide +kernel
  have hpast : Decimal.five.toRat < price.toRat := by decide +kernel
  obtain ⟨⟨x, hleast, -, hsome⟩, -⟩ := snap_accuracy hstep price
  rcases hsome .five hsnap with heq | ⟨hlong, hnext, -⟩
  · exact absurd hleast.1.2 (heq ▸ not_le.mpr hpast)
  have hx : x = 10 := by
    have hfive : Decimal.five.toRat = 5 := by simp [Decimal.five]
    linarith
  exact ⟨hstep, hlong, hx ▸ hleast⟩

/-- A snap can miss the multiple: upwards and downwards it can end on the wrong side of the price, and the nearest can
be the farther one. -/
theorem snap_crosses_multiple :
    let above : Decimal := ⟨50000000000000000000000000001, 28, by decide, by decide⟩
    let large : Decimal := ⟨79228162514264337593543950331, 0, by decide, by decide⟩
    let below : Decimal := ⟨49999999999999999999999999999, 28, by decide, by decide⟩
    let half : Decimal := ⟨24999999999999999999999999999, 28, by decide, by decide⟩
    (∃ d, nearest5.snapUp? above = some d ∧ d < above) ∧
      (∃ d, nearest5.snapUp? large = some d ∧ d < large) ∧
      (∃ d, nearest5.snapDown? below = some d ∧ below < d) ∧
      ∃ d, nearest5.snapNearest? half = some d ∧ 5 / 2 < d.toRat - half.toRat := by
  intro above large below half
  refine ⟨⟨.five, ?_⟩, ⟨⟨79228162514264337593543950330, 0, by decide, by decide⟩, ?_⟩, ⟨.five, ?_⟩, ⟨.five, ?_⟩⟩
  all_goals decide +kernel

end Repricing.RoundingMode
