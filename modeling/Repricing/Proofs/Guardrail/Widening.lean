import Repricing.Proofs.Guardrail.Reasons

namespace Repricing

namespace Band

variable {currentPrice pct pct' down up down' up' : Decimal}

/-- The factor below one may be negative, and is then smaller in magnitude than that of a larger change. -/
theorem inRange_mul_down (hpct : .zero ≤ pct) (hle : pct ≤ pct') (hdown : factorDown? pct = some down)
    (hdown' : factorDown? pct' = some down') (h : Decimal.InRange (currentPrice.toRat * down'.toRat)) :
    Decimal.InRange (currentPrice.toRat * down.toRat) := by
  have hone := factorDown?_le_one hpct hdown
  rcases le_or_gt 0 down.toRat with hpos | hneg
  · have hcurrent : Decimal.InRange currentPrice.toRat := currentPrice.rounded_toRat.inRange
    apply hcurrent.of_abs_le
    rw [abs_mul, abs_of_nonneg hpos]
    exact mul_le_of_le_one_right (abs_nonneg _) hone
  · have hanti := factorDown?_anti hle hdown hdown'
    apply h.of_abs_le
    rw [abs_mul, abs_mul, abs_of_neg hneg, abs_of_nonpos (hanti.trans hneg.le)]
    exact mul_le_mul_of_nonneg_left (by linarith) (abs_nonneg _)

theorem inRange_mul_up (hpct : .zero ≤ pct) (hle : pct ≤ pct') (hup : factorUp? pct = some up)
    (hup' : factorUp? pct' = some up') (h : Decimal.InRange (currentPrice.toRat * up'.toRat)) :
    Decimal.InRange (currentPrice.toRat * up.toRat) := by
  have hone := one_le_factorUp? hpct hup
  have hmono := factorUp?_mono hle hup hup'
  apply h.of_abs_le
  rw [abs_mul, abs_mul, abs_of_nonneg (by linarith : 0 ≤ up.toRat), abs_of_nonneg (by linarith : 0 ≤ up'.toRat)]
  exact mul_le_mul_of_nonneg_left hmono (abs_nonneg _)

theorem exists_around_of_le (hpct : .zero ≤ pct) (hle : pct ≤ pct')
    (h : ∃ band, around currentPrice pct' = .ok band) : ∃ band, around currentPrice pct = .ok band := by
  obtain ⟨down, hdown⟩ := exists_factorDown? pct
  obtain ⟨up, hup⟩ := exists_factorUp? pct
  obtain ⟨down', hdown'⟩ := exists_factorDown? pct'
  obtain ⟨up', hup'⟩ := exists_factorUp? pct'
  rw [exists_around_iff hdown' hup'] at h
  rw [exists_around_iff hdown hup]
  intro hpos
  obtain ⟨hlower, hupper⟩ := h hpos
  exact ⟨inRange_mul_down hpct hle hdown hdown' hlower, inRange_mul_up hpct hle hup hup' hupper⟩

theorem lower_le_lower {narrow wide : Band} (hle : pct ≤ pct') (h : around currentPrice pct = .ok (some narrow))
    (h' : around currentPrice pct' = .ok (some wide)) : wide.lower ≤ narrow.lower := by
  obtain ⟨hpos, down, up, hdown, -, hlower, -⟩ := exists_factors h
  obtain ⟨-, down', up', hdown', -, hlower', -⟩ := exists_factors h'
  have hprice := Decimal.isPositive_iff_toRat.mp hpos
  rw [Decimal.le_iff_toRat]
  apply (Decimal.rounded_mul? hlower').mono (Decimal.rounded_mul? hlower)
  exact mul_le_mul_of_nonneg_left (factorDown?_anti hle hdown hdown') hprice.le

theorem upper_le_upper {narrow wide : Band} (hle : pct ≤ pct') (h : around currentPrice pct = .ok (some narrow))
    (h' : around currentPrice pct' = .ok (some wide)) : narrow.upper ≤ wide.upper := by
  obtain ⟨hpos, down, up, -, hup, -, hupper⟩ := exists_factors h
  obtain ⟨-, down', up', -, hup', -, hupper'⟩ := exists_factors h'
  have hprice := Decimal.isPositive_iff_toRat.mp hpos
  rw [Decimal.le_iff_toRat]
  apply (Decimal.rounded_mul? hupper).mono (Decimal.rounded_mul? hupper')
  exact mul_le_mul_of_nonneg_left (factorUp?_mono hle hup hup') hprice.le

theorem exists_some_of_around {o : Option Band} (hpos : currentPrice.IsPositive)
    (h : around currentPrice pct = .ok o) : ∃ b, o = some b := by
  cases o with
  | none => exact absurd hpos (not_isPositive_of_around h)
  | some b => exact ⟨b, rfl⟩

/-- Around a price above zero, the band of a smaller change holds the price and lies in the band of a larger one, and
has decimals wherever that has. -/
theorem around_nested (currentPrice pct pct' : Decimal) (hpos : .zero < currentPrice) (hpct : .zero ≤ pct)
    (hle : pct ≤ pct') (h : ∃ band, around currentPrice pct' = .ok band) :
    ∃ narrow wide, around currentPrice pct = .ok (some narrow) ∧ around currentPrice pct' = .ok (some wide) ∧
      wide.lower ≤ narrow.lower ∧ narrow.lower ≤ currentPrice ∧ currentPrice ≤ narrow.upper ∧
      narrow.upper ≤ wide.upper := by
  have hpos := Decimal.isPositive_iff.mpr hpos
  obtain ⟨o', hwide⟩ := h
  obtain ⟨o, hnarrow⟩ := exists_around_of_le hpct hle ⟨o', hwide⟩
  obtain ⟨wide, rfl⟩ := exists_some_of_around hpos hwide
  obtain ⟨narrow, rfl⟩ := exists_some_of_around hpos hnarrow
  obtain ⟨hlow, hhigh⟩ := contains_of_around hpct hnarrow
  exact ⟨narrow, wide, hnarrow, hwide, lower_le_lower hle hnarrow hwide, hlow, hhigh,
    upper_le_upper hle hnarrow hwide⟩

/-- The bounds around a price of 29 digits lose digits, and the lower one at 150 percent is below zero. -/
theorem around_nested_digits :
    let price : Decimal := ⟨31415926535897932384626433833, 28, by decide, by decide⟩
    let third : Decimal := ⟨3333333333333333333333333333, 26, by decide, by decide⟩
    Decimal.zero < price ∧ .zero ≤ third ∧ third ≤ .ofNat 150 ∧
      (∃ band, around price (.ofNat 150) = .ok band) ∧
      ∃ narrow wide, around price third = .ok (some narrow) ∧ around price (.ofNat 150) = .ok (some wide) ∧
        wide.lower ≤ narrow.lower ∧ narrow.lower ≤ price ∧ price ≤ narrow.upper ∧ narrow.upper ≤ wide.upper := by
  intro price third
  have hpos : Decimal.zero < price := by decide +kernel
  have hpct : Decimal.zero ≤ third := by decide +kernel
  have hle : third ≤ .ofNat 150 := by decide +kernel
  have hwide : ∃ band, around price (.ofNat 150) = .ok band :=
    ⟨some ⟨⟨-15707963267948966192313216916, 28, by decide, by decide⟩,
      ⟨78539816339744830961566084582, 28, by decide, by decide⟩⟩, by decide +kernel⟩
  exact ⟨hpos, hpct, hle, hwide, around_nested _ _ _ hpos hpct hle hwide⟩

end Band

end Repricing
