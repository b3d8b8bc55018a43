import Repricing.Proofs.Percent

namespace Repricing

variable {cost floor pct price : Decimal}

theorem minPriceForMargin?_eq {factor : Decimal} (h : factorDown? pct = some factor) :
    minPriceForMargin? cost pct = if Decimal.hundred ≤ pct then none else cost.div? factor := by
  obtain ⟨fraction, hfraction, hfactor⟩ := Option.bind_eq_some_iff.mp h
  unfold minPriceForMargin?
  split_ifs with hhundred
  · rfl
  · have hpos := factorDown?_pos (Decimal.not_hundred_le_iff_toRat.mp hhundred) h
    rw [hfraction, Option.bind_some, hfactor, Option.bind_some, if_pos (Decimal.isPositive_iff_toRat.mpr hpos)]

theorem minPriceForMargin?_eq_none_iff {factor : Decimal} (h : factorDown? pct = some factor) :
    minPriceForMargin? cost pct = none ↔ Decimal.hundred ≤ pct ∨ ¬Decimal.InRange (cost.toRat / factor.toRat) := by
  rw [minPriceForMargin?_eq h]
  split_ifs with hhundred
  · simp [hhundred]
  · have hpos := factorDown?_pos (Decimal.not_hundred_le_iff_toRat.mp hhundred) h
    rw [or_iff_right hhundred]
    exact (Decimal.roundsTo_div? cost (Decimal.isZero_iff_toRat.not.mpr hpos.ne')).eq_none_iff

/-- What a least price is made of. -/
theorem exists_factor_of_minPriceForMargin? (h : minPriceForMargin? cost pct = some floor) :
    ∃ factor, factorDown? pct = some factor ∧ pct.toRat < 100 ∧ 0 < factor.toRat ∧
      Decimal.Rounded (cost.toRat / factor.toRat) floor := by
  obtain ⟨factor, hfactor⟩ := exists_factorDown? pct
  rw [minPriceForMargin?_eq hfactor] at h
  split_ifs at h with hhundred
  have hlt := Decimal.not_hundred_le_iff_toRat.mp hhundred
  have hpos := factorDown?_pos hlt hfactor
  exact ⟨factor, hfactor, hlt, hpos, Decimal.rounded_div? (Decimal.isZero_iff_toRat.not.mpr hpos.ne') h⟩

/-- A margin that is not negative keeps the least price at or above the cost. -/
theorem cost_le_minPriceForMargin? (hcost : Decimal.zero ≤ cost) (hpct : Decimal.zero ≤ pct)
    (h : minPriceForMargin? cost pct = some floor) : cost ≤ floor := by
  obtain ⟨factor, hfactor, -, hpos, hround⟩ := exists_factor_of_minPriceForMargin? h
  rw [Decimal.zero_le_iff_toRat] at hcost
  rw [Decimal.le_iff_toRat]
  exact hround.le_of_ge (le_div_self hcost hpos (factorDown?_le_one hpct hfactor))

/-- A higher cost and a higher least margin ask for a higher price: each of the rounded operations keeps the order. -/
theorem minPriceForMargin?_mono {cost' pct' floor' : Decimal} (hcost : Decimal.zero ≤ cost) (hle : cost ≤ cost')
    (hpct : pct ≤ pct') (h : minPriceForMargin? cost pct = some floor)
    (h' : minPriceForMargin? cost' pct' = some floor') : floor ≤ floor' := by
  obtain ⟨factor, hfactor, -, -, hround⟩ := exists_factor_of_minPriceForMargin? h
  obtain ⟨factor', hfactor', -, hpos', hround'⟩ := exists_factor_of_minPriceForMargin? h'
  rw [Decimal.zero_le_iff_toRat] at hcost
  rw [Decimal.le_iff_toRat] at hle ⊢
  exact hround.mono hround' (div_le_div₀ (hcost.trans hle) hle hpos' (factorDown?_anti hpct hfactor hfactor'))

/-- With a least margin in hundredths of a percent, the least price is the exact one, rounded once. -/
theorem rounded_minPriceForMargin? (hpct : Decimal.zero ≤ pct) (hcents : pct.InCents)
    (h : minPriceForMargin? cost pct = some floor) :
    pct.toRat < 100 ∧ Decimal.Rounded (cost.toRat / (1 - pct.toRat / 100)) floor := by
  obtain ⟨factor, hfactor, hhundred, -, hround⟩ := exists_factor_of_minPriceForMargin? h
  rw [Decimal.zero_le_iff_toRat] at hpct
  rw [toRat_factorDown? hcents hpct hhundred hfactor] at hround
  exact ⟨hhundred, hround⟩

/-- The margin of a price of a cent or more, before it is rounded to cents, is off by less than `10 ^ -20`. -/
theorem exists_marginPct? (hprice : 1 / 100 ≤ price.toRat) (hgain : |price.toRat - cost.toRat| ≤ price.toRat) :
    ∃ margin : Decimal, marginPct? price cost = some margin.toCents ∧
      |margin.toRat - (price.toRat - cost.toRat) / price.toRat * 100| ≤ 1 / 10 ^ 20 := by
  have hpos : 0 < price.toRat := by linarith
  obtain ⟨gain, hgain?, hgainr⟩ := (Decimal.roundsTo_sub? price cost).exists_some
    (hgain.trans ((le_abs_self _).trans price.abs_toRat_le))
  have hgain_sub : |gain.toRat - (price.toRat - cost.toRat)| ≤ (1 + price.toRat) / 10 ^ 28 :=
    hgainr.abs_sub_le.trans (by gcongr)
  have hratio : |gain.toRat / price.toRat - (price.toRat - cost.toRat) / price.toRat| ≤ 101 / 10 ^ 28 := by
    rw [← sub_div, abs_div, abs_of_pos hpos, div_le_iff₀ hpos]
    linarith
  have hwhole : |(price.toRat - cost.toRat) / price.toRat| ≤ 1 := by
    rw [abs_div, abs_of_pos hpos]
    exact div_le_one_of_le₀ hgain hpos.le
  have hratio_le : |gain.toRat / price.toRat| ≤ 2 := by
    have hsplit := abs_sub_abs_le_abs_sub (gain.toRat / price.toRat) ((price.toRat - cost.toRat) / price.toRat)
    linarith
  obtain ⟨fraction, hfraction?, hfractionr⟩ :=
    (Decimal.roundsTo_div? gain (Decimal.isZero_iff_toRat.not.mpr hpos.ne')).exists_some
      (hratio_le.trans (by norm_num [Decimal.largest]))
  have hfraction_sub : |fraction.toRat - gain.toRat / price.toRat| ≤ 3 / 10 ^ 28 :=
    hfractionr.abs_sub_le.trans (by rw [div_le_div_iff_of_pos_right (by positivity)]; linarith)
  have hpct_le : |fraction.toRat * Decimal.hundred.toRat| ≤ 300 := by
    have hsplit := abs_sub_abs_le_abs_sub fraction.toRat (gain.toRat / price.toRat)
    rw [Decimal.toRat_hundred, abs_mul, abs_of_pos (by norm_num : (0 : Rat) < 100)]
    linarith
  obtain ⟨margin, hmargin?, hmarginr⟩ := (Decimal.roundsTo_mul? fraction .hundred).exists_some
    (hpct_le.trans (by norm_num [Decimal.largest]))
  have hmargin_sub : |margin.toRat - fraction.toRat * 100| ≤ 301 / 10 ^ 28 := by
    rw [← Decimal.toRat_hundred]
    exact hmarginr.abs_sub_le.trans (by rw [div_le_div_iff_of_pos_right (by positivity)]; linarith)
  refine ⟨margin, ?_, ?_⟩
  · rw [marginPct?, if_pos (Decimal.isPositive_iff_toRat.mpr hpos), hgain?, Option.bind_some, hfraction?,
      Option.bind_some, hmargin?, Option.map_some]
  · have h1 := abs_le.mp hmargin_sub
    have h2 := abs_le.mp hfraction_sub
    have h3 := abs_le.mp hratio
    rw [abs_le]
    constructor <;> linarith

/-- A price that misses the least price by less than shows in the margin has the least margin. -/
theorem exists_marginPct?_ge (hcost : Decimal.zero ≤ cost) (hpct : Decimal.zero ≤ pct) (hcents : pct.InCents)
    (hfloor : minPriceForMargin? cost pct = some floor) (hprice : 1 / 100 ≤ price.toRat)
    (hshort : (100 - pct.toRat) * (floor.toRat - price.toRat) ≤ 49996 / 10 ^ 7 * price.toRat) :
    ∃ margin, marginPct? price cost = some margin ∧ pct ≤ margin := by
  obtain ⟨hlt, hround⟩ := rounded_minPriceForMargin? hpct hcents hfloor
  rw [Decimal.zero_le_iff_toRat] at hcost hpct
  have hpos : 0 < price.toRat := by linarith
  have hleft : 0 < 1 - pct.toRat / 100 := by linarith
  -- The cost is at most what the margin leaves of the price, apart from what is too little to show.
  have hcost_le : cost.toRat ≤ (1 - pct.toRat / 100) * floor.toRat + (1 + cost.toRat) / 10 ^ 28 := by
    have hnear := hround.abs_sub_le
    rw [abs_of_nonneg (div_nonneg hcost hleft.le)] at hnear
    have hscaled := mul_le_mul_of_nonneg_left (abs_le.mp hnear).1 hleft.le
    have hcancel : (1 - pct.toRat / 100) * (cost.toRat / (1 - pct.toRat / 100)) = cost.toRat :=
      mul_div_cancel₀ _ hleft.ne'
    rw [mul_neg, mul_sub, hcancel, mul_div_assoc', mul_add, hcancel, mul_one] at hscaled
    linarith
  have hpct_price : 0 ≤ pct.toRat * price.toRat := mul_nonneg hpct hpos.le
  have hcost_two : cost.toRat ≤ 2 * price.toRat := by linarith
  have hgain : |price.toRat - cost.toRat| ≤ price.toRat := abs_le.mpr ⟨by linarith, by linarith⟩
  obtain ⟨margin, hmargin, hnear⟩ := exists_marginPct? hprice hgain
  refine ⟨margin.toCents, hmargin, Decimal.le_iff_toRat.mpr (hcents.le_toCents_of_lt ?_)⟩
  have hexact : pct.toRat - 1 / 200 + 1 / 10 ^ 20 < (price.toRat - cost.toRat) / price.toRat * 100 := by
    rw [div_mul_eq_mul_div, lt_div_iff₀ hpos]
    linarith
  linarith [(abs_le.mp hnear).1]

end Repricing
