import Repricing.Proofs.Guardrail.Band
import Repricing.Proofs.Guardrail.Blocked

namespace Repricing

section Shown

variable {cost currentPrice suggestedPrice : Decimal} {policy : Policy}

theorem marginPctFinal_of_isOk (hok : (enforce cost currentPrice suggestedPrice policy).isOk = true) :
    let result := enforce cost currentPrice suggestedPrice policy
    result.marginPctFinal = marginPct? result.suggestedPriceFinal cost := by
  intro result
  cases hc : Candidate.guard cost currentPrice policy ⟨suggestedPrice.toCents, []⟩ with
  | error e => simp [enforce, hc, GuardrailResult.isOk] at hok
  | ok c => simp [result, enforce, hc]

theorem inCents_suggestedPriceFinal (cost currentPrice suggestedPrice : Decimal) (policy : Policy) :
    (enforce cost currentPrice suggestedPrice policy).suggestedPriceFinal.InCents := by
  cases hc : Candidate.guard cost currentPrice policy ⟨suggestedPrice.toCents, []⟩ with
  | error e => simpa [enforce, hc] using suggestedPrice.inCents_toCents
  | ok c => simpa [enforce, hc] using c.price.inCents_toCents

end Shown

section Shortfall

variable {mode : RoundingMode} {cost floor pct price : Decimal} (hcost : Decimal.zero ≤ cost)
  (hpct : Decimal.zero ≤ pct) (hcents : pct.InCents) (hfloor : minPriceForMargin? cost pct = some floor)
  (hprice : 1 / 100 ≤ price.toRat)
include hcost hpct hcents hfloor hprice

theorem exists_marginPct?_ge_of_floor_le (hle : floor ≤ price) :
    ∃ margin, marginPct? price cost = some margin ∧ pct ≤ margin := by
  have hlt := (rounded_minPriceForMargin? hpct hcents hfloor).1
  refine exists_marginPct?_ge hcost hpct hcents hfloor hprice ?_
  rw [Decimal.le_iff_toRat] at hle
  have hshort : (100 - pct.toRat) * (floor.toRat - price.toRat) ≤ 0 :=
    mul_nonpos_of_nonneg_of_nonpos (by linarith) (by linarith)
  linarith

/-- The snap of the floor misses it by too little to show. -/
theorem exists_marginPct?_ge_of_snapUp? {step d : Decimal} (hm : mode.step = some step)
    (hd : mode.snapUp? floor = some d) (hdp : d.toRat = price.toRat) :
    ∃ margin, marginPct? price cost = some margin ∧ pct ≤ margin := by
  refine exists_marginPct?_ge hcost hpct hcents hfloor hprice ?_
  have hlt := (rounded_minPriceForMargin? hpct hcents hfloor).1
  have hle := cost_le_minPriceForMargin? hcost hpct hfloor
  have hmiss := RoundingMode.sub_snapUp?_le hm hd
  have hone := RoundingMode.one_le_step hm
  have hten := RoundingMode.step_le_ten hm
  rw [Decimal.le_iff_toRat] at hle hcost hpct
  rw [Decimal.toRat_zero] at hcost hpct
  rw [hdp, abs_of_nonneg (hcost.trans hle)] at hmiss
  have hbound : 0 ≤ (step.toRat + floor.toRat) / 10 ^ 28 := div_nonneg (by linarith) (by positivity)
  calc (100 - pct.toRat) * (floor.toRat - price.toRat)
      ≤ (100 - pct.toRat) * ((step.toRat + floor.toRat) / 10 ^ 28) :=
        mul_le_mul_of_nonneg_left hmiss (by linarith)
    _ ≤ 100 * ((step.toRat + floor.toRat) / 10 ^ 28) := mul_le_mul_of_nonneg_right (by linarith) hbound
    _ ≤ 49996 / 10 ^ 7 * price.toRat := by linarith

/-- Half a cent does not show in the margin of a price that is large enough for the margin. -/
theorem exists_marginPct?_ge_of_lt (hmiss : floor.toRat - price.toRat ≤ 1 / 200) (hin : price.InCents)
    (hlarge : 100 < price.toRat + pct.toRat) : ∃ margin, marginPct? price cost = some margin ∧ pct ≤ margin := by
  refine exists_marginPct?_ge hcost hpct hcents hfloor hprice ?_
  have hlt := (rounded_minPriceForMargin? hpct hcents hfloor).1
  rw [Decimal.le_iff_toRat, Decimal.toRat_zero] at hpct
  -- Both numbers are whole numbers of hundredths, so their sum is above 100 by one of them.
  obtain ⟨j, hj⟩ := hin.exists_int
  obtain ⟨k, hk⟩ := hcents.exists_int
  have hjk : 10001 ≤ j + k := by
    have hjk : (10000 : Rat) < j + k := by linarith
    exact_mod_cast hjk
  have hjk : (10001 : Rat) ≤ j + k := by exact_mod_cast hjk
  calc (100 - pct.toRat) * (floor.toRat - price.toRat)
      ≤ (100 - pct.toRat) * (1 / 200) := mul_le_mul_of_nonneg_left hmiss (by linarith)
    _ ≤ 49996 / 10 ^ 7 * price.toRat := by linarith

end Shortfall

/-- A price above zero that is approved with a step shows the least margin. -/
theorem approved_margin (cost currentPrice suggestedPrice step : Decimal) (policy : Policy)
    (hvalid : policy.faults = []) (hstep : policy.roundingMode.step = some step) (hcents : policy.minMarginPct.InCents)
    (hcost : Decimal.zero ≤ cost) (hok : (enforce cost currentPrice suggestedPrice policy).isOk = true)
    (hpos : (enforce cost currentPrice suggestedPrice policy).suggestedPriceFinal.IsPositive) :
    ∃ margin, (enforce cost currentPrice suggestedPrice policy).marginPctFinal = some margin ∧
      policy.minMarginPct ≤ margin := by
  obtain ⟨g, hg⟩ := Limits.exists_of hok
  obtain ⟨n, l, m, y, h⟩ := exists_passage_of_isOk hg hok
  have hm : g.mode.step = some step := hg.mode ▸ hstep
  have hfinal := toRat_suggestedPriceFinal hg hm h
  have hpct := minMarginPct_nonneg hvalid
  have hcent := (inCents_suggestedPriceFinal cost currentPrice suggestedPrice policy).cent_le
    (Decimal.isPositive_iff_toRat.mp hpos)
  rw [marginPctFinal_of_isOk hok]
  rcases h.floor_le_or_eq_snap with hle | ⟨d, hd, hdy⟩
  · rw [← hfinal, ← Decimal.le_iff_toRat] at hle
    exact exists_marginPct?_ge_of_floor_le hcost hpct hcents hg.floor hcent hle
  · exact exists_marginPct?_ge_of_snapUp? hcost hpct hcents hg.floor hcent hm hd (hdy.trans hfinal.symm)

/-- Just above 4.50 the cost asks for just above 5, but by so little that the quotient by the step is one: 5 is approved
below the floor, and shows a margin of 10.00. -/
theorem approved_margin_ten :
    let cost : Decimal := ⟨45000000000000000000000000001, 28, by decide, by decide⟩
    let policy : Policy := ⟨.ten, .ten, .nearest5⟩
    let result := enforce cost .five .five policy
    policy.faults = [] ∧ policy.roundingMode.step = some .five ∧ policy.minMarginPct.InCents ∧ Decimal.zero ≤ cost ∧
      result.isOk = true ∧ result.suggestedPriceFinal.IsPositive ∧
      (∃ floor, minPriceForMargin? cost policy.minMarginPct = some floor ∧ result.suggestedPriceFinal < floor) ∧
      ∃ margin, result.marginPctFinal = some margin ∧ policy.minMarginPct ≤ margin := by
  intro cost policy result
  have hvalid : policy.faults = [] := by decide +kernel
  have hcents : policy.minMarginPct.InCents := by decide +kernel
  have hcost : Decimal.zero ≤ cost := by decide +kernel
  have hok : result.isOk = true := by decide +kernel
  have hpos : result.suggestedPriceFinal.IsPositive := by decide +kernel
  let floor : Decimal := ⟨50000000000000000000000000001, 28, by decide, by decide⟩
  have hfloor : minPriceForMargin? cost policy.minMarginPct = some floor := by decide +kernel
  exact ⟨hvalid, rfl, hcents, hcost, hok, hpos, ⟨floor, hfloor, by decide +kernel⟩,
    approved_margin _ _ _ _ policy hvalid rfl hcents hcost hok hpos⟩

/-- The price is one that keeps to the floor and to the band, rounded to cents. -/
def IsSafeInCents (floor : Decimal) (band : Band) (final : Decimal) : Prop :=
  ∃ price, floor ≤ price ∧ band.Contains price ∧ final = price.toCents

section InCents

variable {floor final : Decimal} {band : Band}

theorem IsSafeInCents.inCents (h : IsSafeInCents floor band final) : final.InCents := by
  obtain ⟨price, -, -, rfl⟩ := h
  exact price.inCents_toCents

theorem IsSafeInCents.floor_sub_le (h : IsSafeInCents floor band final) : floor.toRat - final.toRat ≤ 1 / 200 := by
  obtain ⟨price, hfloor, -, rfl⟩ := h
  have hnear := (abs_le.mp price.abs_toCents_sub_le).1
  rw [Decimal.le_iff_toRat] at hfloor
  linarith

/-- A floor that is a whole number of cents is not missed, and a band between two is not left. -/
theorem IsSafeInCents.floor_le (h : IsSafeInCents floor band final) (hin : floor.InCents) : floor ≤ final := by
  obtain ⟨price, hfloor, -, rfl⟩ := h
  rw [Decimal.le_iff_toRat] at hfloor ⊢
  exact hin.le_toCents hfloor

theorem IsSafeInCents.contains (h : IsSafeInCents floor band final) (hlower : band.lower.InCents)
    (hupper : band.upper.InCents) : band.Contains final := by
  obtain ⟨price, -, ⟨hlow, htop⟩, rfl⟩ := h
  rw [Decimal.le_iff_toRat] at hlow htop
  exact ⟨Decimal.le_iff_toRat.mpr (hlower.le_toCents hlow), Decimal.le_iff_toRat.mpr (hupper.toCents_le htop)⟩

end InCents

/-- Without a step, what is rounded to cents keeps to the floor and to the band. -/
theorem Limits.Of.isSafeInCents {g : Limits} {cost currentPrice suggestedPrice : Decimal} {policy : Policy} {b : Band}
    (hg : g.Of cost currentPrice policy) (hm : g.mode.step = none) (hb : b ∈ g.band)
    (hcurrent : b.Contains currentPrice) (hok : (enforce cost currentPrice suggestedPrice policy).isOk = true) :
    IsSafeInCents g.floor b (enforce cost currentPrice suggestedPrice policy).suggestedPriceFinal := by
  obtain ⟨n, l, m, y, h⟩ := exists_passage_of_isOk hg hok
  obtain ⟨-, ⟨price, rfl, hfinal⟩, -⟩ := enforce_of_passage hg h
  have hstart := Candidate.toRat_start g policy suggestedPrice
  obtain ⟨hunder, hprice⟩ := (exists_passage_iff_of_unstepped hm hstart).mp ⟨n, l, m, h⟩
  rw [hstart] at hprice
  have hupright : b.lower.toRat ≤ b.upper.toRat :=
    (Decimal.le_iff_toRat.mp hcurrent.1).trans (Decimal.le_iff_toRat.mp hcurrent.2)
  refine ⟨price, ?_, ⟨?_, ?_⟩, hfinal⟩
  · rw [Decimal.le_iff_toRat, hprice]
    exact g.floor_le_restrain _
  · rw [Decimal.le_iff_toRat, hprice]
    by_contra hlt
    linarith [(eq_upper_of_restrain_lt hb (not_le.mp hlt)).1]
  · rw [Decimal.le_iff_toRat, hprice]
    exact belowTop_restrain_iff.mpr hunder b hb

/-- Without a step, an approved price is a safe price, rounded to cents: it keeps to a floor and to a band in whole
cents. Above zero it shows a margin, and the least one at least if the rounding does not take the price below the floor,
or if the price and the least margin add up to more than a hundred. -/
theorem approved_in_cents (cost currentPrice suggestedPrice : Decimal) (policy : Policy)
    (hvalid : policy.faults = []) (hmode : policy.roundingMode = .none) (hcents : policy.minMarginPct.InCents)
    (hcost : Decimal.zero < cost) (hcurrent : currentPrice.IsPositive)
    (hok : (enforce cost currentPrice suggestedPrice policy).isOk = true)
    (hpos : (enforce cost currentPrice suggestedPrice policy).suggestedPriceFinal.IsPositive) :
    let result := enforce cost currentPrice suggestedPrice policy
    let final := result.suggestedPriceFinal
    ∃ floor band margin, minPriceForMargin? cost policy.minMarginPct = some floor ∧
      Band.around currentPrice policy.maxChangePct = .ok (some band) ∧ result.marginPctFinal = some margin ∧
      IsSafeInCents floor band final ∧ (floor.InCents → floor ≤ final) ∧
      (band.lower.InCents → band.upper.InCents → band.Contains final) ∧
      (floor ≤ final ∨ 100 < final.toRat + policy.minMarginPct.toRat → policy.minMarginPct ≤ margin) := by
  intro result final
  obtain ⟨g, hg⟩ := Limits.exists_of hok
  have hm : g.mode.step = none := by
    rw [hg.mode, hmode]
    rfl
  obtain ⟨b, hb⟩ : ∃ b, b ∈ g.band := by
    cases hband : g.band with
    | none => exact absurd hcurrent (Band.not_isPositive_of_around (hband ▸ hg.band))
    | some b => exact ⟨b, rfl⟩
  have hcost := (Decimal.lt_iff_toRat.mp hcost).le
  rw [← Decimal.le_iff_toRat] at hcost
  have hpct := minMarginPct_nonneg hvalid
  have hsafe := hg.isSafeInCents hm hb (hg.contains hvalid hb) hok
  have hcent := hsafe.inCents.cent_le (Decimal.isPositive_iff_toRat.mp hpos)
  obtain ⟨margin, hmargin, hge⟩ : ∃ margin, marginPct? final cost = some margin ∧
      (g.floor ≤ final ∨ 100 < final.toRat + policy.minMarginPct.toRat → policy.minMarginPct ≤ margin) := by
    by_cases hlow : g.floor ≤ final
    · obtain ⟨margin, hmargin, hge⟩ := exists_marginPct?_ge_of_floor_le hcost hpct hcents hg.floor hcent hlow
      exact ⟨margin, hmargin, fun _ => hge⟩
    by_cases hlarge : 100 < final.toRat + policy.minMarginPct.toRat
    · obtain ⟨margin, hmargin, hge⟩ :=
        exists_marginPct?_ge_of_lt hcost hpct hcents hg.floor hcent hsafe.floor_sub_le hsafe.inCents hlarge
      exact ⟨margin, hmargin, fun _ => hge⟩
    · have hcost_le := cost_le_minPriceForMargin? hcost hpct hg.floor
      have hmiss := hsafe.floor_sub_le
      rw [Decimal.le_iff_toRat] at hcost hcost_le
      rw [Decimal.toRat_zero] at hcost
      have hgain : |final.toRat - cost.toRat| ≤ final.toRat := abs_le.mpr ⟨by linarith, by linarith⟩
      obtain ⟨margin, hmargin, -⟩ := exists_marginPct? hcent hgain
      exact ⟨_, hmargin, fun h => absurd h (not_or.mpr ⟨hlow, hlarge⟩)⟩
  have hband : g.band = some b := hb
  exact ⟨g.floor, b, margin, hg.floor, hband ▸ hg.band, (marginPctFinal_of_isOk hok).trans hmargin, hsafe,
    hsafe.floor_le, hsafe.contains, hge⟩

/-- The floor of 111.11… is rounded to 111.11, and the margin of that to 10.00. -/
theorem approved_in_cents_ten :
    let policy : Policy := ⟨.ten, .ten, .none⟩
    let result := enforce .hundred (.ofNat 120) .hundred policy
    let final := result.suggestedPriceFinal
    policy.faults = [] ∧ policy.roundingMode = .none ∧ policy.minMarginPct.InCents ∧ Decimal.zero < .hundred ∧
      (Decimal.ofNat 120).IsPositive ∧ result.isOk = true ∧ final.IsPositive ∧
      100 < final.toRat + policy.minMarginPct.toRat ∧
      ∃ floor band margin, minPriceForMargin? .hundred policy.minMarginPct = some floor ∧
        Band.around (.ofNat 120) policy.maxChangePct = .ok (some band) ∧ result.marginPctFinal = some margin ∧
        IsSafeInCents floor band final ∧ (floor.InCents → floor ≤ final) ∧
        (band.lower.InCents → band.upper.InCents → band.Contains final) ∧
        (floor ≤ final ∨ 100 < final.toRat + policy.minMarginPct.toRat → policy.minMarginPct ≤ margin) := by
  intro policy result final
  have hvalid : policy.faults = [] := by decide +kernel
  have hcents : policy.minMarginPct.InCents := by decide +kernel
  have hcost : Decimal.zero < .hundred := by decide +kernel
  have hcurrent : (Decimal.ofNat 120).IsPositive := by decide +kernel
  have hok : result.isOk = true := by decide +kernel
  have hpos : final.IsPositive := by decide +kernel
  exact ⟨hvalid, rfl, hcents, hcost, hcurrent, hok, hpos, by decide +kernel,
    approved_in_cents _ _ _ policy hvalid rfl hcents hcost hcurrent hok hpos⟩

/-- The rounding of 0.142… to 0.14 takes the price below the floor and out of the band from 0.1424 on, and its margin of
28.57 below 30. -/
theorem approved_below_margin :
    let cost : Decimal := ⟨10, 2, by decide, by decide⟩
    let currentPrice : Decimal := ⟨16, 2, by decide, by decide⟩
    let suggestedPrice : Decimal := ⟨12, 2, by decide, by decide⟩
    let policy : Policy := ⟨.ofNat 30, .ofNat 11, .none⟩
    let result := enforce cost currentPrice suggestedPrice policy
    policy.faults = [] ∧ policy.roundingMode = .none ∧ policy.minMarginPct.InCents ∧ Decimal.zero < cost ∧
      currentPrice.IsPositive ∧ result.isOk = true ∧ result.suggestedPriceFinal.IsPositive ∧
      (∃ band, Band.around currentPrice policy.maxChangePct = .ok (some band) ∧
        ¬band.Contains result.suggestedPriceFinal) ∧
      ∃ margin, result.marginPctFinal = some margin ∧ margin < policy.minMarginPct := by
  intro cost currentPrice suggestedPrice policy result
  let band : Band := ⟨⟨1424, 4, by decide, by decide⟩, ⟨1776, 4, by decide, by decide⟩⟩
  refine ⟨by decide +kernel, rfl, by decide +kernel, by decide +kernel, by decide +kernel, by decide +kernel,
    by decide +kernel, ⟨band, by decide +kernel, by decide +kernel⟩, ⟨2857, 2, by decide, by decide⟩, ?_⟩
  constructor <;> decide +kernel

end Repricing
