import Repricing.Proofs.Guardrail.Steps

namespace Repricing

namespace Limits

variable {g : Limits} {price price' : Decimal} {x n l m y : Rat}

/-- With a step, the outcome of a passage restrains to a price that has the same outcome. -/
theorem Passage.again (h : g.Passage price n l m y) (hx : price.toRat = g.restrain x)
    (hy : price'.toRat = g.restrain y) : ∃ n l m, g.Passage price' n l m y := by
  have hunder : g.BelowTop g.floor.toRat := by
    have htop := h.within
    rw [hx] at htop
    exact belowTop_restrain_iff.mp htop
  have htop : g.BelowTop price'.toRat := by
    rw [hy]
    exact belowTop_restrain_iff.mpr hunder
  refine h.between htop ?_
  rw [Decimal.le_iff_toRat, Decimal.le_iff_toRat, hx, hy]
  exact (g.restrain_between x y).imp id id

/-- Without a step, the cents of a restrained price restrain to a price of the same cents. -/
theorem toRat_toCents_restrain (hx : price.toRat = g.restrain x)
    (hy : price'.toRat = g.restrain price.toCents.toRat) : price'.toCents.toRat = price.toCents.toRat := by
  have hcents : price.toCents.toCents = price.toCents := Decimal.toCents_toCents price
  rcases g.restrain_between x price.toCents.toRat with ⟨hlow, hhigh⟩ | ⟨hlow, hhigh⟩
  · rw [← hy] at hlow hhigh
    rw [← hx] at hhigh
    have hle := Decimal.toRat_toCents_mono hlow
    rw [hcents] at hle
    exact le_antisymm (Decimal.toRat_toCents_mono hhigh) hle
  · rw [← hy] at hlow hhigh
    rw [← hx] at hlow
    have hle := Decimal.toRat_toCents_mono hhigh
    rw [hcents] at hle
    exact le_antisymm hle (Decimal.toRat_toCents_mono hlow)

end Limits

/-- A final price that is suggested again is approved again, unchanged. -/
theorem enforce_final_price (cost currentPrice suggestedPrice : Decimal) (policy : Policy)
    (hok : (enforce cost currentPrice suggestedPrice policy).isOk = true) :
    let first := enforce cost currentPrice suggestedPrice policy
    let again := enforce cost currentPrice first.suggestedPriceFinal policy
    again.isOk = true ∧ again.suggestedPriceFinal.SameValue first.suggestedPriceFinal ∧
      again.adjusted = false := by
  intro first again
  obtain ⟨g, hg⟩ := Limits.exists_of hok
  obtain ⟨n, l, m, y, h⟩ := exists_passage_of_isOk hg hok
  obtain ⟨-, ⟨d, rfl, hfinal⟩, -⟩ := enforce_of_passage hg h
  have hcents : first.suggestedPriceFinal.toCents = first.suggestedPriceFinal := by
    rw [hfinal, Decimal.toCents_toCents]
  have hstart := Candidate.toRat_start g policy suggestedPrice
  have hstart' := Candidate.toRat_start g policy first.suggestedPriceFinal
  rw [hcents] at hstart'
  -- With or without a step, the second passage leads to a price of the same cents.
  obtain ⟨n', l', m', e, h', hsame⟩ : ∃ n' l' m', ∃ e : Decimal,
      g.Passage (Candidate.start g policy first.suggestedPriceFinal).price n' l' m' e.toRat ∧
      e.toCents.toRat = first.suggestedPriceFinal.toRat := by
    cases hm : g.mode.step with
    | none =>
      obtain ⟨hunder, hd⟩ := (Limits.exists_passage_iff_of_unstepped hm hstart).mp ⟨n, l, m, h⟩
      obtain ⟨n', l', m', h'⟩ := (Limits.exists_passage_iff_of_unstepped hm hstart').mpr ⟨hunder, rfl⟩
      refine ⟨n', l', m', _, h', ?_⟩
      rw [hfinal]
      rw [hfinal] at hstart'
      rw [Limits.toRat_toCents_restrain (hd.trans hstart) hstart']
    | some step =>
      have hfinal := toRat_suggestedPriceFinal hg hm h
      rw [hfinal] at hstart'
      obtain ⟨n', l', m', h'⟩ := h.again hstart hstart'
      refine ⟨n', l', m', d, h', ?_⟩
      rw [h.isMultiple.toRat_toCents hm, hfinal]
  obtain ⟨hok', ⟨e', he', hfinal'⟩, hadjusted⟩ := enforce_of_passage hg h'
  have hvalue : again.suggestedPriceFinal.SameValue first.suggestedPriceFinal := by
    rw [Decimal.sameValue_iff_toRat, hfinal', Decimal.toRat_toCents_congr he', hsame]
  refine ⟨hok', hvalue, ?_⟩
  rw [hadjusted, hcents]
  simpa using hvalue

/-- The least multiple of five in the band from 86.40 to 105.60, to which a suggestion of 50 is raised. -/
theorem enforce_final_price_ninety :
    let policy : Policy := ⟨.ten, .ten, .nearest5⟩
    let first := enforce .ten (.ofNat 96) (.ofNat 50) policy
    let again := enforce .ten (.ofNat 96) first.suggestedPriceFinal policy
    first.isOk = true ∧ first.suggestedPriceFinal.SameValue (.ofNat 90) ∧
      again.isOk = true ∧ again.suggestedPriceFinal.SameValue first.suggestedPriceFinal ∧
      again.adjusted = false :=
  ⟨by decide +kernel, by decide +kernel, enforce_final_price _ _ _ _ (by decide +kernel)⟩

end Repricing
