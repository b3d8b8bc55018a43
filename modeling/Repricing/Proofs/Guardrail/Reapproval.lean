import Repricing.Proofs.Guardrail.Band
import Repricing.Proofs.Guardrail.Bounds

namespace Repricing

namespace Limits

variable {g g' : Limits} {price price' : Decimal} {x n l m y : Rat}

/-- In the band a value is restrained by the floor alone. -/
theorem restrain_of_within (htop : g.BelowTop x) (hbottom : g.AboveBottom x) : g.restrain x = max x g.floor.toRat := by
  unfold restrain clamp
  split
  · rfl
  · rename_i b hb
    rw [max_eq_left (hbottom b hb), min_eq_left (htop b hb)]

/-- An outcome below the floor is the snap of the floor, to the nearest multiple as well as upwards. -/
theorem Passage.exists_snapNearest?_of_lt (h : g.Passage price n l m y) (hlt : y < g.floor.toRat)
    (hprice : price'.toRat = g.floor.toRat) :
    ∃ up, g.mode.snapUp? g.floor = some up ∧ up.toRat = y ∧
      ∃ near, g.mode.snapNearest? price' = some near ∧ near.toRat = y := by
  obtain ⟨up, hup, rfl⟩ := h.floor_le_or_eq_snap.resolve_left (not_le.mpr hlt)
  obtain ⟨near, hnear, hsame⟩ :=
    RoundingMode.exists_snap?_of_snapUp?_le .halfAway hup (Decimal.le_iff_toRat.mpr hlt.le)
  obtain ⟨near', hnear', hlow, hhigh⟩ := RoundingMode.exists_snap?_between hnear hnear
    (Decimal.le_iff_toRat.mpr hprice.ge) (Decimal.le_iff_toRat.mpr hprice.le)
  exact ⟨up, hup, rfl, near', hnear', (le_antisymm hhigh hlow).trans hsame⟩

/-- In the band of other limits with the same floor an outcome is the outcome again. -/
theorem Passage.of_within (h : g.Passage price n l m y) (hfloor : g'.floor = g.floor) (hmode : g'.mode = g.mode)
    (hunder : g'.BelowTop g'.floor.toRat) (htop : g'.BelowTop y) (hbottom : g'.AboveBottom y)
    (hprice : price'.toRat = g'.restrain y) : g'.Passage price' y y y y := by
  have hwithin : g'.BelowTop price'.toRat := by
    rw [hprice]
    exact belowTop_restrain_iff.mpr hunder
  rw [restrain_of_within htop hbottom, hfloor] at hprice
  rcases le_or_gt g.floor.toRat y with hle | hlt
  · rw [max_eq_left hle] at hprice
    have hmultiple : g'.mode.IsMultiple price'.toRat := by
      rw [hprice, hmode]
      exact h.isMultiple
    obtain ⟨near, hnear, hsame⟩ := RoundingMode.exists_snap?_of_isMultiple .halfAway hmultiple
    exact ⟨hwithin, ⟨near, hnear, hsame.trans hprice⟩, .keep hbottom, .keep (hfloor ▸ hle), .keep htop⟩
  · rw [max_eq_right hlt.le] at hprice
    obtain ⟨up, hup, rfl, near, hnear, hsame⟩ := h.exists_snapNearest?_of_lt hlt hprice
    rw [← hmode] at hup hnear
    exact ⟨hwithin, ⟨near, hnear, hsame⟩, .keep hbottom, .raise up (hfloor ▸ hlt) (hfloor ▸ hup) htop, .keep htop⟩

/-- Cents of a price that is not below the floor restrain to a price of the same cents. -/
theorem toRat_toCents_of_within {final : Decimal} (hfloor : g.floor.toRat ≤ price.toRat)
    (hfinal : final = price.toCents) (htop : g.BelowTop final.toRat) (hbottom : g.AboveBottom final.toRat)
    (hprice : price'.toRat = g.restrain final.toRat) : price'.toCents.toRat = final.toRat := by
  have hcents : final.InCents := hfinal ▸ price.inCents_toCents
  rw [restrain_of_within htop hbottom] at hprice
  refine le_antisymm ?_ (hcents.le_toCents (hprice ▸ le_max_left _ _))
  rcases le_or_gt g.floor.toRat final.toRat with hle | hlt
  · exact hcents.toCents_le (by rw [hprice, max_eq_left hle])
  · rw [hfinal]
    exact Decimal.toRat_toCents_mono (by rwa [hprice, max_eq_right hlt.le])

end Limits

/-- A final price that becomes the current price is approved as it is, where the band around it has decimals and is not
all below the margin floor. -/
theorem enforce_applied_price (cost currentPrice suggestedPrice : Decimal) (policy : Policy)
    (hvalid : policy.faults = []) (hok : (enforce cost currentPrice suggestedPrice policy).isOk = true) :
    let final := (enforce cost currentPrice suggestedPrice policy).suggestedPriceFinal
    let again := enforce cost final final policy
    ∀ floor band, minPriceForMargin? cost policy.minMarginPct = some floor →
      Band.around final policy.maxChangePct = .ok (some band) → floor ≤ band.upper →
      again.isOk = true ∧ again.suggestedPriceFinal.SameValue final ∧ again.adjusted = false := by
  intro final again floor band hfloor hband hunder
  obtain ⟨g, hg⟩ := Limits.exists_of hok
  obtain ⟨n, l, m, y, h⟩ := exists_passage_of_isOk hg hok
  obtain ⟨-, ⟨price, rfl, hfinal⟩, -⟩ := enforce_of_passage hg h
  obtain rfl : g.floor = floor := Option.some.inj (hg.floor.symm.trans hfloor)
  let g' : Limits := ⟨some band, cost, g.floor, policy.roundingMode⟩
  have hg' : g'.Of cost final policy := ⟨hband, hfloor, rfl, rfl⟩
  have hunder : g'.BelowTop g'.floor.toRat := Limits.belowTop_of_mem rfl (Decimal.le_iff_toRat.mp hunder)
  have htop := hg'.belowTop hvalid
  have hbottom := hg'.aboveBottom hvalid
  have hcents : final.toCents = final := by
    change final = price.toCents at hfinal
    rw [hfinal, Decimal.toCents_toCents]
  have hstart := Candidate.toRat_start g policy suggestedPrice
  have hstart' := Candidate.toRat_start g' policy final
  rw [hcents] at hstart'
  -- With or without a step, the second passage leads to a price of the same cents.
  obtain ⟨n', l', m', e, h', hsame⟩ : ∃ n' l' m', ∃ e : Decimal,
      g'.Passage (Candidate.start g' policy final).price n' l' m' e.toRat ∧ e.toCents.toRat = final.toRat := by
    cases hm : g.mode.step with
    | none =>
      obtain ⟨-, hprice⟩ := (Limits.exists_passage_iff_of_unstepped hm hstart).mp ⟨n, l, m, h⟩
      have hle : g'.floor.toRat ≤ price.toRat := by
        rw [hprice, hstart]
        exact g.floor_le_restrain _
      have hm' : policy.roundingMode.step = none := hg.mode ▸ hm
      obtain ⟨n', l', m', h'⟩ := (Limits.exists_passage_iff_of_unstepped (g := g') hm' hstart').mpr ⟨hunder, rfl⟩
      exact ⟨n', l', m', _, h', Limits.toRat_toCents_of_within hle hfinal htop hbottom hstart'⟩
    | some step =>
      have hvalue : final.toRat = price.toRat := toRat_suggestedPriceFinal hg hm h
      rw [hvalue] at htop hbottom hstart'
      refine ⟨_, _, _, price, h.of_within rfl hg.mode.symm hunder htop hbottom hstart', ?_⟩
      rw [h.isMultiple.toRat_toCents hm, hvalue]
  exact enforce_unchanged_of_passage hg' h' hcents hsame

/-- The floor of 11.11… is rounded to 11.11, and the band around that reaches it. -/
theorem enforce_applied_price_eleven :
    let policy : Policy := ⟨.ten, .five, .none⟩
    let first := enforce .ten (.ofNat 11) .ten policy
    let final := first.suggestedPriceFinal
    let again := enforce .ten final final policy
    policy.faults = [] ∧ first.isOk = true ∧ final.SameValue ⟨1111, 2, by decide, by decide⟩ ∧
      ∃ floor band, minPriceForMargin? .ten policy.minMarginPct = some floor ∧
        Band.around final policy.maxChangePct = .ok (some band) ∧ floor ≤ band.upper ∧
        again.isOk = true ∧ again.suggestedPriceFinal.SameValue final ∧ again.adjusted = false := by
  intro policy first final again
  have hvalid : policy.faults = [] := by decide +kernel
  have hok : first.isOk = true := by decide +kernel
  let floor : Decimal := ⟨11111111111111111111111111111, 27, by decide, by decide⟩
  let band : Band := ⟨⟨105545, 4, by decide, by decide⟩, ⟨116655, 4, by decide, by decide⟩⟩
  have hfloor : minPriceForMargin? .ten policy.minMarginPct = some floor := by decide +kernel
  have hband : Band.around final policy.maxChangePct = .ok (some band) := by decide +kernel
  have hunder : floor ≤ band.upper := by decide +kernel
  exact ⟨hvalid, hok, by decide +kernel, floor, band, hfloor, hband, hunder,
    enforce_applied_price _ _ _ policy hvalid hok floor band hfloor hband hunder⟩

/-- The top of the band around the new price may have no decimal, or be below a floor that was rounded to cents. -/
theorem blocked_applied_price :
    let policy : Policy := ⟨.ten, .ofNat 50, .nearest1⟩
    let first := enforce .one (.ofNat 50000000000000000000000000000) (.ofNat 75000000000000000000000000000) policy
    let final := first.suggestedPriceFinal
    let again := enforce .one final final policy
    let cent : Decimal := ⟨1, 2, by decide, by decide⟩
    let policy' : Policy := ⟨.ofNat 30, .ofNat 30, .none⟩
    let first' := enforce cent ⟨2, 2, by decide, by decide⟩ cent policy'
    let final' := first'.suggestedPriceFinal
    let again' := enforce cent final' final' policy'
    (policy.faults = [] ∧ first.isOk = true ∧ final.IsPositive ∧ again.isOk = false ∧
        again.safetyReason = some .outOfRange) ∧
      policy'.faults = [] ∧ first'.isOk = true ∧ final'.IsPositive ∧ again'.isOk = false ∧
        again'.safetyReason = some .marginOutsideBand := by
  decide +kernel

end Repricing
