import Repricing.Proofs.Guardrail.Steps
import Repricing.Proofs.Margin

namespace Repricing

namespace Limits

/-- The same band and step, and no higher floor. -/
structure IsLooser (g g' : Limits) : Prop where
  band : g.band = g'.band
  mode : g.mode = g'.mode
  floor : g.floor ≤ g'.floor

variable {g g' : Limits} {price price' : Decimal} {x x' n n' l l' m m' y y' : Rat}

theorem IsLooser.refl (g : Limits) : g.IsLooser g := ⟨rfl, rfl, Decimal.le_refl _⟩

theorem IsLooser.restrain_le (hg : g.IsLooser g') (hle : x ≤ x') : g.restrain x ≤ g'.restrain x' := by
  have hclamp : g.clamp x ≤ g'.clamp x' := by
    unfold clamp
    rw [hg.band]
    cases g'.band with
    | none => exact hle
    | some b => exact min_le_min_right _ (max_le_max_right _ hle)
  exact max_le_max hclamp (Decimal.le_iff_toRat.mp hg.floor)

theorem Lifts.mono (h : g.Lifts x l) (h' : g'.Lifts x' l') (hg : g.IsLooser g') (hx' : g'.mode.IsMultiple x')
    (hle : x ≤ x') : l ≤ l' := by
  cases h with
  | keep => exact hle.trans (h'.le hx')
  | giveUp => exact hle.trans (h'.le hx')
  | lift b u hb _ hu hreach =>
    rw [hg.band] at hb
    rw [hg.mode] at hu
    cases h' with
    | keep habove => exact RoundingMode.snap?_le hu hx' (habove b hb)
    | giveUp c v hc _ hv hover =>
      obtain rfl := Option.mem_unique hb hc
      obtain rfl := Option.some.inj (hu.symm.trans hv)
      exact absurd hreach (not_le.mpr hover)
    | lift c v hc _ hv _ =>
      obtain rfl := Option.mem_unique hb hc
      obtain rfl := Option.some.inj (hu.symm.trans hv)
      exact le_rfl

theorem Raises.mono (h : g.Raises l m) (h' : g'.Raises l' m') (hg : g.IsLooser g') (hl' : g'.mode.IsMultiple l')
    (hle : l ≤ l') : m ≤ m' := by
  have hfloor := Decimal.le_iff_toRat.mp hg.floor
  cases h with
  | keep => exact hle.trans (h'.le hl')
  | raise u _ hu _ =>
    rw [hg.mode] at hu
    cases h' with
    | keep hkeep => exact RoundingMode.snap?_le hu hl' (hfloor.trans hkeep)
    | raise v _ hv _ => exact RoundingMode.snap?_mono hu hv hg.floor

theorem Lowers.mono (h : g.Lowers m y) (h' : g'.Lowers m' y') (hg : g.IsLooser g') (hm : g.mode.IsMultiple m)
    (hle : m ≤ m') : y ≤ y' := by
  cases h' with
  | keep => exact (h.le hm).trans hle
  | lower b u hb _ hu _ _ =>
    rw [← hg.band] at hb
    rw [← hg.mode] at hu
    cases h with
    | keep htop => exact RoundingMode.le_snap? hu hm (htop b hb)
    | lower c v hc _ hv _ _ =>
      obtain rfl := Option.mem_unique hb hc
      obtain rfl := Option.some.inj (hu.symm.trans hv)
      exact le_rfl

theorem Passage.mono (h : g.Passage price n l m y) (h' : g'.Passage price' n' l' m' y') (hg : g.IsLooser g')
    (hle : price ≤ price') : y ≤ y' := by
  have hnearest : n ≤ n' := by
    obtain ⟨d, hd, rfl⟩ := h.nearest
    obtain ⟨d', hd', rfl⟩ := h'.nearest
    rw [← hg.mode] at hd'
    exact RoundingMode.snap?_mono hd hd' hle
  have hlifted : l ≤ l' := h.lifts.mono h'.lifts hg h'.isMultiple_nearest hnearest
  have hraised : m ≤ m' := h.raises.mono h'.raises hg h'.isMultiple_lifted hlifted
  exact h.lowers.mono h'.lowers hg h.isMultiple_raised hraised

end Limits

theorem suggestedPriceFinal_le_of_isLooser {g g' : Limits} {cost cost' currentPrice currentPrice' s s' : Decimal}
    {policy policy' : Policy} (hof : g.Of cost currentPrice policy) (hof' : g'.Of cost' currentPrice' policy')
    (hg : g.IsLooser g') (hle : s ≤ s') (hok : (enforce cost currentPrice s policy).isOk = true)
    (hok' : (enforce cost' currentPrice' s' policy').isOk = true) :
    (enforce cost currentPrice s policy).suggestedPriceFinal ≤
      (enforce cost' currentPrice' s' policy').suggestedPriceFinal := by
  obtain ⟨n, l, m, y, h⟩ := exists_passage_of_isOk hof hok
  obtain ⟨n', l', m', y', h'⟩ := exists_passage_of_isOk hof' hok'
  have hstart : (Candidate.start g policy s).price ≤ (Candidate.start g' policy' s').price := by
    rw [Decimal.le_iff_toRat, Candidate.toRat_start, Candidate.toRat_start]
    exact hg.restrain_le (Decimal.toRat_toCents_mono (Decimal.le_iff_toRat.mp hle))
  have hy := h.mono h' hg hstart
  obtain ⟨-, ⟨d, rfl, hfinal⟩, -⟩ := enforce_of_passage hof h
  obtain ⟨-, ⟨d', rfl, hfinal'⟩, -⟩ := enforce_of_passage hof' h'
  rw [hfinal, hfinal', Decimal.le_iff_toRat]
  exact Decimal.toRat_toCents_mono hy

/-- A higher suggestion has no lower final price. -/
theorem suggestedPriceFinal_mono (cost currentPrice s s' : Decimal) (policy : Policy) (hle : s ≤ s')
    (hok : (enforce cost currentPrice s policy).isOk = true)
    (hok' : (enforce cost currentPrice s' policy).isOk = true) :
    (enforce cost currentPrice s policy).suggestedPriceFinal ≤
      (enforce cost currentPrice s' policy).suggestedPriceFinal := by
  obtain ⟨g, hg⟩ := Limits.exists_of hok
  exact suggestedPriceFinal_le_of_isLooser hg hg (.refl g) hle hok hok'

/-- In the band from 86.40 to 105.60, a suggestion of 50 is raised to 90 and one of 120 is lowered to 105. -/
theorem suggestedPriceFinal_mono_ninety :
    let policy : Policy := ⟨.ten, .ten, .nearest5⟩
    let low := enforce .ten (.ofNat 96) (.ofNat 50) policy
    let high := enforce .ten (.ofNat 96) (.ofNat 120) policy
    Decimal.ofNat 50 ≤ .ofNat 120 ∧ low.isOk = true ∧ high.isOk = true ∧
      low.suggestedPriceFinal.SameValue (.ofNat 90) ∧ high.suggestedPriceFinal.SameValue (.ofNat 105) ∧
      low.suggestedPriceFinal ≤ high.suggestedPriceFinal :=
  ⟨by decide +kernel, by decide +kernel, by decide +kernel, by decide +kernel, by decide +kernel,
    suggestedPriceFinal_mono _ _ _ _ _ (by decide +kernel) (by decide +kernel) (by decide +kernel)⟩

/-- A higher cost or a higher least margin has no lower final price. -/
theorem suggestedPriceFinal_le_of_margin (currentPrice suggestedPrice maxChangePct cost cost' : Decimal)
    (minMarginPct minMarginPct' : Decimal) (mode : RoundingMode) (hcost : Decimal.zero ≤ cost) (hle : cost ≤ cost')
    (hmargin : minMarginPct ≤ minMarginPct')
    (hok : (enforce cost currentPrice suggestedPrice ⟨minMarginPct, maxChangePct, mode⟩).isOk = true)
    (hok' : (enforce cost' currentPrice suggestedPrice ⟨minMarginPct', maxChangePct, mode⟩).isOk = true) :
    (enforce cost currentPrice suggestedPrice ⟨minMarginPct, maxChangePct, mode⟩).suggestedPriceFinal ≤
      (enforce cost' currentPrice suggestedPrice ⟨minMarginPct', maxChangePct, mode⟩).suggestedPriceFinal := by
  obtain ⟨g, hg⟩ := Limits.exists_of hok
  obtain ⟨g', hg'⟩ := Limits.exists_of hok'
  have hlooser : g.IsLooser g' := {
    band := Except.ok.inj (hg.band.symm.trans hg'.band)
    mode := hg.mode.trans hg'.mode.symm
    floor := minPriceForMargin?_mono hcost hle hmargin hg.floor hg'.floor }
  exact suggestedPriceFinal_le_of_isLooser hg hg' hlooser (Decimal.le_refl _) hok hok'

/-- A cost of 80 keeps the suggestion of 95 at a margin of ten percent; one of 90 at twenty percent raises it to 113. -/
theorem suggestedPriceFinal_le_of_margin_twenty :
    let low := enforce (.ofNat 80) .hundred (.ofNat 95) ⟨.ten, .ofNat 15, .nearest1⟩
    let high := enforce (.ofNat 90) .hundred (.ofNat 95) ⟨.ofNat 20, .ofNat 15, .nearest1⟩
    Decimal.zero ≤ .ofNat 80 ∧ Decimal.ofNat 80 ≤ .ofNat 90 ∧ Decimal.ten ≤ .ofNat 20 ∧
      low.isOk = true ∧ high.isOk = true ∧ low.suggestedPriceFinal.SameValue (.ofNat 95) ∧
      high.suggestedPriceFinal.SameValue (.ofNat 113) ∧ low.suggestedPriceFinal ≤ high.suggestedPriceFinal :=
  ⟨by decide +kernel, by decide +kernel, by decide +kernel, by decide +kernel, by decide +kernel, by decide +kernel,
    by decide +kernel, suggestedPriceFinal_le_of_margin _ _ _ _ _ _ _ _ (by decide +kernel) (by decide +kernel)
      (by decide +kernel) (by decide +kernel) (by decide +kernel)⟩

end Repricing
