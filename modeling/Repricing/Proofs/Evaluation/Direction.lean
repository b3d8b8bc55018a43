import Repricing.Proofs.Evaluation.Basic
import Repricing.Proofs.Guardrail.Direction

namespace Repricing

section Suggested

variable {event : Event} {sku : Sku} {rule : Rule} {action : SuggestedAction} {x : Rat} {k : Int}

/-- A matched price is no higher than the current one, in cents. -/
theorem Suggests.price_le (h : Suggests event sku rule action) (htype : action.type = .priceMatch)
    (hx : sku.currentPrice.toRat ≤ k / 100) :
    ∃ price, action.suggestedPrice? = some price ∧ price.toRat ≤ k / 100 := by
  cases h with
  | «match» report delta =>
    refine ⟨_, rfl, Decimal.toCents_le_of_le ?_⟩
    rw [Decimal.toRat_min]
    exact (min_le_right _ _).trans hx
  | increase => cases htype
  | notify => cases htype

/-- A price that passes on a cost that did not fall is no lower than the current one, in cents. -/
theorem Suggests.le_price (h : Suggests event sku rule action) (htype : action.type = .priceIncrease)
    (hgrowth : ∀ report, event.payload = .costIncrease report → report.oldCost ≤ report.newCost)
    (hx : k / 100 ≤ sku.currentPrice.toRat) :
    ∃ price, action.suggestedPrice? = some price ∧ k / 100 ≤ price.toRat := by
  cases h with
  | «match» => cases htype
  | increase report growth suggested _ hpayload hsub hadd =>
    have hle := hgrowth report hpayload
    have hnonneg : 0 ≤ growth.toRat := by
      have hround := Decimal.roundsTo_sub? report.newCost report.oldCost
      rw [hsub] at hround
      rw [← Decimal.toRat_zero]
      refine Decimal.Rounded.le_of_ge hround ?_
      rw [Decimal.le_iff_toRat] at hle
      rw [Decimal.toRat_zero]
      linarith
    have hcents : 0 ≤ growth.toCents.toRat := by
      simpa using Decimal.le_toCents_of_le (k := 0) (d := growth) (by simpa using hnonneg)
    refine ⟨_, rfl, Decimal.le_toCents_of_le (hx.trans ?_)⟩
    have hround := Decimal.roundsTo_add? sku.currentPrice growth.toCents
    rw [hadd] at hround
    exact Decimal.Rounded.le_of_ge hround (by linarith)
  | notify => cases htype

end Suggested

/-- An approved price that matches a competitor stays at or below every final price that is not below the current price,
if that keeps to the margin floor; one that passes on a cost that did not fall stays at or above every final price that
is not above the current price. -/
theorem evaluate_direction (event : Event) (sku : Sku) (rules : List Rule) (policy : Policy)
    (hvalid : policy.faults = []) (found : List Recommendation)
    (hevaluate : evaluate event sku rules policy = .ok found) :
    ∀ r ∈ found, ∀ result, r.guardrail = some result → result.isOk = true →
      (r.action.type = .priceMatch →
        (∀ floor, minPriceForMargin? sku.cost policy.minMarginPct = some floor → floor ≤ sku.currentPrice) →
        ∀ x, policy.roundingMode.IsFinal x → sku.currentPrice.toRat ≤ x → result.suggestedPriceFinal.toRat ≤ x) ∧
      (r.action.type = .priceIncrease →
        (∀ report, event.payload = .costIncrease report → report.oldCost ≤ report.newCost) →
        ∀ x, policy.roundingMode.IsFinal x → x ≤ sku.currentPrice.toRat → x ≤ result.suggestedPriceFinal.toRat) := by
  intro r hr result hresult hok
  obtain ⟨rule, -, action, haction, rfl⟩ := exists_rule_of_mem hevaluate hr
  have hsuggests := suggests_of_suggestAction haction
  obtain ⟨price, hprice, rfl⟩ := Option.map_eq_some_iff.mp hresult
  obtain ⟨g, hg⟩ := Limits.exists_of hok
  constructor
  · rintro htype hfloor x ⟨hmultiple, k, rfl⟩ hle
    have hsafe := hfloor g.floor hg.floor
    rw [Decimal.le_iff_toRat] at hsafe
    obtain ⟨price', hprice', hpx⟩ := hsuggests.price_le htype hle
    obtain rfl : price' = price := Option.some.inj (hprice'.symm.trans hprice)
    have hbottom : ∀ b ∈ g.band, b.lower.toRat ≤ k / 100 := fun b hb => (hg.aboveBottom hvalid b hb).trans hle
    exact suggestedPriceFinal_le hg hok ⟨hg.mode ▸ hmultiple, k, rfl⟩ hpx hbottom (hsafe.trans hle)
  · rintro htype hgrowth x ⟨hmultiple, k, rfl⟩ hle
    obtain ⟨price', hprice', hpx⟩ := hsuggests.le_price htype hgrowth hle
    obtain rfl : price' = price := Option.some.inj (hprice'.symm.trans hprice)
    have htop : g.BelowTop (k / 100) := (hg.belowTop hvalid).mono hle
    exact le_suggestedPriceFinal hg hok ⟨hg.mode ▸ hmultiple, k, rfl⟩ hpx htop

/-- A competitor's price is matched under a final price above the current one, and a cost that stays the same is passed
on above a final price below it. -/
theorem evaluate_direction_whole :
    let condition : Condition := .compare .eq .absent .absent
    let drop : Event := ⟨"sku-1", .priceDrop ⟨⟨985, 1, by decide, by decide⟩, none, none⟩⟩
    let sku : Sku := ⟨none, .ofNat 50, ⟨986, 1, by decide, by decide⟩, []⟩
    let matching : Rule := ⟨"match", "Match", .competitorPriceDrop, true, condition, ⟨.priceMatch, []⟩⟩
    let growth : Event := ⟨"sku-1", .costIncrease ⟨.ofNat 50, .ofNat 50, none⟩⟩
    let sku' : Sku := ⟨none, .ofNat 50, ⟨984, 1, by decide, by decide⟩, []⟩
    let raising : Rule := ⟨"raise", "Raise", .costIncrease, true, condition, ⟨.priceIncrease, []⟩⟩
    (∃ r result, evaluate drop sku [matching] .standard = .ok [r] ∧ r.guardrail = some result ∧
        result.suggestedPriceFinal.toRat ≤ 99) ∧
      ∃ r result, evaluate growth sku' [raising] .standard = .ok [r] ∧ r.guardrail = some result ∧
        98 ≤ result.suggestedPriceFinal.toRat := by
  intro condition drop sku matching growth sku' raising
  let suggested : Decimal := ⟨985, 1, by decide, by decide⟩
  let action : SuggestedAction := ⟨.priceMatch, "Match competitor price",
    .price ⟨"sku-1", sku.currentPrice, suggested, ⟨-1, 1, by decide, by decide⟩⟩, "match", "Match"⟩
  let action' : SuggestedAction := ⟨.priceIncrease, "Raise price to cover cost increase",
    .price ⟨"sku-1", sku'.currentPrice, sku'.currentPrice, .zero⟩, "raise", "Raise"⟩
  have hdrop : evaluate drop sku [matching] .standard = .ok [.ofAction sku .standard action] := by decide +kernel
  have hgrowth : evaluate growth sku' [raising] .standard = .ok [.ofAction sku' .standard action'] := by decide +kernel
  have hfinal (k : Int) : RoundingMode.nearest1.IsFinal k :=
    ⟨(RoundingMode.isMultiple_iff rfl).mpr ⟨k, by simp [Decimal.toRat_one]⟩, k * 100, by push_cast; ring⟩
  refine ⟨⟨_, _, hdrop, rfl, ?_⟩, _, _, hgrowth, rfl, ?_⟩
  · have hfloor : ∀ floor ∈ minPriceForMargin? sku.cost Policy.standard.minMarginPct, floor ≤ sku.currentPrice := by
      decide +kernel
    exact (evaluate_direction drop sku [matching] .standard (by decide) _ hdrop _ List.mem_cons_self _ rfl
      (by decide +kernel)).1 rfl (fun floor h => hfloor floor h) 99 (hfinal 99) (by decide +kernel)
  · refine (evaluate_direction growth sku' [raising] .standard (by decide) _ hgrowth _ List.mem_cons_self _ rfl
      (by decide +kernel)).2 rfl ?_ 98 (hfinal 98) (by decide +kernel)
    intro report hreport
    cases hreport
    decide

/-- Whole steps can lie on the wrong side of the current price: a match is then rounded up past it, and an increase
down. -/
theorem evaluate_past_current :
    let condition : Condition := .compare .eq .absent .absent
    let drop : Event := ⟨"sku-1", .priceDrop ⟨⟨985, 1, by decide, by decide⟩, none, none⟩⟩
    let sku : Sku := ⟨none, .ofNat 50, ⟨986, 1, by decide, by decide⟩, []⟩
    let matching : Rule := ⟨"match", "Match", .competitorPriceDrop, true, condition, ⟨.priceMatch, []⟩⟩
    let growth : Event := ⟨"sku-1", .costIncrease ⟨.ofNat 50, .ofNat 50, none⟩⟩
    let sku' : Sku := ⟨none, .ofNat 50, ⟨984, 1, by decide, by decide⟩, []⟩
    let raising : Rule := ⟨"raise", "Raise", .costIncrease, true, condition, ⟨.priceIncrease, []⟩⟩
    Policy.standard.faults = [] ∧
      (∃ floor, minPriceForMargin? sku.cost Policy.standard.minMarginPct = some floor ∧ floor ≤ sku.currentPrice) ∧
      (∃ r result, evaluate drop sku [matching] .standard = .ok [r] ∧ r.action.type = .priceMatch ∧
        r.guardrail = some result ∧ result.isOk = true ∧ sku.currentPrice < result.suggestedPriceFinal) ∧
      ∃ r result, evaluate growth sku' [raising] .standard = .ok [r] ∧ r.action.type = .priceIncrease ∧
        r.guardrail = some result ∧ result.isOk = true ∧ result.suggestedPriceFinal < sku'.currentPrice := by
  intro condition drop sku matching growth sku' raising
  let floor : Decimal := ⟨55555555555555555555555555556, 27, by decide, by decide⟩
  let action : SuggestedAction := ⟨.priceMatch, "Match competitor price",
    .price ⟨"sku-1", sku.currentPrice, ⟨985, 1, by decide, by decide⟩, ⟨-1, 1, by decide, by decide⟩⟩, "match", "Match"⟩
  let action' : SuggestedAction := ⟨.priceIncrease, "Raise price to cover cost increase",
    .price ⟨"sku-1", sku'.currentPrice, sku'.currentPrice, .zero⟩, "raise", "Raise"⟩
  refine ⟨by decide, ⟨floor, by decide +kernel, by decide +kernel⟩,
    ⟨.ofAction sku .standard action, _, by decide +kernel, rfl, rfl, by decide +kernel, by decide +kernel⟩,
    .ofAction sku' .standard action', _, by decide +kernel, rfl, rfl, by decide +kernel, by decide +kernel⟩

end Repricing
