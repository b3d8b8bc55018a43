import Repricing.Proofs.Decimal.Arithmetic
import Repricing.Proofs.Decimal.Cents
import Repricing.Proofs.Evaluation.Basic

namespace Repricing

/-- The price that matches a competitor is at most the current price in cents. It is at most the current price itself,
and the change at most zero, exactly if the lesser of the two prices is not rounded up or a whole number of cents lies
between that price and the current one. The change is the exact difference, rounded where it has too many digits. -/
theorem suggestAction_priceMatch (event : Event) (sku : Sku) (rule : Rule) (report : PriceDrop)
    (htype : rule.actionTemplate.type = .priceMatch) (hpayload : event.payload = .priceDrop report)
    (action : SuggestedAction) (h : suggestAction event sku rule = .ok action) :
    ∃ suggested delta, action.details = .price ⟨event.skuId, sku.currentPrice, suggested, delta⟩ ∧
      action.suggestedPrice? = some suggested ∧ suggested ≤ sku.currentPrice.toCents ∧
      (suggested ≤ sku.currentPrice ↔ suggested ≤ min report.newPrice sku.currentPrice ∨
        ∃ k : Int, (min report.newPrice sku.currentPrice).toRat ≤ k / 100 ∧ k / 100 ≤ sku.currentPrice.toRat) ∧
      Decimal.Rounded (suggested.toRat - sku.currentPrice.toRat) delta ∧
      (delta ≤ .zero ↔ suggested ≤ sku.currentPrice) := by
  have hmin : (min report.newPrice sku.currentPrice).toRat ≤ sku.currentPrice.toRat := by
    rw [Decimal.toRat_min]
    exact min_le_right _ _
  cases suggests_of_suggestAction h with
  | «match» report' delta _ hpayload' hdelta =>
    obtain rfl : report' = report := Payload.priceDrop.inj (hpayload'.symm.trans hpayload)
    simp only [Decimal.le_iff_toRat, Decimal.toRat_zero]
    exact ⟨_, delta, rfl, rfl, Decimal.toRat_toCents_mono hmin, Decimal.toCents_le_iff hmin,
      Decimal.rounded_sub? hdelta, Decimal.sub?_nonpos_iff hdelta⟩
  | increase _ _ _ hincrease => exact absurd (htype.symm.trans hincrease) (by simp)
  | notify _ _ hnotify => exact absurd (htype.symm.trans hnotify) (by simp)

/-- A competitor who goes below the current price is matched in cents. -/
theorem suggestAction_priceMatch_below :
    let newPrice : Decimal := ⟨94999, 3, by decide, by decide⟩
    let event : Event := ⟨"sku-1", .priceDrop ⟨newPrice, none, none⟩⟩
    let sku : Sku := ⟨none, .ofNat 80, .hundred, []⟩
    let rule : Rule := ⟨"match", "Match", .competitorPriceDrop, true, .compare .eq .absent .absent, ⟨.priceMatch, []⟩⟩
    ∃ action suggested delta, suggestAction event sku rule = .ok action ∧
      action.suggestedPrice? = some suggested ∧ suggested ≤ sku.currentPrice.toCents ∧
      Decimal.Rounded (suggested.toRat - sku.currentPrice.toRat) delta ∧
      (delta ≤ .zero ↔ suggested ≤ sku.currentPrice) := by
  intro newPrice event sku rule
  let action : SuggestedAction := ⟨.priceMatch, "Match competitor price",
    .price ⟨"sku-1", .hundred, ⟨9500, 2, by decide, by decide⟩, ⟨-500, 2, by decide, by decide⟩⟩, "match", "Match"⟩
  have haction : suggestAction event sku rule = .ok action := by decide +kernel
  obtain ⟨suggested, delta, -, hprice, hle, -, hdelta, hsign⟩ :=
    suggestAction_priceMatch event sku rule ⟨newPrice, none, none⟩ rfl rfl action haction
  exact ⟨action, suggested, delta, haction, hprice, hle, hdelta, hsign⟩

/-- A current price between two cents is passed: by itself where the competitor is above it, and by a lower price that
is rounded up. -/
theorem suggestAction_priceMatch_above :
    let offers (newPrice : Decimal) : Event := ⟨"sku-1", .priceDrop ⟨newPrice, none, none⟩⟩
    let sells (currentPrice : Decimal) : Sku := ⟨none, .ofNat 80, currentPrice, []⟩
    let rule : Rule := ⟨"match", "Match", .competitorPriceDrop, true, .compare .eq .absent .absent, ⟨.priceMatch, []⟩⟩
    let between : Decimal := ⟨98605, 3, by decide, by decide⟩
    let higher : Decimal := ⟨98609, 3, by decide, by decide⟩
    let lower : Decimal := ⟨98606, 3, by decide, by decide⟩
    (∃ action details, suggestAction (offers (.ofNat 120)) (sells between) rule = .ok action ∧
      action.details = .price details ∧ between < details.suggestedPrice ∧ .zero < details.delta) ∧
      ∃ action details, suggestAction (offers lower) (sells higher) rule = .ok action ∧
        action.details = .price details ∧ higher < details.suggestedPrice ∧ .zero < details.delta := by
  intro offers sells rule between higher lower
  let cents : Decimal := ⟨9861, 2, by decide, by decide⟩
  let suggests (details : PriceDetails) : SuggestedAction :=
    ⟨.priceMatch, "Match competitor price", .price details, "match", "Match"⟩
  let atBetween : PriceDetails := ⟨"sku-1", between, cents, ⟨5, 3, by decide, by decide⟩⟩
  let atHigher : PriceDetails := ⟨"sku-1", higher, cents, ⟨1, 3, by decide, by decide⟩⟩
  exact ⟨⟨suggests atBetween, atBetween, by decide +kernel, rfl, by decide, by decide⟩,
    suggests atHigher, atHigher, by decide +kernel, rfl, by decide, by decide⟩

end Repricing
