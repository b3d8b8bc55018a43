import Repricing.Proofs.Traversal
import Repricing.Recommendation

namespace Repricing

section Suggest

variable {event : Event} {sku : Sku} {rule : Rule} {action : SuggestedAction}

/-- What a rule can suggest for an event: by its type, and for a price with the numbers that it is made of. -/
inductive Suggests (event : Event) (sku : Sku) (rule : Rule) : SuggestedAction → Prop
  | match (report : PriceDrop) (delta : Decimal) (htype : rule.actionTemplate.type = .priceMatch)
      (hpayload : event.payload = .priceDrop report)
      (hdelta : (min report.newPrice sku.currentPrice).toCents.sub? sku.currentPrice = some delta) :
      Suggests event sku rule ⟨.priceMatch, "Match competitor price",
        .price ⟨event.skuId, sku.currentPrice, (min report.newPrice sku.currentPrice).toCents, delta⟩,
        rule.id, rule.name⟩
  | increase (report : CostIncrease) (growth suggested : Decimal) (htype : rule.actionTemplate.type = .priceIncrease)
      (hpayload : event.payload = .costIncrease report)
      (hgrowth : report.newCost.sub? report.oldCost = some growth)
      (hsuggested : sku.currentPrice.add? growth.toCents = some suggested) :
      Suggests event sku rule ⟨.priceIncrease, "Raise price to cover cost increase",
        .price ⟨event.skuId, sku.currentPrice, suggested.toCents, growth.toCents⟩, rule.id, rule.name⟩
  | notify (title : String) (details : ActionDetails) (htype : rule.actionTemplate.type = .notify)
      (hnotice : notice rule event.skuId event.payload = (title, details)) :
      Suggests event sku rule ⟨.notify, title, details, rule.id, rule.name⟩

theorem suggests_of_suggestAction (h : suggestAction event sku rule = .ok action) : Suggests event sku rule action := by
  unfold suggestAction at h
  dsimp only at h
  split at h
  · rename_i title details hbuilt
    obtain rfl := Except.ok.inj h
    split at hbuilt
    · rename_i report htype hpayload
      unfold priceMatch at hbuilt
      dsimp only at hbuilt
      split at hbuilt
      · rename_i delta hdelta
        cases hbuilt
        rw [htype]
        exact .match report delta htype hpayload hdelta
      · cases hbuilt
    · rename_i report htype hpayload
      unfold priceIncrease at hbuilt
      split at hbuilt
      · rename_i growth hgrowth
        split at hbuilt
        · rename_i suggested hsuggested
          cases hbuilt
          rw [htype]
          exact .increase report growth suggested htype hpayload hgrowth hsuggested
        · cases hbuilt
      · cases hbuilt
    · rename_i htype
      rw [htype]
      exact .notify title details htype (Except.ok.inj hbuilt)
    · cases hbuilt
  · cases h

end Suggest

section Evaluate

variable {event : Event} {sku : Sku} {rules : List Rule} {policy : Policy} {found : List Recommendation}
  {e : EvaluationError}

theorem evaluate_eq_ok_iff :
    evaluate event sku rules policy = .ok found ↔
      ∃ actions, List.Forall₂ (fun rule action => suggestAction event sku rule = .ok action)
        (matchRules event sku rules) actions ∧ found = actions.map (Recommendation.ofAction sku policy) := by
  simp only [← mapM_eq_ok_iff]
  unfold evaluate
  cases (matchRules event sku rules).mapM (suggestAction event sku) with
  | error e => simp
  | ok actions => simp [eq_comm]

theorem evaluate_eq_error_iff :
    evaluate event sku rules policy = .error e ↔
      ∃ front rule back, matchRules event sku rules = front ++ rule :: back ∧
        (∀ x ∈ front, ∃ action, suggestAction event sku x = .ok action) ∧
        suggestAction event sku rule = .error e := by
  rw [← mapM_eq_error_iff]
  unfold evaluate
  cases (matchRules event sku rules).mapM (suggestAction event sku) <;> simp

/-- Every recommendation comes from a matched rule. -/
theorem exists_rule_of_mem {r : Recommendation} (h : evaluate event sku rules policy = .ok found) (hr : r ∈ found) :
    ∃ rule ∈ matchRules event sku rules, ∃ action, suggestAction event sku rule = .ok action ∧
      r = Recommendation.ofAction sku policy action := by
  obtain ⟨actions, hactions, rfl⟩ := evaluate_eq_ok_iff.mp h
  obtain ⟨action, haction, rfl⟩ := List.mem_map.mp hr
  obtain ⟨rule, hrule, hsuggest⟩ := exists_left_of_mem hactions haction
  exact ⟨rule, hrule, action, hsuggest, rfl⟩

theorem outcome_eq_matched_iff {type : EventType} {c : Context} {rule : Rule} :
    rule.outcome type c = .matched ↔ rule.enabled = true ∧ rule.eventType = type ∧ rule.condition.holds c = true := by
  unfold Rule.outcome
  split_ifs <;> simp_all

theorem eventType_of_mem_matchRules {rule : Rule} (h : rule ∈ matchRules event sku rules) :
    rule.eventType = event.type :=
  (outcome_eq_matched_iff.mp (mem_matchRules_iff.mp h).2).2.1

end Evaluate

end Repricing
