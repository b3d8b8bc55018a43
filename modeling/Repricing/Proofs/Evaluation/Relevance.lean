import Repricing.Proofs.Condition.RoundTrip
import Repricing.Recommendation

namespace Repricing

section Condition

variable {condition : Condition} {c c' : Context}

theorem Context.same?_operand {o : Operand}
    (h : ∀ p, o = .path p → Value.same? (c.resolve p) (c'.resolve p) = true) :
    Value.same? (c.operand o) (c'.operand o) = true := by
  cases o with
  | path p => exact h p rfl
  | literal v => exact Value.same?_self _
  | absent => rfl

/-- A condition depends on what its paths lead to, and on nothing else. -/
theorem Condition.holds_congr
    (h : ∀ p, condition.Uses (.path p) → Value.same? (c.resolve p) (c'.resolve p) = true) :
    condition.holds c = condition.holds c' := by
  induction condition using Condition.induction with
  | compare op left right =>
    have hleft : Value.same? (c.operand left) (c'.operand left) = true :=
      Context.same?_operand fun p hp => h p (hp ▸ .left op right)
    have hright : Value.same? (c.operand right) (c'.operand right) = true :=
      Context.same?_operand fun p hp => h p (hp ▸ .right op left)
    rw [holds, holds]
    exact holdsBetween_of_same? op hleft hright
  | junction op children ih =>
    have hchildren : ∀ child ∈ children, child.holds c = child.holds c' := fun child hchild =>
      ih child hchild fun p hp => h p (.child op hchild hp)
    cases op with
    | all =>
      rw [holds_all, holds_all, Bool.eq_iff_iff, List.all_eq_true, List.all_eq_true]
      exact forall₂_congr fun child hchild => by rw [hchildren child hchild]
    | any =>
      rw [holds_any, holds_any, Bool.eq_iff_iff, List.any_eq_true, List.any_eq_true]
      exact exists_congr fun child => and_congr_right fun hchild => by rw [hchildren child hchild]

end Condition

section Agreement

variable {event : Event} {rules : List Rule} {rule : Rule} {sku sku' : Sku} {c c' : Context}

/-- Every path in a condition that the event puts to the test leads to equal data of both articles. -/
def AgreesOn (event : Event) (rules : List Rule) (sku sku' : Sku) : Prop :=
  ∀ rule ∈ rules, rule.enabled = true → rule.eventType = event.type → ∀ p, rule.condition.Uses (.path p) →
    Value.same? ((Context.ofEvent event sku).resolve p) ((Context.ofEvent event sku').resolve p) = true

theorem Rule.outcome_congr {type : EventType}
    (h : rule.enabled = true → rule.eventType = type → rule.condition.holds c = rule.condition.holds c') :
    rule.outcome type c = rule.outcome type c' := by
  unfold outcome
  cases henabled : rule.enabled with
  | false => rfl
  | true =>
    by_cases htype : rule.eventType = type
    · rw [h henabled htype]
    · simp [htype]

theorem outcome_of_agreesOn (h : AgreesOn event rules sku sku') (hrule : rule ∈ rules) :
    rule.outcome event.type (.ofEvent event sku) = rule.outcome event.type (.ofEvent event sku') :=
  Rule.outcome_congr fun henabled htype => Condition.holds_congr (h rule hrule henabled htype)

theorem matchRules_of_agreesOn (h : AgreesOn event rules sku sku') :
    matchRules event sku rules = matchRules event sku' rules :=
  List.filter_congr fun rule hrule => by rw [outcome_of_agreesOn h hrule]

theorem explainMatches_of_agreesOn (h : AgreesOn event rules sku sku') :
    explainMatches event sku rules = explainMatches event sku' rules :=
  List.map_congr_left fun rule hrule => by rw [outcome_of_agreesOn h hrule]

/-- A suggestion is made from the event, the rule and the current price. -/
theorem suggestAction_congr (event : Event) (rule : Rule) (h : sku.currentPrice = sku'.currentPrice) :
    suggestAction event sku rule = suggestAction event sku' rule := by
  simp only [suggestAction, priceMatch, priceIncrease, h]

theorem Recommendation.ofAction_congr (policy : Policy) (action : SuggestedAction) (hcost : sku.cost = sku'.cost)
    (hprice : sku.currentPrice = sku'.currentPrice) : ofAction sku policy action = ofAction sku' policy action := by
  rw [ofAction, ofAction, hcost, hprice]

end Agreement

/-- Articles of one cost and one current price that agree on the data that the rules for an event ask for have the same
explanation and the same result, an error included, whatever else is known of them. -/
theorem evaluate_of_agreesOn (event : Event) (rules : List Rule) (policy : Policy) (sku sku' : Sku)
    (hcost : sku.cost = sku'.cost) (hprice : sku.currentPrice = sku'.currentPrice)
    (h : AgreesOn event rules sku sku') :
    explainMatches event sku rules = explainMatches event sku' rules ∧
      evaluate event sku rules policy = evaluate event sku' rules policy := by
  refine ⟨explainMatches_of_agreesOn h, ?_⟩
  have hsuggest : suggestAction event sku = suggestAction event sku' :=
    funext fun rule => suggestAction_congr event rule hprice
  have hverdict : Recommendation.ofAction sku policy = Recommendation.ofAction sku' policy :=
    funext fun action => Recommendation.ofAction_congr policy action hcost hprice
  rw [evaluate, evaluate, matchRules_of_agreesOn h, hsuggest, hverdict]

/-- Two articles of grade 2, written `2` and `2.0`. Their ids differ, which only a disabled rule and a rule for another
event ask for. -/
theorem evaluate_of_agreesOn_grade :
    let event : Event := ⟨"sku-1", .priceDrop ⟨.ofNat 95, none, none⟩⟩
    let two : Binary64 := ⟨false, twoPow 52, -51, by decide, by decide, by decide, by decide⟩
    let sku : Sku := ⟨some "sku-1", .ofNat 80, .hundred, [("grade", .number (.integer 2))]⟩
    let sku' : Sku := ⟨none, .ofNat 80, .hundred, [("brand", .string "Acme"), ("grade", .number (.float two))]⟩
    let graded : Condition :=
      .compare .gte (.path ⟨.sku, "attributes.grade".toList⟩) (.literal (.number (.ofNat 2)))
    let named : Condition := .compare .eq (.path ⟨.sku, "id".toList⟩) (.literal (.text "sku-1"))
    let rules : List Rule :=
      [⟨"grade", "Match", .competitorPriceDrop, true, graded, ⟨.priceMatch, []⟩⟩,
        ⟨"off", "Match", .competitorPriceDrop, false, named, ⟨.priceMatch, []⟩⟩,
        ⟨"cost", "Raise", .costIncrease, true, named, ⟨.priceIncrease, []⟩⟩]
    AgreesOn event rules sku sku' ∧ (matchRules event sku rules).length = 1 ∧
      explainMatches event sku rules = explainMatches event sku' rules ∧
      evaluate event sku rules .standard = evaluate event sku' rules .standard := by
  intro event two sku sku' graded named rules
  have hagrees : AgreesOn event rules sku sku' := by
    intro rule hrule henabled htype p huses
    simp only [rules, List.mem_cons, List.not_mem_nil, or_false] at hrule
    rcases hrule with rfl | rfl | rfl
    · cases huses
      decide +kernel
    · cases henabled
    · cases htype
  exact ⟨hagrees, by decide +kernel, evaluate_of_agreesOn event rules .standard sku sku' rfl rfl hagrees⟩

end Repricing
