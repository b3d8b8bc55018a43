import Repricing.Proofs.Evaluation.Errors

namespace Repricing

section Silent

variable {event : Event} {sku : Sku} {rule : Rule}

/-- The rule does not fire: it is disabled, listens for another type of event, or its condition does not hold. -/
def Rule.IsSilent (event : Event) (sku : Sku) (rule : Rule) : Prop :=
  rule.enabled = false ∨ rule.eventType ≠ event.type ∨ rule.condition.holds (.ofEvent event sku) = false

instance (event : Event) (sku : Sku) (rule : Rule) : Decidable (rule.IsSilent event sku) :=
  inferInstanceAs (Decidable (_ ∨ _ ∨ _))

theorem Rule.not_isSilent_iff :
    ¬rule.IsSilent event sku ↔ rule.outcome event.type (.ofEvent event sku) = .matched := by
  rw [outcome_eq_matched_iff, IsSilent, not_or, not_or, not_not, Bool.not_eq_false, Bool.not_eq_false]

theorem matchRules_eq_filter (event : Event) (sku : Sku) (rules : List Rule) :
    matchRules event sku rules = rules.filter fun rule => ¬rule.IsSilent event sku := by
  simp only [matchRules, Rule.not_isSilent_iff]

theorem matchRules_append (event : Event) (sku : Sku) (rules more : List Rule) :
    matchRules event sku (rules ++ more) = matchRules event sku rules ++ matchRules event sku more :=
  List.filter_append ..

/-- The traces of the matched rules, in their order. -/
theorem filter_explainMatches (event : Event) (sku : Sku) (rules : List Rule) :
    ((explainMatches event sku rules).filter fun trace => trace.outcome = .matched) =
      (matchRules event sku rules).map fun rule => ⟨rule.id, rule.name, .matched⟩ := by
  rw [explainMatches, List.filter_map]
  refine List.map_congr_left fun rule hrule => ?_
  have houtcome := (mem_matchRules_iff.mp hrule).2
  rw [houtcome]

end Silent

section Answers

variable {event : Event} {sku : Sku} {policy : Policy} {rule : Rule} {action : SuggestedAction}

/-- The recommendation that a rule gives: it names the rule and has its type of action; the rule's price actions and no
others come with the verdict of the guardrails on their price. -/
structure Recommendation.Answers (sku : Sku) (policy : Policy) (rule : Rule) (r : Recommendation) : Prop where
  ruleId : r.action.ruleId = rule.id
  reason : r.action.reason = rule.name
  type : r.action.type = rule.actionTemplate.type
  guarded_iff : r.guardrail ≠ none ↔ rule.actionTemplate.type.IsPriceAction
  verdict : ∀ result, r.guardrail = some result → ∃ price, r.action.suggestedPrice? = some price ∧
    result = enforce sku.cost sku.currentPrice price policy

theorem verdict_of_guardrail {result : GuardrailResult}
    (h : (Recommendation.ofAction sku policy action).guardrail = some result) :
    ∃ price, action.suggestedPrice? = some price ∧ result = enforce sku.cost sku.currentPrice price policy := by
  obtain ⟨price, hprice, hresult⟩ := Option.map_eq_some_iff.mp h
  exact ⟨price, hprice, hresult.symm⟩

theorem guardrail_eq_none_iff :
    (Recommendation.ofAction sku policy action).guardrail = none ↔ action.suggestedPrice? = none :=
  Option.map_eq_none_iff

/-- A notice has no price. -/
theorem exists_of_notice {skuId title : String} {payload : Payload} {details : ActionDetails}
    (h : notice rule skuId payload = (title, details)) : ∃ d, details = .notify d := by
  unfold notice at h
  cases payload <;> cases h <;> exact ⟨_, rfl⟩

/-- A price is suggested by price actions, and by these alone. -/
theorem Suggests.suggestedPrice?_ne_none_iff (h : Suggests event sku rule action) :
    action.suggestedPrice? ≠ none ↔ rule.actionTemplate.type.IsPriceAction := by
  cases h with
  | «match» _ _ htype => simp [SuggestedAction.suggestedPrice?, ActionType.IsPriceAction, htype]
  | increase _ _ _ htype => simp [SuggestedAction.suggestedPrice?, ActionType.IsPriceAction, htype]
  | notify title details htype hnotice =>
    obtain ⟨d, rfl⟩ := exists_of_notice hnotice
    simp [SuggestedAction.suggestedPrice?, ActionType.IsPriceAction, htype]

theorem Suggests.names (h : Suggests event sku rule action) :
    action.ruleId = rule.id ∧ action.reason = rule.name ∧ action.type = rule.actionTemplate.type := by
  cases h with
  | «match» _ _ htype => exact ⟨rfl, rfl, htype.symm⟩
  | increase _ _ _ htype => exact ⟨rfl, rfl, htype.symm⟩
  | notify _ _ htype => exact ⟨rfl, rfl, htype.symm⟩

theorem Suggests.answers (policy : Policy) (h : Suggests event sku rule action) :
    Recommendation.Answers sku policy rule (.ofAction sku policy action) where
  ruleId := h.names.1
  reason := h.names.2.1
  type := h.names.2.2
  guarded_iff := (not_congr guardrail_eq_none_iff).trans h.suggestedPrice?_ne_none_iff
  verdict _ := verdict_of_guardrail

end Answers

section Evaluate

variable {event : Event} {sku : Sku} {policy : Policy} {rules others : List Rule} {found : List Recommendation}

/-- Evaluation sees the matched rules only. -/
theorem evaluate_eq_bind (event : Event) (sku : Sku) (rules : List Rule) (policy : Policy) :
    evaluate event sku rules policy = do
      let actions ← (matchRules event sku rules).mapM (suggestAction event sku)
      return actions.map (Recommendation.ofAction sku policy) := by
  unfold evaluate
  cases (matchRules event sku rules).mapM (suggestAction event sku) <;> rfl

theorem evaluate_append (event : Event) (sku : Sku) (rules more : List Rule) (policy : Policy) :
    evaluate event sku (rules ++ more) policy = do
      let found ← evaluate event sku rules policy
      let further ← evaluate event sku more policy
      return found ++ further := by
  simp only [evaluate_eq_bind, matchRules_append, List.mapM_append, bind_assoc, pure_bind, List.map_append]

theorem evaluate_congr
    (h : (rules.filter fun rule => ¬rule.IsSilent event sku) = others.filter fun rule => ¬rule.IsSilent event sku) :
    evaluate event sku rules policy = evaluate event sku others policy := by
  rw [evaluate_eq_bind, evaluate_eq_bind, matchRules_eq_filter, matchRules_eq_filter, h]

theorem forall₂_answers (h : evaluate event sku rules policy = .ok found) :
    List.Forall₂ (Recommendation.Answers sku policy) (matchRules event sku rules) found := by
  obtain ⟨actions, hactions, rfl⟩ := evaluate_eq_ok_iff.mp h
  rw [List.forall₂_map_right_iff]
  exact hactions.imp fun rule action haction => (suggests_of_suggestAction haction).answers policy

theorem map_names_of_answers (h : List.Forall₂ (Recommendation.Answers sku policy) rules found) :
    found.map (fun r => (r.action.ruleId, r.action.reason)) = rules.map fun rule => (rule.id, rule.name) := by
  induction h with
  | nil => rfl
  | cons hrule _ ih => rw [List.map_cons, List.map_cons, ih, hrule.ruleId, hrule.reason]

end Evaluate

/-- A list of rules gives what its parts give one after the other, or the error of the first part that has one. What it
gives are the rules that the explanation calls matched, each with its own recommendation. Rules that stay silent can be
put in and taken out. -/
theorem evaluate_rules (event : Event) (sku : Sku) (policy : Policy) :
    (∀ rules more, evaluate event sku (rules ++ more) policy = do
      let found ← evaluate event sku rules policy
      let further ← evaluate event sku more policy
      return found ++ further) ∧
    (∀ rules found, evaluate event sku rules policy = .ok found →
      found.map (fun r => (r.action.ruleId, r.action.reason)) =
        ((explainMatches event sku rules).filter fun trace => trace.outcome = .matched).map
          (fun trace => (trace.ruleId, trace.ruleName)) ∧
      List.Forall₂ (Recommendation.Answers sku policy) (rules.filter fun rule => ¬rule.IsSilent event sku) found) ∧
    ∀ rules others,
      (rules.filter fun rule => ¬rule.IsSilent event sku) = (others.filter fun rule => ¬rule.IsSilent event sku) →
        evaluate event sku rules policy = evaluate event sku others policy := by
  refine ⟨fun rules more => evaluate_append event sku rules more policy, fun rules found h => ⟨?_, ?_⟩,
    fun rules others h => evaluate_congr h⟩
  · rw [filter_explainMatches, List.map_map, map_names_of_answers (forall₂_answers h)]
    rfl
  · rw [← matchRules_eq_filter]
    exact forall₂_answers h

/-- A matched price and a notice under one id, between rules that stay silent. -/
theorem evaluate_rules_two :
    let event : Event := ⟨"sku-1", .priceDrop ⟨.ofNat 95, none, none⟩⟩
    let sku : Sku := ⟨none, .ofNat 80, .hundred, []⟩
    let below (price : Decimal) : Condition :=
      .compare .lt (.path ⟨.payload, "newPrice".toList⟩) (.literal (.number price))
    let matching : Rule := ⟨"drop", "Match", .competitorPriceDrop, true, below .hundred, ⟨.priceMatch, []⟩⟩
    let notice : Rule := ⟨"drop", "Tell", .competitorPriceDrop, true, below .hundred, ⟨.notify, []⟩⟩
    let disabled : Rule := ⟨"off", "Match", .competitorPriceDrop, false, below .hundred, ⟨.priceMatch, []⟩⟩
    let foreign : Rule := ⟨"cost", "Raise", .costIncrease, true, below .hundred, ⟨.priceIncrease, []⟩⟩
    let unmet : Rule := ⟨"deep", "Match", .competitorPriceDrop, true, below .ten, ⟨.priceMatch, []⟩⟩
    let rules := [disabled, matching, foreign, notice, unmet]
    ∃ found, evaluate event sku rules .standard = .ok found ∧
      found.map (fun r => (r.action.ruleId, r.action.reason)) = [("drop", "Match"), ("drop", "Tell")] ∧
      List.Forall₂ (Recommendation.Answers sku .standard) [matching, notice] found ∧
      evaluate event sku [matching, notice] .standard = .ok found := by
  intro event sku below matching notice disabled foreign unmet rules
  have hsilent : (rules.filter fun rule => ¬rule.IsSilent event sku) = [matching, notice] := rfl
  have hexplained : ((explainMatches event sku rules).filter fun trace => trace.outcome = .matched).map
      (fun trace => (trace.ruleId, trace.ruleName)) = [("drop", "Match"), ("drop", "Tell")] := by decide +kernel
  have hok : (evaluate event sku rules .standard).isOk = true := by decide +kernel
  cases h : evaluate event sku rules .standard with
  | error e =>
    rw [h] at hok
    cases hok
  | ok found =>
    obtain ⟨hnames, hanswers⟩ := (evaluate_rules event sku .standard).2.1 rules found h
    rw [hexplained] at hnames
    rw [hsilent] at hanswers
    refine ⟨found, rfl, hnames, hanswers, ?_⟩
    rw [← h]
    exact (evaluate_rules event sku .standard).2.2 [matching, notice] rules rfl

end Repricing
