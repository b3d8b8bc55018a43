import Repricing.Proofs.Evaluation.Basic
import Repricing.Proofs.RuleSet.Check

namespace Repricing

/-- The action changes a price. -/
def ActionType.IsPriceAction (type : ActionType) : Prop := type = .priceMatch ∨ type = .priceIncrease

section Suggest

variable {event : Event} {sku : Sku} {rule : Rule} {e : EvaluationError}

theorem priceMatch_eq_error {skuId : String} {report : PriceDrop} (h : priceMatch rule skuId report sku = .error e) :
    e = .overflow rule.id := by
  unfold priceMatch at h
  dsimp only at h
  split at h
  · cases h
  · cases h
    rfl

theorem priceIncrease_eq_error {skuId : String} {report : CostIncrease}
    (h : priceIncrease rule skuId report sku = .error e) : e = .overflow rule.id := by
  unfold priceIncrease at h
  split at h
  · split at h
    · cases h
    · cases h
      rfl
  · cases h
    rfl

/-- What the check of a template finds is what fails. -/
theorem suggestAction_of_templateFault? (hevent : rule.eventType = event.type) (h : rule.templateFault? = some e) :
    suggestAction event sku rule = .error e := by
  unfold Rule.templateFault? at h
  rw [hevent] at h
  cases htype : rule.actionTemplate.type <;> cases hpayload : event.payload <;>
    simp_all [suggestAction, ActionType.requiredEvent?, Event.type, Payload.type]

/-- Where the check of a template finds nothing, only the arithmetic of a price can fail. -/
theorem suggestAction_eq_error (hevent : rule.eventType = event.type) (hfault : rule.templateFault? = none)
    (h : suggestAction event sku rule = .error e) :
    rule.actionTemplate.type.IsPriceAction ∧ e = .overflow rule.id := by
  unfold Rule.templateFault? at hfault
  rw [hevent] at hfault
  unfold suggestAction at h
  dsimp only at h
  split at h
  · cases h
  rename_i e' hbuilt
  obtain rfl : e' = e := Except.error.inj h
  split at hbuilt
  · rename_i htype _
    exact ⟨.inl htype, priceMatch_eq_error hbuilt⟩
  · rename_i htype _
    exact ⟨.inr htype, priceIncrease_eq_error hbuilt⟩
  · cases hbuilt
  · rename_i hmatch hincrease hnotify
    -- No template is left that fits the event.
    cases htype : rule.actionTemplate.type <;> cases hpayload : event.payload <;>
      simp_all [ActionType.requiredEvent?, Event.type, Payload.type]

end Suggest

section Check

variable {items : List Json} {n : Nat}

open RuleSet

theorem exists_rules_of_check (h : check (.array items) = .ok n) :
    ∃ rules, Decoder.items Rule.decode (.array items) = .ok rules ∧ rules.length = n ∧
      ∀ rule ∈ rules, rule.templateFault? = none := by
  obtain ⟨rfl, hfaults⟩ := check_eq_ok_iff.mp h
  obtain ⟨rules, hrules, hpass, -⟩ := faultsFrom_eq_nil_iff.mp hfaults
  exact ⟨rules, hrules, (mapM_eq_ok_iff.mp hrules).length_eq.symm, hpass⟩

end Check

section Evaluate

variable {event : Event} {sku : Sku} {rules : List Rule} {policy : Policy} {e : EvaluationError}

/-- The error of an evaluation is the fault that the check finds in a matched template, or an overflow in a matched
price action whose template passes the check. -/
theorem exists_rule_of_evaluate_eq_error (h : evaluate event sku rules policy = .error e) :
    ∃ rule ∈ matchRules event sku rules, rule.templateFault? = some e ∨
      (rule.templateFault? = none ∧ rule.actionTemplate.type.IsPriceAction ∧ e = .overflow rule.id) := by
  obtain ⟨front, rule, back, hsplit, -, hrule⟩ := evaluate_eq_error_iff.mp h
  have hmem : rule ∈ matchRules event sku rules := by simp [hsplit]
  have hevent := eventType_of_mem_matchRules hmem
  refine ⟨rule, hmem, ?_⟩
  cases hfault : rule.templateFault? with
  | some fault =>
    rw [suggestAction_of_templateFault? hevent hfault] at hrule
    exact .inl (congrArg some (Except.error.inj hrule))
  | none => exact .inr ⟨rfl, suggestAction_eq_error hevent hfault hrule⟩

/-- A matched rule whose template fails its check makes the evaluation fail. -/
theorem exists_error_of_templateFault? {rule : Rule} {fault : EvaluationError}
    (hmem : rule ∈ matchRules event sku rules) (hfault : rule.templateFault? = some fault) :
    ∃ e, evaluate event sku rules policy = .error e := by
  cases h : evaluate event sku rules policy with
  | error e => exact ⟨e, rfl⟩
  | ok found =>
    obtain ⟨actions, hactions, -⟩ := evaluate_eq_ok_iff.mp h
    obtain ⟨action, -, haction⟩ := exists_left_of_mem hactions.flip hmem
    have hfails : suggestAction event sku rule = .error fault :=
      suggestAction_of_templateFault? (eventType_of_mem_matchRules hmem) hfault
    cases hfails.symm.trans haction

theorem exists_rule_of_templateMismatch {ruleId : String} {action : ActionType} {type : EventType}
    (h : evaluate event sku rules policy = .error (.templateMismatch ruleId action type)) :
    ∃ rule ∈ matchRules event sku rules, rule.templateFault? = some (.templateMismatch ruleId action type) := by
  obtain ⟨rule, hmem, hfault | ⟨-, -, hoverflow⟩⟩ := exists_rule_of_evaluate_eq_error h
  · exact ⟨rule, hmem, hfault⟩
  · cases hoverflow

end Evaluate

/-- A template error at run time is the one that the check of a matched rule finds; a matched rule that fails the check
makes the evaluation fail; matched rules that all pass it can fail only by an overflow of a price. So a rule set that
passes its check is read, and never fails by a template. -/
theorem evaluate_error :
    (∀ event sku rules policy,
      (∀ ruleId action type, evaluate event sku rules policy = .error (.templateMismatch ruleId action type) →
        ∃ rule ∈ rules, rule.enabled = true ∧ rule.eventType = event.type ∧
          rule.condition.holds (.ofEvent event sku) = true ∧
          rule.templateFault? = some (.templateMismatch ruleId action type)) ∧
      ((∃ rule ∈ matchRules event sku rules, rule.templateFault? ≠ none) →
        ∃ e, evaluate event sku rules policy = .error e) ∧
      ((∀ rule ∈ matchRules event sku rules, rule.templateFault? = none) →
        (∃ found, evaluate event sku rules policy = .ok found) ∨
        ∃ rule ∈ matchRules event sku rules, rule.actionTemplate.type.IsPriceAction ∧
          evaluate event sku rules policy = .error (.overflow rule.id))) ∧
    (∀ items n, RuleSet.check (.array items) = .ok n →
      ∃ rules, Decoder.items Rule.decode (.array items) = .ok rules ∧ rules.length = n ∧
        ∀ event sku policy ruleId action type,
          evaluate event sku rules policy ≠ .error (.templateMismatch ruleId action type)) := by
  refine ⟨fun event sku rules policy => ⟨fun ruleId action type h => ?_, ?_, fun hpass => ?_⟩, fun items n h => ?_⟩
  · obtain ⟨rule, hmem, hfault⟩ := exists_rule_of_templateMismatch h
    obtain ⟨hrule, houtcome⟩ := mem_matchRules_iff.mp hmem
    obtain ⟨henabled, hevent, hholds⟩ := outcome_eq_matched_iff.mp houtcome
    exact ⟨rule, hrule, henabled, hevent, hholds, hfault⟩
  · rintro ⟨rule, hmem, hfault⟩
    obtain ⟨fault, hfault⟩ := Option.ne_none_iff_exists'.mp hfault
    exact exists_error_of_templateFault? hmem hfault
  · cases h : evaluate event sku rules policy with
    | ok found => exact .inl ⟨found, rfl⟩
    | error e =>
      obtain ⟨rule, hmem, hfault | ⟨-, hprice, rfl⟩⟩ := exists_rule_of_evaluate_eq_error h
      · rw [hpass rule hmem] at hfault
        cases hfault
      · exact .inr ⟨rule, hmem, hprice, rfl⟩
  · obtain ⟨rules, hrules, hlength, hpass⟩ := exists_rules_of_check h
    refine ⟨rules, hrules, hlength, fun event sku policy ruleId action type h => ?_⟩
    obtain ⟨rule, hmem, hfault⟩ := exists_rule_of_templateMismatch h
    rw [hpass rule (mem_matchRules_iff.mp hmem).1] at hfault
    cases hfault

/-- A price is matched, but no price action of the other kind is built from the same event; and a set of one rule that
passes its check. -/
theorem evaluate_error_mismatch :
    let event : Event := ⟨"sku-1", .priceDrop ⟨.ofNat 95, none, none⟩⟩
    let sku : Sku := ⟨none, .ofNat 80, .hundred, []⟩
    let condition : Condition :=
      .compare .lt (.path ⟨.payload, "newPrice".toList⟩) (.path ⟨.sku, "currentPrice".toList⟩)
    let matching : Rule := ⟨"match", "Match", .competitorPriceDrop, true, condition, ⟨.priceMatch, []⟩⟩
    let raising : Rule := ⟨"raise", "Raise", .competitorPriceDrop, true, condition, ⟨.priceIncrease, []⟩⟩
    let fault : EvaluationError := .templateMismatch "raise" .priceIncrease .competitorPriceDrop
    let document : Json := .object
      [("actionTemplate", .object [("type", .string "PRICE_MATCH")]), ("condition", condition.toJson),
        ("enabled", .bool true), ("eventType", .string "COMPETITOR_PRICE_DROP"), ("id", .string "match"),
        ("name", .string "Match")]
    (evaluate event sku [matching, raising] .standard = .error fault ∧
      ∃ rule ∈ [matching, raising], rule.enabled = true ∧ rule.eventType = event.type ∧
        rule.condition.holds (.ofEvent event sku) = true ∧ rule.templateFault? = some fault) ∧
    ((∀ rule ∈ matchRules event sku [matching], rule.templateFault? = none) ∧
      ∃ found, evaluate event sku [matching] .standard = .ok found) ∧
    RuleSet.check (.array [document]) = .ok 1 ∧
      ∃ rules, Decoder.items Rule.decode (.array [document]) = .ok rules ∧ rules.length = 1 ∧
        ∀ event sku policy ruleId action type,
          evaluate event sku rules policy ≠ .error (.templateMismatch ruleId action type) := by
  intro event sku condition matching raising fault document
  have hfails : evaluate event sku [matching, raising] .standard = .error fault := by decide +kernel
  have hpass : ∀ rule ∈ matchRules event sku [matching], rule.templateFault? = none := by
    intro rule hmem
    obtain rfl := List.mem_singleton.mp (mem_matchRules_iff.mp hmem).1
    rfl
  have hcheck : RuleSet.check (.array [document]) = .ok 1 := by
    have hone : (RuleSet.check (.array [document])).toOption = some 1 := by decide +kernel
    cases h : RuleSet.check (.array [document]) with
    | error found => simp [h, Except.toOption] at hone
    | ok n => simpa [h, Except.toOption] using hone
  refine ⟨⟨hfails, (evaluate_error.1 event sku _ _).1 _ _ _ hfails⟩, ⟨hpass, ?_⟩, hcheck, evaluate_error.2 _ _ hcheck⟩
  have hevaluate := (evaluate_error.1 event sku [matching] .standard).2.2 hpass
  refine hevaluate.resolve_right ?_
  rintro ⟨rule, -, -, hoverflow⟩
  have hok : (evaluate event sku [matching] .standard).isOk = true := by decide +kernel
  rw [hoverflow] at hok
  cases hok

end Repricing
