import Repricing.Proofs.Condition.Reader
import Repricing.Proofs.Document.Record
import Repricing.Proofs.Json.Sorted
import Repricing.Proofs.Traversal
import Repricing.RuleSet.Check

namespace Repricing

open RuleSet

/-- The number stands as an operand in a comparison of the condition. -/
inductive HasOperand (n : Json.Number) : Json → Prop
  | left {document : Json} (h : document.get? "left" = some (.number n)) : HasOperand n document
  | right {document : Json} (h : document.get? "right" = some (.number n)) : HasOperand n document
  | child {document item : Json} {items : List Json} (h : document.get? "children" = some (.array items))
      (hitem : item ∈ items) (hn : HasOperand n item) : HasOperand n document

section FailsOnlyAt

variable {α β : Type} {P Q : Json.Number → Prop} {result : Except ConditionError α}

/-- Reading can fail only at one of the given numbers, and only because it is no decimal. -/
def FailsOnlyAt (P : Json.Number → Prop) (result : Except ConditionError α) : Prop :=
  ∀ e, result = .error e → ∃ n, P n ∧ n.toDecimal? = none ∧ e = .notRepresentable (.number n)

theorem FailsOnlyAt.of_ok (a : α) : FailsOnlyAt P (.ok a) := by
  intro e h
  cases h

theorem FailsOnlyAt.mono (h : FailsOnlyAt P result) (hsub : ∀ n, P n → Q n) : FailsOnlyAt Q result := by
  intro e he
  obtain ⟨n, hn, hnone, rfl⟩ := h e he
  exact ⟨n, hsub n hn, hnone, rfl⟩

theorem FailsOnlyAt.map (h : FailsOnlyAt P result) (f : α → β) : FailsOnlyAt P (result.map f) := by
  cases result with
  | ok a => exact .of_ok (f a)
  | error e =>
    intro e' he'
    cases he'
    exact h e rfl

theorem FailsOnlyAt.bind {f : α → Except ConditionError β} (h : FailsOnlyAt P result) (hf : ∀ a, FailsOnlyAt P (f a)) :
    FailsOnlyAt P (result.bind f) := by
  cases result with
  | ok a => exact hf a
  | error e =>
    intro e' he'
    cases he'
    exact h e rfl

theorem FailsOnlyAt.mapM {f : β → Except ConditionError α} {items : List β}
    (h : ∀ item ∈ items, FailsOnlyAt P (f item)) :
    FailsOnlyAt P (items.mapM f) := by
  intro e he
  obtain ⟨front, item, back, rfl, -, hitem⟩ := mapM_eq_error_iff.mp he
  exact h item (by simp) e hitem

end FailsOnlyAt

section Condition

variable {document : Json} {name : String}

theorem failsOnlyAt_of_isScalar (h : isScalar document = true) :
    FailsOnlyAt (fun n => document = .number n) (Operand.ofJson document) := by
  cases document with
  | null => exact .of_ok _
  | bool b => exact .of_ok _
  | string s =>
    cases hs : Path.ofText? s with
    | some p => exact Operand.ofJson_path hs ▸ .of_ok _
    | none => exact Operand.ofJson_text hs ▸ .of_ok _
  | number n =>
    cases hn : n.toDecimal? with
    | some d => exact Operand.ofJson_number hn ▸ .of_ok _
    | none =>
      intro e he
      rw [Operand.ofJson_number_of_none hn] at he
      exact ⟨n, rfl, hn, (Except.error.inj he).symm⟩
  | array items => cases h
  | object members => cases h

theorem exists_string_of_isOneOf {choice : List String} (h : isOneOf choice document = true) :
    ∃ s ∈ choice, document = .string s := by
  cases document with
  | string s => exact ⟨s, by simpa [isOneOf] using h, rfl⟩
  | _ => cases h

theorem failsOnlyAt_of_isComparison (h : isComparison document = true) :
    FailsOnlyAt (HasOperand · document) (Condition.ofJson document) := by
  cases document with
  | object members =>
    simp only [isComparison, Bool.and_eq_true, Option.any_eq_true] at h
    obtain ⟨⟨⟨-, name, hop, hname⟩, left, hleft, hscalar⟩, right, hright, hscalar'⟩ := h
    obtain ⟨name, hmem, rfl⟩ := exists_string_of_isOneOf hname
    obtain ⟨op, rfl⟩ := Comparison.exists_of_mem hmem
    change Json.get? _ (.object members) = _ at hop hleft hright
    rw [Condition.ofJson_of_comparison hop op.not_connective op.ofName?_name hleft hright]
    refine .bind ((failsOnlyAt_of_isScalar hscalar).mono ?_) fun l =>
      .map ((failsOnlyAt_of_isScalar hscalar').mono ?_) _
    · rintro n rfl
      exact .left hleft
    · rintro n rfl
      exact .right hright
  | _ => cases h

theorem areConditions_eq_all (items : List Json) : areConditions items = items.all isCondition := by
  induction items with
  | nil => rw [areConditions]; rfl
  | cons item rest ih => rw [areConditions, ih, List.all_cons]

/-- What the schema accepts as a condition: a comparison, or a junction of at least one accepted condition. -/
theorem comparison_or_junction_of_isCondition (h : isCondition document = true) :
    isComparison document = true ∨
      ∃ (op : Connective) (items : List Json), document.get? "op" = some (.string op.name) ∧
        document.get? "children" = some (.array items) ∧ items ≠ [] ∧ ∀ item ∈ items, isCondition item = true := by
  unfold isCondition at h
  refine (Bool.or_eq_true_iff.mp h).imp_right fun h => ?_
  cases document with
  | object members =>
    simp only [Bool.and_eq_true, Option.any_eq_true] at h
    obtain ⟨⟨-, name, hop, hname⟩, h⟩ := h
    obtain ⟨name, hmem, rfl⟩ := exists_string_of_isOneOf hname
    obtain ⟨op, rfl⟩ := Connective.exists_of_mem hmem
    split at h
    · rename_i items hchildren
      simp only [areConditions_eq_all, Bool.and_eq_true, List.all_eq_true] at h
      exact ⟨op, items, hop, hchildren, by simpa using h.1, h.2⟩
    · cases h
  | _ => cases h

/-- A condition that the schema accepts is read, down to its operands. -/
theorem failsOnlyAt_of_isCondition (document : Json) (h : isCondition document = true) :
    FailsOnlyAt (HasOperand · document) (Condition.ofJson document) := by
  obtain h | ⟨op, items, hop, hchildren, hne, hitems⟩ := comparison_or_junction_of_isCondition h
  · exact failsOnlyAt_of_isComparison h
  · rw [Condition.ofJson_of_junction hop op.ofName?_name hchildren hne]
    refine .map (.mapM fun item hitem => ?_) _
    exact (failsOnlyAt_of_isCondition item (hitems item hitem)).mono fun n hn => .child hchildren hitem hn
termination_by sizeOf document
decreasing_by
  have hchild := Json.sizeOf_get?_lt hchildren
  have hlt := List.sizeOf_lt_of_mem hitem
  simp at hchild
  omega

end Condition

section Members

variable {members : List (String × Json)} {name : String} {document : Json}

theorem exists_of_missingFaults_eq_nil {names : List String} (h : missingFaults names members = [])
    (hname : name ∈ names) :
    ∃ document, members.lookup name = some document := by
  have hnone := List.filter_eq_nil_iff.mp (List.map_eq_nil_iff.mp h) name hname
  exact Option.ne_none_iff_exists'.mp (by simpa using hnone)

/-- The two forms of a condition exclude each other, as a comparison has members that no junction may have; so a
document of one form is of exactly one. -/
theorem hasExactly_eq_false_of_isComparison (h : isComparison (.object members) = true) :
    hasExactly ["op", "children"] members = false := by
  simp only [isComparison, Bool.and_eq_true, Option.any_eq_true] at h
  obtain ⟨⟨-, left, hleft, -⟩, -⟩ := h
  refine Bool.eq_false_iff.mpr fun hexactly => ?_
  have hnames := List.all_eq_true.mp (Bool.and_eq_true_iff.mp hexactly).2 _ (Json.mem_of_lookup_eq_some hleft)
  exact absurd hnames (by simp)

theorem exists_of_choiceFaults_eq_nil {choice : List String} (h : choiceFaults choice document = []) :
    ∃ s ∈ choice, document = .string s := by
  unfold choiceFaults at h
  split at h
  · rename_i hone
    exact exists_string_of_isOneOf hone
  · cases h

theorem exists_of_textFaults_eq_nil (h : textFaults document = []) : ∃ s, document = .string s := by
  cases document with
  | string s => exact ⟨s, rfl⟩
  | _ => cases h

theorem exists_of_idFaults_eq_nil (h : idFaults document = []) : ∃ s, document = .string s := by
  cases document with
  | string s => exact ⟨s, rfl⟩
  | _ => cases h

theorem exists_of_flagFaults_eq_nil (h : flagFaults document = []) : ∃ b, document = .bool b := by
  cases document with
  | bool b => exact ⟨b, rfl⟩
  | _ => cases h

theorem exists_of_paramsFaults_eq_nil (h : paramsFaults document = []) : ∃ members, document = .object members := by
  cases document with
  | object members => exact ⟨members, rfl⟩
  | _ => cases h

theorem isCondition_of_conditionFaults_eq_nil (h : conditionFaults document = []) : isCondition document = true := by
  unfold conditionFaults at h
  split at h
  · assumption
  · cases h

end Members

section Rule

variable {members : List (String × Json)} {document : Json}

theorem exists_eventType_of_mem {name : String} (h : name ∈ ["COMPETITOR_PRICE_DROP", "COST_INCREASE", "STOCK_LOW"]) :
    ∃ type : EventType, type.name = name ∧ EventType.decode (.string name) = .ok type := by
  simp only [List.mem_cons, List.not_mem_nil, or_false] at h
  rcases h with rfl | rfl | rfl
  · exact ⟨.competitorPriceDrop, rfl, rfl⟩
  · exact ⟨.costIncrease, rfl, rfl⟩
  · exact ⟨.stockLow, rfl, rfl⟩

theorem exists_actionType_of_mem {name : String} (h : name ∈ ["PRICE_MATCH", "PRICE_INCREASE", "NOTIFY"]) :
    ∃ type : ActionType, type.name = name ∧ ActionType.decode (.string name) = .ok type := by
  simp only [List.mem_cons, List.not_mem_nil, or_false] at h
  rcases h with rfl | rfl | rfl
  · exact ⟨.priceMatch, rfl, rfl⟩
  · exact ⟨.priceIncrease, rfl, rfl⟩
  · exact ⟨.notify, rfl, rfl⟩

/-- A template that the schema accepts is read, and its type is the one that it names. -/
theorem exists_template_of_templateFaults_eq_nil (h : templateFaults document = []) :
    ∃ members template, document = .object members ∧
      members.lookup "type" = some (.string template.type.name) ∧
      ActionTemplate.shape.decode .direct document = .ok template := by
  cases document with
  | object members =>
    simp only [templateFaults, List.append_eq_nil_iff, List.flatMap_eq_nil_iff] at h
    obtain ⟨⟨hmembers, -⟩, hmissing⟩ := h
    obtain ⟨type, htype⟩ := exists_of_missingFaults_eq_nil hmissing (List.mem_singleton_self "type")
    obtain ⟨name, hname, rfl⟩ := exists_of_choiceFaults_eq_nil (hmembers _ (Json.mem_of_lookup_eq_some htype))
    obtain ⟨type, rfl, hdecode⟩ := exists_actionType_of_mem hname
    have hread (params : List (String × Json))
        (h : ActionTemplate.shape.fields.ofMembers members = .ok ⟨type, params⟩) :
        ActionTemplate.shape.decode .direct (.object members) = .ok ⟨type, params⟩ := by
      rw [RecordShape.decode_object_of_open rfl, h]
      rfl
    have hfront := Fields.ofMembers_more_eq_ok (f := Fields.none ActionTemplate.mk) rfl
      (Fields.ofMembers_required htype hdecode)
    cases hparams : members.lookup "params" with
    | none =>
      refine ⟨members, ⟨type, []⟩, rfl, htype, hread [] ?_⟩
      exact Fields.ofMembers_more_eq_ok hfront (Fields.ofMembers_field_of_absent hparams)
    | some params =>
      obtain ⟨params, rfl⟩ := exists_of_paramsFaults_eq_nil (hmembers _ (Json.mem_of_lookup_eq_some hparams))
      refine ⟨members, ⟨type, params⟩, rfl, htype, hread params ?_⟩
      exact Fields.ofMembers_more_eq_ok hfront (Fields.ofMembers_field_eq_ok hparams rfl)
  | _ => cases h

theorem EventType.name_injective {a b : EventType} (h : a.name = b.name) : a = b := by
  cases a <;> cases b <;> first | rfl | exact absurd h (by decide)

/-- Where the schema finds no fault in a pairing, a rule with the action listens for the event. -/
theorem eq_of_pairingFaults_eq_nil {action event name : String} {template : List (String × Json)}
    (h : pairingFaults action event members = [])
    (htemplate : members.lookup "actionTemplate" = some (.object template))
    (haction : template.lookup "type" = some (.string action))
    (hname : members.lookup "eventType" = some (.string name)) : event = name := by
  have hmay : mayBe action members = true := by simp [mayBe, htemplate, haction, isOneOf]
  rw [pairingFaults, if_pos hmay, hname] at h
  dsimp only at h
  split at h
  · rename_i hone
    exact (by simpa [isOneOf] using hone : name = event).symm
  · cases h

/-- A rule that the schema accepts: its members can be read, except for numbers in the condition, and its template fits
its event. -/
theorem exists_parts_of_ruleFaults_eq_nil (h : ruleFaults document = []) :
    ∃ condition, document.get? "condition" = some condition ∧ isCondition condition = true ∧
      ∃ rule : Condition → Rule, Rule.decode document = (Decoder.condition condition).map rule ∧
        ∀ c, (rule c).templateFault? = none := by
  cases document with
  | object members =>
    simp only [ruleFaults, List.append_eq_nil_iff, List.flatMap_eq_nil_iff] at h
    obtain ⟨⟨⟨⟨hmissing, hmembers⟩, -⟩, hmatch⟩, hincrease⟩ := h
    have hfield (name : String) (hname : name ∈ ruleMembers) :
        ∃ value, members.lookup name = some value ∧ memberFaults name value = [] := by
      obtain ⟨value, hvalue⟩ := exists_of_missingFaults_eq_nil hmissing hname
      exact ⟨value, hvalue, hmembers _ (Json.mem_of_lookup_eq_some hvalue)⟩
    obtain ⟨id, hid, hidFaults⟩ := hfield "id" (by decide)
    obtain ⟨id, rfl⟩ := exists_of_idFaults_eq_nil hidFaults
    obtain ⟨name, hname, hnameFaults⟩ := hfield "name" (by decide)
    obtain ⟨name, rfl⟩ := exists_of_textFaults_eq_nil hnameFaults
    obtain ⟨event, hevent, heventFaults⟩ := hfield "eventType" (by decide)
    obtain ⟨event, heventName, rfl⟩ := exists_of_choiceFaults_eq_nil heventFaults
    obtain ⟨event, rfl, hdecodeEvent⟩ := exists_eventType_of_mem heventName
    obtain ⟨enabled, henabled, henabledFaults⟩ := hfield "enabled" (by decide)
    obtain ⟨enabled, rfl⟩ := exists_of_flagFaults_eq_nil henabledFaults
    obtain ⟨condition, hcondition, hconditionFaults⟩ := hfield "condition" (by decide)
    obtain ⟨template, htemplate, htemplateFaults⟩ := hfield "actionTemplate" (by decide)
    obtain ⟨parts, template, rfl, htype, hdecodeTemplate⟩ := exists_template_of_templateFaults_eq_nil htemplateFaults
    refine ⟨condition, hcondition, isCondition_of_conditionFaults_eq_nil hconditionFaults,
      fun c => ⟨id, name, event, enabled, c, template⟩, ?_, fun c => ?_⟩
    · have hid := Fields.ofMembers_required hid (show Decoder.text (.string id) = .ok id from rfl)
      have hname := Fields.ofMembers_required hname (show Decoder.text (.string name) = .ok name from rfl)
      have hevent := Fields.ofMembers_required hevent hdecodeEvent
      have henabled := Fields.ofMembers_required henabled (show Decoder.bool (.bool enabled) = .ok enabled from rfl)
      have htemplate := Fields.ofMembers_required htemplate hdecodeTemplate
      have hfront := Fields.ofMembers_more_eq_ok (f := Fields.none Rule.mk) rfl hid
      have hfront := Fields.ofMembers_more_eq_ok (Fields.ofMembers_more_eq_ok hfront hname) hevent
      have hfront := Fields.ofMembers_more_eq_ok hfront henabled
      rw [Rule.decode, RecordShape.decode_object_of_open rfl, Rule.shape, Fields.ofMembers_more_of_ok htemplate,
        Fields.ofMembers_more hfront, Fields.required, Fields.ofMembers_field hcondition]
      cases Decoder.condition condition <;> rfl
    · unfold Rule.templateFault?
      obtain ⟨action, params⟩ := template
      cases action with
      | priceMatch =>
        have hname : EventType.competitorPriceDrop.name = event.name :=
          eq_of_pairingFaults_eq_nil hmatch htemplate htype hevent
        exact if_pos (EventType.name_injective hname)
      | priceIncrease =>
        have hname : EventType.costIncrease.name = event.name :=
          eq_of_pairingFaults_eq_nil hincrease htemplate htype hevent
        exact if_pos (EventType.name_injective hname)
      | notify => rfl
  | _ => cases h

/-- A rule that the schema accepts is read and fits its event, unless it compares with a number that is no decimal. -/
theorem decode_of_ruleFaults_eq_nil (h : ruleFaults document = []) :
    (∃ rule, Rule.decode document = .ok rule ∧ rule.templateFault? = none) ∨
      ∃ condition n, document.get? "condition" = some condition ∧ HasOperand n condition ∧ n.toDecimal? = none ∧
        Rule.decode document = .error (.badCondition (.notRepresentable (.number n))) := by
  obtain ⟨condition, hcondition, haccepted, rule, hdecode, hfits⟩ := exists_parts_of_ruleFaults_eq_nil h
  unfold Decoder.condition at hdecode
  cases hread : Condition.ofJson condition with
  | ok c =>
    rw [hread] at hdecode
    exact .inl ⟨rule c, hdecode, hfits c⟩
  | error e =>
    obtain ⟨n, hn, hnone, rfl⟩ := failsOnlyAt_of_isCondition condition haccepted e hread
    rw [hread] at hdecode
    exact .inr ⟨condition, n, hcondition, hn, hnone, hdecode⟩

end Rule

section Check

variable {items : List Json} {fault : RuleFault} {place : Nat} {seen : List String}

/-- Every fault of the check is a fault of one document, at its place. -/
theorem exists_of_mem_faultsFrom (h : fault ∈ faultsFrom place seen items) :
    ∃ i item seen', items[i]? = some item ∧ fault ∈ faultsAt (place + i) seen' item := by
  induction items generalizing place seen with
  | nil => cases h
  | cons item rest ih =>
    rcases List.mem_append.mp h with h | h
    · exact ⟨0, item, seen, rfl, h⟩
    · obtain ⟨i, other, seen', hi, hfault⟩ := ih h
      exact ⟨i + 1, other, seen', hi, by rwa [← Nat.add_assoc, Nat.add_right_comm]⟩

theorem eq_of_mem_faultsAt {item : Json} (haccepted : ruleFaults item = []) (h : fault ∈ faultsAt place seen item) :
    (∃ id, fault = .duplicate place id) ∨
      ∃ condition n, item.get? "condition" = some condition ∧ HasOperand n condition ∧ n.toDecimal? = none ∧
        fault = .unreadable place (.badCondition (.notRepresentable (.number n))) := by
  unfold faultsAt at h
  obtain ⟨rule, hrule, hfits⟩ | ⟨condition, n, hcondition, hn, hnone, hread⟩ := decode_of_ruleFaults_eq_nil haccepted
  · simp only [hrule, hfits, Option.map_none, Option.toList_none, List.nil_append, List.mem_ite_nil_right,
      List.mem_singleton] at h
    exact .inl ⟨rule.id, h.2⟩
  · simp only [hread, List.mem_singleton] at h
    exact .inr ⟨condition, n, hcondition, hn, hnone, h⟩

end Check

/-- What the schema accepts is an array of rules, and the check faults it only for repeated ids and for conditions that
compare with a number that is no decimal: every rule without such a number is read and fits its event. -/
theorem faults_of_schema (document : Json) (h : faults document = []) :
    ∃ items, document = .array items ∧
      (∀ found, check document = .error found → ∀ fault ∈ found,
        (∃ place id, fault = .duplicate place id) ∨
          ∃ place item condition n, items[place]? = some item ∧ item.get? "condition" = some condition ∧
            HasOperand n condition ∧ n.toDecimal? = none ∧
            fault = .unreadable place (.badCondition (.notRepresentable (.number n)))) ∧
      ∀ item ∈ items,
        (∀ condition n, item.get? "condition" = some condition → HasOperand n condition → n.toDecimal? ≠ none) →
          ∃ rule, Rule.decode item = .ok rule ∧ rule.templateFault? = none := by
  obtain ⟨items, rfl, hitems⟩ := isArray_of_faults_eq_nil h
  refine ⟨items, rfl, fun found hcheck fault hfault => ?_, fun item hitem hdecimal => ?_⟩
  · have hfrom : fault ∈ faultsFrom 0 [] items := by
      unfold check itemsOf at hcheck
      split at hcheck
      · cases hcheck
      · cases hcheck
        exact hfault
    obtain ⟨place, item, seen, hplace, hat⟩ := exists_of_mem_faultsFrom hfrom
    rw [Nat.zero_add] at hat
    obtain ⟨id, rfl⟩ | ⟨condition, n, hcondition, hn, hnone, rfl⟩ :=
      eq_of_mem_faultsAt (hitems item (List.mem_of_getElem? hplace)) hat
    · exact .inl ⟨place, id, rfl⟩
    · exact .inr ⟨place, item, condition, n, hplace, hcondition, hn, hnone, rfl⟩
  · obtain hread | ⟨condition, n, hcondition, hn, hnone, -⟩ := decode_of_ruleFaults_eq_nil (hitems item hitem)
    · exact hread
    · exact absurd hnone (hdecimal condition n hcondition hn)

/-- Three rules of one id, the second of which compares with `2 ^ 252`. -/
theorem faults_of_schema_huge :
    let huge : Json.Number := .float ⟨false, twoPow 52, 200, by decide, by decide, by decide, by decide⟩
    let condition (operand : Json.Number) : Json := .object
      [("left", .string "payload.newPrice"), ("op", .string "lt"), ("right", .number operand)]
    let rule (operand : Json.Number) : Json := .object
      [("actionTemplate", .object [("type", .string "PRICE_MATCH")]), ("condition", condition operand),
        ("enabled", .bool true), ("eventType", .string "COMPETITOR_PRICE_DROP"), ("id", .string "match"),
        ("name", .string "Match")]
    let items := [rule (.integer 95), rule huge, rule (.integer 90)]
    faults (.array items) = [] ∧ huge.toDecimal? = none ∧
      (∃ found, check (.array items) = .error found ∧ ∀ fault ∈ found,
        (∃ place id, fault = .duplicate place id) ∨
          ∃ place item condition n, items[place]? = some item ∧ item.get? "condition" = some condition ∧
            HasOperand n condition ∧ n.toDecimal? = none ∧
            fault = .unreadable place (.badCondition (.notRepresentable (.number n)))) ∧
      ∃ read, Rule.decode (rule (.integer 95)) = .ok read ∧ read.templateFault? = none := by
  intro huge condition rule items
  have haccepted : faults (.array items) = [] := List.isEmpty_iff.mp (by decide +kernel)
  obtain ⟨items', hitems, hfound, hread⟩ := faults_of_schema (.array items) haccepted
  obtain rfl := Json.array.inj hitems
  refine ⟨haccepted, by decide +kernel, ?_, hread _ List.mem_cons_self ?_⟩
  · have hfails : (check (.array items)).isOk = false := by decide +kernel
    cases hcheck : check (.array items) with
    | ok n =>
      rw [hcheck] at hfails
      cases hfails
    | error found => exact ⟨found, rfl, hfound found hcheck⟩
  · intro document n hdocument hn
    obtain rfl : condition (.integer 95) = document := Option.some.inj hdocument
    cases hn with
    | left h => cases h
    | right h =>
      cases h
      decide
    | child h => cases h

end Repricing
