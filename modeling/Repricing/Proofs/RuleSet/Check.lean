import Repricing.Proofs.Traversal
import Repricing.RuleSet.Check

namespace Repricing.RuleSet

/-- The document is a rule with the id. -/
def HasId (document : Json) (id : String) : Prop := ∃ rule, Rule.decode document = .ok rule ∧ rule.id = id

/-- A document before the place is a rule with the id. -/
def IsTaken (items : List Json) (place : Nat) (id : String) : Prop := ∃ document ∈ items.take place, HasId document id

/-- What is reported of the document at a place: why it is no rule, or else first that the template of the rule does not
fit its event, then that its id is taken. -/
inductive Reports (items : List Json) (place : Nat) (document : Json) : List RuleFault → Prop
  | unreadable {cause : DecodeError} (h : Rule.decode document = .error cause) :
      Reports items place document [.unreadable place cause]
  | fresh {rule : Rule} (h : Rule.decode document = .ok rule) (hid : ¬ IsTaken items place rule.id) :
      Reports items place document (rule.templateFault?.map (.template place)).toList
  | repeated {rule : Rule} (h : Rule.decode document = .ok rule) (hid : IsTaken items place rule.id) :
      Reports items place document
        ((rule.templateFault?.map (.template place)).toList ++ [.duplicate place rule.id])

/-- The place of the document that has the fault. -/
def RuleFault.place : RuleFault → Nat
  | unreadable place _ => place
  | template place _ => place
  | duplicate place _ => place

section Seen

variable {front : List Json} {seen : List String} {document : Json} {id : String}

theorem mem_seenAfter_iff : id ∈ seenAfter seen document ↔ HasId document id ∨ id ∈ seen := by
  unfold seenAfter HasId
  cases Rule.decode document with
  | error cause => simp
  | ok rule => simp [eq_comm]

/-- The ids that the check remembers are those of the rules that it has read. -/
theorem mem_foldl_seenAfter_iff :
    id ∈ front.foldl seenAfter seen ↔ (∃ document ∈ front, HasId document id) ∨ id ∈ seen := by
  induction front generalizing seen with
  | nil => simp
  | cons document rest ih =>
    rw [List.foldl_cons, ih, mem_seenAfter_iff]
    simp only [List.mem_cons, exists_eq_or_imp]
    exact or_left_comm.trans or_assoc.symm

end Seen

section Order

variable {items : List Json} {document : Json} {place : Nat} {seen : List String} {fault : RuleFault}

/-- The faults of a set are those of its documents, one after the other. -/
theorem faultsFrom_eq_flatten :
    faultsFrom place seen items =
      (items.mapIdx fun i document => faultsAt (place + i) ((items.take i).foldl seenAfter seen) document).flatten := by
  induction items generalizing place seen with
  | nil => rfl
  | cons document rest ih =>
    rw [faultsFrom, ih, List.mapIdx_cons, List.flatten_cons]
    simp [Nat.add_assoc, Nat.add_comm 1]

theorem reports_faultsAt (hseen : ∀ id, id ∈ seen ↔ IsTaken items place id) :
    Reports items place document (faultsAt place seen document) := by
  unfold faultsAt
  cases hrule : Rule.decode document with
  | error cause => exact .unreadable hrule
  | ok rule =>
    dsimp only
    by_cases hid : rule.id ∈ seen
    · rw [if_pos (by simpa using hid)]
      exact .repeated hrule ((hseen _).mp hid)
    · rw [if_neg (by simpa using hid), List.append_nil]
      exact .fresh hrule ((hseen _).not.mp hid)

theorem place_of_mem_faultsAt (h : fault ∈ faultsAt place seen document) : fault.place = place := by
  unfold faultsAt at h
  cases hrule : Rule.decode document with
  | error cause =>
    rw [hrule] at h
    obtain rfl := List.mem_singleton.mp h
    rfl
  | ok rule =>
    simp only [hrule, List.mem_append, Option.mem_toList, Option.map_eq_some_iff, List.mem_ite_nil_right,
      List.mem_singleton] at h
    obtain ⟨cause, -, rfl⟩ | ⟨-, rfl⟩ := h
    · rfl
    · rfl

theorem le_place_of_mem_faultsFrom (h : fault ∈ faultsFrom place seen items) : place ≤ fault.place := by
  induction items generalizing place seen with
  | nil => cases h
  | cons document rest ih =>
    rcases List.mem_append.mp h with h | h
    · exact Nat.le_of_eq (place_of_mem_faultsAt h).symm
    · exact Nat.le_of_succ_le (ih h)

theorem nodup_faultsAt : (faultsAt place seen document).Nodup := by
  unfold faultsAt
  cases Rule.decode document with
  | error cause => simp
  | ok rule =>
    dsimp only
    cases rule.templateFault? with
    | none => split <;> simp
    | some cause => split <;> simp

theorem nodup_faultsFrom : (faultsFrom place seen items).Nodup := by
  induction items generalizing place seen with
  | nil => exact List.nodup_nil
  | cons document rest ih =>
    refine List.nodup_append.mpr ⟨nodup_faultsAt, ih, fun fault hfault other hother heq => ?_⟩
    have hplace := place_of_mem_faultsAt hfault
    have hlater := le_place_of_mem_faultsFrom hother
    rw [← heq] at hlater
    omega

end Order

section Passes

variable {items : List Json} {document : Json} {place : Nat} {seen : List String}

theorem faultsAt_eq_nil_iff :
    faultsAt place seen document = [] ↔
      ∃ rule, Rule.decode document = .ok rule ∧ rule.templateFault? = none ∧ rule.id ∉ seen := by
  unfold faultsAt
  cases Rule.decode document with
  | error cause => simp
  | ok rule => simp

/-- No fault is found exactly in documents that are rules, fit their events, and have ids that neither stand in `seen`
nor come twice. -/
theorem faultsFrom_eq_nil_iff :
    faultsFrom place seen items = [] ↔
      ∃ rules, items.mapM Rule.decode = .ok rules ∧ (∀ rule ∈ rules, rule.templateFault? = none) ∧
        (rules.map Rule.id).Nodup ∧ ∀ rule ∈ rules, rule.id ∉ seen := by
  simp only [mapM_eq_ok_iff]
  induction items generalizing place seen with
  | nil => simp [faultsFrom]
  | cons document rest ih =>
    rw [faultsFrom, List.append_eq_nil_iff, faultsAt_eq_nil_iff, ih]
    constructor
    · rintro ⟨⟨rule, hrule, hfits, hid⟩, rules, hrules, hall, hnodup, hseen⟩
      have hnew : ∀ other ∈ rules, other.id ∉ rule.id :: seen := by
        simpa [seenAfter, hrule] using hseen
      refine ⟨rule :: rules, .cons hrule hrules, List.forall_mem_cons.mpr ⟨hfits, hall⟩, ?_,
        List.forall_mem_cons.mpr ⟨hid, fun other hother h => hnew other hother (List.mem_cons_of_mem _ h)⟩⟩
      refine List.nodup_cons.mpr ⟨fun h => ?_, hnodup⟩
      obtain ⟨other, hother, heq⟩ := List.mem_map.mp h
      exact hnew other hother (heq ▸ List.mem_cons_self)
    · rintro ⟨rules, hrules, hall, hnodup, hseen⟩
      obtain ⟨rule, others, hrule, hrest, rfl⟩ := List.forall₂_cons_left_iff.mp hrules
      obtain ⟨hfits, hall⟩ := List.forall_mem_cons.mp hall
      obtain ⟨hid, hseen⟩ := List.forall_mem_cons.mp hseen
      obtain ⟨hnew, hnodup⟩ := List.nodup_cons.mp hnodup
      refine ⟨⟨rule, hrule, hfits, hid⟩, others, hrest, hall, hnodup, fun other hother => ?_⟩
      simp only [seenAfter, hrule, List.mem_cons, not_or]
      exact ⟨fun heq => hnew (List.mem_map.mpr ⟨other, hother, heq⟩), hseen other hother⟩

theorem check_eq_ok_iff {n : Nat} :
    check (.array items) = .ok n ↔ n = items.length ∧ faultsFrom 0 [] items = [] := by
  unfold check itemsOf
  cases faultsFrom 0 [] items with
  | nil => simp [eq_comm]
  | cons fault rest => simp

theorem check_eq_error_iff {found : List RuleFault} :
    check (.array items) = .error found ↔ found ≠ [] ∧ faultsFrom 0 [] items = found := by
  unfold check itemsOf
  cases faultsFrom 0 [] items with
  | nil => simp [eq_comm]
  | cons fault rest =>
    constructor
    · rintro ⟨⟩
      exact ⟨List.cons_ne_nil _ _, rfl⟩
    · rintro ⟨-, rfl⟩
      rfl

end Passes

/-- A set of rules passes the check exactly if every document is a rule, every rule fits its event, and no id comes
twice. Otherwise the check gives, document by document, what is to report of each: no fault is missing, and none comes
twice. -/
theorem check_array (items : List Json) :
    (∀ n, check (.array items) = .ok n ↔
      n = items.length ∧ ∃ rules, items.mapM Rule.decode = .ok rules ∧
        (∀ rule ∈ rules, rule.templateFault? = none) ∧ (rules.map Rule.id).Nodup) ∧
    ∀ found, check (.array items) = .error found →
      found ≠ [] ∧ found.Nodup ∧ ∃ parts : List (List RuleFault), found = parts.flatten ∧
        parts.length = items.length ∧ ∀ place document, items[place]? = some document →
          ∃ part, parts[place]? = some part ∧ Reports items place document part := by
  refine ⟨fun n => ?_, fun found h => ?_⟩
  · rw [check_eq_ok_iff, faultsFrom_eq_nil_iff]
    simp
  · obtain ⟨hne, rfl⟩ := check_eq_error_iff.mp h
    refine ⟨hne, nodup_faultsFrom, _, faultsFrom_eq_flatten, List.length_mapIdx, fun place document hdocument => ?_⟩
    refine ⟨faultsAt (0 + place) ((items.take place).foldl seenAfter []) document, ?_, ?_⟩
    · rw [List.getElem?_mapIdx, hdocument, Option.map_some]
    · rw [Nat.zero_add]
      refine reports_faultsAt fun id => ?_
      rw [mem_foldl_seenAfter_iff, IsTaken]
      simp

/-- Three rules of one id, the second of them for the wrong event, and a document that is no rule between them. -/
theorem check_array_thrice :
    let rule (event : String) : Json := .object
      [("actionTemplate", .object [("type", .string "PRICE_MATCH")]),
        ("condition", .object [("left", .null), ("op", .string "eq"), ("right", .null)]), ("enabled", .bool true),
        ("eventType", .string event), ("id", .string "match"), ("name", .string "Match")]
    let items := [rule "COMPETITOR_PRICE_DROP", .null, rule "STOCK_LOW", rule "COMPETITOR_PRICE_DROP"]
    ∃ found, check (.array items) = .error found ∧
      found.map RuleFault.message =
        ["rules[1]: deserialization error: invalid type: null, expected struct Rule",
          "rules[2]: rule 'match': PRICE_MATCH action cannot be built from a STOCK_LOW event",
          "rules[2]: duplicate rule id 'match'", "rules[3]: duplicate rule id 'match'"] ∧
      found ≠ [] ∧ found.Nodup ∧ ∃ parts : List (List RuleFault), found = parts.flatten ∧
        parts.length = items.length ∧ ∀ place document, items[place]? = some document →
          ∃ part, parts[place]? = some part ∧ Reports items place document part := by
  intro rule items
  have hmessages : (match check (.array items) with
      | .ok _ => []
      | .error found => found.map RuleFault.message) =
      ["rules[1]: deserialization error: invalid type: null, expected struct Rule",
        "rules[2]: rule 'match': PRICE_MATCH action cannot be built from a STOCK_LOW event",
        "rules[2]: duplicate rule id 'match'", "rules[3]: duplicate rule id 'match'"] := by decide +kernel
  cases hcheck : check (.array items) with
  | ok n => simp [hcheck] at hmessages
  | error found =>
    rw [hcheck] at hmessages
    exact ⟨found, rfl, hmessages, (check_array items).2 found hcheck⟩

end Repricing.RuleSet
