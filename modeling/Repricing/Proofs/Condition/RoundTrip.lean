import Repricing.Proofs.Condition.Holds
import Repricing.Proofs.Condition.Reader
import Repricing.Proofs.Decimal.Wire
import Repricing.Proofs.Traversal

namespace Repricing

section Relations

/-- The same operand, up to the scale of a number. -/
inductive Operand.Same : Operand → Operand → Prop
  | refl (o : Operand) : Same o o
  | number {d e : Decimal} (h : e.toRat = d.toRat) : Same (.literal (.number d)) (.literal (.number e))

/-- The number is spelled out as a string in documents. -/
def Decimal.IsSpelled (d : Decimal) : Prop := ∀ m, d.toJson ≠ .number m

/-- What an operand comes back as: a number that is spelled out becomes text, and nothing else changes. -/
inductive Operand.Restored : Operand → Operand → Prop
  | same {o o' : Operand} (h : o.Same o') (hshown : ∀ d, o = .literal (.number d) → ¬ d.IsSpelled) : Restored o o'
  | spelled {d : Decimal} (h : d.IsSpelled) : Restored (.literal (.number d)) (.literal (.text d.toText))

/-- Conditions of one shape with the same operators, whose operands are related. -/
inductive Condition.Lift (R : Operand → Operand → Prop) : Condition → Condition → Prop
  | compare (op : Comparison) {left right left' right' : Operand} (hleft : R left left') (hright : R right right') :
      Lift R (.compare op left right) (.compare op left' right')
  | junction (op : Connective) {children children' : List Condition} (h : List.Forall₂ (Lift R) children children') :
      Lift R (.junction op children) (.junction op children')

/-- The operand stands in a comparison of the condition. -/
inductive Condition.Uses (o : Operand) : Condition → Prop
  | left (op : Comparison) (right : Operand) : Uses o (.compare op o right)
  | right (op : Comparison) (left : Operand) : Uses o (.compare op left o)
  | child (op : Connective) {children : List Condition} {child : Condition} (hchild : child ∈ children)
      (h : Uses o child) : Uses o (.junction op children)

end Relations

section Operand

theorem Operand.Restored.unchanged {o : Operand} (h : ∀ d, o ≠ .literal (.number d)) : o.Restored o :=
  .same (.refl o) fun d hd => absurd hd (h d)

variable {d : Decimal} {o : Operand} {document : Json}

theorem toJson_of_isSpelled (h : d.IsSpelled) : d.toJson = .string d.toText :=
  (toJson_eq_number_or d).resolve_left fun ⟨m, hm⟩ => h m hm

theorem isSpelled_of_asString? {s : String} (h : d.toJson.asString? = some s) : d.IsSpelled := by
  intro m hm
  rw [hm] at h
  cases h

theorem not_isSpelled_of_toInt64? {n : Int} (h : d.toInt64? = some n) : ¬ d.IsSpelled := fun hspelled =>
  hspelled (.integer n) (by simp [Decimal.toJson, h, Json.ofInt])

/-- The text of a decimal begins with a sign or a digit, so it is no path. -/
theorem ofText?_toText (d : Decimal) : Path.ofText? d.toText = none := by
  cases hpath : Path.ofText? d.toText with
  | none => rfl
  | some p =>
    exfalso
    have hchars : d.toChars = p.root.lead ++ p.rest := by
      have htext := congrArg String.toList (Path.text_of_ofText? hpath)
      simpa [Path.text, Decimal.toText] using htext.symm
    have hfirst : ∀ c ∈ d.toChars.head?, c = '-' ∨ c.isDigit = true := by
      have hdigits := Decimal.isDigit_toDigits (d.coefficient.natAbs / tenPow d.scale)
      unfold Decimal.toChars
      dsimp only
      cases htext : Nat.toDigits 10 (d.coefficient.natAbs / tenPow d.scale) with
      | nil => exact absurd htext Nat.toDigits_ne_nil
      | cons digit rest =>
        rw [htext] at hdigits
        split
        · simp
        · simpa using .inr (hdigits digit List.mem_cons_self)
    rw [hchars] at hfirst
    cases hroot : p.root <;> simp [hroot, Root.lead] at hfirst

/-- A number comes back with its value where it is shown as a number, and as text where it is spelled out. -/
theorem Operand.exists_ofJson_toJson_number {n : Json.Number} (hn : n.toDecimal? = some d) :
    ∃ o', Operand.ofJson d.toJson = .ok o' ∧ Operand.Restored (.literal (.number d)) o' := by
  by_cases hspelled : d.IsSpelled
  · rw [toJson_of_isSpelled hspelled]
    exact ⟨_, ofJson_text (ofText?_toText d), .spelled hspelled⟩
  · obtain ⟨m, hm⟩ := not_forall_not.mp hspelled
    obtain ⟨e, he, hvalue⟩ := toDecimal?_toJson_of_toDecimal? hn hm
    rw [hm]
    refine ⟨_, ofJson_number he, .same (.number hvalue) fun d' hd' => ?_⟩
    cases hd'
    exact hspelled

/-- Every operand that can be read comes back from its document. -/
theorem Operand.exists_ofJson_toJson (h : Operand.ofJson document = .ok o) :
    ∃ o', Operand.ofJson o.toJson = .ok o' ∧ o.Restored o' := by
  cases document with
  | null =>
    obtain rfl := Except.ok.inj h
    exact ⟨_, rfl, .unchanged (by simp)⟩
  | bool b =>
    obtain rfl := Except.ok.inj h
    exact ⟨.literal (.bool b), by simp [toJson, Value.toJson, ofJson], .unchanged (by simp)⟩
  | string s =>
    cases hs : Path.ofText? s with
    | some p =>
      rw [ofJson_path hs] at h
      obtain rfl := Except.ok.inj h
      exact ⟨.path p, ofJson_path p.ofText?_text, .unchanged (by simp)⟩
    | none =>
      rw [ofJson_text hs] at h
      obtain rfl := Except.ok.inj h
      exact ⟨.literal (.text s), by simpa [toJson, Value.toJson] using ofJson_text hs, .unchanged (by simp)⟩
  | number n =>
    cases hn : n.toDecimal? with
    | none =>
      rw [ofJson_number_of_none hn] at h
      cases h
    | some d =>
      rw [ofJson_number hn] at h
      obtain rfl := Except.ok.inj h
      simpa [toJson, Value.toJson] using exists_ofJson_toJson_number hn
  | array items => cases h
  | object members => cases h

theorem Operand.Same.same? {o' : Operand} (h : o.Same o') (context : Context) :
    Value.same? (context.operand o) (context.operand o') = true := by
  cases h with
  | refl => exact Value.same?_self _
  | number h => exact decide_eq_true (Decimal.sameValue_iff_toRat.mpr h.symm)

end Operand

namespace Condition

variable {R : Operand → Operand → Prop} {c c' : Condition}

/-- A condition has what its children have. -/
@[elab_as_elim]
theorem induction {motive : Condition → Prop} (compare : ∀ op left right, motive (.compare op left right))
    (junction : ∀ op children, (∀ child ∈ children, motive child) → motive (.junction op children)) :
    ∀ c, motive c
  | .compare op left right => compare op left right
  | .junction op children => junction op children fun child _ => induction compare junction child

theorem childrenToJson_eq_map (children : List Condition) : childrenToJson children = children.map toJson := by
  induction children with
  | nil => rfl
  | cons child rest ih => rw [childrenToJson, ih, List.map_cons]

/-- Where operands come back related, so do conditions. -/
theorem exists_ofJson_toJson {document : Json} (h : ofJson document = .ok c)
    (hR : ∀ o, c.Uses o → (∃ operand, Operand.ofJson operand = .ok o) →
      ∃ o', Operand.ofJson o.toJson = .ok o' ∧ R o o') :
    ∃ c', ofJson c.toJson = .ok c' ∧ c.Lift R c' := by
  induction c using Condition.induction generalizing document with
  | compare op l r =>
    obtain ⟨_, left, right, _, _, -, -, -, hl, hr, heq⟩ | ⟨_, _, _, -, -, -, -, heq⟩ := ofJson_eq_ok h
    · cases heq
      obtain ⟨l', hl', hleft⟩ := hR l (.left op r) ⟨left, hl⟩
      obtain ⟨r', hr', hright⟩ := hR r (.right op l) ⟨right, hr⟩
      exact ⟨compare op l' r', ofJson_compare op hl' hr', .compare op hleft hright⟩
    · cases heq
  | junction op children ih =>
    obtain ⟨_, _, _, _, _, -, -, -, -, -, heq⟩ | ⟨_, items, _, -, -, hne, hread, heq⟩ := ofJson_eq_ok h
    · cases heq
    · cases heq
      have hall := mapM_eq_ok_iff.mp hread
      have hagain : ∀ child ∈ children, ∃ child', ofJson child.toJson = .ok child' ∧ child.Lift R child' := by
        intro child hchild
        obtain ⟨item, -, hitem⟩ := exists_left_of_mem hall hchild
        exact ih child hchild hitem fun o huses => hR o (.child op hchild huses)
      obtain ⟨children', hchildren'⟩ := exists_forall₂ hagain
      have hagainRead : (childrenToJson children).mapM ofJson = .ok children' := by
        rw [childrenToJson_eq_map, mapM_eq_ok_iff, List.forall₂_map_left_iff]
        exact hchildren'.imp fun _ _ h => h.1
      have hne' : childrenToJson children ≠ [] := by
        rw [childrenToJson_eq_map, Ne, List.map_eq_nil_iff, ← List.length_eq_zero_iff, ← hall.length_eq,
          List.length_eq_zero_iff]
        exact hne
      exact ⟨junction op children', ofJson_junction op hne' hagainRead,
        .junction op (hchildren'.imp fun _ _ h => h.2)⟩

section Holds

variable {context : Context} {left right left' right' : Operand}

/-- Comparisons see the values of numbers, not their scales. -/
theorem holdsBetween_congr (op : Comparison) (hleft : left.Same left') (hright : right.Same right') :
    holdsBetween op (context.operand left') (context.operand right') =
      holdsBetween op (context.operand left) (context.operand right) :=
  (holdsBetween_of_same? op (hleft.same? context) (hright.same? context)).symm

theorem all_any_congr {p : Condition → Bool} {children children' : List Condition}
    (h : List.Forall₂ (fun c c' => p c' = p c) children children') :
    children'.all p = children.all p ∧ children'.any p = children.any p := by
  induction h with
  | nil => exact ⟨rfl, rfl⟩
  | cons hchild _ ih => simp [hchild, ih]

theorem holds_of_same (h : c.Lift Operand.Same c') : c'.holds context = c.holds context := by
  induction c using Condition.induction generalizing c' with
  | compare op l r =>
    cases h with
    | compare _ hleft hright =>
      rw [holds, holds]
      exact holdsBetween_congr op hleft hright
  | junction op children ih =>
    cases h with
    | @junction _ _ children' hchildren =>
      have hholds : List.Forall₂ (fun child child' => child'.holds context = child.holds context) children children' :=
        List.forall₂_iff_get.mpr ⟨hchildren.length_eq, fun i hi hi' =>
          ih _ (List.get_mem children ⟨i, hi⟩) (hchildren.get hi hi')⟩
      cases op with
      | all => rw [holds_all, holds_all, (all_any_congr hholds).1]
      | any => rw [holds_any, holds_any, (all_any_congr hholds).2]

end Holds

end Condition

/-- What a spelled number is at most equal to before, it is not after: texts have no order. -/
theorem exists_holds_of_isSpelled {n : Json.Number} {d : Decimal} (hn : n.toDecimal? = some d) (h : d.IsSpelled) :
    ∃ condition again,
      Condition.ofJson (.object [("left", .number n), ("op", .string "lte"), ("right", .number n)]) = .ok condition ∧
        Condition.ofJson condition.toJson = .ok again ∧
          ∀ context, condition.holds context = true ∧ again.holds context = false := by
  have hread := Operand.ofJson_number hn
  have hagain : Operand.ofJson (Operand.toJson (.literal (.number d))) = .ok (.literal (.text d.toText)) := by
    rw [Operand.toJson, Value.toJson, toJson_of_isSpelled h]
    exact Operand.ofJson_text (ofText?_toText d)
  refine ⟨.compare .lte (.literal (.number d)) (.literal (.number d)), .compare .lte _ _,
    Condition.ofJson_compare .lte hread hread, Condition.ofJson_compare .lte hagain hagain, fun context => ?_⟩
  constructor
  · simp [Condition.holds, Condition.holdsBetween, Condition.holdsBetween.ordered, Context.operand, Value.asNumber?,
      Decimal.le_iff_toRat]
  · simp [Condition.holds, Condition.holdsBetween, Condition.holdsBetween.ordered, Context.operand, Value.asNumber?]

/-- A condition that was read comes back from its document, with its numbers in value and everything else as it is;
only a number that is spelled out comes back as text. Without such numbers the condition that comes back holds in the
same contexts. -/
theorem ofJson_toJson {document : Json} {condition : Condition} (h : Condition.ofJson document = .ok condition) :
    ∃ again, Condition.ofJson condition.toJson = .ok again ∧ condition.Lift Operand.Restored again ∧
      ((∀ d, condition.Uses (.literal (.number d)) → ¬ d.IsSpelled) →
        condition.Lift Operand.Same again ∧ ∀ context, again.holds context = condition.holds context) := by
  obtain ⟨again, hagain, hrestored⟩ := Condition.exists_ofJson_toJson h
    fun o _ ⟨operand, ho⟩ => Operand.exists_ofJson_toJson ho
  refine ⟨again, hagain, hrestored, fun hnumbers => ?_⟩
  obtain ⟨same, hsame, hlift⟩ := Condition.exists_ofJson_toJson (R := Operand.Same) h
    fun o huses ⟨operand, ho⟩ => by
      obtain ⟨o', ho', hrestored⟩ := Operand.exists_ofJson_toJson ho
      cases hrestored with
      | same hsame _ => exact ⟨o', ho', hsame⟩
      | spelled hspelled => exact absurd hspelled (hnumbers _ huses)
  obtain rfl : again = same := Except.ok.inj (hagain.symm.trans hsame)
  exact ⟨hlift, fun _ => Condition.holds_of_same hlift⟩

/-- A junction of a price below 95 and a brand that is present. -/
theorem ofJson_toJson_nested :
    let document : Json := .object
      [("children", .array
        [.object [("left", .string "payload.newPrice"), ("op", .string "lt"), ("right", .number (.integer 95))],
          .object [("left", .string "sku.brand"), ("op", .string "neq"), ("right", .null)]]),
        ("op", .string "and")]
    ∃ condition again, Condition.ofJson document = .ok condition ∧ Condition.ofJson condition.toJson = .ok again ∧
      condition.Lift Operand.Same again ∧ ∀ context, again.holds context = condition.holds context := by
  intro document
  have hprice : Condition.ofJson (.object
      [("left", .string "payload.newPrice"), ("op", .string "lt"), ("right", .number (.integer 95))]) = .ok
        (.compare .lt (.path ⟨.payload, "newPrice".toList⟩) (.literal (.number (Decimal.ofNat 95)))) :=
    Condition.ofJson_compare .lt (Operand.ofJson_path rfl) (Operand.ofJson_number (by decide +kernel))
  have hbrand : Condition.ofJson (.object
      [("left", .string "sku.brand"), ("op", .string "neq"), ("right", .null)]) = .ok
        (.compare .neq (.path ⟨.sku, "brand".toList⟩) .absent) :=
    Condition.ofJson_compare .neq (Operand.ofJson_path rfl) rfl
  have hread : Condition.ofJson document = .ok (.junction .all
      [.compare .lt (.path ⟨.payload, "newPrice".toList⟩) (.literal (.number (Decimal.ofNat 95))),
        .compare .neq (.path ⟨.sku, "brand".toList⟩) .absent]) := by
    refine Condition.ofJson_junction .all (by simp) ?_
    rw [mapM_cons_of_ok hprice, mapM_cons_of_ok hbrand]
    rfl
  obtain ⟨again, hagain, -, hsame⟩ := ofJson_toJson hread
  refine ⟨_, again, hread, hagain, hsame fun d huses => ?_⟩
  have hd : d = Decimal.ofNat 95 := by
    cases huses with
    | child _ hchild h =>
      rcases List.mem_pair.mp hchild with rfl | rfl
      · cases h
        rfl
      · cases h
  exact not_isSpelled_of_toInt64? (n := 95) (by rw [hd]; decide +kernel)

/-- Numbers that are spelled out although a document can show them: a whole number that 64 bits hold without a sign, and
the binary number nearest to `0.4494910647887381`. -/
theorem ofJson_toJson_spelled :
    let self (n : Json.Number) : Json := .object [("left", .number n), ("op", .string "lte"), ("right", .number n)]
    let unsigned : Json.Number := .integer 9223372036854775809
    let double : Json.Number := .float ⟨false, 8097311167555714, -54, by decide, by decide, by decide, by decide⟩
    (∃ condition again,
      Condition.ofJson (self unsigned) = .ok condition ∧ Condition.ofJson condition.toJson = .ok again ∧
        ∀ context, condition.holds context = true ∧ again.holds context = false) ∧
      ∃ condition again,
        Condition.ofJson (self double) = .ok condition ∧ Condition.ofJson condition.toJson = .ok again ∧
          ∀ context, condition.holds context = true ∧ again.holds context = false := by
  intro self unsigned double
  constructor
  · exact exists_holds_of_isSpelled (d := Decimal.ofNat 9223372036854775809) (by decide +kernel)
      (isSpelled_of_asString? (s := "9223372036854775809") (by decide +kernel))
  · exact exists_holds_of_isSpelled (d := ⟨4494910647887381, 16, by decide, by decide⟩) (by decide +kernel)
      (isSpelled_of_asString? (s := "0.4494910647887381") (by decide +kernel))

end Repricing
