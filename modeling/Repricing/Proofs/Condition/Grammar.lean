import Repricing.Proofs.Condition.Pruning

namespace Repricing

section Grammar

/-- The text begins as a path does. -/
def IsPathText (s : String) : Prop := "payload.".toList <+: s.toList ∨ "sku.".toList <+: s.toList

/-- One side of a comparison: null, a truth value, a text, or a number that is a decimal. -/
inductive Json.IsOperand : Json → Prop
  | null : IsOperand .null
  | bool (b : Bool) : IsOperand (.bool b)
  | string (s : String) : IsOperand (.string s)
  | number {n : Json.Number} {d : Decimal} (h : n.toDecimal? = some d) : IsOperand (.number n)

/-- A condition: a comparison of two operands, or a junction of conditions. What else an object holds does not
matter. -/
inductive Json.IsCondition : Json → Prop
  | comparison {document left right : Json} {op : String} (hop : document.get? "op" = some (.string op))
      (hmem : op ∈ ["lt", "lte", "gt", "gte", "eq", "neq"]) (hleft : document.get? "left" = some left)
      (hright : document.get? "right" = some right) (hl : left.IsOperand) (hr : right.IsOperand) : IsCondition document
  | junction {document : Json} {items : List Json} {op : String} (hop : document.get? "op" = some (.string op))
      (hmem : op ∈ ["and", "or"]) (hchildren : document.get? "children" = some (.array items)) (hne : items ≠ [])
      (h : ∀ item ∈ items, IsCondition item) : IsCondition document

/-- What a document says as an operand: a text that begins as a path is one, and everything else stands for itself. -/
inductive Operand.ReadFrom : Json → Operand → Prop
  | absent : ReadFrom .null .absent
  | bool (b : Bool) : ReadFrom (.bool b) (.literal (.bool b))
  | path {s : String} {p : Path} (hs : IsPathText s) (hp : p.text = s) : ReadFrom (.string s) (.path p)
  | text {s : String} (hs : ¬ IsPathText s) : ReadFrom (.string s) (.literal (.text s))
  | number {n : Json.Number} {d : Decimal} (h : n.toDecimal? = some d) : ReadFrom (.number n) (.literal (.number d))

/-- What a document says as a condition. -/
inductive Condition.ReadFrom : Json → Condition → Prop
  | compare {document left right : Json} {op : Comparison} {l r : Operand}
      (hop : document.get? "op" = some (.string op.name)) (hleft : document.get? "left" = some left)
      (hright : document.get? "right" = some right) (hl : Operand.ReadFrom left l) (hr : Operand.ReadFrom right r) :
      ReadFrom document (.compare op l r)
  | junction {document : Json} {items : List Json} {op : Connective} {children : List Condition}
      (hop : document.get? "op" = some (.string op.name)) (hchildren : document.get? "children" = some (.array items))
      (hne : items ≠ []) (h : List.Forall₂ ReadFrom items children) : ReadFrom document (.junction op children)

/-- A path, a scalar that is not the text of a path, or nothing. -/
def Operand.IsWellFormed : Operand → Prop
  | path p => IsPathText p.text
  | literal (.text s) => ¬ IsPathText s
  | literal v => v.IsScalar
  | absent => True

/-- Every junction has a child, and every operand is well formed. -/
inductive Condition.IsWellFormed : Condition → Prop
  | compare (op : Comparison) {left right : Operand} (hleft : left.IsWellFormed) (hright : right.IsWellFormed) :
      IsWellFormed (.compare op left right)
  | junction (op : Connective) {children : List Condition} (hne : children ≠ [])
      (h : ∀ child ∈ children, IsWellFormed child) : IsWellFormed (.junction op children)

end Grammar

section Operand

variable {document : Json} {o : Operand} {s : String}

theorem Path.isPathText_text (p : Path) : IsPathText p.text := by
  have htext : p.text.toList = p.root.lead ++ p.rest := String.toList_ofList
  unfold IsPathText
  rw [htext]
  cases p.root with
  | payload => exact .inl (List.prefix_append _ _)
  | sku => exact .inr (List.prefix_append _ _)

theorem Path.ofText?_eq_none_iff : ofText? s = none ↔ ¬ IsPathText s := by
  constructor
  · intro h hs
    have hp : ∃ p : Path, p.text = s := by
      obtain ⟨rest, hrest⟩ | ⟨rest, hrest⟩ := hs
      · exact ⟨⟨.payload, rest⟩, by rw [← String.toList_inj, ← hrest]; simp [text, Root.lead]⟩
      · exact ⟨⟨.sku, rest⟩, by rw [← String.toList_inj, ← hrest]; simp [text, Root.lead]⟩
    obtain ⟨p, rfl⟩ := hp
    rw [ofText?_text] at h
    cases h
  · intro h
    cases hp : ofText? s with
    | none => rfl
    | some p => exact absurd (text_of_ofText? hp ▸ p.isPathText_text) h

theorem Operand.ofJson_eq_ok_iff : ofJson document = .ok o ↔ ReadFrom document o := by
  constructor
  · intro h
    cases document with
    | null =>
      obtain rfl := Except.ok.inj h
      exact .absent
    | bool b =>
      obtain rfl := Except.ok.inj h
      exact .bool b
    | string s =>
      cases hs : Path.ofText? s with
      | none =>
        rw [ofJson_text hs] at h
        obtain rfl := Except.ok.inj h
        exact .text (Path.ofText?_eq_none_iff.mp hs)
      | some p =>
        rw [ofJson_path hs] at h
        obtain rfl := Except.ok.inj h
        obtain rfl := Path.text_of_ofText? hs
        exact .path p.isPathText_text rfl
    | number n =>
      cases hn : n.toDecimal? with
      | none =>
        rw [ofJson_number_of_none hn] at h
        cases h
      | some d =>
        rw [ofJson_number hn] at h
        obtain rfl := Except.ok.inj h
        exact .number hn
    | array items => cases h
    | object members => cases h
  · intro h
    cases h with
    | absent => rfl
    | bool b => rfl
    | path hs hp => exact ofJson_path (hp ▸ Path.ofText?_text _)
    | text hs => exact ofJson_text (Path.ofText?_eq_none_iff.mpr hs)
    | number hn => exact ofJson_number hn

theorem Operand.exists_readFrom_iff : (∃ o, ReadFrom document o) ↔ document.IsOperand := by
  constructor
  · rintro ⟨o, h⟩
    cases h with
    | absent => exact .null
    | bool b => exact .bool b
    | path => exact .string _
    | text => exact .string _
    | number hn => exact .number hn
  · intro h
    cases h with
    | null => exact ⟨_, .absent⟩
    | bool b => exact ⟨_, .bool b⟩
    | string s =>
      cases hs : Path.ofText? s with
      | none => exact ⟨_, .text (Path.ofText?_eq_none_iff.mp hs)⟩
      | some p => exact ⟨.path p, Path.text_of_ofText? hs ▸ .path p.isPathText_text rfl⟩
    | number hn => exact ⟨_, .number hn⟩

theorem Operand.ReadFrom.isWellFormed (h : ReadFrom document o) : o.IsWellFormed := by
  cases h with
  | path => exact Path.isPathText_text _
  | text hs => exact hs
  | _ => exact trivial

end Operand

namespace Condition

variable {document other : Json} {c : Condition}

/-- The reader makes of a document what it says, and nothing else. -/
theorem ofJson_eq_ok_iff : ofJson document = .ok c ↔ ReadFrom document c := by
  induction c using Condition.induction generalizing document with
  | compare op l r =>
    constructor
    · intro h
      obtain ⟨_, left, right, _, _, hop, hleft, hright, hl, hr, heq⟩ | ⟨_, _, _, -, -, -, -, heq⟩ := ofJson_eq_ok h
      · cases heq
        exact .compare hop hleft hright (Operand.ofJson_eq_ok_iff.mp hl) (Operand.ofJson_eq_ok_iff.mp hr)
      · cases heq
    · intro h
      cases h with
      | compare hop hleft hright hl hr =>
        rw [ofJson_of_comparison hop op.not_connective op.ofName?_name hleft hright,
          Operand.ofJson_eq_ok_iff.mpr hl, Operand.ofJson_eq_ok_iff.mpr hr]
        rfl
  | junction op children ih =>
    constructor
    · intro h
      obtain ⟨_, _, _, _, _, -, -, -, -, -, heq⟩ | ⟨_, items, _, hop, hchildren, hne, hread, heq⟩ := ofJson_eq_ok h
      · cases heq
      · cases heq
        exact .junction hop hchildren hne ((forall₂_congr_of_mem fun item child hchild => ih child hchild).mp
          (mapM_eq_ok_iff.mp hread))
    · intro h
      cases h with
      | @junction _ items _ _ hop hchildren hne h =>
        have hread : items.mapM ofJson = .ok children :=
          mapM_eq_ok_iff.mpr ((forall₂_congr_of_mem fun item child hchild => ih child hchild).mpr h)
        rw [ofJson_of_junction hop op.ofName?_name hchildren hne, hread]
        rfl

/-- A document says something exactly if it is one of the grammar. -/
theorem exists_readFrom_iff : (∃ c, ReadFrom document c) ↔ document.IsCondition := by
  constructor
  · rintro ⟨c, h⟩
    induction c using Condition.induction generalizing document with
    | compare op l r =>
      cases h with
      | compare hop hleft hright hl hr =>
        exact .comparison hop op.name_mem hleft hright (Operand.exists_readFrom_iff.mp ⟨l, hl⟩)
          (Operand.exists_readFrom_iff.mp ⟨r, hr⟩)
    | junction op children ih =>
      cases h with
      | junction hop hchildren hne h =>
        refine .junction hop op.name_mem hchildren hne fun item hitem => ?_
        obtain ⟨child, hchild, hread⟩ := exists_left_of_mem h.flip hitem
        exact ih child hchild hread
  · intro h
    induction h with
    | comparison hop hmem hleft hright hl hr =>
      obtain ⟨op, rfl⟩ := Comparison.exists_of_mem hmem
      obtain ⟨l, hl⟩ := Operand.exists_readFrom_iff.mpr hl
      obtain ⟨r, hr⟩ := Operand.exists_readFrom_iff.mpr hr
      exact ⟨_, .compare hop hleft hright hl hr⟩
    | junction hop hmem hchildren hne _ ih =>
      obtain ⟨op, rfl⟩ := Connective.exists_of_mem hmem
      obtain ⟨children, h⟩ := exists_forall₂ ih
      exact ⟨_, .junction hop hchildren hne h⟩

theorem ReadFrom.isWellFormed (h : ReadFrom document c) : c.IsWellFormed := by
  induction c using Condition.induction generalizing document with
  | compare op l r =>
    cases h with
    | compare _ _ _ hl hr => exact .compare op hl.isWellFormed hr.isWellFormed
  | junction op children ih =>
    cases h with
    | @junction _ items _ _ _ _ hne h =>
      refine .junction op ?_ fun child hchild => ?_
      · rintro rfl
        exact hne (List.forall₂_nil_right_iff.mp h)
      · obtain ⟨item, -, hread⟩ := exists_left_of_mem h hchild
        exact ih child hchild hread

/-- Only the operator, the operands and the children are read. -/
theorem ReadFrom.congr (h : ReadFrom document c)
    (hsame : ∀ key ∈ ["op", "left", "right", "children"], other.get? key = document.get? key) :
    ReadFrom other c := by
  have hop := hsame "op" (by simp)
  cases h with
  | compare hname hleft hright hl hr =>
    exact .compare (hop.trans hname) ((hsame "left" (by simp)).trans hleft) ((hsame "right" (by simp)).trans hright)
      hl hr
  | junction hname hchildren hne h =>
    exact .junction (hop.trans hname) ((hsame "children" (by simp)).trans hchildren) hne h

end Condition

/-- The reader accepts the documents of the grammar and no other, and makes of each what it says: every junction has a
child, literals are scalars, and a text is a path exactly if it begins as one. Other members make no difference. -/
theorem ofJson_grammar (document : Json) :
    ((∃ condition, Condition.ofJson document = .ok condition) ↔ document.IsCondition) ∧
      (∀ condition, Condition.ofJson document = .ok condition ↔ Condition.ReadFrom document condition) ∧
      (∀ condition, Condition.ofJson document = .ok condition → condition.IsWellFormed) ∧
      ∀ other, (∀ key ∈ ["op", "left", "right", "children"], other.get? key = document.get? key) →
        ∀ condition, Condition.ofJson other = .ok condition ↔ Condition.ofJson document = .ok condition := by
  refine ⟨(exists_congr fun _ => Condition.ofJson_eq_ok_iff).trans Condition.exists_readFrom_iff,
    fun _ => Condition.ofJson_eq_ok_iff, fun _ h => (Condition.ofJson_eq_ok_iff.mp h).isWellFormed,
    fun other hsame condition => ?_⟩
  rw [Condition.ofJson_eq_ok_iff, Condition.ofJson_eq_ok_iff]
  exact ⟨fun h => h.congr fun key hkey => (hsame key hkey).symm, fun h => h.congr hsame⟩

/-- A comparison with a path and one of two texts, the first of which only looks like a path. Without its note the
junction of them is read alike. -/
theorem ofJson_grammar_note :
    let price : Json := .object
      [("left", .string "payload.newPrice"), ("op", .string "lt"), ("right", .number (.integer 95))]
    let brand : Json := .object [("left", .string "skus.brand"), ("op", .string "neq"), ("right", .string "Acme")]
    let bare : List (String × Json) := [("children", .array [price, brand]), ("op", .string "or")]
    ∃ condition, Condition.ofJson (.object (("note", .object []) :: bare)) = .ok condition ∧
      Json.IsCondition (.object (("note", .object []) :: bare)) ∧ condition.IsWellFormed ∧
      Condition.ofJson (.object bare) = .ok condition := by
  intro price brand bare
  have hprice : Condition.ReadFrom price
      (.compare .lt (.path ⟨.payload, "newPrice".toList⟩) (.literal (.number (Decimal.ofNat 95)))) :=
    .compare rfl rfl rfl (.path (.inl ⟨"newPrice".toList, rfl⟩) rfl) (.number (by decide +kernel))
  have hbrand : Condition.ReadFrom brand
      (.compare .neq (.literal (.text "skus.brand")) (.literal (.text "Acme"))) :=
    .compare rfl rfl rfl (.text (by unfold IsPathText; decide)) (.text (by unfold IsPathText; decide))
  have hdocument : Condition.ReadFrom (.object (("note", .object []) :: bare)) (.junction .any _) :=
    .junction rfl rfl (by simp) (.cons hprice (.cons hbrand .nil))
  obtain ⟨haccepts, hreads, hwell, hignores⟩ := ofJson_grammar (.object (("note", .object []) :: bare))
  have hread := (hreads _).mpr hdocument
  refine ⟨_, hread, haccepts.mp ⟨_, hread⟩, hwell _ hread, (hignores (.object bare) ?_ _).mpr hread⟩
  simp [Json.get?, List.lookup_cons]

end Repricing
