import Repricing.Document.Decoder

namespace Repricing

section Names

theorem Comparison.ofName?_name (op : Comparison) : ofName? op.name = some op := by
  cases op <;> rfl

theorem Comparison.not_connective (op : Comparison) : Connective.ofName? op.name = none := by
  cases op <;> rfl

theorem Connective.ofName?_name (op : Connective) : ofName? op.name = some op := by
  cases op <;> rfl

theorem Comparison.name_of_ofName? {s : String} {op : Comparison} (h : ofName? s = some op) : op.name = s := by
  simpa using List.find?_some h

theorem Connective.name_of_ofName? {s : String} {op : Connective} (h : ofName? s = some op) : op.name = s := by
  simpa using List.find?_some h

theorem Comparison.name_mem (op : Comparison) : op.name ∈ ["lt", "lte", "gt", "gte", "eq", "neq"] := by
  cases op <;> simp [name]

theorem Connective.name_mem (op : Connective) : op.name ∈ ["and", "or"] := by
  cases op <;> simp [name]

theorem Comparison.exists_of_mem {s : String} (h : s ∈ ["lt", "lte", "gt", "gte", "eq", "neq"]) :
    ∃ op : Comparison, op.name = s := by
  simp only [List.mem_cons, List.not_mem_nil, or_false] at h
  rcases h with rfl | rfl | rfl | rfl | rfl | rfl
  · exact ⟨.lt, rfl⟩
  · exact ⟨.lte, rfl⟩
  · exact ⟨.gt, rfl⟩
  · exact ⟨.gte, rfl⟩
  · exact ⟨.eq, rfl⟩
  · exact ⟨.neq, rfl⟩

theorem Connective.exists_of_mem {s : String} (h : s ∈ ["and", "or"]) : ∃ op : Connective, op.name = s := by
  simp only [List.mem_cons, List.not_mem_nil, or_false] at h
  rcases h with rfl | rfl
  · exact ⟨.all, rfl⟩
  · exact ⟨.any, rfl⟩

end Names

section Operand

variable {n : Json.Number} {d : Decimal} {s : String} {p : Path}

theorem Operand.ofJson_number (h : n.toDecimal? = some d) : ofJson (.number n) = .ok (.literal (.number d)) := by
  simp [ofJson, h]

theorem Operand.ofJson_number_of_none (h : n.toDecimal? = none) :
    ofJson (.number n) = .error (.notRepresentable (.number n)) := by
  simp [ofJson, h]

theorem Operand.ofJson_path (h : Path.ofText? s = some p) : ofJson (.string s) = .ok (.path p) := by
  simp [ofJson, h]

theorem Operand.ofJson_text (h : Path.ofText? s = none) : ofJson (.string s) = .ok (.literal (.text s)) := by
  simp [ofJson, h]

end Operand

namespace Condition

variable {document left right : Json} {name : String}

theorem ofJson_of_comparison {op : Comparison} (hname : document.get? "op" = some (.string name))
    (hconnective : Connective.ofName? name = none) (hop : Comparison.ofName? name = some op)
    (hleft : document.get? "left" = some left) (hright : document.get? "right" = some right) :
    ofJson document = (Operand.ofJson left).bind fun l => (Operand.ofJson right).map (compare op l) := by
  rw [ofJson]
  simp only [hname, hconnective, hop, hleft, hright]
  cases Operand.ofJson left <;> cases Operand.ofJson right <;> rfl

theorem ofItems_eq_mapM (items : List Json) : ofItems items = items.mapM ofJson := by
  induction items with
  | nil => rw [ofItems]; rfl
  | cons item rest ih =>
    rw [ofItems, List.mapM_cons, ih]
    cases ofJson item with
    | error e => rfl
    | ok child => cases rest.mapM ofJson <;> rfl

theorem ofJson_of_junction {op : Connective} {items : List Json} (hname : document.get? "op" = some (.string name))
    (hop : Connective.ofName? name = some op) (hchildren : document.get? "children" = some (.array items))
    (hne : items ≠ []) : ofJson document = (items.mapM ofJson).map (junction op) := by
  rw [ofJson]
  simp only [hname, hop]
  split
  · rename_i found hfound
    obtain rfl : found = items := by simpa [hfound] using hchildren
    rw [if_neg (by simpa using hne), ofItems_eq_mapM]
    cases found.mapM ofJson <;> rfl
  · rename_i hnone
    exact absurd hchildren (hnone _)

/-- A comparison as it is written. -/
theorem ofJson_compare (op : Comparison) {l r : Operand} (hleft : Operand.ofJson left = .ok l)
    (hright : Operand.ofJson right = .ok r) :
    ofJson (.object [("left", left), ("op", .string op.name), ("right", right)]) = .ok (compare op l r) := by
  have hread : ofJson (.object [("left", left), ("op", .string op.name), ("right", right)]) = _ :=
    ofJson_of_comparison rfl op.not_connective op.ofName?_name rfl rfl
  rw [hread, hleft, hright]
  rfl

/-- A junction as it is written. -/
theorem ofJson_junction (op : Connective) {items : List Json} {children : List Condition} (hne : items ≠ [])
    (hread : items.mapM ofJson = .ok children) :
    ofJson (.object [("children", .array items), ("op", .string op.name)]) = .ok (junction op children) := by
  have hitems : ofJson (.object [("children", .array items), ("op", .string op.name)]) = _ :=
    ofJson_of_junction rfl op.ofName?_name rfl hne
  rw [hitems, hread]
  rfl

/-- What the reader makes conditions from: operands that can be read, and at least one child. -/
theorem ofJson_eq_ok {c : Condition} (h : ofJson document = .ok c) :
    (∃ op left right l r, document.get? "op" = some (.string op.name) ∧ document.get? "left" = some left ∧
        document.get? "right" = some right ∧ Operand.ofJson left = .ok l ∧ Operand.ofJson right = .ok r ∧
        c = compare op l r) ∨
      ∃ op items children, document.get? "op" = some (.string op.name) ∧
        document.get? "children" = some (.array items) ∧ items ≠ [] ∧ items.mapM ofJson = .ok children ∧
        c = junction op children := by
  rw [ofJson] at h
  split at h
  · rename_i name hname
    split at h
    · rename_i op hop
      obtain rfl := Connective.name_of_ofName? hop
      split at h
      · rename_i items hchildren
        split at h
        · cases h
        · rename_i hempty
          split at h
          · rename_i children hread
            rw [ofItems_eq_mapM] at hread
            exact .inr ⟨op, items, children, hname, hchildren, by simpa using hempty, hread, (Except.ok.inj h).symm⟩
          · cases h
      · cases h
    · split at h
      · cases h
      · rename_i op hop
        obtain rfl := Comparison.name_of_ofName? hop
        split at h
        · cases h
        · split at h
          · cases h
          · rename_i left hleft _ right hright
            cases hl : Operand.ofJson left with
            | error e => simp [hl, bind, Except.bind] at h
            | ok l =>
              cases hr : Operand.ofJson right with
              | error e => simp [hl, hr, bind, Except.bind] at h
              | ok r =>
                rw [hl, hr] at h
                exact .inl ⟨op, left, right, l, r, hname, hleft, hright, hl, hr, (Except.ok.inj h).symm⟩
  · cases h

end Condition

end Repricing
