import Repricing.Proofs.Condition.RoundTrip

namespace Repricing

section Relation

mutual

/-- The second value is the first one without some of its fields and elements, at any depth. -/
inductive Value.PrunesTo : Value → Value → Prop
  | number (d : Decimal) : PrunesTo (.number d) (.number d)
  | text (s : String) : PrunesTo (.text s) (.text s)
  | bool (b : Bool) : PrunesTo (.bool b) (.bool b)
  | record {fields fields' : List (String × Value)} (h : FieldsPruneTo fields fields') :
      PrunesTo (.record fields) (.record fields')
  | list {slots slots' : List (Option Value)} (h : SlotsPruneTo slots slots') : PrunesTo (.list slots) (.list slots')

/-- Fields are kept, or deleted. A key whose field is deleted is not there any more. -/
inductive Value.FieldsPruneTo : List (String × Value) → List (String × Value) → Prop
  | nil : FieldsPruneTo [] []
  | keep (key : String) {v v' : Value} {rest rest' : List (String × Value)} (h : PrunesTo v v')
      (hrest : FieldsPruneTo rest rest') : FieldsPruneTo ((key, v) :: rest) ((key, v') :: rest')
  | delete (key : String) (v : Value) {rest rest' : List (String × Value)} (hrest : FieldsPruneTo rest rest')
      (hgone : rest'.lookup key = none) : FieldsPruneTo ((key, v) :: rest) rest'

/-- Places of a list are kept, or emptied; none moves. -/
inductive Value.SlotsPruneTo : List (Option Value) → List (Option Value) → Prop
  | nil : SlotsPruneTo [] []
  | empty {rest rest' : List (Option Value)} (hrest : SlotsPruneTo rest rest') :
      SlotsPruneTo (none :: rest) (none :: rest')
  | keep {v v' : Value} {rest rest' : List (Option Value)} (h : PrunesTo v v') (hrest : SlotsPruneTo rest rest') :
      SlotsPruneTo (some v :: rest) (some v' :: rest')
  | blank (v : Value) {rest rest' : List (Option Value)} (hrest : SlotsPruneTo rest rest') :
      SlotsPruneTo (some v :: rest) (none :: rest')

end

/-- The second context is the first one without some of its data. -/
structure Context.PrunesTo (c c' : Context) : Prop where
  payload : Value.FieldsPruneTo c.payload c'.payload
  sku : Value.FieldsPruneTo c.sku c'.sku

def Value.IsScalar : Value → Prop
  | number _ | text _ | bool _ => True
  | record _ | list _ => False

/-- A path, or a scalar as a literal. -/
def Operand.AsksForData : Operand → Prop
  | path _ => True
  | literal v => v.IsScalar
  | absent => False

def Operand.IsLiteral (o : Operand) : Prop := ∃ v, o = literal v

/-- The condition asks for data that is there: it has no "neq" and no absent operand, its literals are scalars, and one
side of every "eq" is a literal. -/
inductive Condition.IsPositive : Condition → Prop
  | compare {op : Comparison} {left right : Operand} (hop : op ≠ .neq) (hleft : left.AsksForData)
      (hright : right.AsksForData) (heq : op = .eq → left.IsLiteral ∨ right.IsLiteral) :
      IsPositive (.compare op left right)
  | junction (op : Connective) {children : List Condition} (h : ∀ child ∈ children, IsPositive child) :
      IsPositive (.junction op children)

end Relation

namespace Value

mutual

theorem PrunesTo.refl : ∀ v : Value, v.PrunesTo v
  | number d => .number d
  | text s => .text s
  | bool b => .bool b
  | record fields => .record (FieldsPruneTo.refl fields)
  | list slots => .list (SlotsPruneTo.refl slots)

theorem FieldsPruneTo.refl : ∀ fields : List (String × Value), FieldsPruneTo fields fields
  | [] => .nil
  | (key, v) :: rest => .keep key (PrunesTo.refl v) (FieldsPruneTo.refl rest)

theorem SlotsPruneTo.refl : ∀ slots : List (Option Value), SlotsPruneTo slots slots
  | [] => .nil
  | none :: rest => .empty (SlotsPruneTo.refl rest)
  | some v :: rest => .keep (PrunesTo.refl v) (SlotsPruneTo.refl rest)

end

section Find

variable {v v' w' : Value} {fields fields' : List (String × Value)} {slots slots' : List (Option Value)} {key : String}

/-- A record that holds each key once can lose any of its fields. -/
theorem FieldsPruneTo.of_sublist (h : fields'.Sublist fields) (hkeys : (fields.map Prod.fst).Nodup) :
    FieldsPruneTo fields fields' := by
  induction h with
  | slnil => exact .nil
  | @cons kept rest m hkept ih =>
    obtain ⟨hm, hrest⟩ := List.nodup_cons.mp hkeys
    refine .delete m.1 m.2 (ih hrest) (List.lookup_eq_none_iff.mpr fun other hother => ?_)
    have hmem : other.1 ∈ rest.map Prod.fst := List.mem_map_of_mem (hkept.subset hother)
    exact bne_iff_ne.mpr fun heq => hm (heq ▸ hmem)
  | cons_cons m _ ih => exact .keep m.1 (PrunesTo.refl m.2) (ih (List.nodup_cons.mp hkeys).2)

theorem FieldsPruneTo.lookup (h : FieldsPruneTo fields fields') (hfound : fields'.lookup key = some w') :
    ∃ w, fields.lookup key = some w ∧ w.PrunesTo w' := by
  induction fields generalizing fields' with
  | nil =>
    cases h
    cases hfound
  | cons m rest ih =>
    cases h with
    | keep k hv hrest =>
      rw [List.lookup_cons] at hfound ⊢
      split at hfound
      · exact ⟨_, rfl, Option.some.inj hfound ▸ hv⟩
      · exact ih hrest hfound
    | delete k v hrest hgone =>
      have hne : (key == k) = false := by
        refine beq_false_of_ne ?_
        rintro rfl
        rw [hgone] at hfound
        cases hfound
      rw [List.lookup_cons, hne]
      exact ih hrest hfound

theorem SlotsPruneTo.getElem? (h : SlotsPruneTo slots slots') {n : Nat} (hfound : slots'[n]?.join = some w') :
    ∃ w, slots[n]?.join = some w ∧ w.PrunesTo w' := by
  induction slots generalizing slots' n with
  | nil =>
    cases h
    cases hfound
  | cons slot rest ih =>
    cases n with
    | zero =>
      cases h with
      | keep hv => exact ⟨_, rfl, Option.some.inj hfound ▸ hv⟩
      | empty => cases hfound
      | blank => cases hfound
    | succ n => cases h <;> exact ih ‹_› hfound

theorem PrunesTo.step? (h : v.PrunesTo v') {segment : String} (hfound : Context.step? segment v' = some w') :
    ∃ w, Context.step? segment v = some w ∧ w.PrunesTo w' := by
  cases h with
  | record hfields => exact hfields.lookup hfound
  | list hslots =>
    obtain ⟨n, hn, hslot⟩ := Option.bind_eq_some_iff.mp hfound
    obtain ⟨w, hw, hprune⟩ := hslots.getElem? hslot
    exact ⟨w, Option.bind_eq_some_iff.mpr ⟨n, hn, hw⟩, hprune⟩
  | _ => cases hfound

/-- Every step of a path that leads on in the pruned value leads on in the whole one. -/
theorem PrunesTo.follow (h : v.PrunesTo v') {segments : List String} (hfound : Context.follow segments v' = some w') :
    ∃ w, Context.follow segments v = some w ∧ w.PrunesTo w' := by
  induction segments generalizing v v' with
  | nil => exact ⟨v, rfl, Option.some.inj hfound ▸ h⟩
  | cons segment rest ih =>
    obtain ⟨next', hnext', hrest⟩ := Option.bind_eq_some_iff.mp hfound
    obtain ⟨next, hnext, hprune⟩ := h.step? hnext'
    obtain ⟨w, hw, hprune⟩ := ih hprune hrest
    exact ⟨w, Option.bind_eq_some_iff.mpr ⟨next, hnext, hw⟩, hprune⟩

/-- A scalar is never what is left of something else. -/
theorem PrunesTo.eq_of_isScalar (h : v.PrunesTo v') (hscalar : v'.IsScalar) : v = v' := by
  cases h with
  | record => cases hscalar
  | list => cases hscalar
  | _ => rfl

/-- Only a scalar equals a scalar. -/
theorem isScalar_of_same (hscalar : v.IsScalar) (h : v.same v' = true ∨ v'.same v = true) : v'.IsScalar := by
  cases v <;> cases v' <;> simp_all [IsScalar, same]

end Find

end Value

namespace Context.PrunesTo

variable {c c' : Context} {o left right : Operand} {v' : Value} {op : Comparison}

theorem resolve (h : c.PrunesTo c') {p : Path} (hfound : c'.resolve p = some v') :
    ∃ v, c.resolve p = some v ∧ v.PrunesTo v' := by
  refine Value.PrunesTo.follow (.record ?_) hfound
  cases p.root with
  | payload => exact h.payload
  | sku => exact h.sku

theorem operand (h : c.PrunesTo c') (hfound : c'.operand o = some v') :
    ∃ v, c.operand o = some v ∧ v.PrunesTo v' := by
  cases o with
  | path p => exact h.resolve hfound
  | literal v => exact ⟨v, rfl, Option.some.inj hfound ▸ .refl v⟩
  | absent => cases hfound

theorem operand_of_isScalar (h : c.PrunesTo c') (hfound : c'.operand o = some v') (hscalar : v'.IsScalar) :
    c.operand o = some v' := by
  obtain ⟨v, hv, hprune⟩ := h.operand hfound
  rw [hv, hprune.eq_of_isScalar hscalar]

theorem asNumber? (h : c.PrunesTo c') {d : Decimal} (hfound : (c'.operand o).bind Value.asNumber? = some d) :
    (c.operand o).bind Value.asNumber? = some d := by
  obtain ⟨v', hv', hnumber⟩ := Option.bind_eq_some_iff.mp hfound
  cases v' with
  | number e => exact Option.bind_eq_some_iff.mpr ⟨_, h.operand_of_isScalar hv' trivial, hnumber⟩
  | _ => cases hnumber

theorem ordered (h : c.PrunesTo c') {relation : Decimal → Decimal → Bool}
    (hholds : Condition.holdsBetween.ordered (c'.operand left) (c'.operand right) relation = true) :
    Condition.holdsBetween.ordered (c.operand left) (c.operand right) relation = true := by
  unfold Condition.holdsBetween.ordered at hholds ⊢
  split at hholds
  · rename_i a b ha hb
    rwa [h.asNumber? ha, h.asNumber? hb]
  · cases hholds

/-- What equals a literal is there, and it is not touched by pruning. -/
theorem operand_of_same {v : Value} (h : c.PrunesTo c') (hscalar : v.IsScalar)
    (hsame : Value.same? (some v) (c'.operand o) = true ∨ Value.same? (c'.operand o) (some v) = true) :
    c.operand o = c'.operand o := by
  cases hfound : c'.operand o with
  | none =>
    rw [hfound] at hsame
    rcases hsame with hsame | hsame <;> cases hsame
  | some v' =>
    rw [hfound] at hsame
    exact h.operand_of_isScalar hfound (Value.isScalar_of_same hscalar hsame)

theorem same? (h : c.PrunesTo c') (hleft : left.AsksForData) (hright : right.AsksForData)
    (hliteral : left.IsLiteral ∨ right.IsLiteral)
    (hholds : Value.same? (c'.operand left) (c'.operand right) = true) :
    Value.same? (c.operand left) (c.operand right) = true := by
  rcases hliteral with ⟨v, rfl⟩ | ⟨v, rfl⟩
  · rw [h.operand_of_same hleft (.inl hholds)]
    exact hholds
  · rw [h.operand_of_same hright (.inr hholds)]
    exact hholds

theorem holdsBetween (h : c.PrunesTo c') (hpositive : (Condition.compare op left right).IsPositive)
    (hholds : Condition.holdsBetween op (c'.operand left) (c'.operand right) = true) :
    Condition.holdsBetween op (c.operand left) (c.operand right) = true := by
  cases hpositive with
  | compare hop hleft hright heq =>
    cases op with
    | eq => exact h.same? hleft hright (heq rfl) hholds
    | neq => exact absurd rfl hop
    | lt => exact h.ordered hholds
    | lte => exact h.ordered hholds
    | gt => exact h.ordered hholds
    | gte => exact h.ordered hholds

end Context.PrunesTo

/-- A condition that asks for data that is there, and holds where some of the data is missing, holds with all of it. -/
theorem holds_of_prunesTo {condition : Condition} {c c' : Context} (hpositive : condition.IsPositive)
    (hprune : c.PrunesTo c') (hholds : condition.holds c' = true) : condition.holds c = true := by
  induction hpositive with
  | compare hop hleft hright heq =>
    rw [Condition.holds] at hholds ⊢
    exact hprune.holdsBetween (.compare hop hleft hright heq) hholds
  | junction op _ ih =>
    cases op with
    | all =>
      rw [Condition.holds_all, List.all_eq_true] at hholds ⊢
      exact fun child hchild => ih child hchild (hholds child hchild)
    | any =>
      rw [Condition.holds_any, List.any_eq_true] at hholds ⊢
      obtain ⟨child, hchild, hholds⟩ := hholds
      exact ⟨child, hchild, ih child hchild hholds⟩

/-- Without the old price, the maker's address and the first tag, the brand and the new price still decide. -/
theorem holds_of_prunesTo_brand :
    let condition : Condition := .junction .any
      [.compare .eq (.path ⟨.sku, "attributes.tags.0".toList⟩) (.literal (.text "sale")),
        .junction .all
          [.compare .lt (.path ⟨.payload, "newPrice".toList⟩) (.path ⟨.sku, "currentPrice".toList⟩),
            .compare .eq (.literal (.text "Acme")) (.path ⟨.sku, "attributes.brand.name".toList⟩)]]
    let brand : List (String × Value) := [("address", .text "Main Street"), ("name", .text "Acme")]
    let whole : Context :=
      ⟨[("newPrice", .number (.ofNat 95)), ("oldPrice", .number (.ofNat 99))],
        [("attributes", .record [("brand", .record brand), ("tags", .list [some (.text "sale"), some (.text "new")])]),
          ("currentPrice", .number .hundred)]⟩
    let pruned : Context :=
      ⟨[("newPrice", .number (.ofNat 95))],
        [("attributes", .record [("brand", .record (brand.drop 1)), ("tags", .list [none, some (.text "new")])]),
          ("currentPrice", .number .hundred)]⟩
    condition.IsPositive ∧ whole.PrunesTo pruned ∧ condition.holds pruned = true ∧ condition.holds whole = true := by
  intro condition brand whole pruned
  have hpositive : condition.IsPositive := by
    refine .junction _ (List.forall_mem_cons.mpr ⟨?_, List.forall_mem_singleton.mpr (.junction _ ?_)⟩)
    · exact .compare (by decide) trivial trivial fun _ => .inr ⟨_, rfl⟩
    · refine List.forall_mem_cons.mpr ⟨?_, List.forall_mem_singleton.mpr ?_⟩
      · exact .compare (by decide) trivial trivial (fun h => by cases h)
      · exact .compare (by decide) trivial trivial fun _ => .inl ⟨_, rfl⟩
  have hprune : whole.PrunesTo pruned := by
    constructor
    · exact .of_sublist (List.take_sublist 1 whole.payload) (by decide)
    · have hbrand : Value.FieldsPruneTo brand (brand.drop 1) := .of_sublist (List.drop_sublist 1 brand) (by decide)
      have htags : Value.SlotsPruneTo [some (.text "sale"), some (.text "new")] [none, some (.text "new")] :=
        .blank _ (.refl _)
      exact .keep _ (.record (.keep _ (.record hbrand) (.keep _ (.list htags) .nil))) (.refl _)
  have hholds : condition.holds pruned = true := by decide +kernel
  exact ⟨hpositive, hprune, hholds, holds_of_prunesTo hpositive hprune hholds⟩

end Repricing
