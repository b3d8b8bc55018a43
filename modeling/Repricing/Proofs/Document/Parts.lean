import Mathlib.Data.List.Basic
import Repricing.Proofs.Document.Record

namespace Repricing

section Parts

/-- The part of a record that belongs to a field: the member of its name, or the item at its place. -/
def Json.part? (name : String) (place : Nat) : Json → Option Json
  | object members => members.lookup name
  | array items => items[place]?
  | _ => none

/-- The document can be a record of so many fields: an object, or an array without more items. -/
def Json.IsRecord (count : Nat) : Json → Prop
  | object _ => True
  | array items => items.length ≤ count
  | _ => False

/-- A part that may be null or left out has a value exactly if it is neither. -/
inductive Json.IsOptional {α : Type} (R : Json → α → Prop) : Option Json → Option α → Prop
  | absent : IsOptional R none none
  | null : IsOptional R (some .null) none
  | value {part : Json} {a : α} (h : R part a) : IsOptional R (some part) (some a)

/-- The fields are read from the parts of a record, counted from a place, exactly as the relation says. -/
structure Fields.ReadBy {α : Type} (fields : Fields α) (R : Nat → Json → α → Prop) : Prop where
  ofMembers_iff (members : List (String × Json)) (place : Nat) (a : α) :
    fields.ofMembers members = .ok a ↔ R place (.object members) a
  ofItems_iff (items : List Json) (place : Nat) (a : α) (next : Nat) (rest : List Json) :
    fields.ofItems place (items.drop place) = .ok (a, next, rest) ↔
      R place (.array items) a ∧ next = place + fields.names.length ∧ rest = items.drop next

end Parts

theorem Json.isOptional_none_iff {α : Type} {R : Json → α → Prop} {a : Option α} :
    IsOptional R none a ↔ a = none := by
  constructor
  · rintro ⟨⟩
    rfl
  · rintro rfl
    exact .absent

theorem Decoder.optional_eq_ok_iff {α : Type} {value : Decoder α} {R : Json → α → Prop}
    (h : ∀ part a, value part = .ok a ↔ R part a) (hnull : ∀ a, ¬R .null a) {part : Json} {a : Option α} :
    optional value part = .ok a ↔ Json.IsOptional R (some part) a := by
  by_cases hpart : part = .null
  · subst hpart
    rw [optional]
    constructor
    · rintro ⟨⟩
      exact .null
    · rintro (_ | _ | hvalue)
      · rfl
      · exact absurd hvalue (hnull _)
  · rw [optional.eq_2 value part hpart]
    constructor
    · cases hvalue : value part with
      | error e => rintro ⟨⟩
      | ok b =>
        rintro ⟨⟩
        exact .value ((h part b).mp hvalue)
    · rintro (_ | _ | hvalue)
      · exact absurd rfl hpart
      · rw [(h part _).mpr hvalue]
        rfl

namespace Fields

variable {α β : Type} {f : Fields (α → β)} {x : Fields α} {F : Nat → Json → (α → β) → Prop}
  {X Y : Nat → Json → α → Prop}

theorem ReadBy.congr (hx : x.ReadBy X) (h : ∀ place document a, X place document a ↔ Y place document a) :
    x.ReadBy Y where
  ofMembers_iff members place a := by rw [hx.ofMembers_iff members place, h]
  ofItems_iff items place a next rest := by rw [hx.ofItems_iff, h]

theorem ReadBy.none (a : α) : (none a).ReadBy fun _ _ b => a = b where
  ofMembers_iff members place b := by simp [Fields.none]
  ofItems_iff items place b next rest := by
    simp only [Fields.none, Except.ok.injEq, Prod.mk.injEq, List.length_nil, Nat.add_zero]
    constructor
    · rintro ⟨rfl, rfl, rfl⟩
      exact ⟨rfl, rfl, rfl⟩
    · rintro ⟨rfl, rfl, rfl⟩
      exact ⟨rfl, rfl, rfl⟩

theorem ofItems_more_eq_ok_iff {items rest : List Json} {place next : Nat} {b : β} :
    (f.more x).ofItems place items = .ok (b, next, rest) ↔
      ∃ g middle left a, f.ofItems place items = .ok (g, middle, left) ∧
        x.ofItems middle left = .ok (a, next, rest) ∧ g a = b := by
  simp only [Fields.more]
  cases f.ofItems place items with
  | error e => simp
  | ok found =>
    obtain ⟨g, middle, left⟩ := found
    dsimp only
    cases hx : x.ofItems middle left with
    | error e => simp [hx]
    | ok last =>
      obtain ⟨a, next', rest'⟩ := last
      constructor
      · rintro ⟨⟩
        exact ⟨g, middle, left, a, rfl, hx, rfl⟩
      · rintro ⟨g', middle', left', a', hg, ha, rfl⟩
        cases hg
        cases hx.symm.trans ha
        rfl

theorem ReadBy.more (hf : f.ReadBy F) (hx : x.ReadBy X) :
    (f.more x).ReadBy fun place document b =>
      ∃ g a, F place document g ∧ X (place + f.names.length) document a ∧ g a = b where
  ofMembers_iff members place b := by
    simp only [← hf.ofMembers_iff, ← hx.ofMembers_iff, Fields.more]
    cases f.ofMembers members <;> cases x.ofMembers members <;> simp
  ofItems_iff items place b next rest := by
    have hnames : (f.more x).names.length = f.names.length + x.names.length := List.length_append
    rw [ofItems_more_eq_ok_iff, hnames, ← Nat.add_assoc]
    constructor
    · rintro ⟨g, middle, left, a, hfront, hlast, rfl⟩
      obtain ⟨hg, rfl, rfl⟩ := (hf.ofItems_iff ..).mp hfront
      obtain ⟨ha, rfl, rfl⟩ := (hx.ofItems_iff ..).mp hlast
      exact ⟨⟨g, a, hg, ha, rfl⟩, rfl, rfl⟩
    · rintro ⟨⟨g, a, hg, ha, rfl⟩, rfl, rfl⟩
      exact ⟨g, _, _, a, (hf.ofItems_iff ..).mpr ⟨hg, rfl, rfl⟩, (hx.ofItems_iff ..).mpr ⟨ha, rfl, rfl⟩, rfl⟩

/-- A field has its own value if its part is not there, in an object or in an array. -/
theorem ReadBy.field (name : String) (value : Decoder α) (default : Option α) :
    (field name value default default).ReadBy fun place document a =>
      match document.part? name place with
      | some part => value part = .ok a
      | .none => default = some a where
  ofMembers_iff members place a := by
    simp only [Fields.field, Json.part?]
    cases members.lookup name with
    | none => cases default <;> simp
    | some part =>
      dsimp only
      cases value part <;> simp
  ofItems_iff items place a next rest := by
    simp only [Fields.field, Json.part?, List.length_singleton]
    rcases Nat.lt_or_ge place items.length with hlt | hge
    · rw [List.drop_eq_getElem_cons hlt, List.getElem?_eq_getElem hlt]
      dsimp only
      cases value items[place] with
      | error e => simp
      | ok b =>
        simp only [Except.ok.injEq, Prod.mk.injEq]
        constructor
        · rintro ⟨rfl, rfl, rfl⟩
          exact ⟨rfl, rfl, rfl⟩
        · rintro ⟨rfl, rfl, rfl⟩
          exact ⟨rfl, rfl, rfl⟩
    · rw [List.drop_eq_nil_of_le hge, List.getElem?_eq_none hge]
      cases default with
      | none => simp
      | some b =>
        simp only [Except.ok.injEq, Prod.mk.injEq, Option.some.injEq]
        constructor
        · rintro ⟨rfl, rfl, rfl⟩
          exact ⟨rfl, rfl, (List.drop_eq_nil_of_le (Nat.le_succ_of_le hge)).symm⟩
        · rintro ⟨rfl, rfl, rfl⟩
          exact ⟨rfl, rfl, (List.drop_eq_nil_of_le (Nat.le_succ_of_le hge)).symm⟩

theorem ReadBy.required (name : String) {value : Decoder α} {R : Json → α → Prop}
    (h : ∀ part a, value part = .ok a ↔ R part a) :
    (required name value).ReadBy fun place document a => ∃ part, document.part? name place = some part ∧ R part a := by
  refine (ReadBy.field name value Option.none).congr fun place document a => ?_
  cases document.part? name place <;> simp [h]

theorem ReadBy.optional (name : String) {value : Decoder α} {R : Json → α → Prop}
    (h : ∀ part a, value part = .ok a ↔ R part a) (hnull : ∀ a, ¬R .null a) :
    (optional name value).ReadBy fun place document a => Json.IsOptional R (document.part? name place) a := by
  refine (ReadBy.field name (Decoder.optional value) (some Option.none)).congr fun place document a => ?_
  cases document.part? name place with
  | none => simp [Json.isOptional_none_iff, eq_comm]
  | some part =>
    dsimp only
    rw [Decoder.optional_eq_ok_iff h hnull]

end Fields

variable {α : Type} {shape : RecordShape α} {R : Nat → Json → α → Prop} {document : Json} {a : α}

theorem RecordShape.ofItems_eq_ok_iff {items : List Json} {setting : Setting} :
    shape.ofItems setting items = .ok a ↔ ∃ used, shape.fields.ofItems 0 items = .ok (a, used, []) := by
  unfold ofItems
  cases shape.fields.ofItems 0 items with
  | error fault => cases fault <;> simp
  | ok found =>
    obtain ⟨b, used, left⟩ := found
    cases left <;> simp

/-- An open record is read from its parts. -/
theorem RecordShape.decode_eq_ok_iff (hopen : shape.closed = false) (h : shape.fields.ReadBy R) {setting : Setting} :
    shape.decode setting document = .ok a ↔ document.IsRecord shape.fields.names.length ∧ R 0 document a := by
  cases document with
  | object members =>
    rw [decode_object_of_open hopen, ← h.ofMembers_iff members 0 a]
    cases shape.fields.ofMembers members <;> simp [Except.mapError, Json.IsRecord]
  | array items =>
    have hitems (used : Nat) := h.ofItems_iff items 0 a used []
    simp only [List.drop_zero, Nat.zero_add] at hitems
    rw [decode, ofItems_eq_ok_iff]
    simp only [hitems]
    constructor
    · rintro ⟨used, ha, rfl, hleft⟩
      exact ⟨List.drop_eq_nil_iff.mp hleft.symm, ha⟩
    · rintro ⟨hlength, ha⟩
      exact ⟨_, ha, rfl, (List.drop_eq_nil_of_le hlength).symm⟩
  | _ => simp [decode, Json.IsRecord]

end Repricing
