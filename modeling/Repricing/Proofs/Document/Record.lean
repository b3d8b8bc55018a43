import Repricing.Document.Record

namespace Repricing

namespace Fields

variable {α β : Type} {members : List (String × Json)} {f : Fields (α → β)} {x : Fields α} {g : α → β} {a : α}
  {name : String} {value : Decoder α} {document : Json} {absent leftOff : Option α}

/-- Behind fields that can be read, one more field decides. -/
theorem ofMembers_more (h : f.ofMembers members = .ok g) :
    (f.more x).ofMembers members = (x.ofMembers members).map g := by
  simp only [more, h]
  cases x.ofMembers members <;> rfl

/-- A field that can be read leaves the decision to the fields before it. -/
theorem ofMembers_more_of_ok (h : x.ofMembers members = .ok a) :
    (f.more x).ofMembers members = (f.ofMembers members).map fun g => g a := by
  simp only [more, h]
  cases f.ofMembers members <;> rfl

theorem ofMembers_more_eq_ok (hf : f.ofMembers members = .ok g) (hx : x.ofMembers members = .ok a) :
    (f.more x).ofMembers members = .ok (g a) := by
  rw [ofMembers_more hf, hx]
  rfl

/-- Fields can be read only if the last one can. -/
theorem exists_of_more_eq_ok {b : β} (h : (f.more x).ofMembers members = .ok b) : ∃ a, x.ofMembers members = .ok a := by
  cases hx : x.ofMembers members with
  | ok a => exact ⟨a, rfl⟩
  | error e =>
    simp only [more, hx] at h
    cases hf : f.ofMembers members <;> simp [hf] at h

theorem ofMembers_field (h : members.lookup name = some document) :
    (field name value absent leftOff).ofMembers members = (value document).mapError (FieldFault.bad name) := by
  simp only [field, h]
  cases value document <;> rfl

theorem ofMembers_field_eq_ok (h : members.lookup name = some document) (hvalue : value document = .ok a) :
    (field name value absent leftOff).ofMembers members = .ok a := by
  rw [ofMembers_field h, hvalue]
  rfl

theorem ofMembers_required (h : members.lookup name = some document) (hvalue : value document = .ok a) :
    (required name value).ofMembers members = .ok a :=
  ofMembers_field_eq_ok h hvalue

theorem ofMembers_required_of_absent (h : members.lookup name = Option.none) :
    (required name value).ofMembers members = .error (.missing name) := by
  simp only [required, field, h]

theorem ofMembers_field_of_absent (h : members.lookup name = Option.none) :
    (field name value (some a) leftOff).ofMembers members = .ok a := by
  simp only [field, h]

end Fields

theorem RecordShape.decode_object_of_open {α : Type} {shape : RecordShape α} (h : shape.closed = false)
    (setting : Setting) (members : List (String × Json)) :
    shape.decode setting (.object members) = (shape.fields.ofMembers members).mapError FieldFault.toError := by
  simp only [decode, ofMembers, surplus?, h]
  cases shape.fields.ofMembers members <;> rfl

end Repricing
