import Repricing.Proofs.Document.Record
import Repricing.Proofs.Json.Sorted

namespace Repricing

namespace Json

/-- The members hold what is written, each value as `f` leaves it. -/
def Holds (f : Json → Json) (written members : List (String × Json)) : Prop :=
  ∀ name, members.lookup name = (written.lookup name).map f

/-- Documents keep their parts under `f`, except that the members of an object may move. -/
structure Rearranges (f : Json → Json) : Prop where
  null : f null = null
  bool (b : Bool) : f (bool b) = bool b
  number (n : Number) : f (number n) = number n
  string (s : String) : f (string s) = string s
  array (items : List Json) : f (array items) = array (items.map f)
  object (written : List (String × Json)) (h : (written.map Prod.fst).Nodup) :
    ∃ members, f (object written) = object members ∧ Holds f written members

theorem Holds.mem_written {f : Json → Json} {written members : List (String × Json)} (h : Holds f written members)
    {m : String × Json} (hm : m ∈ members) : m.1 ∈ written.map Prod.fst := by
  refine Decidable.byContradiction fun hmem => ?_
  have hnone := h m.1
  rw [lookup_eq_none_of_not_mem hmem, Option.map_none, List.lookup_eq_none_iff] at hnone
  exact absurd rfl (bne_iff_ne.mp (hnone m hm))

theorem rearranges_id : Rearranges id where
  null := rfl
  bool _ := rfl
  number _ := rfl
  string _ := rfl
  array items := by simp
  object written _ := ⟨written, rfl, fun name => by simp⟩

theorem rearranges_sorted : Rearranges sorted where
  null := by rw [sorted]
  bool _ := by rw [sorted]
  number _ := by rw [sorted]
  string _ := by rw [sorted]
  array items := by rw [sorted, sortedItems_eq_map]
  object written h := by
    refine ⟨sortMembers (sortedMembers written), by rw [sorted], ?_⟩
    intro name
    rw [lookup_sortMembers (by rwa [map_fst_sortedMembers]), lookup_sortedMembers]

end Json

open Json

section Reads

variable {α β : Type} {f : Json → Json} {written others : List (String × Json)} {fields : Fields (α → β)}
  {x : Fields α} {g : α → β} {a : α} {name : String} {value : Decoder α} {document : Json}

/-- What is written of a record: members under names of its fields, from which the fields are read as `a` in whatever
object they stand. -/
structure Fields.Reads (f : Json → Json) (fields : Fields α) (written : List (String × Json)) (a : α) : Prop where
  nodup : (written.map Prod.fst).Nodup
  subset : written.map Prod.fst ⊆ fields.names
  ofMembers (members : List (String × Json))
    (h : ∀ name ∈ fields.names, members.lookup name = (written.lookup name).map f) : fields.ofMembers members = .ok a

/-- What can be read without null is read the same where null is allowed. -/
theorem Decoder.optional_eq_ok {e : DecodeError} (hnull : value .null = .error e) (hvalue : value document = .ok a) :
    Decoder.optional value document = .ok (some a) := by
  unfold Decoder.optional
  split
  · rw [hnull] at hvalue
    cases hvalue
  · rw [hvalue]
    rfl

namespace Fields

theorem Reads.none (a : α) : (none a).Reads f [] a := ⟨.nil, by simp, fun _ _ => rfl⟩

theorem Reads.more (hfields : fields.Reads f written g) (hx : x.Reads f others a)
    (hnames : ∀ name ∈ fields.names, name ∉ x.names) : (fields.more x).Reads f (written ++ others) (g a) where
  nodup := by
    rw [List.map_append, List.nodup_append]
    refine ⟨hfields.nodup, hx.nodup, ?_⟩
    rintro name hname _ hother rfl
    exact hnames name (hfields.subset hname) (hx.subset hother)
  subset := by
    rw [List.map_append]
    exact List.append_subset.mpr ⟨fun _ h => List.mem_append_left _ (hfields.subset h),
      fun _ h => List.mem_append_right _ (hx.subset h)⟩
  ofMembers members h := by
    refine ofMembers_more_eq_ok (hfields.ofMembers members fun name hname => ?_)
      (hx.ofMembers members fun name hname => ?_)
    · have hother := lookup_eq_none_of_not_mem fun hother => hnames name hname (hx.subset hother)
      rw [h name (List.mem_append_left _ hname), List.lookup_append, hother, Option.or_none]
    · have hwritten := lookup_eq_none_of_not_mem fun hwritten => hnames name (hfields.subset hwritten) hname
      rw [h name (List.mem_append_right _ hname), List.lookup_append, hwritten, Option.none_or]

/-- A field that is written is read from what is written. -/
theorem Reads.field (absent leftOff : Option α) (hvalue : value (f document) = .ok a) :
    (field name value absent leftOff).Reads f [(name, document)] a where
  nodup := by simp
  subset := by simp [Fields.field]
  ofMembers members h := by
    have hlookup : members.lookup name = some (f document) := by simpa using h name List.mem_cons_self
    exact ofMembers_field_eq_ok hlookup hvalue

/-- A field that is left out has its own value. -/
theorem Reads.absent (leftOff : Option α) : (Fields.field name value (some a) leftOff).Reads f [] a where
  nodup := .nil
  subset := by simp
  ofMembers members h := ofMembers_field_of_absent (h name List.mem_cons_self)

theorem Reads.required (hvalue : value (f document) = .ok a) : (required name value).Reads f [(name, document)] a :=
  .field _ _ hvalue

theorem Reads.optional {given : Option α} {toJson : α → Json} {e : DecodeError} (hnull : value .null = .error e)
    (hvalue : ∀ a, value (f (toJson a)) = .ok a) :
    (optional name value).Reads f (optionalMember name toJson given) given := by
  cases given with
  | none => exact .absent _
  | some a => exact .field _ _ (Decoder.optional_eq_ok hnull (hvalue a))

end Fields

/-- An open record is read from what is written of it, among whatever other members. -/
theorem RecordShape.ofMembers_of_reads {shape : RecordShape α} (hopen : shape.closed = false)
    (h : shape.fields.Reads f written a) {members : List (String × Json)}
    (hmembers : ∀ name ∈ shape.fields.names, members.lookup name = (written.lookup name).map f) :
    shape.ofMembers members = .ok a := by
  have hread := decode_object_of_open hopen .direct members
  rw [h.ofMembers members hmembers] at hread
  exact hread

/-- A record is read from what is written of it, in whatever order. -/
theorem RecordShape.decode_of_reads {shape : RecordShape α} (hf : Rearranges f)
    (h : shape.fields.Reads f written a) (setting : Setting) : shape.decode setting (f (.object written)) = .ok a := by
  obtain ⟨members, hmembers, hholds⟩ := hf.object written h.nodup
  have hsurplus : shape.surplus? members = none := by
    unfold surplus?
    split
    · rw [Option.map_eq_none_iff, List.find?_eq_none]
      intro m hm
      simpa using h.subset (hholds.mem_written hm)
    · rfl
  rw [hmembers, decode, ofMembers, h.ofMembers members fun name _ => hholds name, hsurplus]

end Reads

end Repricing
