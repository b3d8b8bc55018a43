import Repricing.Context
import Repricing.Proofs.Decimal.Reading
import Repricing.Proofs.Document.Parts
import Repricing.Proofs.Json.Distinct

namespace Repricing

section Walk

/-- The segment writes the position: digits of a number within 64 bits, behind a plus sign or without one. -/
def Context.WritesPosition (segment : String) (n : Nat) : Prop :=
  ∃ digits, (segment.toList = digits ∨ segment.toList = '+' :: digits) ∧ digits ≠ [] ∧
    (∀ c ∈ digits, c.isDigit = true) ∧ Nat.ofDigitChars 10 digits 0 = n ∧ n < twoPow 64

/-- One segment further into a document: a member by its key, or an item by its position. -/
def Json.step? (segment : String) : Json → Option Json
  | object members => members.lookup segment
  | array items => (Context.position? segment).bind fun n => items[n]?
  | _ => none

def Json.walk? (segments : List String) (document : Json) : Option Json :=
  segments.foldlM (fun d segment => step? segment d) document

/-- The segments lead to a part of the document, through objects by key and through arrays by position. -/
inductive Json.LeadsTo : List String → Json → Json → Prop
  | here (document : Json) : LeadsTo [] document document
  | member {key : String} {rest : List String} {members : List (String × Json)} {next part : Json}
      (hmember : members.lookup key = some next) (hrest : LeadsTo rest next part) :
      LeadsTo (key :: rest) (.object members) part
  | item {segment : String} {rest : List String} {items : List Json} {n : Nat} {next part : Json}
      (hposition : Context.WritesPosition segment n) (hitem : items[n]? = some next) (hrest : LeadsTo rest next part) :
      LeadsTo (segment :: rest) (.array items) part

variable {segment : String} {segments rest : List String} {document part : Json} {n : Nat}

theorem Context.position?_eq_some_iff : position? segment = some n ↔ WritesPosition segment n := by
  constructor
  · exact Decimal.exists_digits_of_readCount?
  · rintro ⟨digits, htext, hne, hdigits, rfl, hlt⟩
    obtain ⟨hcount, hplus⟩ := Decimal.readCount?_of_isDigit hdigits hne hlt
    rw [position?]
    rcases htext with htext | htext
    · rw [htext, hcount]
    · rw [htext, hplus]

theorem Json.walk?_cons : document.walk? (segment :: rest) = (document.step? segment).bind (walk? rest) := rfl

theorem Json.walk?_eq_some_iff : document.walk? segments = some part ↔ LeadsTo segments document part := by
  induction segments generalizing document with
  | nil =>
    constructor
    · intro h
      obtain rfl := Option.some.inj h
      exact .here _
    · rintro ⟨⟩
      rfl
  | cons segment rest ih =>
    rw [walk?_cons, Option.bind_eq_some_iff]
    constructor
    · rintro ⟨next, hstep, hrest⟩
      cases document with
      | object members => exact .member hstep (ih.mp hrest)
      | array items =>
        obtain ⟨n, hn, hitem⟩ := Option.bind_eq_some_iff.mp hstep
        exact .item (Context.position?_eq_some_iff.mp hn) hitem (ih.mp hrest)
      | _ => cases hstep
    · intro h
      cases h with
      | member hmember hrest => exact ⟨_, hmember, ih.mpr hrest⟩
      | item hposition hitem hrest =>
        refine ⟨_, ?_, ih.mpr hrest⟩
        rw [step?, Context.position?_eq_some_iff.mpr hposition]
        exact hitem

end Walk

section Conversion

variable {segment : String} {document next : Json}

/-- A field that is dropped hides no other: none of its key is left. -/
theorem Value.lookup_fieldsOf {members : List (String × Json)} (h : (members.map Prod.fst).Nodup) (key : String) :
    (fieldsOf members).lookup key = (members.lookup key).bind ofJson := by
  induction members with
  | nil => rfl
  | cons m rest ih =>
    obtain ⟨k, item⟩ := m
    obtain ⟨hk, hrest⟩ := List.nodup_cons.mp h
    rw [fieldsOf, List.lookup_cons]
    by_cases hkey : key = k
    · subst hkey
      have hnone : (fieldsOf rest).lookup key = none := by
        rw [ih hrest, Json.lookup_eq_none_of_not_mem hk]
        rfl
      cases hitem : ofJson item <;> simp [hitem, hnone]
    · have hne : (key == k) = false := beq_eq_false_iff_ne.mpr hkey
      cases ofJson item <;> simp [List.lookup_cons, hne, ih hrest]

/-- A place that is emptied keeps its position. -/
theorem Value.join_getElem?_slotsOf (items : List Json) (n : Nat) :
    ((slotsOf items)[n]?).join = items[n]?.bind ofJson := by
  rw [slotsOf_eq_map, List.getElem?_map]
  cases items[n]? <;> rfl

theorem Json.KeysDistinct.step? (h : document.KeysDistinct) (hstep : document.step? segment = some next) :
    next.KeysDistinct := by
  cases h with
  | array h =>
    obtain ⟨n, -, hitem⟩ := Option.bind_eq_some_iff.mp hstep
    exact h next (List.mem_of_getElem? hitem)
  | object hkeys h => exact h (segment, next) (mem_of_lookup_eq_some hstep)
  | _ => cases hstep

/-- A step in a value is a step in its document. -/
theorem Value.step?_ofJson (h : document.KeysDistinct) (segment : String) :
    (ofJson document).bind (Context.step? segment) = (document.step? segment).bind ofJson := by
  cases h with
  | null => rfl
  | bool b => rfl
  | string s => rfl
  | number n =>
    rw [ofJson]
    cases n.toDecimal? <;> rfl
  | array h =>
    rw [ofJson, Option.bind_some, Context.step?, Json.step?, Option.bind_assoc]
    exact congrArg _ (funext fun n => join_getElem?_slotsOf _ n)
  | object hkeys h => exact lookup_fieldsOf hkeys segment

/-- Following segments in a value is walking them in its document. -/
theorem Value.follow_ofJson (h : document.KeysDistinct) (segments : List String) :
    (ofJson document).bind (Context.follow segments) = (document.walk? segments).bind ofJson := by
  induction segments generalizing document with
  | nil => cases h : ofJson document <;> simp [Context.follow, Json.walk?, h]
  | cons segment rest ih =>
    calc (ofJson document).bind (Context.follow (segment :: rest))
        = ((ofJson document).bind (Context.step? segment)).bind (Context.follow rest) := (Option.bind_assoc ..).symm
      _ = ((document.step? segment).bind ofJson).bind (Context.follow rest) := by rw [step?_ofJson h]
      _ = ((document.step? segment).bind (Json.walk? rest)).bind ofJson := by
        cases hstep : document.step? segment with
        | none => rfl
        | some next => exact ih (h.step? hstep)

end Conversion

section Text

variable {part : List Char} {parts : List (List Char)}

theorem Path.splitDots_ne_nil (text : List Char) : splitDots text ≠ [] := by
  cases text with
  | nil => simp [splitDots]
  | cons c rest =>
    rw [splitDots]
    split
    · simp
    · split <;> simp

theorem Path.splitDots_dot (text : List Char) : splitDots ('.' :: text) = [] :: splitDots text := by
  rw [splitDots]
  split
  · exact absurd ‹_› (splitDots_ne_nil text)
  · rename_i h
    rw [h, if_pos rfl]

theorem Path.splitDots_of_not_mem (h : '.' ∉ part) : splitDots part = [part] := by
  induction part with
  | nil => rfl
  | cons c rest ih =>
    obtain ⟨hc, hrest⟩ := not_or.mp (mt List.mem_cons.mpr h)
    simp [splitDots, ih hrest, Ne.symm hc]

theorem Path.splitDots_append (h : '.' ∉ part) (text : List Char) :
    splitDots (part ++ '.' :: text) = part :: splitDots text := by
  induction part with
  | nil => exact splitDots_dot text
  | cons c rest ih =>
    obtain ⟨hc, hrest⟩ := not_or.mp (mt List.mem_cons.mpr h)
    simp [splitDots, ih hrest, Ne.symm hc]

/-- Segments without dots are split where they were joined. -/
theorem Path.splitDots_intercalate (hne : parts ≠ []) (h : ∀ part ∈ parts, '.' ∉ part) :
    splitDots (['.'].intercalate parts) = parts := by
  induction parts with
  | nil => exact absurd rfl hne
  | cons part rest ih =>
    obtain ⟨hpart, hrest⟩ := List.forall_mem_cons.mp h
    cases rest with
    | nil => rw [List.intercalate_singleton, splitDots_of_not_mem hpart]
    | cons next rest =>
      rw [List.intercalate_cons_cons, List.append_assoc, List.singleton_append, splitDots_append hpart,
        ih (List.cons_ne_nil _ _) hrest]

end Text

section Attributes

variable {event : Event} {sku : Sku} {segments : List String}

/-- The text of a path that starts at the attributes is split into its segments. -/
theorem Path.exists_of_attributes (hne : segments ≠ []) (hdots : ∀ segment ∈ segments, '.' ∉ segment.toList) :
    ∃ p, Path.ofText? ("sku.attributes." ++ ".".intercalate segments) = some p ∧ p.root = .sku ∧
      p.segments = "attributes" :: segments := by
  let parts := "attributes".toList :: segments.map String.toList
  have htext : "sku.attributes." ++ ".".intercalate segments = Path.text ⟨.sku, ['.'].intercalate parts⟩ := by
    obtain ⟨first, rest, rfl⟩ := List.exists_cons_of_ne_nil hne
    rw [← String.toList_inj]
    simp [Path.text, Root.lead, parts, String.toList_intercalate]
  refine ⟨⟨.sku, ['.'].intercalate parts⟩, by rw [htext, Path.ofText?_text], rfl, ?_⟩
  have hparts : ∀ part ∈ parts, '.' ∉ part := by
    simpa [parts] using hdots
  rw [Path.segments, Path.splitDots_intercalate (List.cons_ne_nil _ _) hparts]
  simp

theorem Sku.lookup_record_attributes (sku : Sku) :
    sku.record.lookup "attributes" =
      if sku.attributes.isEmpty then none else some (.record (Value.fieldsOf sku.attributes)) := by
  unfold record
  split <;> cases sku.id <;> rfl

/-- From the attributes on, segments are followed in their value; without attributes there is nothing to follow. -/
theorem Context.follow_record (hne : segments ≠ []) :
    follow ("attributes" :: segments) (.record sku.record) =
      (Value.ofJson (.object sku.attributes)).bind (follow segments) := by
  change (sku.record.lookup "attributes").bind (follow segments) = _
  rw [sku.lookup_record_attributes, Value.ofJson]
  split
  · rename_i hempty
    obtain ⟨first, rest, rfl⟩ := List.exists_cons_of_ne_nil hne
    rw [List.isEmpty_iff.mp hempty]
    rfl
  · rfl

end Attributes

section Snapshot

variable {document part : Json} {name : String} {place : Nat}

theorem Json.KeysDistinct.part? (h : document.KeysDistinct) (hpart : document.part? name place = some part) :
    part.KeysDistinct := by
  cases h with
  | array h => exact h part (List.mem_of_getElem? hpart)
  | object hkeys h => exact h (name, part) (mem_of_lookup_eq_some hpart)
  | _ => cases hpart

/-- The attributes of an article that is read from a text have no key twice. -/
theorem Sku.keysDistinct_of_decode {text : String} {sku : Sku} (htext : Json.ofText text = .ok document)
    (h : Sku.decode document = .ok sku) : (Json.object sku.attributes).KeysDistinct := by
  rw [Sku.decode, RecordShape.decode_eq_ok_iff rfl <| .more (.more (.more (.more (.none Sku.mk)
    (.field "id" (Decoder.optional Decoder.text) (some none))) (.field "cost" Decoder.decimal none))
    (.field "currentPrice" Decoder.decimal none)) (.field "attributes" Decoder.members (some []))] at h
  obtain ⟨-, _, attributes, ⟨_, _, ⟨_, _, ⟨_, _, rfl, -, rfl⟩, -, rfl⟩, -, rfl⟩, hattributes, rfl⟩ := h
  split at hattributes
  · rename_i part hpart
    have hdistinct : part.KeysDistinct := (Json.keysDistinct_of_ofText htext).part? hpart
    cases part with
    | object members =>
      cases hattributes
      exact hdistinct
    | _ => cases hattributes
  · cases hattributes
    exact .object .nil (List.forall_mem_nil _)

end Snapshot

/-- A path into the attributes finds the value of the part that its segments lead to in the raw document, and nothing
where they lead nowhere or to a part without a value. -/
theorem lookup_attributes (event : Event) (sku : Sku) (hkeys : (Json.object sku.attributes).KeysDistinct)
    (segments : List String) (hne : segments ≠ []) (hdots : ∀ segment ∈ segments, '.' ∉ segment.toList) :
    (Context.ofEvent event sku).lookup ("sku.attributes." ++ ".".intercalate segments) =
        ((Json.object sku.attributes).walk? segments).bind Value.ofJson ∧
      ∀ part, (Json.object sku.attributes).walk? segments = some part ↔
        Json.LeadsTo segments (.object sku.attributes) part := by
  refine ⟨?_, fun part => Json.walk?_eq_some_iff⟩
  obtain ⟨p, hp, hroot, hsegments⟩ := Path.exists_of_attributes hne hdots
  calc (Context.ofEvent event sku).lookup ("sku.attributes." ++ ".".intercalate segments)
      = (Context.ofEvent event sku).resolve p := by rw [Context.lookup, hp, Option.bind_some]
    _ = Context.follow ("attributes" :: segments) (.record sku.record) := by
      rw [Context.resolve, hroot, hsegments]
      rfl
    _ = (Value.ofJson (.object sku.attributes)).bind (Context.follow segments) := Context.follow_record hne
    _ = ((Json.object sku.attributes).walk? segments).bind Value.ofJson := Value.follow_ofJson hkeys segments

/-- A name beside a null, and a tag behind one, whose position is written with a sign and a zero. -/
theorem lookup_attributes_nulls :
    let event : Event := ⟨"sku-1", .stockLow ⟨1, 5⟩⟩
    let sku : Sku :=
      ⟨some "sku-1", .ofNat 80, .hundred,
        [("brand", .object [("line", .null), ("name", .string "Acme")]),
          ("tags", .array [.null, .string "clearance"])]⟩
    (Json.object sku.attributes).KeysDistinct ∧
      (Context.ofEvent event sku).lookup "sku.attributes.brand.name" = some (.text "Acme") ∧
      (Context.ofEvent event sku).lookup "sku.attributes.tags.+01" = some (.text "clearance") := by
  intro event sku
  have hsorted : (Json.object sku.attributes).sorted = .object sku.attributes := by rfl
  have hkeys : (Json.object sku.attributes).KeysDistinct := hsorted ▸ Json.keysDistinct_sorted _
  refine ⟨hkeys, ?_, ?_⟩
  · exact (lookup_attributes event sku hkeys ["brand", "name"] (by simp) (by decide)).1
  · exact (lookup_attributes event sku hkeys ["tags", "+01"] (by simp) (by decide)).1

end Repricing
