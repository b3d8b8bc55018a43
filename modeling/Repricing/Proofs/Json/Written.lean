import Repricing.Json.Printer
import Repricing.Proofs.Json.Spelling

namespace Repricing.Json

section Writing

variable {α : Type} {closing : Char} {IsPart : List Char → α → Prop} {gap behind : List Char} {parts : List String}
  {as : List α}

theorem encloses_flatMap (hgap : Blank gap) (hbehind : Blank behind)
    (h : List.Forall₂ (fun part a => IsPart part.toList a) parts as) :
    Encloses closing IsPart false
      ((parts.flatMap fun part => ',' :: gap ++ part.toList) ++ (behind ++ [closing])) as := by
  induction h with
  | nil => exact .close false hbehind
  | cons hpart _ ih =>
    rw [List.flatMap_cons, List.append_assoc, List.append_assoc]
    exact .part (.further blank_nil hgap) hpart ih

theorem toList_intercalate_cons (separator part : String) (parts : List String) :
    (separator.intercalate (part :: parts)).toList =
      part.toList ++ parts.flatMap fun other => separator.toList ++ other.toList := by
  induction parts generalizing part with
  | nil => simp
  | cons other parts ih =>
    have hrest := ih other
    rw [String.toList_intercalate, List.map_cons] at hrest ⊢
    rw [List.map_cons, List.intercalate_cons_cons, hrest, List.flatMap_cons, List.append_assoc, List.append_assoc]

/-- Parts with commas between them, each behind the same blanks. -/
theorem encloses_intercalate {separator : String} (hseparator : separator.toList = ',' :: gap) (hgap : Blank gap)
    (hbehind : Blank behind) (h : List.Forall₂ (fun part a => IsPart part.toList a) parts as) (hne : parts ≠ []) :
    Encloses closing IsPart true (gap ++ ((separator.intercalate parts).toList ++ (behind ++ [closing]))) as := by
  cases h with
  | nil => exact absurd rfl hne
  | cons hpart h =>
    rw [toList_intercalate_cons, hseparator, List.append_assoc]
    exact .part (.head hgap) hpart (encloses_flatMap hgap hbehind h)

theorem encloses_compact (h : List.Forall₂ (fun part a => IsPart part.toList a) parts as) :
    Encloses closing IsPart true ((",".intercalate parts).toList ++ [closing]) as := by
  cases parts with
  | nil =>
    cases h
    exact .close true blank_nil
  | cons part parts => exact encloses_intercalate rfl blank_nil blank_nil h (by simp)

theorem blank_indentation (level : Nat) : Blank (indentation level).toList := by
  simp [indentation, Blank, IsBlank]

mutual

theorem spells_compact : ∀ document : Json, Spells document.compact.toList document
  | null => .null
  | bool true => .true
  | bool false => .false
  | number n => by simpa [compact, Number.toText] using Spells.number n
  | string s => by simpa [compact] using Spells.string s
  | array items => by
    have h := Spells.array (encloses_compact (forall₂_compactItems items))
    simpa [compact] using h
  | object members => by
    have h := Spells.object (encloses_compact (forall₂_compactMembers members))
    simpa [compact] using h

theorem forall₂_compactItems : ∀ items : List Json,
    List.Forall₂ (fun part item => Spells part.toList item) (compactItems items) items
  | [] => .nil
  | item :: rest => .cons (spells_compact item) (forall₂_compactItems rest)

theorem forall₂_compactMembers : ∀ members : List (String × Json),
    List.Forall₂ (fun part m => IsMember Spells part.toList m) (compactMembers members) members
  | [] => .nil
  | (key, value) :: rest => by
    have h := IsMember.member key blank_nil blank_nil (spells_compact value)
    exact .cons (by simpa using h) (forall₂_compactMembers rest)

end

theorem toList_layOut (opening closing : String) {first last : Char} (hopening : opening.toList = [first])
    (hclosing : closing.toList = [last]) (level : Nat)
    (h : List.Forall₂ (fun part a => IsPart part.toList a) parts as) :
    ∃ text, (layOut opening closing level parts).toList = first :: text ∧ Encloses last IsPart true text as := by
  unfold layOut
  split_ifs with hne
  · subst hne
    cases h
    exact ⟨[last], by simp [hopening, hclosing], .close true blank_nil⟩
  · have hseparator : ("," ++ indentation (level + 1)).toList = ',' :: (indentation (level + 1)).toList := by simp
    refine ⟨_, ?_, encloses_intercalate hseparator (blank_indentation _) (blank_indentation level) h hne⟩
    simp [hopening, hclosing]

mutual

theorem spells_prettyAt (level : Nat) : ∀ document : Json, Spells (document.prettyAt level).toList document
  | null => by simpa [prettyAt] using Spells.null
  | bool true => by simpa [prettyAt] using Spells.true
  | bool false => by simpa [prettyAt] using Spells.false
  | number n => by simpa [prettyAt, Number.toText] using Spells.number n
  | string s => by simpa [prettyAt] using Spells.string s
  | array items => by
    obtain ⟨text, htext, h⟩ :=
      toList_layOut "[" "]" rfl rfl level (forall₂_prettyItems (level + 1) items)
    rw [prettyAt, htext]
    exact .array h
  | object members => by
    obtain ⟨text, htext, h⟩ :=
      toList_layOut "\x7b" "\x7d" rfl rfl level (forall₂_prettyMembers (level + 1) members)
    rw [prettyAt, htext]
    exact .object h

theorem forall₂_prettyItems (level : Nat) : ∀ items : List Json,
    List.Forall₂ (fun part item => Spells part.toList item) (prettyItems level items) items
  | [] => .nil
  | item :: rest => .cons (spells_prettyAt level item) (forall₂_prettyItems level rest)

theorem forall₂_prettyMembers (level : Nat) : ∀ members : List (String × Json),
    List.Forall₂ (fun part m => IsMember Spells part.toList m) (prettyMembers level members) members
  | [] => .nil
  | (key, value) :: rest => by
    have hgap : Blank [' '] := by simp [Blank, IsBlank]
    have h := IsMember.member key blank_nil hgap (spells_prettyAt level value)
    exact .cons (by simpa using h) (forall₂_prettyMembers level rest)

end

end Writing

section Documents

variable {document : Json}

/-- What is written on one line is read again, members in ascending order. -/
theorem ofText_compact (h : IsLegible 127 document) : ofText document.compact = .ok document.sorted := by
  simpa using ofText_of_spells h (spells_compact document) blank_nil blank_nil

/-- What is laid out is read again, members in ascending order. -/
theorem ofText_pretty (h : IsLegible 127 document) : ofText document.pretty = .ok document.sorted := by
  simpa [pretty] using ofText_of_spells h (spells_prettyAt 0 document) blank_nil blank_nil

end Documents

end Repricing.Json
