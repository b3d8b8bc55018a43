import Repricing.Proofs.Json.Number
import Repricing.Proofs.Json.Sorted

namespace Repricing.Json

section Spelling

/-- What stands before a part between brackets: blanks before the first one, a comma between blanks before a further
one. -/
inductive Separates : Bool → List Char → Prop
  | head {gap : List Char} (h : Blank gap) : Separates true gap
  | further {gap gap' : List Char} (h : Blank gap) (h' : Blank gap') : Separates false (gap ++ ',' :: gap')

/-- The text holds the parts, to the closing bracket. -/
inductive Encloses {α : Type} (closing : Char) (IsPart : List Char → α → Prop) : Bool → List Char → List α → Prop
  | close (first : Bool) {gap : List Char} (h : Blank gap) : Encloses closing IsPart first (gap ++ [closing]) []
  | part {first : Bool} {gap text more : List Char} {a : α} {parts : List α} (hgap : Separates first gap)
      (hpart : IsPart text a) (hmore : Encloses closing IsPart false more parts) :
      Encloses closing IsPart first (gap ++ (text ++ more)) (a :: parts)

/-- A key, a colon between blanks, and a value. -/
inductive IsMember (IsValue : List Char → Json → Prop) : List Char → String × Json → Prop
  | member (key : String) {gap gap' text : List Char} {value : Json} (h : Blank gap) (h' : Blank gap')
      (hvalue : IsValue text value) :
      IsMember IsValue ((quote key).toList ++ (gap ++ ':' :: (gap' ++ text))) (key, value)

/-- The text is the document with blanks between its tokens. -/
inductive Spells : List Char → Json → Prop
  | null : Spells ['n', 'u', 'l', 'l'] null
  | true : Spells ['t', 'r', 'u', 'e'] (bool true)
  | false : Spells ['f', 'a', 'l', 's', 'e'] (bool false)
  | number (n : Number) : Spells n.toChars (number n)
  | string (s : String) : Spells (quote s).toList (string s)
  | array {text : List Char} {items : List Json} (h : Encloses ']' Spells true text items) :
      Spells ('[' :: text) (array items)
  | object {text : List Char} {members : List (String × Json)}
      (h : Encloses '\x7d' (IsMember Spells) true text members) : Spells ('\x7b' :: text) (object members)

/-- The document can be read from a text: its containers nest no deeper than `depth`, and its numbers are read from
their own text. -/
inductive IsLegible : Nat → Json → Prop
  | null (depth : Nat) : IsLegible depth null
  | bool (depth : Nat) (b : Bool) : IsLegible depth (bool b)
  | number (depth : Nat) {n : Number} (h : n.IsLegible) : IsLegible depth (number n)
  | string (depth : Nat) (s : String) : IsLegible depth (string s)
  | array {depth : Nat} {items : List Json} (h : ∀ item ∈ items, IsLegible depth item) :
      IsLegible (depth + 1) (array items)
  | object {depth : Nat} {members : List (String × Json)} (h : ∀ m ∈ members, IsLegible depth m.2) :
      IsLegible (depth + 1) (object members)

end Spelling

section Reading

variable {depth fuel : Nat} {text tail : List Char} {c : Cursor} {document : Json}

/-- A value starts with a character of its own, no blank and no bracket that ends an array. -/
theorem Spells.exists_cons (h : Spells text document) : ∃ ch rest, text = ch :: rest ∧ ¬IsBlank ch ∧ ch ≠ ']' := by
  cases h with
  | number n =>
    obtain ⟨negative, digits, htext, digit, rest, rfl, hdigit⟩ := n.exists_toChars
    rw [htext]
    cases negative with
    | true => exact ⟨'-', digit :: rest, rfl, by simp [IsBlank], by decide⟩
    | false =>
      refine ⟨digit, rest, rfl, not_isBlank_of_isDigit hdigit, ?_⟩
      rintro rfl
      cases hdigit
  | string s => exact ⟨'"', _, toList_quote s, by simp [IsBlank], by decide⟩
  | _ => exact ⟨_, _, rfl, by simp [IsBlank], by decide⟩

/-- The reader takes every text that spells the document, behind blanks. Twice the length of the text bounds its
calls. -/
def IsRead (depth : Nat) (document : Json) : Prop :=
  ∀ {text tail : List Char} {fuel room : Nat} {c : Cursor}, Spells text document → EndsNumber tail →
    2 * text.length ≤ fuel + 1 → depth < room → c.skipBlanks.rest = text ++ tail →
      ∃ c' : Cursor, c'.rest = tail ∧ readValue (fuel + 1) room c = .ok (document.sorted, c')

theorem isRead_null (depth : Nat) : IsRead depth null := by
  intro text tail fuel room c hspells _ _ _ hc
  cases hspells
  have hrest : c.skipBlanks.rest = 'n' :: 'u' :: 'l' :: 'l' :: tail := hc
  obtain ⟨c', hc', hread⟩ := takes_word null ['u', 'l', 'l'] tail (c.skipBlanks.next 'n' _) (rest_next _ _ _)
  exact ⟨c', hc', by simpa [readValue, hrest, sorted] using hread⟩

theorem isRead_bool (depth : Nat) (b : Bool) : IsRead depth (bool b) := by
  intro text tail fuel room c hspells _ _ _ hc
  cases hspells with
  | true =>
    have hrest : c.skipBlanks.rest = 't' :: 'r' :: 'u' :: 'e' :: tail := hc
    obtain ⟨c', hc', hread⟩ := takes_word (bool true) ['r', 'u', 'e'] tail (c.skipBlanks.next 't' _) (rest_next _ _ _)
    exact ⟨c', hc', by simpa [readValue, hrest, sorted] using hread⟩
  | false =>
    have hrest : c.skipBlanks.rest = 'f' :: 'a' :: 'l' :: 's' :: 'e' :: tail := hc
    obtain ⟨c', hc', hread⟩ :=
      takes_word (bool false) ['a', 'l', 's', 'e'] tail (c.skipBlanks.next 'f' _) (rest_next _ _ _)
    exact ⟨c', hc', by simpa [readValue, hrest, sorted] using hread⟩

theorem isRead_string (depth : Nat) (s : String) : IsRead depth (string s) := by
  intro text tail fuel room c hspells _ _ _ hc
  cases hspells
  obtain ⟨body, hbody, hread⟩ := exists_quote s tail
  rw [hbody] at hc
  obtain ⟨c', hc', hread⟩ := hread (c.skipBlanks.next '"' body) (rest_next _ _ _)
  refine ⟨c', hc', ?_⟩
  simp [readValue, hc, hread, bind, Except.bind, sorted]

theorem isRead_number (depth : Nat) {n : Number} (hn : n.IsLegible) : IsRead depth (number n) := by
  intro text tail fuel room c hspells htail _ _ hc
  cases hspells
  rw [sorted]
  exact readValue_of_isLegible hn htail hc fuel room

section Parts

variable {α σ : Type} {closing : Char} {IsPart : List Char → α → Prop} {gap more : List Char} {first : Bool}
  {parts : List α}

/-- A part is followed by a blank, a comma or the closing bracket. -/
theorem Encloses.endsNumber (h : Encloses closing IsPart false more parts) (hclosing : EndsNumber (closing :: tail)) :
    EndsNumber (more ++ tail) := by
  cases h with
  | close _ hgap =>
    rw [List.append_assoc]
    exact hclosing.behind_blanks hgap
  | part hseparates =>
    cases hseparates with
    | further hgap =>
      rw [List.append_assoc, List.append_assoc]
      exact (EndsNumber.cons (by decide)).behind_blanks hgap

theorem Encloses.length_pos (h : Encloses closing IsPart first more parts) : 0 < more.length := by
  induction h with
  | close => simp
  | part _ _ _ ih =>
    rw [List.length_append, List.length_append]
    omega

/-- A reader of parts between brackets: a step adds the part that comes next, and the last one stops behind the closing
bracket. -/
structure StepsThrough (closing : Char) (IsPart : List Char → α → Prop) (tail : List Char)
    (read : Nat → σ → Cursor → Except ReadError (Json × Cursor)) (isFirst : σ → Bool) (add : σ → α → σ)
    (finish : σ → Json) (parts : List α) : Prop where
  isFirst_add (s : σ) (a : α) : isFirst (add s a) = false
  length_pos (text : List Char) (a : α) : IsPart text a → 0 < text.length
  close {fuel : Nat} {s : σ} {c : Cursor} {gap : List Char} : Blank gap → c.rest = gap ++ closing :: tail →
    ∃ c' : Cursor, c'.rest = tail ∧ read (fuel + 1) s c = .ok (finish s, c')
  part (a : α) : a ∈ parts → ∀ {fuel : Nat} {s : σ} {c : Cursor} {gap text rest : List Char},
    Separates (isFirst s) gap → IsPart text a → EndsNumber rest → 2 * text.length ≤ fuel + 1 →
      c.rest = gap ++ (text ++ rest) → ∃ d : Cursor, d.rest = rest ∧ read (fuel + 2) s c = read (fuel + 1) (add s a) d

/-- Step by step all parts are added. Each of them takes one call at least, and the bracket one more. -/
theorem StepsThrough.run {read : Nat → σ → Cursor → Except ReadError (Json × Cursor)} {isFirst : σ → Bool}
    {add : σ → α → σ} {finish : σ → Json} (hread : StepsThrough closing IsPart tail read isFirst add finish parts)
    (hclosing : EndsNumber (closing :: tail)) {s : σ} (h : Encloses closing IsPart (isFirst s) text parts)
    (hfuel : 2 * text.length ≤ fuel) (hc : c.rest = text ++ tail) :
    ∃ c' : Cursor, c'.rest = tail ∧ read fuel s c = .ok (finish (parts.foldl add s), c') := by
  induction parts generalizing text fuel c s with
  | nil =>
    cases h with
    | close _ hgap =>
      rw [List.length_append, List.length_singleton] at hfuel
      obtain ⟨fuel, rfl⟩ : ∃ n, fuel = n + 1 := ⟨fuel - 1, by omega⟩
      exact hread.close hgap (by simpa using hc)
  | cons a parts ih =>
    cases h with
    | @part _ gap text more _ _ hseparates hpart hmore =>
      have hpos := hread.length_pos text a hpart
      have hpos' := hmore.length_pos
      rw [List.length_append, List.length_append] at hfuel
      obtain ⟨fuel, rfl⟩ : ∃ n, fuel = n + 2 := ⟨fuel - 2, by omega⟩
      -- The text of the part and what stands behind it have a character each, so two calls less do for either.
      have hshort : 2 * text.length ≤ fuel + 1 := by omega
      have hmoreShort : 2 * more.length ≤ fuel + 1 := by omega
      obtain ⟨d, hd, hstep⟩ :=
        hread.part a List.mem_cons_self hseparates hpart (hmore.endsNumber hclosing) hshort (by simpa using hc)
      have hrest : StepsThrough closing IsPart tail read isFirst add finish parts :=
        { hread with part := fun b hb => hread.part b (List.mem_cons_of_mem _ hb) }
      obtain ⟨c', hc', hrun⟩ := ih hrest ((hread.isFirst_add s a).symm ▸ hmore) hmoreShort hd
      exact ⟨c', hc', hstep.trans hrun⟩

end Parts

section Items

variable {read : List Json} {gap rest : List Char} {ch : Char}

/-- In front of an item the reader skips what separates it from the item before. -/
theorem readItems_part (hseparates : Separates read.isEmpty gap) (hblank : ¬IsBlank ch) (hclosing : ch ≠ ']')
    (hc : c.rest = gap ++ ch :: rest) :
    ∃ d : Cursor, d.skipBlanks.rest = ch :: rest ∧ ∀ fuel room, readItems (fuel + 1) room read c =
      (readValue fuel room d).bind fun found => readItems fuel room (found.1 :: read) found.2 := by
  have hhead : ∀ other ∈ (ch :: rest).head?, ¬IsBlank other := by simpa using hblank
  cases hread : read.isEmpty with
  | true =>
    obtain rfl := List.isEmpty_iff.mp hread
    cases hseparates with
    | head hgap =>
      have hrest : c.skipBlanks.rest = ch :: rest := rest_skipBlanks hc hgap hhead
      refine ⟨c.skipBlanks, rest_skipBlanks hrest blank_nil hhead, fun fuel room => ?_⟩
      simp [readItems, hrest, hclosing, bind]
  | false =>
    rw [hread] at hseparates
    cases hseparates with
    | @further gap gap' hgap hgap' =>
      rw [List.append_assoc] at hc
      have hcomma : c.skipBlanks.rest = ',' :: (gap' ++ ch :: rest) := rest_skipBlanks hc hgap (by simp [IsBlank])
      have hrest : (c.skipBlanks.next ',' (gap' ++ ch :: rest)).skipBlanks.rest = ch :: rest :=
        rest_skipBlanks (rest_next _ _ _) hgap' hhead
      refine ⟨_, rest_skipBlanks hrest blank_nil hhead, fun fuel room => ?_⟩
      simp [readItems, hcomma, hrest, hclosing, hread, bind]

theorem stepsThrough_readItems {items : List Json} (hitems : ∀ item ∈ items, IsRead depth item) {room : Nat}
    (hroom : depth < room) :
    StepsThrough ']' Spells tail (fun fuel read => readItems fuel room read) List.isEmpty
      (fun read item => item.sorted :: read) (fun read => array read.reverse) items where
  isFirst_add _ _ := rfl
  length_pos text item h := by
    obtain ⟨ch, rest, rfl, -⟩ := h.exists_cons
    simp
  close hgap hc := by
    rename_i c _
    have hrest : c.skipBlanks.rest = ']' :: tail := rest_skipBlanks hc hgap (by simp [IsBlank])
    exact ⟨c.skipBlanks.next ']' tail, rest_next _ _ _, by simp [readItems, hrest]⟩
  part item hitem := by
    intro fuel read c gap text rest hseparates hspells hends hfuel hc
    obtain ⟨ch, more, rfl, hblank, hclosing⟩ := hspells.exists_cons
    obtain ⟨d, hd, hstep⟩ := readItems_part hseparates hblank hclosing hc
    obtain ⟨c', hc', hvalue⟩ := hitems item hitem hspells hends hfuel hroom hd
    exact ⟨c', hc', by rw [hstep, hvalue]; rfl⟩

theorem readItems_of_encloses {items : List Json} (hitems : ∀ item ∈ items, IsRead depth item)
    (h : Encloses ']' Spells true text items) {room : Nat} (hfuel : 2 * text.length ≤ fuel) (hroom : depth < room)
    (hc : c.rest = text ++ tail) :
    ∃ c' : Cursor, c'.rest = tail ∧ readItems fuel room [] c = .ok (array (items.map sorted), c') := by
  have hrun := (stepsThrough_readItems hitems hroom).run (s := []) (.cons (by decide)) h hfuel hc
  simpa using hrun

end Items

section Members

variable {first : Bool} {key : String} {gap gap' rest : List Char} {read : List (String × Json)}

/-- In front of a value the reader skips what separates its member from the one before, and reads the key. -/
theorem readMembers_part (read : List (String × Json)) (hseparates : Separates first gap) (hgap' : Blank gap')
    (hc : c.rest = gap ++ ((quote key).toList ++ (gap' ++ ':' :: rest))) :
    ∃ d : Cursor, d.rest = rest ∧ ∀ fuel room, readMembers (fuel + 1) room read first c =
      (readValue fuel room d).bind fun found => readMembers fuel room (insertMember key found.1 read) false found.2 := by
  obtain ⟨body, hbody, hkey⟩ := exists_key key hgap' rest
  have hhead : ∀ ch ∈ ('"' :: body).head?, ¬IsBlank ch := by simp [IsBlank]
  rw [hbody] at hc
  cases hseparates with
  | head hgap =>
    have hrest : c.skipBlanks.rest = '"' :: body := rest_skipBlanks hc hgap hhead
    obtain ⟨d, hd, hread⟩ := hkey c.skipBlanks
    exact ⟨d, hd, fun fuel room => by simp [readMembers, hrest, hread, bind, Except.bind]⟩
  | @further gap gap' hgap hgap' =>
    rw [List.append_assoc] at hc
    have hcomma : c.skipBlanks.rest = ',' :: (gap' ++ '"' :: body) := rest_skipBlanks hc hgap (by simp [IsBlank])
    have hrest : (c.skipBlanks.next ',' (gap' ++ '"' :: body)).skipBlanks.rest = '"' :: body :=
      rest_skipBlanks (rest_next _ _ _) hgap' hhead
    obtain ⟨d, hd, hread⟩ := hkey (c.skipBlanks.next ',' (gap' ++ '"' :: body)).skipBlanks
    exact ⟨d, hd, fun fuel room => by simp [readMembers, hcomma, hrest, hread, bind, Except.bind]⟩

/-- The members read so far, and whether there are none. -/
def addMember (read : Bool × List (String × Json)) (m : String × Json) : Bool × List (String × Json) :=
  (false, insertMember m.1 m.2.sorted read.2)

theorem foldl_addMember (members : List (String × Json)) (read : Bool × List (String × Json)) :
    (members.foldl addMember read).2 =
      (sortedMembers members).foldl (fun sorted m => insertMember m.1 m.2 sorted) read.2 := by
  induction members generalizing read with
  | nil => rfl
  | cons m rest ih =>
    rw [List.foldl_cons, ih, sortedMembers, List.foldl_cons, addMember]

theorem stepsThrough_readMembers {members : List (String × Json)} (hmembers : ∀ m ∈ members, IsRead depth m.2)
    {room : Nat} (hroom : depth < room) :
    StepsThrough '\x7d' (IsMember Spells) tail (fun fuel read => readMembers fuel room read.2 read.1) Prod.fst addMember
      (fun read => object read.2) members where
  isFirst_add _ _ := rfl
  length_pos text m h := by
    cases h
    simp
  close hgap hc := by
    rename_i c _
    have hrest : c.skipBlanks.rest = '\x7d' :: tail := rest_skipBlanks hc hgap (by simp [IsBlank])
    exact ⟨c.skipBlanks.next '\x7d' tail, rest_next _ _ _, by simp [readMembers, hrest]⟩
  part m hm := by
    intro fuel read c gap text rest hseparates hmember hends hfuel hc
    cases hmember with
    | @member key gap gap' text value hgap hgap' hspells =>
      obtain ⟨ch, more, htext, hblank, -⟩ := hspells.exists_cons
      simp only [List.append_assoc, List.cons_append] at hc
      obtain ⟨d, hd, hstep⟩ := readMembers_part read.2 hseparates hgap hc
      have hrest : d.skipBlanks.rest = text ++ rest := rest_skipBlanks hd hgap' (by simpa [htext] using hblank)
      have hshort : 2 * text.length ≤ fuel + 1 := by
        simp only [List.length_append, List.length_cons] at hfuel
        omega
      obtain ⟨c', hc', hvalue⟩ := hmembers _ hm hspells hends hshort hroom hrest
      exact ⟨c', hc', by rw [hstep, hvalue]; rfl⟩

theorem readMembers_of_encloses {members : List (String × Json)} (hmembers : ∀ m ∈ members, IsRead depth m.2)
    (h : Encloses '\x7d' (IsMember Spells) true text members) {room : Nat} (hfuel : 2 * text.length ≤ fuel)
    (hroom : depth < room) (hc : c.rest = text ++ tail) :
    ∃ c' : Cursor, c'.rest = tail ∧
      readMembers fuel room [] true c = .ok (object (sortMembers (sortedMembers members)), c') := by
  have hrun := (stepsThrough_readMembers hmembers hroom).run (s := (true, [])) (.cons (by decide)) h hfuel hc
  simpa [foldl_addMember, sortMembers] using hrun

end Members

/-- A legible document is read from every text that spells it. -/
theorem isRead_of_isLegible (h : IsLegible depth document) : IsRead depth document := by
  induction h with
  | null depth => exact isRead_null depth
  | bool depth b => exact isRead_bool depth b
  | number depth hn => exact isRead_number depth hn
  | string depth s => exact isRead_string depth s
  | array _ ih =>
    intro text tail fuel room c hspells _ hfuel hroom hc
    cases hspells with
    | @array text _ hspells =>
      rw [List.length_cons] at hfuel
      obtain ⟨room, rfl⟩ : ∃ n, room = n + 1 := ⟨room - 1, by omega⟩
      have hopen : c.skipBlanks.rest = '[' :: (text ++ tail) := hc
      have hdeep : ¬room + 1 ≤ 1 := by omega
      have hshort : 2 * text.length ≤ fuel := by omega
      obtain ⟨c', hc', hread⟩ :=
        readItems_of_encloses ih hspells hshort (Nat.lt_of_succ_lt_succ hroom) (rest_next c.skipBlanks '[' _)
      refine ⟨c', hc', ?_⟩
      rw [sorted, sortedItems_eq_map]
      simpa [readValue, hopen, hdeep] using hread
  | object _ ih =>
    intro text tail fuel room c hspells _ hfuel hroom hc
    cases hspells with
    | @object text _ hspells =>
      rw [List.length_cons] at hfuel
      obtain ⟨room, rfl⟩ : ∃ n, room = n + 1 := ⟨room - 1, by omega⟩
      have hopen : c.skipBlanks.rest = '\x7b' :: (text ++ tail) := hc
      have hdeep : ¬room + 1 ≤ 1 := by omega
      have hshort : 2 * text.length ≤ fuel := by omega
      obtain ⟨c', hc', hread⟩ :=
        readMembers_of_encloses ih hspells hshort (Nat.lt_of_succ_lt_succ hroom) (rest_next c.skipBlanks '\x7b' _)
      refine ⟨c', hc', ?_⟩
      rw [sorted]
      simpa [readValue, hopen, hdeep] using hread

/-- A legible document is read from every text that spells it, between blanks. -/
theorem ofText_of_spells (h : IsLegible 127 document) (hspells : Spells text document) {before behind : List Char}
    (hbefore : Blank before) (hbehind : Blank behind) :
    ofText (String.ofList (before ++ (text ++ behind))) = .ok document.sorted := by
  obtain ⟨ch, rest, htext, hblank, -⟩ := hspells.exists_cons
  have hends : EndsNumber behind := by
    simpa using endsNumber_nil.behind_blanks hbehind
  have hrest : (Cursor.mk (before ++ (text ++ behind)) 1 0).skipBlanks.rest = text ++ behind :=
    rest_skipBlanks rfl hbefore (by simpa [htext] using hblank)
  have hshort : 2 * text.length ≤ 2 * (before ++ (text ++ behind)).length + 1 + 1 := by
    simp only [List.length_append]
    omega
  obtain ⟨c', hc', hread⟩ := isRead_of_isLegible h hspells hends hshort (by decide : 127 < 128) hrest
  have hend : c'.skipBlanks.rest = [] := by
    refine rest_skipBlanks ?_ hbehind (by simp)
    rw [hc', List.append_nil]
  rw [ofText, String.toList_ofList, hread]
  simp only [bind, Except.bind, hend]

end Reading

end Repricing.Json
