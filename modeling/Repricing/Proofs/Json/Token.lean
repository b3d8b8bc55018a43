import Mathlib.Tactic.SplitIfs
import Mathlib.Tactic.Tauto
import Repricing.Json.Printer
import Repricing.Json.Reader

namespace Repricing.Json

variable {α : Type}

/-- The reader takes the text before `rest` as `a` and leaves `rest`, on whatever line and in whatever column. -/
def Takes (read : Cursor → Except ReadError (α × Cursor)) (text rest : List Char) (a : α) : Prop :=
  ∀ c : Cursor, c.rest = text ++ rest → ∃ c' : Cursor, c'.rest = rest ∧ read c = .ok (a, c')

@[simp] theorem rest_next (c : Cursor) (ch : Char) (rest : List Char) : (c.next ch rest).rest = rest := by
  unfold Cursor.next
  split <;> rfl

section Blanks

variable {c : Cursor} {blanks text : List Char}

def IsBlank (ch : Char) : Prop := ch = ' ' ∨ ch = '\t' ∨ ch = '\r' ∨ ch = '\n'

/-- Blanks, tabs and line breaks only. -/
def Blank (text : List Char) : Prop := ∀ ch ∈ text, IsBlank ch

theorem blank_nil : Blank [] := List.forall_mem_nil _

theorem rest_skipBlanksIn (hblanks : Blank blanks) (htext : ∀ ch ∈ text.head?, ¬IsBlank ch)
    (line column : Nat) : (Cursor.skipBlanksIn line column (blanks ++ text)).rest = text := by
  induction blanks generalizing line column with
  | nil =>
    cases text with
    | nil => rfl
    | cons ch rest =>
      have hch := htext ch rfl
      simp only [IsBlank, not_or] at hch
      simp [Cursor.skipBlanksIn, hch]
  | cons ch blanks ih =>
    obtain ⟨hch, hblanks⟩ := List.forall_mem_cons.mp hblanks
    rw [List.cons_append, Cursor.skipBlanksIn]
    split_ifs with hblank hbreak
    · exact ih hblanks _ _
    · exact ih hblanks _ _
    · unfold IsBlank at hch
      tauto

/-- Blanks before a text are skipped. -/
theorem rest_skipBlanks (h : c.rest = blanks ++ text) (hblanks : Blank blanks)
    (htext : ∀ ch ∈ text.head?, ¬IsBlank ch) : c.skipBlanks.rest = text := by
  rw [Cursor.skipBlanks, h]
  exact rest_skipBlanksIn hblanks htext _ _

end Blanks

theorem takes_word (value : Json) (word rest : List Char) : Takes (readWord value word) word rest value := by
  induction word with
  | nil => exact fun c hc => ⟨c, hc, rfl⟩
  | cons ch word ih =>
    intro c hc
    obtain ⟨c', hc', hread⟩ := ih (c.next ch (word ++ rest)) (rest_next _ _ _)
    refine ⟨c', hc', ?_⟩
    rw [readWord, hc]
    simpa using hread

section Hexadecimal

variable {n : Nat} {rest : List Char} {c : Cursor}

/-- The four digits of a hexadecimal escape. -/
def hexDigits (n : Nat) : List Char := List.replicate (4 - (Nat.toDigits 16 n).length) '0' ++ Nat.toDigits 16 n

theorem toList_hexEscape (n : Nat) : (hexEscape n).toList = '\\' :: 'u' :: hexDigits n := by
  simp [hexEscape, hexDigits]

theorem hexDigits_of_lt (h : n < 0x20) :
    hexDigits n = ['0', '0', Nat.digitChar (n / 16), Nat.digitChar (n % 16)] := by
  rcases Nat.lt_or_ge n 16 with hlow | hhigh
  · rw [hexDigits, Nat.toDigits_of_lt_base hlow, Nat.div_eq_of_lt hlow, Nat.mod_eq_of_lt hlow]
    rfl
  · rw [hexDigits, Nat.toDigits_of_base_le (by decide) hhigh, Nat.toDigits_of_lt_base (by omega)]
    rfl

theorem hexNumber?_digits :
    ∀ n < 0x20, Text.hexNumber? ['0', '0', Nat.digitChar (n / 16), Nat.digitChar (n % 16)] = some n := by
  decide +kernel

/-- A character of one byte that stays on its line. -/
def IsNarrow (ch : Char) : Prop := ch.utf8Size = 1 ∧ ch ≠ '\n'

instance (ch : Char) : Decidable (IsNarrow ch) := inferInstanceAs (Decidable (_ ∧ _))

theorem isNarrow_digitChar : ∀ n < 16, IsNarrow (Nat.digitChar n) := by
  decide

theorem rest_skipIn {text : List Char} (h : ∀ ch ∈ text, IsNarrow ch) (rest : List Char) (line column : Nat) :
    (Cursor.skipIn text.length line column (text ++ rest)).rest = rest := by
  induction text generalizing line column with
  | nil => cases rest <;> simp [Cursor.skipIn]
  | cons ch text ih =>
    obtain ⟨⟨hsize, hbreak⟩, htext⟩ := List.forall_mem_cons.mp h
    simpa [Cursor.skipIn, hsize, hbreak] using ih htext _ _

theorem length_le_utf8ByteSize (text : List Char) : text.length ≤ (String.ofList text).utf8ByteSize := by
  induction text with
  | nil => simp
  | cons ch rest ih =>
    have hsize : (String.ofList [ch]).utf8ByteSize = ch.utf8Size := String.utf8ByteSize_singleton
    have hpos := ch.utf8Size_pos
    rw [← List.singleton_append, String.ofList_append, String.utf8ByteSize_append, hsize, List.length_append,
      List.length_singleton]
    omega

/-- A control character is read from its four digits. -/
theorem takes_hexDigits (h : n < 0x20) (rest : List Char) : Takes readHex (hexDigits n) rest n := by
  intro c hc
  rw [hexDigits_of_lt h] at hc
  have hnumber := hexNumber?_digits n h
  have hnarrow : ∀ ch ∈ ['0', '0', Nat.digitChar (n / 16), Nat.digitChar (n % 16)], IsNarrow ch := by
    have hhigh := isNarrow_digitChar (n / 16) (by omega)
    have hlow := isNarrow_digitChar (n % 16) (by omega)
    have hzero : IsNarrow '0' := by decide
    simp [hhigh, hlow, hzero]
  generalize hdigits : ['0', '0', Nat.digitChar (n / 16), Nat.digitChar (n % 16)] = digits at hc hnumber hnarrow
  have hlength : digits.length = 4 := by
    rw [← hdigits]
    rfl
  have htake : c.rest.take 4 = digits := by
    rw [hc, ← hlength, List.take_left]
  refine ⟨c.skip 4, ?_, ?_⟩
  · rw [Cursor.skip, hc, ← hlength]
    exact rest_skipIn hnarrow rest _ _
  · have hsize := length_le_utf8ByteSize digits
    rw [readHex, htake, if_neg (by omega), hnumber]

theorem takes_hexEscape {ch : Char} (h : ch.toNat < 0x20) (rest : List Char) :
    Takes readHexEscape (hexDigits ch.toNat) rest ch := by
  intro c hc
  obtain ⟨c', hc', hread⟩ := takes_hexDigits h rest c hc
  refine ⟨c', hc', ?_⟩
  have hlow : ¬(0xDC00 ≤ ch.toNat ∧ ch.toNat ≤ 0xDFFF) := by omega
  have hsingle : ch.toNat < 0xD800 ∨ 0xDBFF < ch.toNat := by omega
  simp only [readHexEscape, hread, bind, Except.bind, if_neg hlow, if_pos hsingle, Char.ofNat_toNat]

end Hexadecimal

section Strings

variable {ch : Char} {fuel : Nat} {read rest : List Char} {c : Cursor}

/-- The characters between the quotes of a string. -/
def escaped (s : List Char) : List Char := s.flatMap fun ch => (escapeChar ch).toList

theorem escaped_cons (ch : Char) (s : List Char) : escaped (ch :: s) = (escapeChar ch).toList ++ escaped s :=
  List.flatMap_cons

theorem toList_quote (s : String) : (quote s).toList = '"' :: (escaped s.toList ++ ['"']) := by
  simp [quote, escaped, String.toList_join, List.flatMap_map]

/-- What is written for a character: a backslash and a letter, a backslash and four digits, or the character. -/
theorem escapeChar_cases (ch : Char) :
    (∃ letter, (escapeChar ch).toList = ['\\', letter] ∧ ∀ rest, Takes readEscape [letter] rest ch) ∨
      ((escapeChar ch).toList = '\\' :: 'u' :: hexDigits ch.toNat ∧ ch.toNat < 0x20) ∨
      ((escapeChar ch).toList = [ch] ∧ ch ≠ '"' ∧ ch ≠ '\\' ∧ ¬ch.toNat < 0x20) := by
  unfold escapeChar
  split_ifs with hquote hbackslash hback hfeed hbreak hreturn htab hcontrol
  · exact .inl ⟨'"', by rfl, fun rest c hc => ⟨c.next '"' rest, rest_next _ _ _, by simp [readEscape, hc, hquote]⟩⟩
  · exact .inl ⟨'\\', by rfl, fun rest c hc =>
      ⟨c.next '\\' rest, rest_next _ _ _, by simp [readEscape, hc, hbackslash]⟩⟩
  · exact .inl ⟨'b', by rfl, fun rest c hc => ⟨c.next 'b' rest, rest_next _ _ _, by simp [readEscape, hc, hback]⟩⟩
  · exact .inl ⟨'f', by rfl, fun rest c hc => ⟨c.next 'f' rest, rest_next _ _ _, by simp [readEscape, hc, hfeed]⟩⟩
  · exact .inl ⟨'n', by rfl, fun rest c hc => ⟨c.next 'n' rest, rest_next _ _ _, by simp [readEscape, hc, hbreak]⟩⟩
  · exact .inl ⟨'r', by rfl, fun rest c hc => ⟨c.next 'r' rest, rest_next _ _ _, by simp [readEscape, hc, hreturn]⟩⟩
  · exact .inl ⟨'t', by rfl, fun rest c hc => ⟨c.next 't' rest, rest_next _ _ _, by simp [readEscape, hc, htab]⟩⟩
  · exact .inr (.inl ⟨toList_hexEscape _, hcontrol⟩)
  · exact .inr (.inr ⟨by simp, hquote, hbackslash, hcontrol⟩)

theorem readString_escape {escape : List Char} (hrest : c.rest = '\\' :: (escape ++ rest))
    (hescape : Takes readEscape escape rest ch) :
    ∃ c' : Cursor, c'.rest = rest ∧ readString (fuel + 1) read c = readString fuel (ch :: read) c' := by
  obtain ⟨c', hc', hread⟩ := hescape (c.next '\\' (escape ++ rest)) (rest_next _ _ _)
  refine ⟨c', hc', ?_⟩
  rw [readString.eq_def, hrest]
  simp [hread, bind, Except.bind]

theorem takes_escape_hexDigits (h : ch.toNat < 0x20) (rest : List Char) :
    Takes readEscape ('u' :: hexDigits ch.toNat) rest ch := by
  intro c hc
  obtain ⟨c', hc', hread⟩ := takes_hexEscape h rest (c.next 'u' (hexDigits ch.toNat ++ rest)) (rest_next _ _ _)
  exact ⟨c', hc', by simp [readEscape, hc, hread]⟩

/-- A character is read from what is written for it. -/
theorem readString_escapeChar (hrest : c.rest = (escapeChar ch).toList ++ rest) :
    ∃ c' : Cursor, c'.rest = rest ∧ readString (fuel + 1) read c = readString fuel (ch :: read) c' := by
  obtain ⟨letter, htext, htakes⟩ | ⟨htext, hcontrol⟩ | ⟨htext, hquote, hbackslash, hcontrol⟩ := escapeChar_cases ch
  · rw [htext] at hrest
    exact readString_escape hrest (htakes rest)
  · rw [htext] at hrest
    exact readString_escape hrest (takes_escape_hexDigits hcontrol rest)
  · rw [htext] at hrest
    refine ⟨c.next ch rest, rest_next _ _ _, ?_⟩
    rw [readString.eq_def, hrest]
    simp [hquote, hbackslash, hcontrol]

/-- What stands between quotes is read up to the closing one. -/
theorem readString_escaped (read : List Char) {s : List Char} (hrest : c.rest = escaped s ++ '"' :: rest)
    (hfuel : s.length < fuel) :
    ∃ c' : Cursor, c'.rest = rest ∧ readString fuel read c = .ok (String.ofList (read.reverse ++ s), c') := by
  induction s generalizing c fuel read with
  | nil =>
    obtain ⟨fuel, rfl⟩ := Nat.exists_eq_succ_of_ne_zero (Nat.ne_zero_of_lt hfuel)
    refine ⟨c.next '"' rest, rest_next _ _ _, ?_⟩
    have hquote : c.rest = '"' :: rest := hrest
    rw [readString.eq_def, hquote]
    simp
  | cons ch s ih =>
    obtain ⟨fuel, rfl⟩ := Nat.exists_eq_succ_of_ne_zero (Nat.ne_zero_of_lt hfuel)
    rw [escaped_cons, List.append_assoc] at hrest
    obtain ⟨next, hnext, hstep⟩ := readString_escapeChar hrest
    obtain ⟨c', hc', hread⟩ := ih (ch :: read) hnext (Nat.lt_of_succ_lt_succ hfuel)
    refine ⟨c', hc', ?_⟩
    rw [hstep, hread, List.reverse_cons, List.append_assoc, List.singleton_append]

theorem length_le_escaped (s : List Char) : s.length ≤ (escaped s).length := by
  induction s with
  | nil => simp
  | cons ch s ih =>
    have hpos : 0 < (escapeChar ch).toList.length := by
      obtain ⟨letter, htext, -⟩ | ⟨htext, -⟩ | ⟨htext, -⟩ := escapeChar_cases ch <;> simp [htext]
    rw [escaped_cons, List.length_append, List.length_cons]
    omega

/-- A string is read from its quoted form, from behind the opening quote. -/
theorem exists_quote (s : String) (rest : List Char) :
    ∃ body, (quote s).toList ++ rest = '"' :: body ∧
      ∀ c : Cursor, c.rest = body → ∃ c' : Cursor, c'.rest = rest ∧ readString body.length [] c = .ok (s, c') := by
  refine ⟨escaped s.toList ++ '"' :: rest, by simp [toList_quote], fun c hc => ?_⟩
  have hfuel : s.toList.length < (escaped s.toList ++ '"' :: rest).length := by
    have hlength := length_le_escaped s.toList
    rw [List.length_append, List.length_cons]
    omega
  obtain ⟨c', hc', hread⟩ := readString_escaped [] hc hfuel
  exact ⟨c', hc', by simpa using hread⟩

/-- A key is read with the colon behind it. -/
theorem exists_key (key : String) {gap : List Char} (hgap : Blank gap) (rest : List Char) :
    ∃ body, (quote key).toList ++ (gap ++ ':' :: rest) = '"' :: body ∧
      ∀ c : Cursor, ∃ c' : Cursor, c'.rest = rest ∧ readKey c body = .ok (key, c') := by
  obtain ⟨body, hbody, hread⟩ := exists_quote key (gap ++ ':' :: rest)
  refine ⟨body, hbody, fun c => ?_⟩
  obtain ⟨behind, hbehind, hread⟩ := hread (c.next '"' body) (rest_next _ _ _)
  have hcolon : behind.skipBlanks.rest = ':' :: rest := rest_skipBlanks hbehind hgap (by simp [IsBlank])
  refine ⟨behind.skipBlanks.next ':' rest, rest_next _ _ _, ?_⟩
  simp only [readKey, hread, bind, Except.bind, hcolon]

end Strings

end Repricing.Json
