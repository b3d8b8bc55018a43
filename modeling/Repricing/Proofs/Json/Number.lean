import Repricing.Proofs.Binary64.Text
import Repricing.Proofs.Json.Token

namespace Repricing

open Decimal (minusSign)

namespace Json

/-- The text is no continuation of a number. -/
def EndsNumber (tail : List Char) : Prop :=
  ∀ ch ∈ tail.head?, ch.isDigit = false ∧ ch ≠ '.' ∧ ch ≠ 'e' ∧ ch ≠ 'E'

theorem endsNumber_nil : EndsNumber [] := by
  rintro _ ⟨⟩

theorem EndsNumber.cons {ch : Char} {rest : List Char}
    (h : ch.isDigit = false ∧ ch ≠ '.' ∧ ch ≠ 'e' ∧ ch ≠ 'E') : EndsNumber (ch :: rest) := by
  rintro _ ⟨⟩
  exact h

theorem EndsNumber.behind_blanks {gap text : List Char} (h : EndsNumber text) (hgap : Blank gap) :
    EndsNumber (gap ++ text) := by
  cases gap with
  | nil => exact h
  | cons ch gap =>
    obtain rfl | rfl | rfl | rfl := hgap ch List.mem_cons_self <;> exact .cons (by decide)

/-- Where the reader takes a number from a text, it takes the same number with `tail` behind the text, and leaves `tail`
behind what it left. -/
def Leaves (tail : List Char) (read : Cursor → Except ReadError (Json × Cursor)) : Prop :=
  ∀ {c d : Cursor}, d.rest = c.rest ++ tail → ∀ {value c'}, read c = .ok (value, c') →
    ∃ d' : Cursor, d'.rest = c'.rest ++ tail ∧ read d = .ok (value, d')

section Leaves

variable {tail : List Char} {c d : Cursor}

theorem leaves_floatAt (tail : List Char) (negative : Bool) (digits : Nat) (power : Int) :
    Leaves tail (floatAt · negative digits power) := by
  intro c d hd value c' h
  unfold floatAt at h ⊢
  cases hx : Binary64.ofScaled? negative digits power with
  | none =>
    rw [hx] at h
    cases h
  | some x =>
    rw [hx] at h
    cases h
    exact ⟨d, hd, rfl⟩

theorem EndsNumber.takeWhile_append (h : EndsNumber tail) (text : List Char) :
    (text ++ tail).takeWhile (·.isDigit) = text.takeWhile (·.isDigit) := by
  induction text with
  | nil =>
    cases tail with
    | nil => rfl
    | cons ch rest => simp [(h ch rfl).1]
  | cons ch text ih =>
    rw [List.cons_append, List.takeWhile_cons, List.takeWhile_cons, ih]

theorem EndsNumber.dropWhile_append (h : EndsNumber tail) (text : List Char) :
    (text ++ tail).dropWhile (·.isDigit) = text.dropWhile (·.isDigit) ++ tail := by
  induction text with
  | nil =>
    cases tail with
    | nil => rfl
    | cons ch rest => simp [(h ch rfl).1]
  | cons ch text ih =>
    rw [List.cons_append, List.dropWhile_cons, List.dropWhile_cons, ih]
    split_ifs <;> rfl

theorem EndsNumber.readDigits_append (h : EndsNumber tail) (hd : d.rest = c.rest ++ tail) :
    (readDigits d).1 = (readDigits c).1 ∧ (readDigits d).2.rest = (readDigits c).2.rest ++ tail := by
  simp only [readDigits, hd, h.takeWhile_append, h.dropWhile_append, and_self]

theorem EndsNumber.head?_append (h : EndsNumber tail) (text : List Char) :
    (text ++ tail).head?.any (·.isDigit) = text.head?.any (·.isDigit) := by
  cases text with
  | nil =>
    cases tail with
    | nil => rfl
    | cons ch rest => exact (h ch rfl).1
  | cons ch text => rfl

theorem leaves_hugePower (h : EndsNumber tail) (negative : Bool) (digits : Nat) (powerNegative : Bool) :
    Leaves tail (hugePower · negative digits powerNegative) := by
  intro c d hd value c' hread
  unfold hugePower at hread ⊢
  split_ifs at hread ⊢ with hfault
  · cases hread
  · cases hread
    exact ⟨_, (h.readDigits_append hd).2, rfl⟩

theorem leaves_readPowerDigits (h : EndsNumber tail) (negative : Bool) (digits : Nat) (power : Int)
    (powerNegative : Bool) {text : List Char} {count : Nat} (hc : c.rest = text) (hd : d.rest = text ++ tail)
    {value : Json} {c' : Cursor}
    (hread : readPowerDigits negative digits power powerNegative count text c = .ok (value, c')) :
    ∃ d' : Cursor, d'.rest = c'.rest ++ tail ∧
      readPowerDigits negative digits power powerNegative count (text ++ tail) d = .ok (value, d') := by
  induction text generalizing c d count with
  | nil =>
    -- The digits end where `tail` begins, and `tail` begins with none.
    have hfloat := leaves_floatAt tail negative digits
      (if powerNegative then power - count else power + count) (hc ▸ hd : d.rest = c.rest ++ tail) hread
    cases tail with
    | nil => exact hfloat
    | cons ch rest =>
      rw [List.nil_append, readPowerDigits, if_neg (by simp [(h ch rfl).1])]
      exact hfloat
  | cons ch text ih =>
    rw [readPowerDigits] at hread
    rw [List.cons_append, readPowerDigits]
    dsimp only at hread ⊢
    by_cases hdigit : ch.isDigit = true
    · rw [if_pos hdigit] at hread ⊢
      split_ifs at hread ⊢ with hhuge
      · exact leaves_hugePower h negative digits powerNegative (by simp) hread
      · exact ih (by simp) (by simp) hread
    · rw [if_neg hdigit] at hread ⊢
      exact leaves_floatAt tail negative digits _ (hc ▸ hd) hread

/-- The sign of a power of ten, and the cursor behind it. -/
def powerSign (c : Cursor) : Bool × Cursor :=
  match c.rest with
  | '+' :: rest => (false, c.next '+' rest)
  | '-' :: rest => (true, c.next '-' rest)
  | _ => (false, c)

theorem powerSign_of_cons {ch : Char} {rest : List Char} (hc : c.rest = ch :: rest) :
    powerSign c = if ch = '+' then (false, c.next '+' rest) else if ch = '-' then (true, c.next '-' rest)
      else (false, c) := by
  unfold powerSign
  rw [hc]
  split <;> simp_all

theorem powerSign_append (hd : d.rest = c.rest ++ tail) (hc : c.rest ≠ []) :
    (powerSign d).1 = (powerSign c).1 ∧ (powerSign d).2.rest = (powerSign c).2.rest ++ tail := by
  obtain ⟨ch, rest, hrest⟩ := List.exists_cons_of_ne_nil hc
  rw [powerSign_of_cons hrest, powerSign_of_cons (hrest ▸ hd)]
  split_ifs
  · simp
  · simp
  · simpa using hd

theorem readPower_eq (negative : Bool) (digits : Nat) (power : Int) (c : Cursor) :
    readPower negative digits power c =
      match (powerSign c).2.rest with
      | [] => (powerSign c).2.fail .endInValue
      | ch :: rest =>
        if ch.isDigit then
          readPowerDigits negative digits power (powerSign c).1 (Decimal.digitValue ch) rest
            ((powerSign c).2.next ch rest)
        else (powerSign c).2.failAhead .invalidNumber :=
  rfl

theorem leaves_readPower (h : EndsNumber tail) (negative : Bool) (digits : Nat) (power : Int) :
    Leaves tail (readPower negative digits power) := by
  intro c d hd value c' hread
  have hc : c.rest ≠ [] := by
    intro hc
    simp [readPower, hc, Cursor.fail] at hread
  obtain ⟨hsign, hrest⟩ := powerSign_append hd hc
  rw [readPower_eq] at hread ⊢
  rw [hsign, hrest]
  cases hbehind : (powerSign c).2.rest with
  | nil => simp [hbehind, Cursor.fail] at hread
  | cons ch rest =>
    simp only [hbehind] at hread
    rw [List.cons_append]
    dsimp only
    split_ifs at hread ⊢ with hdigit
    · exact leaves_readPowerDigits h negative digits power _ (by simp) (by simp) hread
    · simp [Cursor.failAhead, Cursor.fail] at hread

/-- The rest of a number behind its point, with the digits before it. -/
def readFraction (negative : Bool) (n unread : Nat) (c : Cursor) : Except ReadError (Json × Cursor) :=
  let (fraction, after) := readDigits c
  let (digits, dropped) := takeDigits n fraction
  let power : Int := (unread + dropped : Nat) - (fraction.length : Int)
  match fraction, after.rest with
  | [], [] => after.fail .endInValue
  | [], _ => after.failAhead .invalidNumber
  | _, mark :: rest =>
    if mark = 'e' ∨ mark = 'E' then readPower negative digits power (after.next mark rest)
    else floatAt after negative digits power
  | _, [] => floatAt after negative digits power

theorem leaves_readFraction (h : EndsNumber tail) (negative : Bool) (n unread : Nat) :
    Leaves tail (readFraction negative n unread) := by
  intro c d hd value c' hread
  obtain ⟨hdigits, hrest⟩ := h.readDigits_append hd
  unfold readFraction at hread ⊢
  dsimp only at hread ⊢
  rw [hdigits]
  generalize hfraction : (readDigits c).1 = fraction at hread ⊢
  generalize (readDigits c).2 = after at hread hrest
  generalize (readDigits d).2 = after' at hrest ⊢
  cases fraction with
  | nil => cases hafter : after.rest <;> simp [hafter, Cursor.fail, Cursor.failAhead] at hread
  | cons digit fraction =>
    cases hafter : after.rest with
    | nil =>
      simp only [hafter] at hread
      have hfloat := leaves_floatAt tail negative _ _ hrest hread
      cases tail with
      | nil => simpa [hrest, hafter] using hfloat
      | cons mark rest =>
        have hmark := h mark rfl
        simpa [hrest, hafter, hmark] using hfloat
    | cons mark rest =>
      simp only [hafter] at hread
      rw [hrest, hafter, List.cons_append]
      dsimp only
      split_ifs at hread ⊢ with hmark
      · exact leaves_readPower h negative _ _ (by simp) hread
      · exact leaves_floatAt tail negative _ _ hrest hread

theorem leaves_wholeAt (tail : List Char) (negative : Bool) (n unread : Nat) :
    Leaves tail (readNumberTail.wholeAt negative · n unread) := by
  intro c d hd value c' hread
  unfold readNumberTail.wholeAt at hread ⊢
  split_ifs at hread ⊢ with hunread hsign hrange
  · exact leaves_floatAt tail negative n unread hd hread
  · cases hread
    exact ⟨d, hd, rfl⟩
  · exact leaves_floatAt tail true n 0 hd hread
  · cases hread
    exact ⟨d, hd, rfl⟩

theorem readNumberTail_of_cons (negative : Bool) (whole : List Char) {mark : Char} {rest : List Char}
    (hc : c.rest = mark :: rest) :
    readNumberTail negative whole c =
      if mark = '.' then readFraction negative (takeDigits 0 whole).1 (takeDigits 0 whole).2 (c.next '.' rest)
      else if mark = 'e' ∨ mark = 'E' then
        readPower negative (takeDigits 0 whole).1 (takeDigits 0 whole).2 (c.next mark rest)
      else readNumberTail.wholeAt negative c (takeDigits 0 whole).1 (takeDigits 0 whole).2 := by
  unfold readNumberTail
  rw [hc]
  dsimp only
  by_cases hpoint : mark = '.'
  · subst hpoint
    rfl
  · split <;> simp_all

theorem readNumberTail_of_nil (negative : Bool) (whole : List Char) (hc : c.rest = []) :
    readNumberTail negative whole c =
      readNumberTail.wholeAt negative c (takeDigits 0 whole).1 (takeDigits 0 whole).2 := by
  unfold readNumberTail
  rw [hc]

/-- At the end of a number its digits decide. -/
theorem readNumberTail_of_ends (h : EndsNumber c.rest) (negative : Bool) (whole : List Char) :
    readNumberTail negative whole c =
      readNumberTail.wholeAt negative c (takeDigits 0 whole).1 (takeDigits 0 whole).2 := by
  cases hc : c.rest with
  | nil => exact readNumberTail_of_nil negative whole hc
  | cons mark rest =>
    obtain ⟨-, hpoint, hlower, hupper⟩ := h mark (by simp [hc])
    rw [readNumberTail_of_cons negative whole hc, if_neg hpoint, if_neg (not_or.mpr ⟨hlower, hupper⟩)]

theorem leaves_readNumberTail (h : EndsNumber tail) (negative : Bool) (whole : List Char) :
    Leaves tail (readNumberTail negative whole) := by
  intro c d hd value c' hread
  cases hc : c.rest with
  | nil =>
    have hends : EndsNumber d.rest := by rwa [hd, hc]
    rw [readNumberTail_of_nil negative whole hc] at hread
    rw [readNumberTail_of_ends hends]
    exact leaves_wholeAt tail negative _ _ hd hread
  | cons mark rest =>
    rw [readNumberTail_of_cons negative whole hc] at hread
    rw [readNumberTail_of_cons negative whole (hc ▸ hd)]
    split_ifs at hread ⊢ with hpoint hmark
    · exact leaves_readFraction h negative _ _ (by simp) hread
    · exact leaves_readPower h negative _ _ (by simp) hread
    · exact leaves_wholeAt tail negative _ _ hd hread

theorem readNumber_of_cons (negative : Bool) {ch : Char} {rest : List Char} (hc : c.rest = ch :: rest) :
    readNumber negative c =
      if ch = '0' then
        if rest.head?.any (·.isDigit) then (c.next '0' rest).failAhead .invalidNumber
        else readNumberTail negative ['0'] (c.next '0' rest)
      else if ch.isDigit then readNumberTail negative (readDigits c).1 (readDigits c).2
      else c.failAhead .invalidNumber := by
  unfold readNumber
  rw [hc]
  dsimp only
  by_cases hzero : ch = '0'
  · subst hzero
    cases rest with
    | nil => rfl
    | cons digit rest => rfl
  · split <;> simp_all

theorem leaves_readNumber (h : EndsNumber tail) (negative : Bool) : Leaves tail (readNumber negative) := by
  intro c d hd value c' hread
  cases hc : c.rest with
  | nil => simp [readNumber, hc, Cursor.fail] at hread
  | cons ch rest =>
    have hd' : d.rest = ch :: (rest ++ tail) := by rw [hd, hc, List.cons_append]
    obtain ⟨hdigits, hrest⟩ := h.readDigits_append hd
    rw [readNumber_of_cons negative hc] at hread
    rw [readNumber_of_cons negative hd']
    simp only [h.head?_append]
    split_ifs at hread ⊢ with hzero hdigit hdigit
    · simp [Cursor.failAhead, Cursor.fail] at hread
    · exact leaves_readNumberTail h negative _ (by simp) hread
    · rw [hdigits]
      exact leaves_readNumberTail h negative _ hrest hread
    · simp [Cursor.failAhead, Cursor.fail] at hread

end Leaves

end Json

section Head

/-- The text starts with a digit. -/
def StartsWithDigit (text : List Char) : Prop := ∃ digit rest, text = digit :: rest ∧ digit.isDigit = true

theorem StartsWithDigit.of_forall {text : List Char} (h : ∀ ch ∈ text, ch.isDigit = true) (hne : text ≠ []) :
    StartsWithDigit text := by
  obtain ⟨digit, rest, rfl⟩ := List.exists_cons_of_ne_nil hne
  exact ⟨digit, rest, rfl, h digit List.mem_cons_self⟩

theorem StartsWithDigit.append {text : List Char} (h : StartsWithDigit text) (more : List Char) :
    StartsWithDigit (text ++ more) := by
  obtain ⟨digit, rest, rfl, hdigit⟩ := h
  exact ⟨digit, rest ++ more, rfl, hdigit⟩

theorem startsWithDigit_toDigits (n : Nat) : StartsWithDigit (Nat.toDigits 10 n) :=
  .of_forall (Decimal.isDigit_toDigits n) Nat.toDigits_ne_nil

theorem Numeral.startsWithDigit_positional (c : Numeral) : StartsWithDigit c.positional := by
  rcases le_or_gt 0 c.power with hp | hp
  · obtain ⟨hall, hne, -⟩ := positional_of_nonneg hp
    exact .of_forall hall hne
  · obtain ⟨whole, fraction, htext, hwhole, hne, -⟩ := positional_of_neg hp
    rw [htext]
    exact (StartsWithDigit.of_forall hwhole hne).append _

theorem Numeral.startsWithDigit_significandText (c : Numeral) : StartsWithDigit c.significandText := by
  obtain ⟨digit, rest, hdigits, hdigit⟩ := startsWithDigit_toDigits c.digits
  unfold significandText
  rw [hdigits]
  cases rest with
  | nil => exact ⟨digit, [], rfl, hdigit⟩
  | cons second rest => exact ⟨digit, '.' :: second :: rest, rfl, hdigit⟩

theorem Numeral.startsWithDigit_document (c : Numeral) : StartsWithDigit c.document := by
  unfold document
  split_ifs
  · rw [scientific_eq]
    exact c.startsWithDigit_significandText.append _
  · exact c.startsWithDigit_positional.append _
  · exact c.startsWithDigit_positional

end Head

namespace Json

theorem Number.toChars_integer (n : Int) :
    (integer n).toChars = minusSign (decide (n < 0)) ++ Nat.toDigits 10 n.natAbs := by
  simp [toChars, minusSign]

/-- Behind the sign of a number stands a digit. -/
theorem Number.exists_toChars (n : Number) :
    ∃ negative text, n.toChars = minusSign negative ++ text ∧ StartsWithDigit text := by
  cases n with
  | integer n => exact ⟨_, _, toChars_integer n, startsWithDigit_toDigits _⟩
  | float x => exact ⟨_, _, x.documentText_eq, Numeral.startsWithDigit_document _⟩

/-- The number is read from its own text, to the end. -/
def Number.IsLegible (n : Number) : Prop :=
  ∃ c : Cursor, c.rest = [] ∧ readValue 1 0 ⟨n.toChars, 1, 0⟩ = .ok (number n, c)

section Value

variable {fuel depth : Nat} {c : Cursor} {negative : Bool} {text : List Char}

theorem not_isBlank_of_isDigit {ch : Char} (h : ch.isDigit = true) : ¬IsBlank ch := by
  rintro (rfl | rfl | rfl | rfl) <;> cases h

theorem not_isBlank_sign (htext : StartsWithDigit text) : ∀ ch ∈ (minusSign negative ++ text).head?, ¬IsBlank ch := by
  obtain ⟨digit, rest, rfl, hdigit⟩ := htext
  cases negative with
  | false => simpa [minusSign] using not_isBlank_of_isDigit hdigit
  | true => simp [minusSign, IsBlank]

/-- A value that starts with a sign or a digit is read as a number. -/
theorem readValue_number (htext : StartsWithDigit text) (hc : c.skipBlanks.rest = minusSign negative ++ text)
    (fuel depth : Nat) : ∃ d : Cursor, d.rest = text ∧ readValue (fuel + 1) depth c = readNumber negative d := by
  cases negative with
  | true =>
    have hc : c.skipBlanks.rest = '-' :: text := hc
    exact ⟨c.skipBlanks.next '-' text, rest_next _ _ _, by simp [readValue, hc]⟩
  | false =>
    refine ⟨c.skipBlanks, hc, ?_⟩
    obtain ⟨digit, rest, rfl, hdigit⟩ := htext
    have hc : c.skipBlanks.rest = digit :: rest := hc
    have hword : digit ≠ 'n' ∧ digit ≠ 't' ∧ digit ≠ 'f' ∧ digit ≠ '-' := by
      refine ⟨?_, ?_, ?_, ?_⟩ <;> rintro rfl <;> cases hdigit
    simp [readValue, hc, hdigit, hword]

theorem readValue_toChars {n : Number} (htext : StartsWithDigit text) (hn : n.toChars = minusSign negative ++ text) :
    ∃ d : Cursor, d.rest = text ∧ readValue 1 0 ⟨n.toChars, 1, 0⟩ = readNumber negative d := by
  refine readValue_number htext (rest_skipBlanks ?_ blank_nil (not_isBlank_sign htext)) 0 0
  exact hn

/-- A number that is read from its own text is read from it in front of whatever is no part of it. -/
theorem readValue_of_isLegible {n : Number} (hn : n.IsLegible) {tail : List Char} (htail : EndsNumber tail)
    (hc : c.skipBlanks.rest = n.toChars ++ tail) (fuel depth : Nat) :
    ∃ c' : Cursor, c'.rest = tail ∧ readValue (fuel + 1) depth c = .ok (number n, c') := by
  obtain ⟨negative, text, htext, hdigit⟩ := n.exists_toChars
  obtain ⟨last, hlast, hread⟩ := hn
  -- Alone and in front of `tail` the number is read behind its sign, from texts that differ by `tail`.
  obtain ⟨alone, halone, hvalue⟩ := readValue_toChars hdigit htext
  rw [htext, List.append_assoc] at hc
  obtain ⟨d, hd, hvalue'⟩ := readValue_number (hdigit.append tail) hc fuel depth
  have hbehind : d.rest = alone.rest ++ tail := by rw [hd, halone]
  obtain ⟨c', hc', hnumber⟩ := leaves_readNumber htail negative hbehind (hvalue ▸ hread)
  exact ⟨c', by rw [hc', hlast, List.nil_append], hvalue'.trans hnumber⟩

end Value

section Integer

variable {n : Nat} {c : Cursor} {negative : Bool}

/-- Digits that 64 bits hold are all added. -/
theorem takeDigits_of_lt {text : List Char} {start : Nat} (h : Nat.ofDigitChars 10 text start < twoPow 64) :
    takeDigits start text = (Nat.ofDigitChars 10 text start, 0) := by
  induction text generalizing start with
  | nil => rfl
  | cons ch rest ih =>
    rw [Nat.ofDigitChars_cons, Nat.mul_comm] at h ⊢
    have hnext : start * 10 + Decimal.digitValue ch < twoPow 64 := (Decimal.le_ofDigitChars rest _).trans_lt h
    rw [takeDigits, if_pos hnext]
    exact ih h

/-- Only zero is written with a zero in front. -/
theorem toDigits_of_zero_head {rest : List Char} (h : Nat.toDigits 10 n = '0' :: rest) : n = 0 ∧ rest = [] := by
  have hrest : ∀ ch ∈ rest, ch.isDigit = true := fun ch hch =>
    Decimal.isDigit_toDigits n ch (h ▸ List.mem_cons_of_mem _ hch)
  have hvalue : Nat.ofDigitChars 10 rest 0 = n := by
    rw [← Nat.ofDigitChars_ten_toDigits (n := n), h]
    rfl
  have hlt := Decimal.ofDigitChars_lt hrest
  have hzero : n = 0 := by
    refine Decidable.byContradiction fun hne => ?_
    have hle := Numeral.pow_le_digits hne
    rw [h, List.length_cons, Nat.add_sub_cancel] at hle
    omega
  subst hzero
  exact ⟨rfl, by simpa using h⟩

/-- A whole number is read from its digits. -/
theorem readNumber_toDigits (hc : c.rest = Nat.toDigits 10 n) (hn : n < twoPow 64) (negative : Bool) :
    ∃ d : Cursor, d.rest = [] ∧ readNumber negative c = readNumberTail.wholeAt negative d n 0 := by
  obtain ⟨digit, rest, hdigits, hdigit⟩ := startsWithDigit_toDigits n
  rw [readNumber_of_cons negative (hc.trans hdigits)]
  by_cases hzero : digit = '0'
  · subst hzero
    obtain ⟨rfl, rfl⟩ := toDigits_of_zero_head hdigits
    exact ⟨c.next '0' [], rest_next _ _ _, by simp [readNumberTail_of_nil]; rfl⟩
  · have hall := Decimal.isDigit_toDigits n
    have hread : (readDigits c).1 = Nat.toDigits 10 n ∧ (readDigits c).2.rest = [] := by
      rw [readDigits, hc]
      exact ⟨List.takeWhile_eq_self_iff.mpr hall, List.dropWhile_eq_nil_iff.mpr hall⟩
    have htake : takeDigits 0 (Nat.toDigits 10 n) = (n, 0) := by
      rw [takeDigits_of_lt (by rwa [Nat.ofDigitChars_ten_toDigits]), Nat.ofDigitChars_ten_toDigits]
    refine ⟨(readDigits c).2, hread.2, ?_⟩
    rw [if_neg hzero, if_pos hdigit, readNumberTail_of_nil _ _ hread.2, hread.1, htake]

/-- Whole numbers within 64 bits, signed or unsigned, are read from their own text. -/
theorem isLegible_integer {n : Int} (hlow : -(twoPow 63 : Int) ≤ n) (hhigh : n < twoPow 64) :
    (Number.integer n).IsLegible := by
  have htwo : twoPow 64 = 2 * twoPow 63 := rfl
  obtain ⟨d, hd, hvalue⟩ := readValue_toChars (startsWithDigit_toDigits n.natAbs) (Number.toChars_integer n)
  obtain ⟨e, he, hnumber⟩ := readNumber_toDigits hd (by omega) (decide (n < 0))
  refine ⟨e, he, ?_⟩
  rw [hvalue, hnumber]
  unfold readNumberTail.wholeAt
  by_cases hneg : n < 0
  · have hrange : ¬(n.natAbs = 0 ∨ twoPow 63 < n.natAbs) := by omega
    have habs : -(n.natAbs : Int) = n := by omega
    rw [if_neg (Nat.lt_irrefl 0), if_neg (by simp [hneg]), if_neg hrange, habs]
  · have habs : (n.natAbs : Int) = n := by omega
    rw [if_neg (Nat.lt_irrefl 0), if_pos (by simp [hneg]), habs]

end Integer

end Json

end Repricing
