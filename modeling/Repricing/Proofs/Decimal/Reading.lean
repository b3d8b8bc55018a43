import Mathlib.Data.List.TakeWhile
import Repricing.Decimal.Text
import Repricing.Proofs.Decimal.Value

namespace Repricing.Decimal

section Digits

variable {text : List Char} {n scale : Nat}

theorem isDigit_toDigits (n : Nat) : ∀ c ∈ Nat.toDigits 10 n, c.isDigit = true :=
  fun _ => Nat.isDigit_of_mem_toDigits (by decide) (by decide)

theorem le_ofDigitChars (text : List Char) (n : Nat) : n ≤ Nat.ofDigitChars 10 text n := by
  rw [Nat.ofDigitChars_eq_ofDigitChars_zero]
  exact (Nat.le_mul_of_pos_left n (by positivity)).trans (Nat.le_add_right _ _)

theorem digitValue_lt {c : Char} (h : c.isDigit = true) : digitValue c < 10 := by
  obtain ⟨-, hnine⟩ := Char.isDigit_iff_toNat.mp h
  unfold digitValue
  have : '0'.toNat = 48 := rfl
  have : '9'.toNat = 57 := rfl
  omega

theorem ofDigitChars_lt (h : ∀ c ∈ text, c.isDigit = true) : Nat.ofDigitChars 10 text 0 < 10 ^ text.length := by
  induction text with
  | nil => simp
  | cons c rest ih =>
    obtain ⟨hc, hrest⟩ := List.forall_mem_cons.mp h
    have hc : c.toNat - '0'.toNat < 10 := digitValue_lt hc
    have hlt := ih hrest
    rw [Nat.ofDigitChars_cons, Nat.ofDigitChars_eq_ofDigitChars_zero, List.length_cons, pow_succ]
    nlinarith

theorem ne_underscore {c : Char} (h : c.isDigit = true) : c ≠ '_' := by
  rintro rfl
  cases h

theorem readWhole_eq (h : ∀ c ∈ text, c.isDigit = true) (hn : n < twoPow 96) :
    readWhole n text =
      if Nat.ofDigitChars 10 text n < twoPow 96 then some (Nat.ofDigitChars 10 text n) else none := by
  induction text generalizing n with
  | nil => simp [readWhole, hn]
  | cons c rest ih =>
    obtain ⟨hc, hrest⟩ := List.forall_mem_cons.mp h
    have hnext : n * 10 + digitValue c = 10 * n + (c.toNat - '0'.toNat) := by rw [digitValue, Nat.mul_comm]
    rw [readWhole, if_neg (ne_underscore hc), Nat.ofDigitChars_cons, hnext]
    dsimp only
    split_ifs with hfits hall
    · rw [ih hrest hfits, if_pos hall]
    · rw [ih hrest hfits, if_neg hall]
    · exact absurd ((le_ofDigitChars rest _).trans_lt ‹_›) hfits
    · rfl

theorem readFraction_of_le (h : ∀ c ∈ text, c.isDigit = true) (hscale : scale + text.length ≤ 28)
    (hfits : Nat.ofDigitChars 10 text n < twoPow 96) :
    readFraction n scale text = some (Nat.ofDigitChars 10 text n, scale + text.length) := by
  induction text generalizing n scale with
  | nil => rfl
  | cons c rest ih =>
    obtain ⟨hc, hrest⟩ := List.forall_mem_cons.mp h
    have hnext : n * 10 + digitValue c = 10 * n + (c.toNat - '0'.toNat) := by rw [digitValue, Nat.mul_comm]
    rw [List.length_cons] at hscale ⊢
    rw [Nat.ofDigitChars_cons] at hfits ⊢
    have hlt := (le_ofDigitChars rest _).trans_lt hfits
    rw [readFraction, if_neg (ne_underscore hc), hnext]
    dsimp only
    rw [if_pos ⟨by omega, hlt⟩, ih hrest (by omega) hfits, Nat.add_right_comm, Nat.add_assoc]

/-- Digits past the last place round it up from five on. -/
theorem nearestUp_ofDigitChars {c : Char} {rest : List Char} (hc : c.isDigit = true)
    (hrest : ∀ c ∈ rest, c.isDigit = true) (n : Nat) :
    Rounding.nearestUp (Nat.ofDigitChars 10 (c :: rest) n) (tenPow (rest.length + 1)) =
      if digitValue c < 5 then n else n + 1 := by
  have hlt := ofDigitChars_lt hrest
  have hdigit := digitValue_lt hc
  have hpow : tenPow (rest.length + 1) = 10 * 10 ^ rest.length := by rw [tenPow, Nat.pow_eq, pow_succ, Nat.mul_comm]
  have hvalue : Nat.ofDigitChars 10 (c :: rest) n =
      10 * 10 ^ rest.length * n + (10 ^ rest.length * digitValue c + Nat.ofDigitChars 10 rest 0) := by
    rw [Nat.ofDigitChars_cons, Nat.ofDigitChars_eq_ofDigitChars_zero, digitValue]
    ring
  generalize Nat.ofDigitChars 10 rest 0 = tail at hlt hvalue
  have hbelow : 10 ^ rest.length * digitValue c + tail < 10 * 10 ^ rest.length := by nlinarith
  have hpos : 0 < 10 * 10 ^ rest.length := by positivity
  rw [hvalue, hpow, Rounding.nearestUp, Nat.mul_add_mod, Nat.mul_add_div hpos, Nat.div_eq_of_lt hbelow,
    Nat.mod_eq_of_lt hbelow]
  by_cases hfive : digitValue c < 5
  · rw [if_pos hfive, if_neg (by nlinarith), Nat.add_zero]
  · rw [if_neg hfive, if_pos (by nlinarith), Nat.add_zero]

theorem readFraction_of_lt (h : ∀ c ∈ text, c.isDigit = true) (hscale : scale ≤ 28) (hlong : 28 < scale + text.length)
    (hfits : Nat.ofDigitChars 10 text n < twoPow 96) :
    readFraction n scale text =
      some (Rounding.nearestUp (Nat.ofDigitChars 10 text n) (tenPow (scale + text.length - 28)), 28) := by
  induction text generalizing n scale with
  | nil => simp at hlong; omega
  | cons c rest ih =>
    obtain ⟨hc, hrest⟩ := List.forall_mem_cons.mp h
    have hnext : n * 10 + digitValue c = 10 * n + (c.toNat - '0'.toNat) := by rw [digitValue, Nat.mul_comm]
    have hlt := (le_ofDigitChars rest _).trans_lt (Nat.ofDigitChars_cons ▸ hfits)
    rw [List.length_cons] at hlong ⊢
    rw [readFraction, if_neg (ne_underscore hc), hnext]
    dsimp only
    rcases hscale.lt_or_eq with hmore | rfl
    · rw [Nat.ofDigitChars_cons] at hfits ⊢
      rw [if_pos ⟨hmore, hlt⟩, ih hrest (by omega : scale + 1 ≤ 28) (by omega) hfits, Nat.add_right_comm,
        Nat.add_assoc]
    · rw [if_neg (by omega), Nat.add_sub_cancel_left, nearestUp_ofDigitChars hc hrest, roundUpFrom]
      split_ifs with hfive hroom
      · rfl
      · rfl
      · omega
      · omega

end Digits

/-- A magnitude under a sign. -/
def withMinus (negative : Bool) (n : Nat) : Int := if negative then -n else n

theorem natAbs_withMinus (negative : Bool) (n : Nat) : (withMinus negative n).natAbs = n := by
  cases negative <;> simp [withMinus]

theorem withMinus_natAbs (n : Int) : withMinus (decide (n < 0)) n.natAbs = n := by
  unfold withMinus
  split_ifs with hneg
  · have := of_decide_eq_true hneg
    omega
  · have := of_decide_eq_false (Bool.eq_false_iff.mpr hneg)
    omega

/-- The decimal `± n / 10 ^ places`, to 28 places and with halves away from zero. -/
def ofPlaces? (negative : Bool) (n places : Nat) : Option Decimal :=
  if places ≤ 28 then make? (withMinus negative n) places
  else make? (withMinus negative (Rounding.nearestUp n (tenPow (places - 28)))) 28

section Plain

variable {text whole fraction : List Char}

theorem ne_point {c : Char} (h : c.isDigit = true) : c ≠ '.' := by
  rintro rfl
  cases h

theorem isNumeral_of_isDigit (h : ∀ c ∈ text, c.isDigit = true) (hne : text ≠ []) : IsNumeral text := by
  cases text with
  | nil => exact absurd rfl hne
  | cons c rest =>
    have hc := h c List.mem_cons_self
    simp only [IsNumeral, List.head?_cons, Option.any_some, hc, Bool.true_and, List.all_eq_true]
    intro d hd
    simp [h d hd]

/-- The sign that a text begins with. -/
def minusSign (negative : Bool) : List Char := if negative then ['-'] else []

theorem splitSign_minusSign (negative : Bool) (h : ∀ c ∈ whole, c.isDigit = true) (hne : whole ≠ [])
    (rest : List Char) : splitSign (minusSign negative ++ (whole ++ rest)) = (negative, whole ++ rest) := by
  cases negative with
  | true => rfl
  | false =>
    cases whole with
    | nil => exact absurd rfl hne
    | cons c tail =>
      have hc := h c List.mem_cons_self
      change splitSign (c :: (tail ++ rest)) = _
      unfold splitSign
      split
      · rename_i heq
        cases heq
        cases hc
      · rename_i heq
        cases heq
        cases hc
      · rfl

theorem ofPlain?_whole (negative : Bool) (h : ∀ c ∈ whole, c.isDigit = true) (hne : whole ≠ []) :
    ofPlain? (minusSign negative ++ whole) = make? (withMinus negative (Nat.ofDigitChars 10 whole 0)) 0 := by
  have hpoint : ∀ c ∈ whole, decide (c ≠ '.') = true := fun c hc => decide_eq_true (ne_point (h c hc))
  have htake : whole.takeWhile (· ≠ '.') = whole := List.takeWhile_eq_self_iff.mpr hpoint
  have hdrop : whole.dropWhile (· ≠ '.') = [] := List.dropWhile_eq_nil_iff.mpr hpoint
  have hsplit := splitSign_minusSign negative h hne []
  rw [List.append_nil] at hsplit
  unfold ofPlain?
  rw [hsplit]
  dsimp only
  rw [htake, hdrop, List.drop_nil, List.append_nil, if_pos (isNumeral_of_isDigit h hne), readWhole_eq h (by decide)]
  by_cases hfits : Nat.ofDigitChars 10 whole 0 < twoPow 96
  · rw [if_pos hfits]
    rfl
  · have hnone : make? (withMinus negative (Nat.ofDigitChars 10 whole 0)) 0 = none := by
      refine dif_neg fun h => hfits ?_
      have hlt := h.1
      rwa [natAbs_withMinus] at hlt
    rw [if_neg hfits, hnone]
    rfl

theorem ofPlain?_point (negative : Bool) (hwhole : ∀ c ∈ whole, c.isDigit = true) (hne : whole ≠ [])
    (hfraction : ∀ c ∈ fraction, c.isDigit = true) (hfits : Nat.ofDigitChars 10 (whole ++ fraction) 0 < twoPow 96) :
    ofPlain? (minusSign negative ++ (whole ++ '.' :: fraction)) =
      ofPlaces? negative (Nat.ofDigitChars 10 (whole ++ fraction) 0) fraction.length := by
  have hpoint : ∀ c ∈ whole, decide (c ≠ '.') = true := fun c hc => decide_eq_true (ne_point (hwhole c hc))
  have htake : (whole ++ '.' :: fraction).takeWhile (· ≠ '.') = whole := by
    rw [List.takeWhile_append_of_pos hpoint]
    simp
  have hdrop : (whole ++ '.' :: fraction).dropWhile (· ≠ '.') = '.' :: fraction := by
    rw [List.dropWhile_append_of_pos hpoint]
    simp
  have hdigits : ∀ c ∈ whole ++ fraction, c.isDigit = true := List.forall_mem_append.mpr ⟨hwhole, hfraction⟩
  rw [Nat.ofDigitChars_append] at hfits ⊢
  unfold ofPlain?
  rw [splitSign_minusSign negative hwhole hne]
  dsimp only
  rw [htake, hdrop, List.drop_one, List.tail_cons, if_pos (isNumeral_of_isDigit hdigits (by simp [hne])),
    readWhole_eq hwhole (by decide), if_pos ((le_ofDigitChars _ _).trans_lt hfits), Option.bind_some, ofPlaces?]
  by_cases hshort : fraction.length ≤ 28
  · rw [if_pos hshort, readFraction_of_le hfraction (by omega) hfits, Option.bind_some, Nat.zero_add]
    rfl
  · rw [if_neg hshort, readFraction_of_lt hfraction (by omega) (by omega) hfits, Option.bind_some, Nat.zero_add]
    rfl

end Plain

section Scientific

variable {text front : List Char} {c : Char} {k : Nat}

/-- Only the point between them belongs neither to the whole part nor to the fraction. -/
theorem mem_parts (hmem : c ∈ text) (hc : c ≠ '.') :
    c ∈ text.takeWhile (· ≠ '.') ++ (text.dropWhile (· ≠ '.')).drop 1 := by
  induction text with
  | nil => cases hmem
  | cons d rest ih =>
    by_cases hd : d = '.'
    · simpa [hd, hc] using hmem
    · rw [List.takeWhile_cons_of_pos (by simpa using hd), List.dropWhile_cons_of_pos (by simpa using hd),
        List.cons_append, List.mem_cons]
      exact (List.mem_cons.mp hmem).imp_right ih

/-- A character that is no digit, no sign and no point is refused wherever it stands. -/
theorem ofPlain?_eq_none (hmem : c ∈ text) (hdigit : c.isDigit = false) (hc : c ∉ ['-', '+', '.', '_']) :
    ofPlain? text = none := by
  simp only [List.mem_cons, List.not_mem_nil, or_false, not_or] at hc
  have hunsigned : c ∈ (splitSign text).2 := by
    unfold splitSign
    split <;> simp_all
  unfold ofPlain?
  dsimp only
  refine if_neg fun hnumeral => ?_
  have hall := List.all_eq_true.mp (Bool.and_eq_true_iff.mp hnumeral).2 c (mem_parts hunsigned hc.2.2.1)
  simp [hdigit, hc] at hall

theorem foldl_digitValue (digits : List Char) :
    digits.foldl (fun n c => n * 10 + digitValue c) 0 = Nat.ofDigitChars 10 digits 0 := by
  rw [Nat.ofDigitChars_eq_foldl]
  simp only [digitValue, Nat.mul_comm]

theorem readCount?_of_isDigit (h : ∀ c ∈ text, c.isDigit = true) (hne : text ≠ [])
    (hlt : Nat.ofDigitChars 10 text 0 < k) :
    readCount? k text = some (Nat.ofDigitChars 10 text 0) ∧
      readCount? k ('+' :: text) = some (Nat.ofDigitChars 10 text 0) := by
  have hall : text.all (·.isDigit) = true := List.all_eq_true.mpr h
  constructor
  · unfold readCount?
    split
    · cases h '+' List.mem_cons_self
    · simp [hne, foldl_digitValue, hlt, hall]
  · simp [readCount?, hne, foldl_digitValue, hlt, hall]

/-- A count is written in digits, behind a plus sign or without one. -/
theorem exists_digits_of_readCount? {n : Nat} (h : readCount? k text = some n) :
    ∃ digits, (text = digits ∨ text = '+' :: digits) ∧ digits ≠ [] ∧ (∀ c ∈ digits, c.isDigit = true) ∧
      Nat.ofDigitChars 10 digits 0 = n ∧ n < k := by
  unfold readCount? at h
  extract_lets digits count at h
  have htext : text = digits ∨ text = '+' :: digits := by
    subst digits
    split
    · exact .inr rfl
    · exact .inl rfl
  split_ifs at h with hdigits hlt
  obtain rfl := Option.some.inj h
  exact ⟨digits, htext, hdigits.1, by simpa using hdigits.2, (foldl_digitValue digits).symm, hlt⟩

/-- Without a mark for a power of ten, a text is read as it stands. -/
theorem ofChars?_eq_ofPlain? (h : ∀ c ∈ text, c ≠ 'e' ∧ c ≠ 'E') : ofChars? text = ofPlain? text := by
  have hmark : ∀ c ∈ text, (!(decide (c = 'e') || decide (c = 'E'))) = true := by
    intro c hc
    simp [h c hc]
  unfold ofChars? ofScientific?
  dsimp only
  rw [List.dropWhile_eq_nil_iff.mpr hmark, Option.or_none]

/-- Digits before a power of ten are read on their own, then shifted by the power. -/
theorem ofChars?_scientific (negative : Bool) (hfront : ∀ c ∈ front, c ≠ 'e' ∧ c ≠ 'E') (hk : k < twoPow 32) :
    ofChars? (front ++ 'e' :: (if negative then '-' else '+') :: Nat.toDigits 10 k) =
      (ofPlain? front).bind fun base => base.shift? negative k := by
  have hplain : ofPlain? (front ++ 'e' :: (if negative then '-' else '+') :: Nat.toDigits 10 k) = none :=
    ofPlain?_eq_none (c := 'e') (by simp) (by decide) (by decide)
  have hmark : ∀ c ∈ front, (!(decide (c = 'e') || decide (c = 'E'))) = true := by
    intro c hc
    simp [hfront c hc]
  unfold ofChars? ofScientific?
  rw [hplain, Option.none_or]
  dsimp only
  have hlt : Nat.ofDigitChars 10 (Nat.toDigits 10 k) 0 < twoPow 32 := by rwa [Nat.ofDigitChars_ten_toDigits]
  obtain ⟨hcount, hplus⟩ := readCount?_of_isDigit (isDigit_toDigits k) Nat.toDigits_ne_nil hlt
  rw [Nat.ofDigitChars_ten_toDigits] at hcount hplus
  rw [List.dropWhile_append_of_pos hmark, List.takeWhile_append_of_pos hmark]
  cases negative with
  | true => simp [hcount]
  | false => simp [hplus]

theorem not_mark_of_isDigit (h : c.isDigit = true) : c ≠ 'e' ∧ c ≠ 'E' := by
  constructor <;> rintro rfl <;> cases h

theorem not_mark_minusSign (negative : Bool) : ∀ c ∈ minusSign negative, c ≠ 'e' ∧ c ≠ 'E' := by
  cases negative <;> simp [minusSign]

/-- Digits are read as a whole number. -/
theorem ofChars?_whole (negative : Bool) (h : ∀ c ∈ text, c.isDigit = true) (hne : text ≠ []) :
    ofChars? (minusSign negative ++ text) = make? (withMinus negative (Nat.ofDigitChars 10 text 0)) 0 := by
  rw [← ofPlain?_whole negative h hne]
  exact ofChars?_eq_ofPlain? (List.forall_mem_append.mpr
    ⟨not_mark_minusSign negative, fun c hc => not_mark_of_isDigit (h c hc)⟩)

/-- Digits around a point are read as a number with places. -/
theorem ofChars?_point (negative : Bool) {whole fraction : List Char} (hwhole : ∀ c ∈ whole, c.isDigit = true)
    (hne : whole ≠ []) (hfraction : ∀ c ∈ fraction, c.isDigit = true)
    (hfits : Nat.ofDigitChars 10 (whole ++ fraction) 0 < twoPow 96) :
    ofChars? (minusSign negative ++ (whole ++ '.' :: fraction)) =
      ofPlaces? negative (Nat.ofDigitChars 10 (whole ++ fraction) 0) fraction.length := by
  rw [← ofPlain?_point negative hwhole hne hfraction hfits]
  refine ofChars?_eq_ofPlain? (List.forall_mem_append.mpr ⟨not_mark_minusSign negative, ?_⟩)
  exact List.forall_mem_append.mpr ⟨fun c hc => not_mark_of_isDigit (hwhole c hc),
    List.forall_mem_cons.mpr ⟨by decide, fun c hc => not_mark_of_isDigit (hfraction c hc)⟩⟩

end Scientific

section Value

variable {v : Rat} {d e : Decimal} {negative : Bool} {n places k : Nat}

/-- The decimal is the number, to 28 places and with halves away from zero. -/
def ReadsAs (v : Rat) (d : Decimal) : Prop :=
  ∃ k : Int, Rounding.halfAway.Rounds (v * 10 ^ 28) k ∧ d.toRat = k / 10 ^ 28

theorem readsAs_toRat (d : Decimal) : ReadsAs d.toRat d := by
  obtain ⟨k, hk⟩ := d.exists_toRat_mul_pow d.scale_le
  refine ⟨k, by rw [hk]; exact Rounding.rounds_intCast _ k, ?_⟩
  rw [← hk, mul_div_cancel_right₀ _ (by positivity)]

theorem ReadsAs.unique (hd : ReadsAs v d) (he : ReadsAs v e) : d.toRat = e.toRat := by
  obtain ⟨k, hk, hd⟩ := hd
  obtain ⟨l, hl, he⟩ := he
  rw [hd, he, hk.unique hl]

/-- A number of at most 28 places is read exactly. -/
theorem ReadsAs.eq_of_places (h : ReadsAs v d) {m : Int} (hm : v * 10 ^ 28 = m) : d.toRat = v := by
  obtain ⟨k, hk, hd⟩ := h
  rw [hm] at hk
  rw [hd, hk.eq_of_intCast, ← hm, mul_div_cancel_right₀ _ (by positivity)]

theorem quotient_withMinus (negative : Bool) (n d : Nat) (hd : 0 < d) :
    Rounding.halfAway.quotient (withMinus negative n) d = withMinus negative (Rounding.nearestUp n d) := by
  unfold Rounding.quotient
  dsimp only
  rw [natAbs_withMinus]
  cases negative with
  | false => simp [withMinus, Rounding.signed]
  | true =>
    rcases Nat.eq_zero_or_pos n with rfl | hn
    · have hzero : Rounding.nearestUp 0 d = 0 := Nat.le_zero.mp (Rounding.nearestUp_le hd)
      rw [hzero]
      rfl
    · exact if_pos (by simp [withMinus]; omega)

theorem readsAs_of_ofPlaces? (h : ofPlaces? negative n places = some d) :
    ReadsAs (withMinus negative n / 10 ^ places) d := by
  unfold ofPlaces? at h
  split_ifs at h with hshort
  · obtain ⟨hcoefficient, hscale⟩ := make?_eq_some_iff.mp h
    rw [← hcoefficient, ← hscale, ← toRat_eq]
    exact readsAs_toRat d
  · obtain ⟨hcoefficient, hscale⟩ := make?_eq_some_iff.mp h
    have hunits : (withMinus negative n : Rat) / 10 ^ places * 10 ^ 28 =
        withMinus negative n / (tenPow (places - 28) : Nat) := by
      rw [tenPow_cast, eq_div_iff (by positivity), mul_assoc, ← pow_add, Nat.add_sub_cancel' (by omega),
        div_mul_cancel₀ _ (by positivity)]
    refine ⟨d.coefficient, ?_, by rw [toRat_eq, hscale]⟩
    rw [hunits, hcoefficient, ← quotient_withMinus negative n _ (tenPow_pos _)]
    exact Rounding.rounds_quotient _ _ (tenPow_pos _)

theorem exists_ofPlaces? (hn : n < twoPow 96) (negative : Bool) (places : Nat) :
    ∃ d, ofPlaces? negative n places = some d := by
  unfold ofPlaces?
  split_ifs with hshort
  · exact ⟨_, dif_pos ⟨by rwa [natAbs_withMinus], hshort⟩⟩
  · refine ⟨_, dif_pos ⟨?_, le_rfl⟩⟩
    rw [natAbs_withMinus]
    exact (Rounding.nearestUp_le (tenPow_pos _)).trans_lt hn

/-- A negative power of ten only adds places. -/
theorem shift?_true (hd : ofPlaces? negative n places = some d) (hplaces : places ≤ 28) (hk : k ≤ 28) :
    d.shift? true k = ofPlaces? negative n (places + k) := by
  rw [ofPlaces?, if_pos hplaces] at hd
  obtain ⟨hcoefficient, hscale⟩ := make?_eq_some_iff.mp hd
  unfold shift? ofPlaces?
  rw [if_pos rfl, if_neg (by omega), hscale]
  dsimp only
  by_cases hshort : places + k ≤ 28
  · rw [if_neg (by omega), if_pos hshort, hcoefficient, hscale]
  · have hround : ¬d.scale ≤ 28 - k := by omega
    rw [if_pos (by omega), if_neg hshort, round, dif_neg hround]
    dsimp only
    rw [hcoefficient, quotient_withMinus _ _ _ (tenPow_pos _), hscale, Nat.sub_add_cancel hk,
      show places - (28 - k) = places + k - 28 by omega]

theorem shift?_true_eq_none (hk : 28 < k) : d.shift? true k = none := by
  rw [shift?, if_pos rfl, if_pos hk]

theorem cast_coefficient_mul (h : d.scale ≤ k) :
    ((d.coefficient * tenPow (k - d.scale) : Int) : Rat) = d.toRat * 10 ^ k := by
  rw [toRat_eq, div_mul_eq_mul_div, eq_div_iff (by positivity)]
  push_cast
  rw [tenPow_cast, mul_assoc, ← pow_add, Nat.sub_add_cancel h]

/-- A power of ten that is not negative multiplies, where the product has a decimal. -/
theorem toRat_of_shift?_false (h : d.shift? false k = some e) : e.toRat = d.toRat * 10 ^ k := by
  rw [shift?, if_neg (by decide)] at h
  split_ifs at h with hshort hlarge
  · obtain ⟨hcoefficient, hscale⟩ := make?_eq_some_iff.mp h
    rw [toRat_eq, toRat_eq, hcoefficient, hscale, div_mul_eq_mul_div, div_eq_div_iff (by positivity) (by positivity),
      mul_assoc, ← pow_add, Nat.add_sub_cancel' hshort]
  · obtain ⟨hcoefficient, hscale⟩ := make?_eq_some_iff.mp h
    rw [toRat_eq, hcoefficient, hscale, pow_zero, div_one, cast_coefficient_mul (by omega)]

theorem exists_shift?_false (hk : k ≤ 28) (hfits : |d.toRat * 10 ^ k| ≤ largest) : ∃ e, d.shift? false k = some e := by
  rw [shift?, if_neg (by decide)]
  split_ifs with hshort hlarge
  · exact ⟨_, dif_pos ⟨d.coefficient_lt, (Nat.sub_le _ _).trans d.scale_le⟩⟩
  · omega
  · rw [← cast_coefficient_mul (by omega)] at hfits
    obtain ⟨e, he, -⟩ := exists_toRat_eq hfits
    exact ⟨_, dif_pos ⟨he ▸ e.coefficient_lt, by decide⟩⟩

end Value

end Repricing.Decimal
