import Repricing.Proofs.Binary64.Shortest
import Repricing.Proofs.Decimal.Reading

namespace Repricing

open Decimal

/-- The number under a sign. -/
def signedRat (negative : Bool) (v : Rat) : Rat := if negative then -v else v

theorem signedRat_mul (negative : Bool) (v w : Rat) : signedRat negative (v * w) = signedRat negative v * w := by
  cases negative <;> simp [signedRat]

theorem signedRat_div (negative : Bool) (v w : Rat) : signedRat negative (v / w) = signedRat negative v / w := by
  rw [div_eq_mul_inv, signedRat_mul, ← div_eq_mul_inv]

theorem abs_signedRat (negative : Bool) (v : Rat) : |signedRat negative v| = |v| := by
  cases negative <;> simp [signedRat]

theorem withMinus_cast (negative : Bool) (n : Nat) : (withMinus negative n : Rat) = signedRat negative n := by
  cases negative <;> simp [withMinus, signedRat]

namespace Numeral

variable {c : Numeral}

theorem toRat_nonneg (c : Numeral) : 0 ≤ c.toRat := mul_nonneg (by positivity) (zpow_nonneg (by norm_num) _)

theorem digits_lt_pow (n : Nat) : n < 10 ^ (Nat.toDigits 10 n).length :=
  (Nat.length_toDigits_le_iff (by decide) Nat.length_toDigits_pos).mp le_rfl

theorem pow_le_digits {n : Nat} (hn : n ≠ 0) : 10 ^ ((Nat.toDigits 10 n).length - 1) ≤ n := by
  rcases Nat.eq_zero_or_pos ((Nat.toDigits 10 n).length - 1) with hzero | hpos
  · rw [hzero, pow_zero]
    exact Nat.pos_of_ne_zero hn
  · have hle := (Nat.length_toDigits_le_iff (b := 10) (n := n) (by decide) hpos).not
    omega

/-- The leading digit of a numeral stands at its magnitude. -/
theorem zpow_magnitude_le (hc : c.digits ≠ 0) : (10 : Rat) ^ c.magnitude ≤ c.toRat := by
  rw [magnitude, zpow_add₀ (by norm_num), toRat, mul_comm, zpow_natCast]
  refine mul_le_mul_of_nonneg_right ?_ (zpow_nonneg (by norm_num) _)
  exact_mod_cast pow_le_digits hc

theorem toRat_lt_zpow (c : Numeral) : c.toRat < 10 ^ (c.magnitude + 1) := by
  have hpos : 0 < (Nat.toDigits 10 c.digits).length := Nat.length_toDigits_pos
  have hpower : c.magnitude + 1 = c.power + (Nat.toDigits 10 c.digits).length := by
    unfold magnitude
    omega
  rw [hpower, zpow_add₀ (by norm_num), toRat, mul_comm, zpow_natCast]
  refine mul_lt_mul_of_pos_left ?_ (zpow_pos (by norm_num) _)
  exact_mod_cast digits_lt_pow c.digits

section Positional

theorem isDigit_zeros (n : Nat) : ∀ c ∈ List.replicate n '0', c.isDigit = true := by
  intro c hc
  rw [(List.mem_replicate.mp hc).2]
  rfl

theorem positional_of_nonneg (h : 0 ≤ c.power) :
    (∀ d ∈ c.positional, d.isDigit = true) ∧ c.positional ≠ [] ∧
      Nat.ofDigitChars 10 c.positional 0 = c.digits * 10 ^ c.power.toNat := by
  unfold positional
  rw [if_pos h]
  refine ⟨List.forall_mem_append.mpr ⟨isDigit_toDigits _, isDigit_zeros _⟩, by simp [Nat.toDigits_ne_nil], ?_⟩
  rw [Nat.ofDigitChars_append, Nat.ofDigitChars_ten_toDigits, Nat.ofDigitChars_replicate_zero, Nat.mul_comm]

theorem positional_of_neg (h : c.power < 0) :
    ∃ whole fraction, c.positional = whole ++ '.' :: fraction ∧ (∀ d ∈ whole, d.isDigit = true) ∧ whole ≠ [] ∧
      (∀ d ∈ fraction, d.isDigit = true) ∧ Nat.ofDigitChars 10 (whole ++ fraction) 0 = c.digits ∧
      fraction.length = (-c.power).toNat := by
  have hdigits := isDigit_toDigits c.digits
  unfold positional
  rw [if_neg (by omega)]
  dsimp only
  split_ifs with hplaces
  · refine ⟨_, _, rfl, fun d hd => hdigits d (List.mem_of_mem_take hd), ?_,
      fun d hd => hdigits d (List.mem_of_mem_drop hd), ?_, ?_⟩
    · rw [Ne, List.take_eq_nil_iff]
      simp [Nat.toDigits_ne_nil]
      omega
    · rw [List.take_append_drop, Nat.ofDigitChars_ten_toDigits]
    · rw [List.length_drop]
      omega
  · refine ⟨['0'], _, rfl, by simp, by simp, List.forall_mem_append.mpr ⟨isDigit_zeros _, hdigits⟩, ?_, ?_⟩
    · rw [Nat.ofDigitChars_append, Nat.ofDigitChars_append, Nat.ofDigitChars_replicate_zero]
      exact Nat.ofDigitChars_ten_toDigits
    · rw [List.length_append, List.length_replicate]
      omega

end Positional

/-- The digits of scientific notation: one, and the others behind a point. -/
def significandText (c : Numeral) : List Char :=
  match Nat.toDigits 10 c.digits with
  | [] => []
  | [digit] => [digit]
  | digit :: rest => digit :: '.' :: rest

theorem scientific_eq (c : Numeral) :
    c.scientific = c.significandText ++
      'e' :: (if decide (c.magnitude < 0) then '-' else '+') :: Nat.toDigits 10 c.magnitude.natAbs := by
  unfold scientific significandText magnitude
  dsimp only
  cases hdigits : Nat.toDigits 10 c.digits with
  | nil => exact absurd hdigits Nat.toDigits_ne_nil
  | cons digit rest => cases rest <;> simp

theorem ofPlain?_significandText (negative : Bool) (hfits : c.digits < twoPow 96) :
    ofPlain? (minusSign negative ++ c.significandText) =
        ofPlaces? negative c.digits ((Nat.toDigits 10 c.digits).length - 1) ∧
      ∀ d ∈ c.significandText, d ≠ 'e' ∧ d ≠ 'E' := by
  have hvalue := Nat.ofDigitChars_ten_toDigits (n := c.digits)
  have hall := isDigit_toDigits c.digits
  unfold significandText
  cases hdigits : Nat.toDigits 10 c.digits with
  | nil => exact absurd hdigits Nat.toDigits_ne_nil
  | cons digit rest =>
    rw [hdigits] at hvalue hall
    cases rest with
    | nil =>
      refine ⟨?_, fun d hd => not_mark_of_isDigit (hall d hd)⟩
      rw [ofPlain?_whole negative hall (by simp), hvalue]
      rfl
    | cons second rest =>
      obtain ⟨hdigit, hrest⟩ := List.forall_mem_cons.mp hall
      constructor
      · have hwhole : ∀ c ∈ [digit], c.isDigit = true := by simpa using hdigit
        have hsame : Nat.ofDigitChars 10 ([digit] ++ second :: rest) 0 = c.digits := hvalue
        have hpoint := ofPlain?_point negative hwhole (by simp) hrest (hsame ▸ hfits)
        rw [hsame] at hpoint
        exact hpoint
      · exact List.forall_mem_cons.mpr ⟨not_mark_of_isDigit hdigit,
          List.forall_mem_cons.mpr ⟨by decide, fun d hd => not_mark_of_isDigit (hrest d hd)⟩⟩

/-- Scientific notation is read as its digits, shifted by the power of ten. -/
theorem ofChars?_scientific_text (negative : Bool) (hfits : c.digits < twoPow 96)
    (hmagnitude : c.magnitude.natAbs < twoPow 32) :
    ofChars? (minusSign negative ++ c.scientific) =
      (ofPlaces? negative c.digits ((Nat.toDigits 10 c.digits).length - 1)).bind fun base =>
        base.shift? (decide (c.magnitude < 0)) c.magnitude.natAbs := by
  obtain ⟨hplain, hmark⟩ := ofPlain?_significandText negative hfits
  rw [scientific_eq, ← List.append_assoc, ← hplain]
  exact ofChars?_scientific _ (List.forall_mem_append.mpr ⟨not_mark_minusSign negative, hmark⟩) hmagnitude

section Value

variable {d : Decimal} {negative : Bool}

theorem toRat_of_nonneg (h : 0 ≤ c.power) : c.toRat = (c.digits * 10 ^ c.power.toNat : Nat) := by
  obtain ⟨p, hp⟩ := Int.eq_ofNat_of_zero_le h
  rw [toRat, hp, zpow_natCast, Int.toNat_natCast]
  push_cast
  rfl

theorem toRat_of_neg (h : c.power < 0) : c.toRat = c.digits / 10 ^ (-c.power).toNat := by
  obtain ⟨p, hp⟩ : ∃ p : Nat, c.power = -p := ⟨(-c.power).toNat, by omega⟩
  rw [toRat, hp, neg_neg, Int.toNat_natCast, zpow_neg, zpow_natCast, div_eq_mul_inv]

/-- A numeral over fraction digits. -/
theorem toRat_places (k q : Nat) : toRat ⟨k, -q⟩ = k / 10 ^ q := by
  rw [toRat, zpow_neg, zpow_natCast, div_eq_mul_inv]

theorem lt_twoPow (h : c.digits < 10 ^ 18) : c.digits < twoPow 96 := h.trans (by decide)

/-- Positional text is read as the number that it writes, to 28 places. -/
theorem readsAs_of_positional (hdigits : c.digits < 10 ^ 18)
    (h : ofChars? (minusSign negative ++ c.positional) = some d) : ReadsAs (signedRat negative c.toRat) d := by
  rcases le_or_gt 0 c.power with hp | hp
  · obtain ⟨hall, hne, hvalue⟩ := positional_of_nonneg hp
    rw [ofChars?_whole negative hall hne, hvalue] at h
    obtain ⟨hcoefficient, hscale⟩ := make?_eq_some_iff.mp h
    have hd : d.toRat = signedRat negative c.toRat := by
      rw [toRat_eq, hcoefficient, hscale, withMinus_cast, toRat_of_nonneg hp, pow_zero, div_one]
    exact hd ▸ readsAs_toRat d
  · obtain ⟨whole, fraction, htext, hwhole, hne, hfraction, hvalue, hlength⟩ := positional_of_neg hp
    rw [htext, ofChars?_point negative hwhole hne hfraction (hvalue ▸ lt_twoPow hdigits), hvalue, hlength] at h
    have hd := readsAs_of_ofPlaces? h
    rwa [withMinus_cast, ← signedRat_div, ← toRat_of_neg hp] at hd

/-- The digits of a document text, without the sign. -/
def document (c : Numeral) : List Char :=
  if c.digits ≠ 0 ∧ (c.magnitude < -5 ∨ 16 ≤ c.magnitude) then c.scientific
  else if 0 ≤ c.power then c.positional ++ ['.', '0']
  else c.positional

theorem ofChars?_positional_point (negative : Bool) (hp : 0 ≤ c.power)
    (hfits : c.digits * 10 ^ c.power.toNat * 10 < twoPow 96) :
    ofChars? (minusSign negative ++ (c.positional ++ ['.', '0'])) =
      ofPlaces? negative (c.digits * 10 ^ c.power.toNat * 10) 1 := by
  obtain ⟨hall, hne, hvalue⟩ := positional_of_nonneg hp
  have hsame : Nat.ofDigitChars 10 (c.positional ++ ['0']) 0 = c.digits * 10 ^ c.power.toNat * 10 := by
    rw [Nat.ofDigitChars_append, hvalue]
    change 10 * _ + 0 = _
    rw [Nat.add_zero, Nat.mul_comm]
  rw [← hsame] at hfits ⊢
  exact ofChars?_point negative hall hne (by simp) hfits

/-- A whole number below `10 ^ 16` leaves room for a fraction digit. -/
theorem mul_ten_lt (hp : 0 ≤ c.power) (hmagnitude : ¬(c.digits ≠ 0 ∧ (c.magnitude < -5 ∨ 16 ≤ c.magnitude))) :
    c.digits * 10 ^ c.power.toNat * 10 < 10 ^ 18 := by
  by_cases hzero : c.digits = 0
  · simp [hzero]
  · have hlt : c.magnitude + 1 ≤ (17 : Nat) := by
      push_cast
      omega
    have hvalue := c.toRat_lt_zpow.trans_le (zpow_le_zpow_right₀ (by norm_num) hlt)
    rw [toRat_of_nonneg hp, zpow_natCast] at hvalue
    have hvalue : c.digits * 10 ^ c.power.toNat < 10 ^ 17 := by exact_mod_cast hvalue
    omega

theorem length_toDigits_le (hdigits : c.digits < 10 ^ 18) : (Nat.toDigits 10 c.digits).length ≤ 18 :=
  (Nat.length_toDigits_le_iff (by decide) (by decide)).mpr hdigits

theorem natAbs_magnitude_lt (hdigits : c.digits < 10 ^ 18) (hpower : -400 ≤ c.power ∧ c.power ≤ 400) :
    c.magnitude.natAbs < twoPow 32 := by
  have hlength := length_toDigits_le hdigits
  have htwo : twoPow 32 = 4294967296 := rfl
  unfold magnitude
  omega

/-- The number in terms of its digits with places behind the first. -/
theorem toRat_eq_div_mul (c : Numeral) :
    c.toRat = c.digits / 10 ^ ((Nat.toDigits 10 c.digits).length - 1) * 10 ^ c.magnitude := by
  rw [magnitude, zpow_add₀ (by norm_num), zpow_natCast, toRat]
  field_simp

theorem length_sub_one_le (hdigits : c.digits < 10 ^ 18) : (Nat.toDigits 10 c.digits).length - 1 ≤ 28 := by
  have := length_toDigits_le hdigits
  omega

/-- Shifting the digits up by the magnitude gives the number. -/
theorem toRat_mul_pow_of_ofPlaces? {base : Decimal} (hdigits : c.digits < 10 ^ 18) (hnonneg : 0 ≤ c.magnitude)
    (hbase : ofPlaces? negative c.digits ((Nat.toDigits 10 c.digits).length - 1) = some base) :
    base.toRat * 10 ^ c.magnitude.natAbs = signedRat negative c.toRat := by
  rw [ofPlaces?, if_pos (length_sub_one_le hdigits)] at hbase
  obtain ⟨hcoefficient, hscale⟩ := make?_eq_some_iff.mp hbase
  obtain ⟨k, hk⟩ := Int.eq_ofNat_of_zero_le hnonneg
  rw [toRat_eq, hcoefficient, hscale, withMinus_cast, ← signedRat_div, ← signedRat_mul, toRat_eq_div_mul, hk,
    Int.natAbs_natCast, zpow_natCast]

/-- Document text is read as the number that it writes, to 28 places. -/
theorem readsAs_of_document (hdigits : c.digits < 10 ^ 18) (hpower : -400 ≤ c.power ∧ c.power ≤ 400)
    (h : ofChars? (minusSign negative ++ c.document) = some d) : ReadsAs (signedRat negative c.toRat) d := by
  unfold document at h
  split_ifs at h with hscientific hwhole
  · rw [ofChars?_scientific_text negative (lt_twoPow hdigits) (natAbs_magnitude_lt hdigits hpower)] at h
    obtain ⟨base, hbase, h⟩ := Option.bind_eq_some_iff.mp h
    rcases lt_or_ge c.magnitude 0 with hneg | hnonneg
    · rw [decide_eq_true hneg] at h
      have hk : c.magnitude.natAbs ≤ 28 := by
        by_contra hk
        rw [shift?_true_eq_none (by omega)] at h
        cases h
      rw [shift?_true hbase (length_sub_one_le hdigits) hk] at h
      have hd := readsAs_of_ofPlaces? h
      have hvalue : c.toRat = c.digits / 10 ^ ((Nat.toDigits 10 c.digits).length - 1 + c.magnitude.natAbs) := by
        obtain ⟨k, hk⟩ : ∃ k : Nat, c.magnitude = -k := ⟨c.magnitude.natAbs, by omega⟩
        rw [toRat_eq_div_mul, hk, Int.natAbs_neg, Int.natAbs_natCast, zpow_neg, zpow_natCast, pow_add, ← div_eq_mul_inv,
          div_div]
      rwa [withMinus_cast, ← signedRat_div, ← hvalue] at hd
    · rw [decide_eq_false (by omega)] at h
      have hd := toRat_of_shift?_false h
      rw [toRat_mul_pow_of_ofPlaces? hdigits hnonneg hbase] at hd
      exact hd ▸ readsAs_toRat d
  · have hfits := (mul_ten_lt hwhole hscientific).trans (by decide : 10 ^ 18 < twoPow 96)
    rw [ofChars?_positional_point negative hwhole hfits] at h
    have hd := readsAs_of_ofPlaces? h
    rw [withMinus_cast, ← signedRat_div] at hd
    rw [toRat_of_nonneg hwhole]
    push_cast at hd ⊢
    rwa [pow_one, mul_div_cancel_right₀ _ (by norm_num)] at hd
  · exact readsAs_of_positional hdigits h

/-- A document text within the range of decimals can be read. -/
theorem exists_document (hdigits : c.digits < 10 ^ 18) (hpower : -400 ≤ c.power ∧ c.power ≤ 400)
    (hlarge : c.toRat ≤ largest) (hsmall : -28 ≤ c.magnitude) (negative : Bool) :
    ∃ d, ofChars? (minusSign negative ++ c.document) = some d := by
  have hfits := lt_twoPow hdigits
  unfold document
  split_ifs with hscientific hwhole
  · rw [ofChars?_scientific_text negative hfits (natAbs_magnitude_lt hdigits hpower)]
    obtain ⟨base, hbase⟩ := exists_ofPlaces? hfits negative ((Nat.toDigits 10 c.digits).length - 1)
    rw [hbase, Option.bind_some]
    rcases lt_or_ge c.magnitude 0 with hneg | hnonneg
    · rw [decide_eq_true hneg, shift?_true hbase (length_sub_one_le hdigits) (by omega)]
      exact exists_ofPlaces? hfits _ _
    · rw [decide_eq_false (by omega)]
      have hmagnitude : c.magnitude < 29 := by
        have hlt : (10 : Rat) ^ c.magnitude < 10 ^ (29 : Int) :=
          ((zpow_magnitude_le hscientific.1).trans hlarge).trans_lt (by norm_num [largest])
        exact (zpow_lt_zpow_iff_right₀ (by norm_num)).mp hlt
      refine exists_shift?_false (by omega) ?_
      rwa [toRat_mul_pow_of_ofPlaces? hdigits hnonneg hbase, abs_signedRat, abs_of_nonneg c.toRat_nonneg]
  · rw [ofChars?_positional_point negative hwhole ((mul_ten_lt hwhole hscientific).trans (by decide))]
    exact exists_ofPlaces? ((mul_ten_lt hwhole hscientific).trans (by decide)) _ _
  · obtain ⟨whole, fraction, htext, hwhole, hne, hfraction, hvalue, -⟩ := positional_of_neg (not_le.mp hwhole)
    rw [htext, ofChars?_point negative hwhole hne hfraction (hvalue ▸ hfits), hvalue]
    exact exists_ofPlaces? hfits _ _

end Value

end Numeral

namespace Binary64

variable {x : Binary64} {d : Decimal}

theorem toRat_eq (x : Binary64) : x.toRat = signedRat x.negative x.magnitude := by
  have hunits : ((inUnits x.significand 1 (-x.exponent)).1 : Rat) / (inUnits x.significand 1 (-x.exponent)).2 =
      x.magnitude := by
    rw [inUnits_div, zpow_neg, div_inv_eq_mul, Nat.cast_one, div_one, magnitude]
  unfold toRat
  dsimp only
  rw [Rat.mkRat_eq_div, ← hunits, signedRat_div]
  cases x.negative <;> simp [signedRat]

theorem withSign_eq (x : Binary64) (text : List Char) : x.withSign text = minusSign x.negative ++ text := by
  unfold withSign minusSign
  split_ifs <;> rfl

/-- A number written out in full is read as its shortest digits, to 28 places. -/
theorem readsAs_of_positionalText (h : ofChars? x.positionalText = some d) :
    ReadsAs (signedRat x.negative (x.shortest .away).toRat) d := by
  rw [positionalText, withSign_eq] at h
  exact Numeral.readsAs_of_positional (digits_shortest_lt _ _) h

theorem documentText_eq (x : Binary64) : x.documentText = minusSign x.negative ++ (x.shortest .even).document :=
  withSign_eq x _

/-- A number of a document is read as its shortest digits, to 28 places. -/
theorem readsAs_of_documentText (h : ofChars? x.documentText = some d) :
    ReadsAs (signedRat x.negative (x.shortest .even).toRat) d := by
  rw [documentText_eq] at h
  exact Numeral.readsAs_of_document (digits_shortest_lt _ _) (power_shortest _ _) h

end Binary64

end Repricing
