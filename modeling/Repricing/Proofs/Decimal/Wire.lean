import Repricing.Decimal.Wire
import Repricing.Proofs.Binary64.Text

namespace Repricing

open Decimal

section Number

variable {d e : Decimal} {m : Json.Number} {x y : Binary64} {n : Int}

theorem toDecimal?_integer (n : Int) : (Json.Number.integer n).toDecimal? = make? n 0 := by
  have htext : (Json.Number.integer n).toChars = minusSign (decide (n < 0)) ++ Nat.toDigits 10 n.natAbs := by
    simp [Json.Number.toChars, minusSign]
  rw [Json.Number.toDecimal?, htext, ofChars?_whole _ (isDigit_toDigits _) Nat.toDigits_ne_nil,
    Nat.ofDigitChars_ten_toDigits, withMinus_natAbs]

theorem toRat_of_toDecimal?_integer (h : (Json.Number.integer n).toDecimal? = some d) : d.toRat = n := by
  rw [toDecimal?_integer] at h
  obtain ⟨hcoefficient, hscale⟩ := make?_eq_some_iff.mp h
  rw [toRat_eq, hcoefficient, hscale, pow_zero, div_one]

theorem exists_toDecimal?_integer (h : IsInt64 n) :
    ∃ e, (Json.Number.integer n).toDecimal? = some e ∧ e.toRat = n := by
  have hfits : n.natAbs < twoPow 96 := by
    have htwo : twoPow 96 = 79228162514264337593543950336 := rfl
    obtain ⟨hlow, hhigh⟩ := h
    omega
  have hread : (Json.Number.integer n).toDecimal? = some ⟨n, 0, hfits, by decide⟩ := by
    rw [toDecimal?_integer]
    exact make?_eq_some_iff.mpr ⟨rfl, rfl⟩
  exact ⟨_, hread, toRat_of_toDecimal?_integer hread⟩

theorem toInt64?_eq_some (h : d.toInt64? = some n) : d.toRat = n ∧ IsInt64 n := by
  unfold toInt64? at h
  dsimp only at h
  split_ifs at h with hwhole
  obtain rfl := Option.some.inj h
  refine ⟨?_, hwhole.2⟩
  have hmul := Int.ediv_mul_cancel (Int.dvd_of_emod_eq_zero hwhole.1)
  rw [toRat_eq, div_eq_iff (by positivity), ← tenPow_cast]
  exact_mod_cast hmul.symm

/-- What is not shown as an integer is not zero. -/
theorem toRat_ne_zero (h : d.toInt64? = none) : d.toRat ≠ 0 := by
  intro hzero
  have hcoefficient : d.coefficient = 0 := isZero_iff_toRat.mpr hzero
  unfold toInt64? at h
  rw [hcoefficient] at h
  simp [IsInt64] at h

/-- A decimal is shown as a number or spelled out as a string. -/
theorem toJson_eq_number_or (d : Decimal) : (∃ m, d.toJson = .number m) ∨ d.toJson = .string d.toText := by
  unfold toJson
  split
  · exact .inl ⟨_, rfl⟩
  · split
    · split
      · split
        · exact .inl ⟨_, rfl⟩
        · exact .inr rfl
      · exact .inr rfl
    · exact .inr rfl

/-- A decimal that is shown as a number: an integer, or a floating-point number whose full text has the same value. -/
theorem toJson_eq_number (h : d.toJson = .number m) :
    (∃ n : Int, m = .integer n ∧ d.toRat = n ∧ IsInt64 n) ∨
      ∃ x shown, m = .float x ∧ d.toInt64? = none ∧ d.toBinary64? = some x ∧
        ofChars? x.positionalText = some shown ∧ shown.toRat = d.toRat := by
  unfold toJson at h
  split at h
  · rename_i n hn
    obtain ⟨hvalue, hrange⟩ := toInt64?_eq_some hn
    exact .inl ⟨n, (Json.number.inj h).symm, hvalue, hrange⟩
  · rename_i hint
    split at h
    · rename_i x hx
      split at h
      · rename_i shown hshown
        split_ifs at h with hsame
        exact .inr ⟨x, shown, (Json.number.inj h).symm, hint, hx, hshown, sameValue_iff_toRat.mp hsame⟩
      · cases h
    · cases h

end Number

section Range

variable {c : Numeral} {d : Decimal} {negative : Bool}

/-- Over places that decimals have, a numeral is read exactly. -/
theorem toRat_of_readsAs (hpower : -28 ≤ c.power) (h : ReadsAs (signedRat negative c.toRat) d) :
    d.toRat = signedRat negative c.toRat := by
  obtain ⟨k, hk⟩ : ∃ k : Nat, c.power + 28 = k := ⟨(c.power + 28).toNat, by omega⟩
  have hunits : c.toRat * 10 ^ 28 = (c.digits * 10 ^ k : Nat) := by
    rw [Numeral.toRat, mul_assoc, ← zpow_natCast (10 : Rat) 28, ← zpow_add₀ (by norm_num)]
    push_cast
    rw [hk, zpow_natCast]
  refine h.eq_of_places (m := withMinus negative (c.digits * 10 ^ k)) ?_
  rw [withMinus_cast, ← hunits, signedRat_mul]

theorem abs_sub_le_of_rounds {v : Rat} {k : Int} (h : Rounding.halfAway.Rounds (signedRat negative v * 10 ^ 28) k)
    (hv : 0 ≤ v) : |(k : Rat)| ≤ v * 10 ^ 28 + 1 / 2 := by
  have hround : |signedRat negative v * 10 ^ 28 - k| ≤ 1 / 2 := h.1
  have hsplit := abs_sub_abs_le_abs_sub (k : Rat) (signedRat negative v * 10 ^ 28)
  rw [abs_sub_comm, abs_mul, abs_signedRat, abs_of_nonneg hv, abs_of_pos (by positivity : (0 : Rat) < 10 ^ 28)]
    at hsplit
  have hle := hsplit.trans hround
  linarith

/-- Past those places it is below `10 ^ (-10)`. -/
theorem abs_toRat_lt_of_readsAs (hdigits : c.digits < 10 ^ 18) (hpower : c.power < -28)
    (h : ReadsAs (signedRat negative c.toRat) d) : |d.toRat| < 1 / 10 ^ 10 := by
  obtain ⟨k, hk, hd⟩ := h
  have hsmall : c.toRat ≤ 1 / 10 ^ 11 := by
    have hten : (10 : Rat) ^ c.power ≤ 10 ^ (-29 : Int) := zpow_le_zpow_right₀ (by norm_num) (by omega)
    have hlt : (c.digits : Rat) < 10 ^ 18 := by exact_mod_cast hdigits
    have hpos : (0 : Rat) < 10 ^ c.power := zpow_pos (by norm_num) _
    calc c.toRat ≤ 10 ^ 18 * 10 ^ c.power := mul_le_mul_of_nonneg_right hlt.le hpos.le
      _ ≤ 10 ^ 18 * 10 ^ (-29 : Int) := mul_le_mul_of_nonneg_left hten (by positivity)
      _ = 1 / 10 ^ 11 := by norm_num
  have hle := abs_sub_le_of_rounds hk c.toRat_nonneg
  rw [hd, abs_div, abs_of_pos (by positivity : (0 : Rat) < 10 ^ 28), div_lt_iff₀ (by positivity)]
  norm_num at hsmall hle ⊢
  linarith

/-- A numeral that is read as a decimal is no larger than decimals are. -/
theorem toRat_le_largest (hdigits : c.digits < 10 ^ 18) (h : ReadsAs (signedRat negative c.toRat) d) :
    c.toRat ≤ largest := by
  rcases le_or_gt (-28) c.power with hpower | hpower
  · have hle := d.abs_toRat_le
    rw [toRat_of_readsAs hpower h, abs_signedRat] at hle
    exact (le_abs_self _).trans hle
  · have hten : (10 : Rat) ^ c.power ≤ 1 := zpow_le_one_of_nonpos₀ (by norm_num) (by omega)
    have hlt : (c.digits : Rat) < 10 ^ 18 := by exact_mod_cast hdigits
    have hle : c.toRat ≤ 10 ^ 18 * 1 := mul_le_mul hlt.le hten (zpow_nonneg (by norm_num) _) (by positivity)
    exact hle.trans (by norm_num [largest])

/-- Below the last place only the least decimal is read that is not zero. -/
theorem abs_toRat_of_readsAs (hmagnitude : c.magnitude < -28) (h : ReadsAs (signedRat negative c.toRat) d)
    (hd : d.toRat ≠ 0) : |d.toRat| = 1 / 10 ^ 28 := by
  obtain ⟨k, hk, hvalue⟩ := h
  have hlt : c.toRat * 10 ^ 28 < 1 := by
    have hten : (10 : Rat) ^ (c.magnitude + 1) ≤ 10 ^ (-28 : Int) := zpow_le_zpow_right₀ (by norm_num) (by omega)
    have hsmall := c.toRat_lt_zpow.trans_le hten
    norm_num at hsmall ⊢
    linarith
  have hle := abs_sub_le_of_rounds hk c.toRat_nonneg
  have hk2 : |(k : Rat)| < 2 := by linarith
  have hk0 : k ≠ 0 := by
    rintro rfl
    simp [hvalue] at hd
  have hk1 : |k| = 1 := by
    rw [← Int.cast_abs] at hk2
    have hk2 : |k| < 2 := by exact_mod_cast hk2
    have := abs_pos.mpr hk0
    omega
  rw [hvalue, abs_div, ← Int.cast_abs, hk1, abs_of_pos (by positivity : (0 : Rat) < 10 ^ 28), Int.cast_one]

end Range

section RoundTrip

variable {d e shown : Decimal} {m n : Json.Number} {x : Binary64}

/-- The decimal that a binary number is made from is not so small that it could be lost. -/
theorem le_magnitude_of_toBinary64? (hd : |d.toRat| = 1 / 10 ^ 28) (hx : d.toBinary64? = some x) :
    -28 ≤ (x.shortest .away).magnitude := by
  have hscale : d.coefficient.natAbs * 10 ^ (28 - d.scale) = 1 := by
    rw [toRat_eq, abs_div, abs_of_pos (by positivity : (0 : Rat) < 10 ^ d.scale), div_eq_div_iff (by positivity)
      (by positivity), one_mul, ← Int.cast_abs, Int.abs_eq_natAbs] at hd
    have hd : d.coefficient.natAbs * 10 ^ 28 = 10 ^ d.scale := by exact_mod_cast hd
    refine Nat.eq_of_mul_eq_mul_left (by positivity : 0 < 10 ^ d.scale) ?_
    rw [Nat.mul_left_comm, ← pow_add, Nat.add_sub_cancel' d.scale_le, hd, Nat.mul_one]
  have hone := Nat.dvd_one.mp (Dvd.intro _ hscale)
  have hpow := Nat.dvd_one.mp (Dvd.intro_left _ hscale)
  have hscale : d.scale = 28 := by
    have := (Nat.pow_eq_one.mp hpow).resolve_left (by decide)
    have := d.scale_le
    omega
  have hcases : d = ⟨1, 28, by decide, by decide⟩ ∨ d = ⟨-1, 28, by decide, by decide⟩ :=
    (Int.natAbs_eq d.coefficient).imp (fun h => Decimal.ext (by rw [h, hone]; rfl) hscale)
      fun h => Decimal.ext (by rw [h, hone]; rfl) hscale
  rcases hcases with rfl | rfl
  · have hall : ∀ x ∈ Decimal.toBinary64? ⟨1, 28, by decide, by decide⟩, -28 ≤ (x.shortest .away).magnitude := by
      decide +kernel
    exact hall x hx
  · have hall : ∀ x ∈ Decimal.toBinary64? ⟨-1, 28, by decide, by decide⟩, -28 ≤ (x.shortest .away).magnitude := by
      decide +kernel
    exact hall x hx

/-- A floating-point number within the range of decimals is read, as its shortest digits with ties to even. -/
theorem exists_toDecimal?_float (hlarge : (x.shortest .even).toRat ≤ largest)
    (hsmall : -28 ≤ (x.shortest .even).magnitude) :
    ∃ e, (Json.Number.float x).toDecimal? = some e ∧
      ReadsAs (signedRat x.negative (x.shortest .even).toRat) e := by
  obtain ⟨e, he⟩ := Numeral.exists_document (Binary64.digits_shortest_lt .even x) (Binary64.power_shortest .even x)
    hlarge hsmall x.negative
  rw [← Binary64.documentText_eq] at he
  exact ⟨e, he, Binary64.readsAs_of_documentText he⟩

/-- Where ties do not matter, a document shows the number that the check read. -/
theorem toDecimal?_float (hint : d.toInt64? = none) (hx : d.toBinary64? = some x)
    (hshown : ofChars? x.positionalText = some shown) (hvalue : shown.toRat = d.toRat)
    (hsame : x.shortest .even = x.shortest .away) :
    ∃ e, (Json.Number.float x).toDecimal? = some e ∧ e.toRat = d.toRat := by
  have hread := Binary64.readsAs_of_positionalText hshown
  have hdigits := Binary64.digits_shortest_lt .away x
  have hmagnitude : -28 ≤ (x.shortest .away).magnitude := by
    by_contra hsmall
    refine hsmall (le_magnitude_of_toBinary64? ?_ hx)
    rw [← hvalue]
    exact abs_toRat_of_readsAs (by omega) hread (hvalue ▸ toRat_ne_zero hint)
  have hlarge := toRat_le_largest hdigits hread
  rw [← hsame] at hread hmagnitude hlarge
  obtain ⟨e, he, hdocument⟩ := exists_toDecimal?_float hlarge hmagnitude
  exact ⟨e, he, by rw [← hvalue, hdocument.unique hread]⟩

/-- What is shown of a number halfway between its neighbours: it has places, not too many of them, it ends in three, and
it is large for so many places. -/
theorem places_of_isHalfway {p : Int} (hsteps : x.steps p % 2 = 0) (hhalfway : x.IsHalfway p)
    (habove : x.ReadsBack ⟨x.steps p + 1, p⟩) (haway : x.shortest .away = ⟨x.steps p + 1, p⟩) :
    ∃ q : Nat, 0 < q ∧ q ≤ 26 ∧ p = -q ∧ (x.steps p + 1) % 10 = 3 ∧ 5 ^ q ≤ 2 * x.steps p + 1 := by
  obtain ⟨q, hq, hpq, hdvd⟩ := Binary64.five_pow_dvd_of_isHalfway hhalfway habove
  have hlt := Binary64.digits_shortest_lt .away x
  rw [haway] at hlt
  have hle := Nat.le_of_dvd (Nat.succ_pos _) hdvd
  have hq26 : q ≤ 26 := by
    by_contra hlarge
    have hpow : 5 ^ 27 ≤ 5 ^ q := Nat.pow_le_pow_right (by decide) (by omega)
    dsimp only at hlt
    omega
  have hfive : 5 ∣ 2 * x.steps p + 1 := (dvd_pow_self 5 hq.ne').trans hdvd
  exact ⟨q, hq, hq26, hpq, by omega, hle⟩

/-- No number of a document is read as what a number halfway between its neighbours shows. -/
theorem toDecimal?_ne_of_isHalfway {p : Int} (hsteps : x.steps p % 2 = 0) (hhalfway : x.IsHalfway p)
    (habove : x.ReadsBack ⟨x.steps p + 1, p⟩) (heven : x.shortest .even = ⟨x.steps p, p⟩)
    (haway : x.shortest .away = ⟨x.steps p + 1, p⟩) (hshown : ofChars? x.positionalText = some shown)
    (hvalue : shown.toRat = d.toRat) : n.toDecimal? ≠ some d := by
  intro hn
  obtain ⟨q, hq, hq26, rfl, hthree, hfive⟩ := places_of_isHalfway hsteps hhalfway habove haway
  have hread := Binary64.readsAs_of_positionalText hshown
  rw [haway] at hread
  have habs : |d.toRat| = Numeral.toRat ⟨x.steps (-q) + 1, -q⟩ := by
    rw [← hvalue, toRat_of_readsAs (by simpa using by omega) hread, abs_signedRat,
      abs_of_nonneg (Numeral.toRat_nonneg _)]
  have hplaces := Numeral.toRat_places (x.steps (-q) + 1) q
  cases n with
  | integer k =>
    -- A whole number has no digit but zero behind the point.
    rw [hplaces, toRat_of_toDecimal?_integer hn, eq_div_iff (by positivity), ← Int.cast_abs, Int.abs_eq_natAbs] at habs
    have habs : k.natAbs * 10 ^ q = x.steps (-q) + 1 := by exact_mod_cast habs
    obtain ⟨q, rfl⟩ := Nat.exists_eq_succ_of_ne_zero hq.ne'
    rw [pow_succ, ← Nat.mul_assoc] at habs
    omega
  | float y =>
    have hdocument := Binary64.readsAs_of_documentText (x := y) hn
    rcases le_or_gt (-28) (y.shortest .even).power with hpower | hpower
    · refine Binary64.toRat_shortest_even_ne habove heven y ?_
      rw [← habs, toRat_of_readsAs hpower hdocument, abs_signedRat, abs_of_nonneg (Numeral.toRat_nonneg _)]
    · -- A number with so many factors of five has few places.
      have hsmall := abs_toRat_lt_of_readsAs (Binary64.digits_shortest_lt _ _) hpower hdocument
      rw [habs, hplaces, div_lt_div_iff₀ (by positivity) (by positivity), one_mul] at hsmall
      have hsmall : (x.steps (-q) + 1) * 10 ^ 10 < 10 ^ q := by exact_mod_cast hsmall
      have htwo : 2 ^ q ≤ 2 ^ 26 := Nat.pow_le_pow_right (by decide) hq26
      have hten : 10 ^ q ≤ 2 ^ 26 * (2 * x.steps (-q) + 1) := by
        rw [show 10 = 2 * 5 by rfl, Nat.mul_pow]
        exact Nat.mul_le_mul htwo hfive
      omega

/-- What is read from the number of a document, and shown as a number, is read again with its value. -/
theorem toDecimal?_toJson_of_toDecimal? (hn : n.toDecimal? = some d) (h : d.toJson = .number m) :
    ∃ e, m.toDecimal? = some e ∧ e.toRat = d.toRat := by
  obtain ⟨k, rfl, hk, hrange⟩ | ⟨x, shown, rfl, hint, hx, hshown, hvalue⟩ := toJson_eq_number h
  · rw [hk]
    exact exists_toDecimal?_integer hrange
  · obtain hsame | ⟨p, hsteps, hhalfway, habove, heven, haway⟩ := x.shortest_even_away
    · exact toDecimal?_float hint hx hshown hvalue hsame
    · exact absurd hn (toDecimal?_ne_of_isHalfway hsteps hhalfway habove heven haway hshown hvalue)

end RoundTrip

end Repricing
