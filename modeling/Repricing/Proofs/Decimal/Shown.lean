import Repricing.Proofs.Decimal.Text
import Repricing.Proofs.Decimal.Wire

namespace Repricing

open Decimal

/-- The decimal that a document shows, as a number or as a string. -/
def Json.shownDecimal? : Json → Option Decimal
  | .number n => n.toDecimal?
  | .string s => ofText? s
  | _ => none

/-- The binary number is the midpoint of two decimals that are neighbours over some number of fraction digits, of which
`near` is nearer to zero. The other one has more than fifteen digits. -/
structure Binary64.IsMidpoint (x : Binary64) (near far : Decimal) : Prop where
  neighbours : ∃ q : Nat, 0 < q ∧ q ≤ 26 ∧ |far.toRat| = |near.toRat| + 1 / 10 ^ q
  sum : near.toRat + far.toRat = 2 * x.toRat
  long : twoPow 52 < far.coefficient.natAbs

section Midpoint

variable {x : Binary64} {d e : Decimal} {k q : Nat}

/-- A coefficient has all digits of the value that it stands for, up to zeros at the end. -/
theorem le_natAbs_coefficient (hk : k % 10 ≠ 0) (h : |d.toRat| = k / 10 ^ q) : k ≤ d.coefficient.natAbs := by
  have hwhole : d.coefficient.natAbs * 10 ^ q = k * 10 ^ d.scale := by
    rw [toRat_eq, abs_div, abs_of_pos (by positivity : (0 : Rat) < 10 ^ d.scale), div_eq_div_iff (by positivity)
      (by positivity), ← Int.cast_abs, Int.abs_eq_natAbs] at h
    exact_mod_cast h
  rcases lt_or_ge d.scale q with hlt | hge
  · -- With fewer places the value would end in zero.
    obtain ⟨n, rfl⟩ := Nat.exists_eq_add_of_lt hlt
    have hcancel : d.coefficient.natAbs * 10 ^ (n + 1) = k := by
      refine Nat.eq_of_mul_eq_mul_right (by positivity : 0 < 10 ^ d.scale) ?_
      rw [← hwhole]
      ring
    rw [pow_succ, ← Nat.mul_assoc] at hcancel
    omega
  · obtain ⟨n, hn⟩ := Nat.exists_eq_add_of_le hge
    have hcancel : d.coefficient.natAbs = k * 10 ^ n := by
      refine Nat.eq_of_mul_eq_mul_right (by positivity : 0 < 10 ^ q) ?_
      rw [hwhole, hn]
      ring
    rw [hcancel]
    exact Nat.le_mul_of_pos_right k (by positivity)

/-- Two neighbours between which the number lies halfway, under its sign. -/
theorem isMidpoint_of_isHalfway (hq : 0 < q) (hq26 : q ≤ 26) (hhalfway : x.IsHalfway (-q))
    (habove : x.ReadsBack ⟨x.steps (-q) + 1, -q⟩) (hlast : (x.steps (-q) + 1) % 10 ≠ 0)
    (he : e.toRat = signedRat x.negative (Numeral.toRat ⟨x.steps (-q), -q⟩))
    (hd : d.toRat = signedRat x.negative (Numeral.toRat ⟨x.steps (-q) + 1, -q⟩)) : x.IsMidpoint e d := by
  have hsteps := Binary64.two_pow_le_steps_of_isHalfway hhalfway habove (by omega)
  unfold Binary64.IsHalfway at hhalfway
  generalize x.steps (-q) = k at *
  rw [Numeral.toRat_places] at he hd
  have habs : |d.toRat| = (k + 1 : Nat) / 10 ^ q := by
    rw [hd, abs_signedRat, abs_of_nonneg (by positivity)]
  constructor
  case neighbours =>
    refine ⟨q, hq, hq26, ?_⟩
    rw [habs, he, abs_signedRat, abs_of_nonneg (by positivity), Nat.cast_succ, add_div]
  case sum =>
    have hmiddle : (k : Rat) / 10 ^ q + (k + 1 : Nat) / 10 ^ q = x.magnitude * 2 := by
      rw [mul_comm, hhalfway, zpow_neg, zpow_natCast, ← div_eq_mul_inv, ← add_div]
      push_cast
      ring
    rw [he, hd, x.toRat_eq, mul_comm, ← signedRat_mul, ← hmiddle]
    cases x.negative
    · rfl
    · simp only [signedRat, if_true, neg_add]
  case long => exact (Nat.lt_succ_of_le hsteps).trans_le (le_natAbs_coefficient hlast habs)

/-- A number halfway between its neighbours is shown by the one nearer to zero, while the check reads the other. -/
theorem exists_toDecimal?_of_isHalfway {shown : Decimal} {p : Int} (hsteps : x.steps p % 2 = 0)
    (hhalfway : x.IsHalfway p) (habove : x.ReadsBack ⟨x.steps p + 1, p⟩) (heven : x.shortest .even = ⟨x.steps p, p⟩)
    (haway : x.shortest .away = ⟨x.steps p + 1, p⟩) (hshown : ofChars? x.positionalText = some shown)
    (hvalue : shown.toRat = d.toRat) :
    ∃ e, (Json.Number.float x).toDecimal? = some e ∧ x.IsMidpoint e d := by
  obtain ⟨q, hq, hq26, rfl, hthree, -⟩ := places_of_isHalfway hsteps hhalfway habove haway
  have hpower : (-28 : Int) ≤ -q := by omega
  have hread := Binary64.readsAs_of_positionalText hshown
  have hlarge := toRat_le_largest (Binary64.digits_shortest_lt _ _) hread
  rw [haway] at hread hlarge
  have hbelow : Numeral.toRat ⟨x.steps (-q), -q⟩ ≤ Numeral.toRat ⟨x.steps (-q) + 1, -q⟩ := by
    rw [Numeral.toRat_places, Numeral.toRat_places]
    exact div_le_div_of_nonneg_right (by exact_mod_cast Nat.le_succ _) (by positivity)
  have hmagnitude : -28 ≤ Numeral.magnitude ⟨x.steps (-q), -q⟩ := by
    unfold Numeral.magnitude
    dsimp only
    omega
  rw [← heven] at hbelow hmagnitude
  obtain ⟨e, he, hdocument⟩ := exists_toDecimal?_float (hbelow.trans hlarge) hmagnitude
  rw [heven] at hdocument
  refine ⟨e, he, isMidpoint_of_isHalfway hq hq26 hhalfway habove (by omega) (toRat_of_readsAs hpower hdocument) ?_⟩
  rw [← hvalue, toRat_of_readsAs hpower hread]

end Midpoint

/-- Whatever a document shows of a decimal can be read again. It has the decimal's value, or that of the neighbour on the
other side of the number that is shown. -/
theorem exists_shownDecimal?_toJson (d : Decimal) :
    ∃ e, d.toJson.shownDecimal? = some e ∧
      (e.SameValue d ∨ ∃ x, d.toJson = .number (.float x) ∧ x.IsMidpoint e d) := by
  rcases toJson_eq_number_or d with ⟨m, hm⟩ | hstring
  · rw [hm]
    obtain ⟨n, rfl, hn, hrange⟩ | ⟨x, shown, rfl, hint, hx, hshown, hvalue⟩ := toJson_eq_number hm
    · obtain ⟨e, he, hen⟩ := exists_toDecimal?_integer hrange
      exact ⟨e, he, .inl (sameValue_iff_toRat.mpr (hen.trans hn.symm))⟩
    obtain hsame | ⟨p, hsteps, hhalfway, habove, heven, haway⟩ := x.shortest_even_away
    · obtain ⟨e, he, hed⟩ := toDecimal?_float hint hx hshown hvalue hsame
      exact ⟨e, he, .inl (sameValue_iff_toRat.mpr hed)⟩
    · obtain ⟨e, he, hmidpoint⟩ := exists_toDecimal?_of_isHalfway hsteps hhalfway habove heven haway hshown hvalue
      exact ⟨e, he, .inr ⟨x, rfl, hmidpoint⟩⟩
  · rw [hstring]
    exact ⟨d, ofText?_toText d, .inl rfl⟩

/-- A price of seventeen digits that its document shows as the neighbour below. -/
theorem shownDecimal?_toJson_of_midpoint :
    let price : Decimal := ⟨11258999068426243, 1, by decide, by decide⟩
    let near : Decimal := ⟨11258999068426242, 1, by decide, by decide⟩
    price.toJson.shownDecimal? = some near ∧ ¬near.SameValue price := by
  intro price near
  decide +kernel

end Repricing
