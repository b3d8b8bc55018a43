import Repricing.Proofs.Decimal.Reading

namespace Repricing.Decimal

theorem isDigit_digitChar : ∀ n < 10, (Nat.digitChar n).isDigit = true := by decide

theorem isDigit_fixedDigits (width n : Nat) : ∀ c ∈ fixedDigits width n, c.isDigit = true := by
  induction width generalizing n with
  | zero => simp [fixedDigits]
  | succ w ih =>
    have hlast := isDigit_digitChar (n % 10) (Nat.mod_lt _ (by decide))
    exact List.forall_mem_append.mpr ⟨ih _, by simpa using hlast⟩

theorem tenPow_succ (n : Nat) : tenPow (n + 1) = 10 * tenPow n := by
  rw [tenPow_add, Nat.mul_comm]
  rfl

/-- The digits of a number, cut to a width, behind a number that was read before them. -/
theorem ofDigitChars_fixedDigits (width n start : Nat) :
    Nat.ofDigitChars 10 (fixedDigits width n) start = start * tenPow width + n % tenPow width := by
  induction width generalizing n with
  | zero => simp [fixedDigits, tenPow_zero, Nat.mod_one]
  | succ w ih =>
    have hlast : (Nat.digitChar (n % 10)).toNat - '0'.toNat = n % 10 :=
      Nat.toNat_digitChar_sub_48_of_lt_ten (Nat.mod_lt _ (by decide))
    rw [fixedDigits, Nat.ofDigitChars_append, ih, Nat.ofDigitChars_cons, Nat.ofDigitChars_nil, hlast, tenPow_succ,
      Nat.mod_mul]
    ring

/-- The whole part and the fraction part together are the digits of the coefficient. -/
theorem ofDigitChars_parts (n scale : Nat) :
    Nat.ofDigitChars 10 (Nat.toDigits 10 (n / tenPow scale) ++ fixedDigits scale (n % tenPow scale)) 0 = n := by
  rw [Nat.ofDigitChars_append, Nat.ofDigitChars_ten_toDigits, ofDigitChars_fixedDigits, Nat.mod_mod,
    Nat.div_add_mod']

/-- A decimal is read from its text, with its scale. -/
theorem ofText?_toText (d : Decimal) : ofText? d.toText = some d := by
  have hmake : make? (withMinus (decide (d.coefficient < 0)) d.coefficient.natAbs) d.scale = some d :=
    make?_eq_some_iff.mpr ⟨(withMinus_natAbs _).symm, rfl⟩
  have hsign : (if d.coefficient < 0 then ['-'] else []) = minusSign (decide (d.coefficient < 0)) := by
    simp [minusSign]
  rw [ofText?, toText, String.toList_ofList, toChars, hsign]
  by_cases hscale : d.scale = 0
  · rw [if_pos hscale, List.append_nil, ofChars?_whole _ (isDigit_toDigits _) Nat.toDigits_ne_nil,
      Nat.ofDigitChars_ten_toDigits, hscale, tenPow_zero, Nat.div_one, ← hmake, hscale]
  · have hfits := ofDigitChars_parts d.coefficient.natAbs d.scale
    rw [if_neg hscale, List.append_assoc, ofChars?_point _ (isDigit_toDigits _) Nat.toDigits_ne_nil
      (isDigit_fixedDigits _ _) (hfits.trans_lt d.coefficient_lt), hfits, length_fixedDigits, ofPlaces?, if_pos d.scale_le,
      hmake]

end Repricing.Decimal
