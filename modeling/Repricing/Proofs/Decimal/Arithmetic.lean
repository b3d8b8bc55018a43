import Repricing.Proofs.Decimal.Rounded

namespace Repricing.Decimal

theorem make?_eq_none_iff {c : Int} {s : Nat} : make? c s = none ↔ twoPow 96 ≤ c.natAbs ∨ 28 < s := by
  unfold make?
  split_ifs with h
  · simp only [false_iff]
    omega
  · simp only [true_iff]
    omega

/-- Digits that do not fit belong to a number that is too large for them. -/
theorem le_abs_of_rounds {x : Rat} {k : Int} (h : Rounding.halfEven.Rounds x k) (hk : twoPow 96 ≤ k.natAbs) :
    largest + 1 / 2 ≤ |x| := by
  have hk : (79228162514264337593543950336 : Rat) ≤ |(k : Rat)| := by
    rw [← Int.cast_abs, Int.abs_eq_natAbs]
    exact_mod_cast hk
  have hx : |(k : Rat)| - |x| ≤ |x - k| := by
    rw [abs_sub_comm]
    exact abs_sub_abs_le_abs_sub _ _
  have hr := h.1
  unfold largest
  linarith

theorem exists_of_findSome?_range {α : Type} {f : Nat → Option α} {n : Nat} {d : α}
    (h : (List.range n).findSome? f = some d) : ∃ k < n, f k = some d ∧ ∀ j < k, f j = none := by
  induction n with
  | zero => simp at h
  | succ n ih =>
    rw [List.range_succ, List.findSome?_append] at h
    cases hr : (List.range n).findSome? f with
    | some e =>
      rw [hr] at h
      obtain ⟨k, hk, hd⟩ := ih (hr.trans h)
      exact ⟨k, by omega, hd⟩
    | none =>
      rw [hr, Option.none_or, List.findSome?_singleton] at h
      exact ⟨n, Nat.lt_succ_self n, h, fun j hj => List.findSome?_eq_none_iff.mp hr j (List.mem_range.mpr hj)⟩

/-- The digits that are dropped are the fewest. -/
theorem roundsTo_fit? (c : Int) (s : Nat) : RoundsTo ((c : Rat) / 10 ^ s) (fit? c s) := by
  have hround (n : Nat) : Rounding.halfEven.Rounds (c / 10 ^ n) (Rounding.halfEven.quotient c (tenPow n)) := by
    rw [← tenPow_cast]
    exact Rounding.rounds_quotient _ c (tenPow_pos n)
  have hshift {n : Nat} (hn : n ≤ s) : (c : Rat) / 10 ^ s * 10 ^ (s - n) = c / 10 ^ n := by
    rw [div_mul_eq_mul_div, div_eq_div_iff (by positivity) (by positivity), mul_assoc, ← pow_add,
      Nat.sub_add_cancel hn]
  unfold fit?
  generalize hf : List.findSome? _ _ = found
  cases found with
  | none =>
    rw [List.findSome?_eq_none_iff] at hf
    have hall := hf s (List.mem_range.mpr (Nat.lt_succ_self s))
    rw [make?_eq_none_iff, Nat.sub_self] at hall
    exact le_abs_of_rounds (hround s) (hall.resolve_right (by omega))
  | some d =>
    obtain ⟨dropped, hlt, hd, hfail⟩ := exists_of_findSome?_range hf
    have hle : dropped ≤ s := Nat.le_of_lt_succ hlt
    rw [make?_eq_some_iff] at hd
    refine ⟨s - dropped, d.coefficient, ⟨?_, d.coefficient_le, by rw [← hd.2]; exact d.scale_le, ?_⟩, ?_⟩
    · rw [hshift hle, hd.1]
      exact hround dropped
    · rcases Nat.eq_zero_or_pos dropped with h0 | hpos
      · left
        rw [hshift hle, hd.1, h0, tenPow_zero, Rounding.quotient_one]
        simp
      · right
        have hprev := hfail (dropped - 1) (by omega)
        rw [make?_eq_none_iff] at hprev
        rcases hprev with hbig | hscale
        · right
          rw [← abs_of_pos (by positivity : (0 : Rat) < 10 ^ (s - dropped + 1)), ← abs_mul,
            show s - dropped + 1 = s - (dropped - 1) by omega, hshift (by omega)]
          exact le_abs_of_rounds (hround _) hbig
        · left
          have h28 := d.scale_le
          omega
    · rw [toRat_eq, hd.2]

theorem aligned_div_pow (d : Decimal) {s : Nat} (h : d.scale ≤ s) : (d.aligned s : Rat) / 10 ^ s = d.toRat := by
  obtain ⟨n, rfl⟩ := Nat.exists_eq_add_of_le h
  rw [toRat_eq, aligned, Nat.add_sub_cancel_left, pow_add]
  push_cast [tenPow_cast]
  rw [mul_div_mul_right _ _ (by positivity)]

theorem roundsTo_add? (a b : Decimal) : RoundsTo (a.toRat + b.toRat) (a.add? b) := by
  unfold add?
  split_ifs with ha hb
  · rw [isZero_iff_toRat.mp ha, zero_add]
    exact rounded_toRat b
  · rw [isZero_iff_toRat.mp hb, add_zero]
    exact rounded_toRat a
  · have hfit := roundsTo_fit? (a.aligned (max a.scale b.scale) + b.aligned (max a.scale b.scale))
      (max a.scale b.scale)
    rw [Int.cast_add, add_div, aligned_div_pow a (le_max_left _ _), aligned_div_pow b (le_max_right _ _)] at hfit
    exact hfit

theorem roundsTo_sub? (a b : Decimal) : RoundsTo (a.toRat - b.toRat) (a.sub? b) := by
  rw [sub_eq_add_neg, ← toRat_neg]
  exact roundsTo_add? a (-b)

theorem rounded_add? {a b d : Decimal} (h : a.add? b = some d) : Rounded (a.toRat + b.toRat) d := by
  have hround := roundsTo_add? a b
  rwa [h] at hround

theorem rounded_sub? {a b d : Decimal} (h : a.sub? b = some d) : Rounded (a.toRat - b.toRat) d := by
  have hround := roundsTo_sub? a b
  rwa [h] at hround

/-- A difference that is not zero does not round to zero. -/
theorem sub?_nonpos_iff {a b d : Decimal} (h : a.sub? b = some d) : d.toRat ≤ 0 ↔ a.toRat ≤ b.toRat := by
  have hround := rounded_sub? h
  constructor
  · intro hd
    by_contra! hlt
    obtain ⟨i, hi⟩ := a.exists_toRat_mul_pow a.scale_le
    obtain ⟨j, hj⟩ := b.exists_toRat_mul_pow b.scale_le
    have hij : j + 1 ≤ i := by
      have hlt : (j : Rat) < i := by
        rw [← hi, ← hj]
        exact mul_lt_mul_of_pos_right hlt (by positivity)
      exact_mod_cast hlt
    have hij : (j : Rat) + 1 ≤ i := by exact_mod_cast hij
    have hleast : (⟨1, 28, by decide, by decide⟩ : Decimal).toRat ≤ a.toRat - b.toRat := by
      rw [toRat_eq, Int.cast_one, div_le_iff₀ (by positivity), sub_mul, hi, hj]
      linarith
    have hpos := hround.le_of_ge hleast
    rw [toRat_eq, Int.cast_one] at hpos
    have : (0 : Rat) < 1 / 10 ^ 28 := by positivity
    linarith
  · intro hle
    rw [← toRat_zero]
    exact hround.le_of_le (by rw [toRat_zero]; linarith)

theorem toRat_mul_toRat (a b : Decimal) :
    a.toRat * b.toRat = ((a.coefficient * b.coefficient : Int) : Rat) / 10 ^ (a.scale + b.scale) := by
  rw [toRat_eq, toRat_eq, div_mul_div_comm, pow_add, Int.cast_mul]

/-- A negligible product is less than half a unit of the last place that any decimal has. -/
theorem rounded_zero_of_isNegligible {a b : Decimal} (h : IsNegligible a b) : Rounded (a.toRat * b.toRat) zero := by
  obtain ⟨ha, hb, hscale⟩ := h
  have hab : (a.coefficient * b.coefficient).natAbs < twoPow 32 * twoPow 32 := by
    rw [Int.natAbs_mul]
    exact Nat.mul_lt_mul'' ha hb
  have hab : |((a.coefficient * b.coefficient : Int) : Rat)| ≤ 18446744073709551616 := by
    rw [← Int.cast_abs, Int.abs_eq_natAbs]
    exact_mod_cast hab.le
  have hp : (10 : Rat) ^ 48 ≤ 10 ^ (a.scale + b.scale) := pow_le_pow_right₀ (by norm_num) (by omega)
  have hx : |a.toRat * b.toRat| ≤ 18446744073709551616 / 10 ^ 48 := by
    rw [toRat_mul_toRat, abs_div, abs_of_pos (by positivity : (0 : Rat) < 10 ^ (a.scale + b.scale))]
    exact div_le_div₀ (by norm_num) hab (by positivity) hp
  have hlt : |a.toRat * b.toRat * 10 ^ 28| < 1 / 2 := by
    rw [abs_mul, abs_of_pos (by positivity : (0 : Rat) < 10 ^ 28)]
    calc |a.toRat * b.toRat| * 10 ^ 28 ≤ 18446744073709551616 / 10 ^ 48 * 10 ^ 28 :=
          mul_le_mul_of_nonneg_right hx (by positivity)
      _ < 1 / 2 := by norm_num
  refine ⟨28, 0, ⟨⟨?_, fun ht => ?_⟩, by norm_num [largest], le_rfl, .inr (.inl rfl)⟩, by rw [toRat_zero]; simp⟩
  · simpa using hlt.le
  · simp only [Int.cast_zero, sub_zero] at ht
    linarith

theorem roundsTo_mul? (a b : Decimal) : RoundsTo (a.toRat * b.toRat) (a.mul? b) := by
  unfold mul?
  split_ifs with h
  · rcases h with ha | hb | hn
    · rw [isZero_iff_toRat.mp ha, zero_mul, ← toRat_zero]
      exact rounded_toRat zero
    · rw [isZero_iff_toRat.mp hb, mul_zero, ← toRat_zero]
      exact rounded_toRat zero
    · exact rounded_zero_of_isNegligible hn
  · rw [toRat_mul_toRat]
    exact roundsTo_fit? _ _

theorem rounded_mul? {a b d : Decimal} (h : a.mul? b = some d) : Rounded (a.toRat * b.toRat) d := by
  have hround := roundsTo_mul? a b
  rwa [h] at hround

end Repricing.Decimal
