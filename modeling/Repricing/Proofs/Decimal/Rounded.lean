import Repricing.Proofs.Decimal.Value

namespace Repricing.Decimal

/-- The number `x` is rounded to `coefficient / 10 ^ scale`, and one more digit would not fit or is not needed. -/
structure RoundedAt (x : Rat) (scale : Nat) (coefficient : Int) : Prop where
  rounds : Rounding.halfEven.Rounds (x * 10 ^ scale) coefficient
  coefficient_le : |(coefficient : Rat)| ≤ largest
  scale_le : scale ≤ 28
  finest : x * 10 ^ scale = coefficient ∨ scale = 28 ∨ largest + 1 / 2 ≤ |x| * 10 ^ (scale + 1)

/-- The decimal has the value that `x` rounds to. -/
def Rounded (x : Rat) (d : Decimal) : Prop := ∃ s c, RoundedAt x s c ∧ d.toRat = c / 10 ^ s

theorem rounded_toRat (d : Decimal) : Rounded d.toRat d := by
  refine ⟨d.scale, d.coefficient, ⟨?_, d.coefficient_le, d.scale_le, .inl d.toRat_mul_pow⟩, d.toRat_eq⟩
  rw [toRat_mul_pow]
  exact Rounding.rounds_intCast _ _

theorem RoundedAt.neg {x : Rat} {s : Nat} {c : Int} (h : RoundedAt x s c) : RoundedAt (-x) s (-c) where
  rounds := by
    rw [neg_mul]
    exact h.rounds.neg
  coefficient_le := by
    rw [Int.cast_neg, abs_neg]
    exact h.coefficient_le
  scale_le := h.scale_le
  finest := by
    rw [neg_mul, abs_neg, Int.cast_neg, neg_inj]
    exact h.finest

theorem Rounded.neg {x : Rat} {d : Decimal} (h : Rounded x d) : Rounded (-x) (-d) := by
  obtain ⟨s, c, hc, hd⟩ := h
  refine ⟨s, -c, hc.neg, ?_⟩
  rw [toRat_neg, hd, Int.cast_neg, neg_div]

/-- The largest coefficient is odd, so that it loses every tie. -/
theorem RoundedAt.abs_mul_pow_lt {x : Rat} {s : Nat} {c : Int} (h : RoundedAt x s c) :
    |x| * 10 ^ s < largest + 1 / 2 := by
  have hx : |x| * 10 ^ s = |x * 10 ^ s| := by rw [abs_mul, abs_of_pos (by positivity : (0 : Rat) < 10 ^ s)]
  by_contra hlt
  have hsplit := abs_sub_abs_le_abs_sub (x * 10 ^ s) c
  have htie : |x * 10 ^ s - c| = 1 / 2 := by linarith [h.rounds.1, h.coefficient_le]
  have hc : |(c : Rat)| = 79228162514264337593543950335 := by
    have := h.coefficient_le
    unfold largest at *
    linarith
  obtain ⟨a, ha⟩ := h.rounds.2 htie
  rw [← Int.cast_abs] at hc
  have hc : |c| = 79228162514264337593543950335 := by exact_mod_cast hc
  rcases abs_choice c with h | h <;> omega

/-- A coefficient that has no room for one more digit has all the digits there are. -/
theorem RoundedAt.largest_le {x : Rat} {s : Nat} {c : Int} (h : RoundedAt x s c)
    (hs : largest + 1 / 2 ≤ |x| * 10 ^ (s + 1)) : largest ≤ |(c : Rat)| * 10 := by
  have hx : |x| * 10 ^ (s + 1) = |x * 10 ^ s| * 10 := by
    rw [abs_mul, abs_of_pos (by positivity : (0 : Rat) < 10 ^ s), pow_succ, mul_assoc]
  have hsplit := abs_sub_abs_le_abs_sub (x * 10 ^ s) c
  have hc : (7922816251426433759354395033 : Rat) < |(c : Rat)| := by
    have := h.rounds.1
    unfold largest at hs
    linarith
  rw [← Int.cast_abs] at hc ⊢
  have hc : 7922816251426433759354395033 < |c| := by exact_mod_cast hc
  have hc : 79228162514264337593543950335 ≤ |c| * 10 := by omega
  unfold largest
  exact_mod_cast hc

/-- Below zero, a number with no room for one more digit stays below every decimal of a finer scale. -/
theorem RoundedAt.div_le_of_lt {x : Rat} {s t : Nat} {c k : Int} (h : RoundedAt x s c)
    (hs : largest + 1 / 2 ≤ |x| * 10 ^ (s + 1)) (hx : x < 0) (ht : s < t) (hk : |(k : Rat)| ≤ largest) :
    (c : Rat) / 10 ^ s ≤ k / 10 ^ t := by
  have hc0 : c ≤ 0 := by
    refine h.rounds.mono (Rounding.rounds_intCast _ 0) ?_
    rw [Int.cast_zero]
    exact mul_nonpos_of_nonpos_of_nonneg hx.le (by positivity)
  have hc0 : (c : Rat) ≤ 0 := by exact_mod_cast hc0
  have hc := h.largest_le hs
  rw [abs_of_nonpos hc0] at hc
  have hL : (0 : Rat) ≤ largest := by norm_num [largest]
  have hp : (10 : Rat) ^ (s + 1) ≤ 10 ^ t := pow_le_pow_right₀ (by norm_num) ht
  calc (c : Rat) / 10 ^ s = c * 10 / 10 ^ (s + 1) := by rw [pow_succ, mul_div_mul_right _ _ (by norm_num)]
    _ ≤ -largest / 10 ^ (s + 1) := div_le_div_of_nonneg_right (by linarith) (by positivity)
    _ ≤ -largest / 10 ^ t := by
      rw [neg_div, neg_div, neg_le_neg_iff]
      exact div_le_div_of_nonneg_left hL (by positivity) hp
    _ ≤ k / 10 ^ t := div_le_div_of_nonneg_right (by linarith [(abs_le.mp hk).1]) (by positivity)

/-- What lies below a decimal does not round above it. -/
theorem Rounded.le_of_le {x : Rat} {d e : Decimal} (h : Rounded x d) (hx : x ≤ e.toRat) : d.toRat ≤ e.toRat := by
  obtain ⟨s, c, hc, hd⟩ := h
  have hs : (0 : Rat) < 10 ^ s := by positivity
  rw [hd]
  by_cases hes : e.scale ≤ s
  · obtain ⟨k, hk⟩ := e.exists_toRat_mul_pow hes
    have hck : c ≤ k := by
      refine hc.rounds.mono (Rounding.rounds_intCast _ k) ?_
      rw [← hk]
      exact mul_le_mul_of_nonneg_right hx hs.le
    rw [div_le_iff₀ hs, hk]
    exact_mod_cast hck
  rcases hc.finest with hexact | h28 | hcoarse
  · rwa [← hexact, mul_div_cancel_right₀ _ hs.ne']
  · have := e.scale_le
    omega
  · have hneg : x < 0 := by
      by_contra h0
      have he := e.coefficient_le
      have hp : (10 : Rat) ^ (s + 1) ≤ 10 ^ e.scale := pow_le_pow_right₀ (by norm_num) (by omega)
      rw [abs_of_nonneg (by linarith : 0 ≤ x)] at hcoarse
      rw [← toRat_mul_pow, abs_of_nonneg (mul_nonneg (by linarith) (by positivity))] at he
      have : x * 10 ^ (s + 1) ≤ e.toRat * 10 ^ e.scale := mul_le_mul hx hp (by positivity) (by linarith)
      linarith
    rw [e.toRat_eq]
    exact hc.div_le_of_lt hcoarse hneg (by omega) e.coefficient_le

/-- What lies above a decimal does not round below it. -/
theorem Rounded.le_of_ge {x : Rat} {d e : Decimal} (h : Rounded x d) (hx : e.toRat ≤ x) : e.toRat ≤ d.toRat := by
  have hneg := h.neg.le_of_le (e := -e) (by rw [toRat_neg]; linarith)
  rw [toRat_neg, toRat_neg] at hneg
  linarith

/-- A number that has a decimal rounds to it. -/
theorem Rounded.toRat_eq_toRat {d e : Decimal} (h : Rounded e.toRat d) : d.toRat = e.toRat :=
  le_antisymm (h.le_of_le le_rfl) (h.le_of_ge le_rfl)

/-- The number is small enough to round to a decimal. -/
def InRange (x : Rat) : Prop := |x| < largest + 1 / 2

theorem InRange.of_abs_le {x y : Rat} (hy : InRange y) (h : |x| ≤ |y|) : InRange x := h.trans_lt hy

theorem Rounded.inRange {x : Rat} {d : Decimal} (h : Rounded x d) : InRange x := by
  obtain ⟨s, c, hc, -⟩ := h
  exact lt_of_le_of_lt (le_mul_of_one_le_right (abs_nonneg _) (one_le_pow₀ (by norm_num))) hc.abs_mul_pow_lt

/-- A whole number on one side of a number is on that side of the rounded one, whether it has a decimal or not. -/
theorem Rounded.le_intCast {x : Rat} {d : Decimal} {k : Int} (h : Rounded x d) (hx : x ≤ k) : d.toRat ≤ k := by
  rcases le_or_gt |(k : Rat)| largest with hk | hk
  · obtain ⟨e, -, -, he⟩ := exists_toRat_eq hk
    rw [← he] at hx ⊢
    exact h.le_of_le hx
  rcases lt_abs.mp hk with hk | hk
  · exact (le_abs_self _).trans (d.abs_toRat_le.trans hk.le)
  · have hrange : |x| < largest + 1 / 2 := h.inRange
    have hfar : largest + 1 ≤ -(k : Rat) := by
      unfold largest at hk ⊢
      exact_mod_cast hk
    linarith [neg_le_abs x]

theorem Rounded.intCast_le {x : Rat} {d : Decimal} {k : Int} (h : Rounded x d) (hx : k ≤ x) : (k : Rat) ≤ d.toRat := by
  have hneg := h.neg.le_intCast (k := -k) (by push_cast; linarith)
  rw [toRat_neg] at hneg
  push_cast at hneg
  linarith

/-- A whole number that rounds to a decimal has that value. -/
theorem Rounded.eq_intCast {k : Int} {d : Decimal} (h : Rounded (k : Rat) d) : d.toRat = k :=
  le_antisymm (h.le_intCast le_rfl) (h.intCast_le le_rfl)

section Whole

variable {rule : Rounding} {x : Rat} {d : Decimal} {k l : Int}

theorem Rounded.abs_sub_le_one (h : Rounded x d) (hl : rule.Rounds x l) (hk : rule.Rounds d.toRat k) : |k - l| ≤ 1 := by
  obtain ⟨n, hlow, hlt⟩ := Rounding.down.exists_rounds x
  have hhigh : x ≤ (n + 1 : Int) := by
    push_cast
    exact hlt.le
  have hl1 : n ≤ l := (Rounding.rounds_intCast rule _).mono hl hlow
  have hl2 : l ≤ n + 1 := hl.mono (Rounding.rounds_intCast rule _) hhigh
  have hk1 : n ≤ k := (Rounding.rounds_intCast rule _).mono hk (h.intCast_le hlow)
  have hk2 : k ≤ n + 1 := hk.mono (Rounding.rounds_intCast rule _) (h.le_intCast hhigh)
  rw [abs_le]
  omega

theorem Rounded.up_cases (h : Rounded x d) (hl : Rounding.up.Rounds x l) (hk : Rounding.up.Rounds d.toRat k) :
    k = l ∨ k = l - 1 := by
  have hkl : k ≤ l := hk.mono (Rounding.rounds_intCast _ l) (h.le_intCast hl.1)
  have hnear := abs_le.mp (h.abs_sub_le_one hl hk)
  omega

theorem Rounded.down_cases (h : Rounded x d) (hl : Rounding.down.Rounds x l) (hk : Rounding.down.Rounds d.toRat k) :
    k = l ∨ k = l + 1 := by
  have hlk : l ≤ k := (Rounding.rounds_intCast _ l).mono hk (h.intCast_le hl.1)
  have hnear := abs_le.mp (h.abs_sub_le_one hl hk)
  omega

end Whole

/-- Rounding keeps the order where the lower number has fewer digits. -/
theorem RoundedAt.mono_of_lt {x y : Rat} {s t : Nat} {c k : Int} (hc : RoundedAt x s c) (hk : RoundedAt y t k)
    (h : x ≤ y) (hcoarse : largest + 1 / 2 ≤ |x| * 10 ^ (s + 1)) (hst : s < t) : (c : Rat) / 10 ^ s ≤ k / 10 ^ t := by
  have hp : (10 : Rat) ^ (s + 1) ≤ 10 ^ t := pow_le_pow_right₀ (by norm_num) hst
  have hlt : |y| < |x| := by
    have hy : |y| * 10 ^ (s + 1) ≤ |y| * 10 ^ t := mul_le_mul_of_nonneg_left hp (abs_nonneg y)
    have hxy : |y| * 10 ^ (s + 1) < |x| * 10 ^ (s + 1) := by linarith [hk.abs_mul_pow_lt]
    exact lt_of_mul_lt_mul_right hxy (by positivity)
  have hneg : x < 0 := by
    by_contra h0
    rw [abs_of_nonneg (by linarith : 0 ≤ x)] at hlt
    linarith [le_abs_self y]
  exact hc.div_le_of_lt hcoarse hneg hst hk.coefficient_le

theorem Rounded.mono {x y : Rat} {d e : Decimal} (hx : Rounded x d) (hy : Rounded y e) (h : x ≤ y) :
    d.toRat ≤ e.toRat := by
  obtain ⟨s, c, hc, hd⟩ := id hx
  obtain ⟨t, k, hk, he⟩ := id hy
  rcases hc.finest with hexact | hfine
  · refine hy.le_of_ge ?_
    rwa [hd, ← hexact, mul_div_cancel_right₀ _ (by positivity)]
  rcases hk.finest with kexact | kfine
  · refine hx.le_of_le ?_
    rwa [he, ← kexact, mul_div_cancel_right₀ _ (by positivity)]
  rw [hd, he]
  rcases Nat.lt_trichotomy s t with hst | hst | hst
  · have hs28 : s ≠ 28 := by have := hk.scale_le; omega
    exact hc.mono_of_lt hk h (hfine.resolve_left hs28) hst
  · subst hst
    have hck : c ≤ k := hc.rounds.mono hk.rounds (mul_le_mul_of_nonneg_right h (by positivity))
    exact div_le_div_of_nonneg_right (by exact_mod_cast hck) (by positivity)
  · have ht28 : t ≠ 28 := by have := hc.scale_le; omega
    have hneg := hk.neg.mono_of_lt hc.neg (by linarith) (by rw [abs_neg]; exact kfine.resolve_left ht28) hst
    rw [Int.cast_neg, Int.cast_neg, neg_div, neg_div] at hneg
    linarith

/-- A number rounds to one value only. -/
theorem Rounded.unique {x : Rat} {d e : Decimal} (hd : Rounded x d) (he : Rounded x e) : d.toRat = e.toRat :=
  le_antisymm (hd.mono he le_rfl) (he.mono hd le_rfl)

/-- Rounding moves a number by less than a unit of the 28th place, counted from the first digit of a large number. -/
theorem Rounded.abs_sub_le {x : Rat} {d : Decimal} (h : Rounded x d) : |d.toRat - x| ≤ (1 + |x|) / 10 ^ 28 := by
  obtain ⟨s, c, hc, hd⟩ := h
  have hs : (0 : Rat) < 10 ^ s := by positivity
  have hhalf : |d.toRat - x| * 10 ^ s ≤ 1 / 2 := by
    rw [← abs_of_pos hs, ← abs_mul, sub_mul, hd, div_mul_cancel₀ _ hs.ne', abs_sub_comm]
    exact hc.rounds.1
  have hx := abs_nonneg x
  rcases hc.finest with hexact | h28 | hcoarse
  · have heq : d.toRat = x := by rw [hd, ← hexact, mul_div_cancel_right₀ _ hs.ne']
    rw [heq, sub_self, abs_zero]
    positivity
  · rw [h28] at hhalf
    rw [le_div_iff₀ (by positivity)]
    linarith
  · have hdigits : (10 : Rat) ^ 28 ≤ 2 * (1 + |x|) * 10 ^ s := by
      rw [pow_succ, ← mul_assoc] at hcoarse
      unfold largest at hcoarse
      linarith
    rw [le_div_iff₀ (by positivity)]
    calc |d.toRat - x| * 10 ^ 28 ≤ |d.toRat - x| * (2 * (1 + |x|) * 10 ^ s) :=
          mul_le_mul_of_nonneg_left hdigits (abs_nonneg _)
      _ = |d.toRat - x| * 10 ^ s * (2 * (1 + |x|)) := by ring
      _ ≤ 1 / 2 * (2 * (1 + |x|)) := mul_le_mul_of_nonneg_right hhalf (by positivity)
      _ = 1 + |x| := by ring

/-- What an operation gives for the exact result `x`: the rounded one, or none where that has no decimal. -/
def RoundsTo (x : Rat) : Option Decimal → Prop
  | some d => Rounded x d
  | none => largest + 1 / 2 ≤ |x|

theorem RoundsTo.exists_some {x : Rat} {o : Option Decimal} (h : RoundsTo x o) (hx : |x| ≤ largest) :
    ∃ d, o = some d ∧ Rounded x d := by
  cases o with
  | some d => exact ⟨d, rfl, h⟩
  | none =>
    have : largest + 1 / 2 ≤ |x| := h
    linarith

/-- An operation fails exactly where its exact result is out of range. -/
theorem RoundsTo.eq_none_iff {x : Rat} {o : Option Decimal} (h : RoundsTo x o) : o = none ↔ ¬InRange x := by
  cases o with
  | none => exact iff_of_true rfl (not_lt.mpr h)
  | some d =>
    have hrange : InRange x := Rounded.inRange h
    simp [hrange]

theorem RoundsTo.exists_iff {x : Rat} {o : Option Decimal} (h : RoundsTo x o) : (∃ d, o = some d) ↔ InRange x := by
  rw [← Option.ne_none_iff_exists', ne_eq, h.eq_none_iff, not_not]

end Repricing.Decimal
