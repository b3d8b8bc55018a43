import Mathlib.Algebra.Order.Field.Power
import Repricing.Binary64.Shortest
import Repricing.Proofs.Decimal.Value

namespace Repricing

/-- The number that a numeral writes. -/
def Numeral.toRat (c : Numeral) : Rat := c.digits * 10 ^ c.power

namespace Binary64

section Units

theorem twoPow_cast (n : Nat) : (twoPow n : Rat) = 2 ^ n := by
  simp [twoPow]

theorem inUnits_pos {d : Nat} (hd : 0 < d) (n : Nat) (e : Int) : 0 < (inUnits n d e).2 := by
  unfold inUnits
  split_ifs
  · exact Nat.mul_pos hd (twoPow_pos _)
  · exact hd

/-- The ratio over a power of two. -/
theorem inUnits_div (n d : Nat) (e : Int) : ((inUnits n d e).1 : Rat) / (inUnits n d e).2 = n / d / 2 ^ e := by
  unfold inUnits
  split_ifs with he
  · obtain ⟨k, rfl⟩ := Int.eq_ofNat_of_zero_le he
    push_cast
    rw [twoPow_cast, Int.toNat_natCast, zpow_natCast, div_div]
  · obtain ⟨k, hk⟩ : ∃ k : Nat, e = -k := ⟨(-e).toNat, by omega⟩
    subst hk
    push_cast
    rw [twoPow_cast, neg_neg, Int.toNat_natCast, zpow_neg, zpow_natCast, div_inv_eq_mul, mul_div_right_comm]

variable (x : Binary64) (p : Int)

/-- A quarter of the distance between neighbours. -/
def quarter : Rat := 2 ^ (x.exponent - 2)

def magnitude : Rat := x.significand * 2 ^ x.exponent

theorem quarter_pos : 0 < x.quarter := zpow_pos (by norm_num) _

theorem magnitude_eq : x.magnitude = 4 * x.significand * x.quarter := by
  rw [magnitude, quarter, zpow_sub₀ (by norm_num)]
  norm_num
  ring

theorem quarterUnit_pos : 0 < (x.quarterUnit p).2 := by
  unfold quarterUnit
  dsimp only
  split_ifs
  · exact Nat.mul_pos (inUnits_pos (by decide) _ _) (tenPow_pos _)
  · exact inUnits_pos (by decide) _ _

theorem quarterUnit_div : ((x.quarterUnit p).1 : Rat) / (x.quarterUnit p).2 = x.quarter / 10 ^ p := by
  have hquarter : ((inUnits 1 1 (2 - x.exponent)).1 : Rat) / (inUnits 1 1 (2 - x.exponent)).2 = x.quarter := by
    rw [inUnits_div, quarter, ← neg_sub 2 x.exponent, zpow_neg]
    simp
  rw [← hquarter]
  unfold quarterUnit
  dsimp only
  split_ifs with hp
  · obtain ⟨k, rfl⟩ := Int.eq_ofNat_of_zero_le hp
    push_cast
    rw [Decimal.tenPow_cast, Int.toNat_natCast, zpow_natCast, div_div]
  · obtain ⟨k, hk⟩ : ∃ k : Nat, p = -k := ⟨(-p).toNat, by omega⟩
    subst hk
    push_cast
    rw [Decimal.tenPow_cast, neg_neg, Int.toNat_natCast, zpow_neg, zpow_natCast, div_inv_eq_mul, mul_div_right_comm]

/-- Comparing whole numbers of quarters with a numeral on a grid. -/
theorem mul_quarterUnit_le_iff (m k : Nat) :
    m * (x.quarterUnit p).1 ≤ k * (x.quarterUnit p).2 ↔ m * x.quarter ≤ k * (10 : Rat) ^ p := by
  have hpos : (0 : Rat) < (x.quarterUnit p).2 := by exact_mod_cast x.quarterUnit_pos p
  have hten : (0 : Rat) < 10 ^ p := zpow_pos (by norm_num) _
  rw [← div_le_iff₀ hten, mul_div_assoc, ← quarterUnit_div, ← mul_div_assoc, div_le_iff₀ hpos]
  exact_mod_cast Iff.rfl

theorem le_mul_quarterUnit_iff (m k : Nat) :
    k * (x.quarterUnit p).2 ≤ m * (x.quarterUnit p).1 ↔ k * (10 : Rat) ^ p ≤ m * x.quarter := by
  have hpos : (0 : Rat) < (x.quarterUnit p).2 := by exact_mod_cast x.quarterUnit_pos p
  have hten : (0 : Rat) < 10 ^ p := zpow_pos (by norm_num) _
  rw [← le_div_iff₀ hten, mul_div_assoc, ← quarterUnit_div, ← mul_div_assoc, le_div_iff₀ hpos]
  exact_mod_cast Iff.rfl

end Units

section ReadsBack

variable {x y : Binary64} {c c' : Numeral}

/-- The lower end of what reads back, in quarters. -/
def low (x : Binary64) : Nat :=
  if x.significand = twoPow 52 ∧ x.exponent ≠ -1074 then 4 * x.significand - 1 else 4 * x.significand - 2

/-- The upper end of what reads back, in quarters. -/
def high (x : Binary64) : Nat := 4 * x.significand + 2

/-- What reads back is an interval around the number, with its ends for even significands. -/
theorem readsBack_iff :
    x.ReadsBack c ↔
      if x.significand % 2 = 0 then x.low * x.quarter ≤ c.toRat ∧ c.toRat ≤ x.high * x.quarter
      else x.low * x.quarter < c.toRat ∧ c.toRat < x.high * x.quarter := by
  unfold ReadsBack
  dsimp only
  by_cases heven : x.significand % 2 = 0
  · rw [if_pos heven, if_pos heven]
    exact and_congr (x.mul_quarterUnit_le_iff _ _ _) (x.le_mul_quarterUnit_iff _ _ _)
  · rw [if_neg heven, if_neg heven, ← not_le, ← not_le, ← not_le, ← not_le]
    exact and_congr (not_congr (x.le_mul_quarterUnit_iff _ _ _)) (not_congr (x.mul_quarterUnit_le_iff _ _ _))

theorem ReadsBack.bounds (h : x.ReadsBack c) : x.low * x.quarter ≤ c.toRat ∧ c.toRat ≤ x.high * x.quarter := by
  rw [readsBack_iff] at h
  split_ifs at h
  · exact h
  · exact ⟨h.1.le, h.2.le⟩

theorem ReadsBack.of_between (hlow : x.low * x.quarter < c.toRat) (hhigh : c.toRat < x.high * x.quarter) :
    x.ReadsBack c := by
  rw [readsBack_iff]
  split_ifs
  · exact ⟨hlow.le, hhigh.le⟩
  · exact ⟨hlow, hhigh⟩

theorem significand_lt' (x : Binary64) : x.significand < 9007199254740992 := x.significand_lt

theorem le_significand (x : Binary64) : 4503599627370496 ≤ x.significand ∨ x.exponent = -1074 := x.normal

theorem two_mul_quarter_le (h : x.exponent < y.exponent) : 2 * x.quarter ≤ y.quarter := by
  have hpow : (2 : Rat) * 2 ^ (x.exponent - 2) = 2 ^ (x.exponent - 1) := by
    rw [← zpow_one_add₀ (by norm_num)]
    congr 1
    ring
  rw [quarter, quarter, hpow]
  exact zpow_le_zpow_right₀ (by norm_num) (by omega)

/-- What reads back as a number of a smaller exponent ends where the larger number begins, and no sooner only for the
largest number of its exponent, which is odd. -/
theorem high_le_low_of_exponent_lt (h : x.exponent < y.exponent) :
    x.high * x.quarter < y.low * y.quarter ∨
      x.high * x.quarter = y.low * y.quarter ∧ x.significand % 2 = 1 := by
  have hx53 := x.significand_lt'
  have hxq := x.quarter_pos
  have htwo : twoPow 52 = 4503599627370496 := rfl
  have hexponent := x.exponent_ge
  have hy52 := y.le_significand.resolve_right (by omega)
  have hlow : 18014398509481983 ≤ y.low := by unfold low; split_ifs <;> omega
  have hhigh : x.high ≤ 36028797018963966 := by unfold high; omega
  have hqq := two_mul_quarter_le h
  have hhigh' : x.high * x.quarter ≤ 36028797018963966 * x.quarter :=
    mul_le_mul_of_nonneg_right (by exact_mod_cast hhigh) hxq.le
  have hlow' : 18014398509481983 * y.quarter ≤ y.low * y.quarter :=
    mul_le_mul_of_nonneg_right (by exact_mod_cast hlow) y.quarter_pos.le
  by_cases hodd : x.significand % 2 = 1
  · exact (hhigh'.trans (by linarith)).lt_or_eq.imp_right fun h => ⟨h, hodd⟩
  · have hstrict : (x.high : Rat) < 36028797018963966 := by
      have : x.high < 36028797018963966 := by unfold high; omega
      exact_mod_cast this
    have := mul_lt_mul_of_pos_right hstrict hxq
    exact .inl (by linarith)

/-- What reads back as the smaller of two numbers of one exponent ends where the larger one begins, and no sooner only
if they are neighbours, of which one is odd. -/
theorem high_le_low_of_significand_lt (he : x.exponent = y.exponent) (h : x.significand < y.significand) :
    x.high * x.quarter < y.low * y.quarter ∨
      x.high * x.quarter = y.low * y.quarter ∧ (x.significand % 2 = 1 ∨ y.significand % 2 = 1) := by
  have htwo : twoPow 52 = 4503599627370496 := rfl
  have hqq : y.quarter = x.quarter := by rw [quarter, quarter, he]
  have hle : x.high ≤ y.low := by
    unfold high low
    split_ifs with hpower
    · have := x.le_significand
      omega
    · omega
  have hle' : x.high * x.quarter ≤ y.low * y.quarter := by
    rw [hqq]
    exact mul_le_mul_of_nonneg_right (by exact_mod_cast hle) x.quarter_pos.le
  refine hle'.lt_or_eq.imp_right fun hends => ⟨hends, ?_⟩
  rw [hqq, mul_left_inj' x.quarter_pos.ne', Nat.cast_inj] at hends
  unfold high low at hends
  split_ifs at hends with hpower
  · omega
  · omega

theorem ReadsBack.not_lt (hx : x.ReadsBack c) (hy : y.ReadsBack c') (hvalue : c.toRat = c'.toRat) :
    ¬(x.exponent < y.exponent ∨ x.exponent = y.exponent ∧ x.significand < y.significand) := by
  intro h
  have hxb := hx.bounds
  have hyb := hy.bounds
  have hends : x.high * x.quarter < y.low * y.quarter ∨
      x.high * x.quarter = y.low * y.quarter ∧ (x.significand % 2 = 1 ∨ y.significand % 2 = 1) :=
    h.elim (fun h => (high_le_low_of_exponent_lt h).imp_right fun h => ⟨h.1, .inl h.2⟩)
      fun h => high_le_low_of_significand_lt h.1 h.2
  obtain hlt | ⟨heq, hodd⟩ := hends
  · linarith
  · rw [readsBack_iff] at hx hy
    rcases hodd with hodd | hodd
    · rw [if_neg (by omega)] at hx
      linarith [hx.2]
    · rw [if_neg (by omega)] at hy
      linarith [hy.1]

/-- Digits read back as one magnitude at most. -/
theorem ReadsBack.unique (hx : x.ReadsBack c) (hy : y.ReadsBack c') (hvalue : c.toRat = c'.toRat) :
    x.significand = y.significand ∧ x.exponent = y.exponent := by
  have hxy := hx.not_lt hy hvalue
  have hyx := hy.not_lt hx hvalue.symm
  omega

end ReadsBack

section Grid

variable {x : Binary64} {c c' : Numeral} {tie : Tie} {p : Int}

/-- How many steps of the grid lie below the number. -/
def steps (x : Binary64) (p : Int) : Nat := 4 * x.significand * (x.quarterUnit p).1 / (x.quarterUnit p).2

theorem steps_le (x : Binary64) (p : Int) : x.steps p * (10 : Rat) ^ p ≤ x.magnitude := by
  have hle : x.steps p * (x.quarterUnit p).2 ≤ 4 * x.significand * (x.quarterUnit p).1 := Nat.div_mul_le_self _ _
  rw [le_mul_quarterUnit_iff] at hle
  rw [magnitude_eq]
  exact_mod_cast hle

theorem lt_steps (x : Binary64) (p : Int) : x.magnitude < (x.steps p + 1) * (10 : Rat) ^ p := by
  have hlt : ¬(x.steps p + 1) * (x.quarterUnit p).2 ≤ 4 * x.significand * (x.quarterUnit p).1 := by
    rw [not_le]
    exact (Nat.lt_mul_div_succ _ (x.quarterUnit_pos p)).trans_eq (Nat.mul_comm _ _)
  rw [le_mul_quarterUnit_iff, not_le] at hlt
  rw [magnitude_eq]
  exact_mod_cast hlt

/-- The number lies halfway between its neighbours on the grid. -/
def IsHalfway (x : Binary64) (p : Int) : Prop := 2 * x.magnitude = (2 * x.steps p + 1) * (10 : Rat) ^ p

theorem isHalfway_of_eq
    (h : 2 * (4 * x.significand * (x.quarterUnit p).1) = (2 * x.steps p + 1) * (x.quarterUnit p).2) :
    x.IsHalfway p := by
  have hle := (x.mul_quarterUnit_le_iff p (2 * (4 * x.significand)) (2 * x.steps p + 1)).mp (by rw [← h]; ring_nf; rfl)
  have hge := (x.le_mul_quarterUnit_iff p (2 * (4 * x.significand)) (2 * x.steps p + 1)).mp (by rw [← h]; ring_nf; rfl)
  rw [IsHalfway, magnitude_eq]
  push_cast at hle hge
  linarith

theorem onGrid?_eq (tie : Tie) (x : Binary64) (p : Int) :
    x.onGrid? tie p =
      if x.ReadsBack ⟨x.steps p, p⟩ then
        if x.ReadsBack ⟨x.steps p + 1, p⟩ then
          if 2 * (4 * x.significand * (x.quarterUnit p).1) < (2 * x.steps p + 1) * (x.quarterUnit p).2 then
            some ⟨x.steps p, p⟩
          else if (2 * x.steps p + 1) * (x.quarterUnit p).2 < 2 * (4 * x.significand * (x.quarterUnit p).1) then
            some ⟨x.steps p + 1, p⟩
          else if tie = .even ∧ x.steps p % 2 = 0 then some ⟨x.steps p, p⟩
          else some ⟨x.steps p + 1, p⟩
        else some ⟨x.steps p, p⟩
      else if x.ReadsBack ⟨x.steps p + 1, p⟩ then some ⟨x.steps p + 1, p⟩ else none := rfl

/-- What the grid offers: a neighbour of the number that reads back as it. -/
theorem eq_of_onGrid? (h : x.onGrid? tie p = some c) :
    (c = ⟨x.steps p, p⟩ ∨ c = ⟨x.steps p + 1, p⟩) ∧ x.ReadsBack c := by
  rw [onGrid?_eq] at h
  split_ifs at h with hbelow habove hlt hgt htie habove <;> cases h
  · exact ⟨.inl rfl, hbelow⟩
  · exact ⟨.inr rfl, habove⟩
  · exact ⟨.inl rfl, hbelow⟩
  · exact ⟨.inr rfl, habove⟩
  · exact ⟨.inl rfl, hbelow⟩
  · exact ⟨.inr rfl, habove⟩

/-- What the grid offers depends on ties only for a number halfway between its neighbours. -/
theorem onGrid?_even_away :
    x.onGrid? .even p = x.onGrid? .away p ∨
      x.steps p % 2 = 0 ∧ x.IsHalfway p ∧ x.ReadsBack ⟨x.steps p + 1, p⟩ ∧
        x.onGrid? .even p = some ⟨x.steps p, p⟩ ∧ x.onGrid? .away p = some ⟨x.steps p + 1, p⟩ := by
  simp only [onGrid?_eq]
  by_cases hboth : x.ReadsBack ⟨x.steps p, p⟩ ∧ x.ReadsBack ⟨x.steps p + 1, p⟩
  · obtain ⟨hbelow, habove⟩ := hboth
    simp only [if_pos hbelow, if_pos habove]
    rcases lt_trichotomy (2 * (4 * x.significand * (x.quarterUnit p).1)) ((2 * x.steps p + 1) * (x.quarterUnit p).2)
      with hlt | heq | hgt
    · simp only [if_pos hlt, true_or]
    · by_cases heven : x.steps p % 2 = 0
      · exact .inr ⟨heven, isHalfway_of_eq heq, habove, by simp [heq, heven], by simp [heq]⟩
      · simp only [heven, and_false, if_false, true_or]
    · simp only [if_neg hgt.not_gt, if_pos hgt, true_or]
  · by_cases hbelow : x.ReadsBack ⟨x.steps p, p⟩
    · have habove : ¬x.ReadsBack ⟨x.steps p + 1, p⟩ := fun habove => hboth ⟨hbelow, habove⟩
      simp only [if_pos hbelow, if_neg habove, true_or]
    · simp only [if_neg hbelow, true_or]

/-- A grid no coarser than a quarter of the distance between neighbours has a point that reads back. -/
theorem exists_onGrid? (tie : Tie) (hx : x.significand ≠ 0) (h : (10 : Rat) ^ p ≤ x.quarter) :
    ∃ c, x.onGrid? tie p = some c := by
  have hle := x.steps_le p
  have hlt := x.lt_steps p
  have hq := x.quarter_pos
  have hmagnitude := x.magnitude_eq
  have hbelow : x.ReadsBack ⟨x.steps p, p⟩ := by
    refine ReadsBack.of_between ?_ ?_
    · have hlow : x.low + 1 ≤ 4 * x.significand := by unfold low; split_ifs <;> omega
      have hlow : (x.low : Rat) + 1 ≤ 4 * x.significand := by exact_mod_cast hlow
      change x.low * x.quarter < x.steps p * 10 ^ p
      nlinarith
    · change x.steps p * 10 ^ p < x.high * x.quarter
      unfold high
      push_cast
      nlinarith
  rw [onGrid?_eq, if_pos hbelow]
  split_ifs <;> exact ⟨_, rfl⟩

end Grid

section Search

variable {x : Binary64} {c : Numeral} {tie : Tie}

theorem two_pow_le_ten_pow {m k : Nat} (h : 28 * m ≤ 93 * k) : (2 : Rat) ^ m ≤ 10 ^ k := by
  refine le_of_pow_le_pow_left₀ (by decide : 93 ≠ 0) (by positivity) ?_
  calc ((2 : Rat) ^ m) ^ 93 = (2 ^ 93) ^ m := by rw [← pow_mul, ← pow_mul, Nat.mul_comm]
    _ ≤ (10 ^ 28) ^ m := pow_le_pow_left₀ (by positivity) (by norm_num) m
    _ ≤ 10 ^ (k * 93) := by
      rw [← pow_mul]
      exact pow_le_pow_right₀ (by norm_num) (by omega)
    _ = (10 ^ k) ^ 93 := pow_mul _ _ _

theorem ten_pow_le_two_pow {m k : Nat} (h : 10 * k ≤ 3 * m) : (10 : Rat) ^ k ≤ 2 ^ m := by
  refine le_of_pow_le_pow_left₀ (by decide : 10 ≠ 0) (by positivity) ?_
  calc ((10 : Rat) ^ k) ^ 10 = 10 ^ (k * 10) := (pow_mul _ _ _).symm
    _ ≤ 10 ^ (3 * m) := pow_le_pow_right₀ (by norm_num) (by omega)
    _ = (10 ^ 3) ^ m := pow_mul _ _ _
    _ ≤ (2 ^ 10) ^ m := pow_le_pow_left₀ (by positivity) (by norm_num) m
    _ = (2 ^ m) ^ 10 := by rw [← pow_mul, ← pow_mul, Nat.mul_comm]

/-- Powers of two and of ten compare by their exponents, since the logarithm of two is between `3 / 10` and
`28 / 93`. -/
theorem two_zpow_le_ten_zpow {m k : Int} (h : 28 * m ≤ 93 * k) (h' : 3 * m ≤ 10 * k) : (2 : Rat) ^ m ≤ 10 ^ k := by
  rcases le_or_gt 0 m with hm | hm
  · obtain ⟨m, rfl⟩ := Int.eq_ofNat_of_zero_le hm
    obtain ⟨k, rfl⟩ := Int.eq_ofNat_of_zero_le (by omega : 0 ≤ k)
    rw [zpow_natCast, zpow_natCast]
    exact two_pow_le_ten_pow (by omega)
  · rcases le_or_gt 0 k with hk | hk
    · exact (zpow_le_one_of_nonpos₀ (by norm_num) hm.le).trans (one_le_zpow₀ (by norm_num) hk)
    · obtain ⟨m, rfl⟩ : ∃ n : Nat, m = -n := ⟨(-m).toNat, by omega⟩
      obtain ⟨k, rfl⟩ : ∃ n : Nat, k = -n := ⟨(-k).toNat, by omega⟩
      rw [zpow_neg, zpow_neg, zpow_natCast, zpow_natCast]
      exact inv_anti₀ (by positivity) (ten_pow_le_two_pow (by omega))

theorem ten_zpow_le_two_zpow {m k : Int} (h : 93 * k ≤ 28 * m) (h' : 10 * k ≤ 3 * m) : (10 : Rat) ^ k ≤ 2 ^ m := by
  have hinv := two_zpow_le_ten_zpow (m := -m) (k := -k) (by omega) (by omega)
  rw [zpow_neg, zpow_neg] at hinv
  exact (inv_le_inv₀ (zpow_pos (by norm_num) _) (zpow_pos (by norm_num) _)).mp hinv

theorem findSome?_range_eq_some {α : Type} {f : Nat → Option α} {n : Nat} {a : α}
    (h : (List.range n).findSome? f = some a) : ∃ i < n, f i = some a ∧ ∀ j < i, f j = none := by
  induction n with
  | zero => cases h
  | succ n ih =>
    rw [List.range_succ, List.findSome?_append] at h
    cases hfront : (List.range n).findSome? f with
    | some b =>
      rw [hfront] at h ih
      obtain ⟨i, hi, hfound, hnone⟩ := ih h
      exact ⟨i, by omega, hfound, hnone⟩
    | none =>
      rw [hfront, Option.none_or] at h
      refine ⟨n, by omega, by simpa using h, fun j hj => ?_⟩
      exact List.findSome?_eq_none_iff.mp hfront j (List.mem_range.mpr hj)

/-- The search ends: the shortest digits are what the coarsest grid with a point that reads back offers. -/
theorem exists_shortest (tie : Tie) (hx : x.significand ≠ 0) :
    ∃ i : Nat, i < 40 ∧ x.onGrid? tie (x.coarsestPower - i) = some (x.shortest tie) ∧
      ∀ j < i, x.onGrid? tie (x.coarsestPower - (j : Nat)) = none := by
  have hexponent := x.exponent_ge
  have hexponent' := x.exponent_le
  have hfine : (10 : Rat) ^ (x.coarsestPower - (39 : Nat)) ≤ x.quarter := by
    unfold coarsestPower
    exact ten_zpow_le_two_zpow (by omega) (by omega)
  obtain ⟨c, hc⟩ := exists_onGrid? tie hx hfine
  unfold shortest
  rw [if_neg hx]
  cases hfound : (List.range 40).findSome? fun step : Nat => x.onGrid? tie (x.coarsestPower - step) with
  | none =>
    have hnone := List.findSome?_eq_none_iff.mp hfound 39 (by simp)
    rw [hc] at hnone
    cases hnone
  | some c => exact findSome?_range_eq_some hfound

theorem two_zpow_eq_quarter (x : Binary64) : (2 : Rat) ^ (x.exponent + 53) = 2 ^ 55 * x.quarter := by
  rw [quarter, ← zpow_natCast, ← zpow_add₀ (by norm_num)]
  congr 1
  push_cast
  ring

theorem high_mul_quarter_lt (x : Binary64) : x.high * x.quarter < 2 ^ (x.exponent + 53) := by
  have hhigh : x.high < 2 ^ 55 := by
    have := x.significand_lt'
    unfold high
    omega
  rw [two_zpow_eq_quarter]
  exact mul_lt_mul_of_pos_right (by exact_mod_cast hhigh) x.quarter_pos

theorem digits_shortest_lt (tie : Tie) (x : Binary64) : (x.shortest tie).digits < 10 ^ 18 := by
  by_cases hx : x.significand = 0
  · rw [shortest, if_pos hx]
    decide
  obtain ⟨i, -, hfound, hnone⟩ := exists_shortest tie hx
  obtain ⟨hc, hback⟩ := eq_of_onGrid? hfound
  have hpower : (x.shortest tie).power = x.coarsestPower - i := by rcases hc with hc | hc <;> rw [hc]
  generalize x.shortest tie = c at *
  have hten : (0 : Rat) < 10 ^ c.power := zpow_pos (by norm_num) _
  have hlt := hback.bounds.2.trans_lt x.high_mul_quarter_lt
  have hbound : (2 : Rat) ^ (x.exponent + 53) ≤ 10 ^ 18 * 10 ^ c.power := by
    cases i with
    | zero =>
      have hexponent := x.exponent_ge
      have hexponent' := x.exponent_le
      rw [← zpow_natCast, ← zpow_add₀ (by norm_num), hpower, coarsestPower]
      exact two_zpow_le_ten_zpow (by omega) (by omega)
    | succ i =>
      have hcoarse : ¬(10 : Rat) ^ (c.power + 1) ≤ x.quarter := by
        intro hle
        obtain ⟨c', hc'⟩ := exists_onGrid? tie hx hle
        have hstep : c.power + 1 = x.coarsestPower - i := by
          rw [hpower]
          push_cast
          ring
        rw [hstep, hnone i (Nat.lt_succ_self i)] at hc'
        cases hc'
      rw [zpow_add_one₀ (by norm_num)] at hcoarse
      rw [two_zpow_eq_quarter]
      linarith
  have hdigits : (c.digits : Rat) < 10 ^ 18 := lt_of_mul_lt_mul_right (hlt.trans_le hbound) hten.le
  exact_mod_cast hdigits

theorem power_shortest (tie : Tie) (x : Binary64) :
    -400 ≤ (x.shortest tie).power ∧ (x.shortest tie).power ≤ 400 := by
  by_cases hx : x.significand = 0
  · rw [shortest, if_pos hx]
    decide
  obtain ⟨i, hi, hfound, -⟩ := exists_shortest tie hx
  have hpower : (x.shortest tie).power = x.coarsestPower - i := by
    rcases (eq_of_onGrid? hfound).1 with hc | hc <;> rw [hc]
  have hexponent := x.exponent_ge
  have hexponent' := x.exponent_le
  unfold coarsestPower at hpower
  omega

theorem readsBack_shortest (tie : Tie) (hx : x.significand ≠ 0) : x.ReadsBack (x.shortest tie) := by
  obtain ⟨i, -, hfound, -⟩ := exists_shortest tie hx
  exact (eq_of_onGrid? hfound).2

theorem shortest_congr {y : Binary64} (hs : x.significand = y.significand) (he : x.exponent = y.exponent)
    (tie : Tie) : x.shortest tie = y.shortest tie := by
  obtain ⟨nx, sx, ex, _⟩ := x
  obtain ⟨ny, sy, ey, _⟩ := y
  cases hs
  cases he
  rfl

/-- The shortest digits depend on ties only for a number halfway between its neighbours on their grid. -/
theorem shortest_even_away (x : Binary64) :
    x.shortest .even = x.shortest .away ∨
      ∃ p, x.steps p % 2 = 0 ∧ x.IsHalfway p ∧ x.ReadsBack ⟨x.steps p + 1, p⟩ ∧
        x.shortest .even = ⟨x.steps p, p⟩ ∧ x.shortest .away = ⟨x.steps p + 1, p⟩ := by
  by_cases hx : x.significand = 0
  · left
    rw [shortest, shortest, if_pos hx, if_pos hx]
  obtain ⟨i, -, heven, hi⟩ := exists_shortest .even hx
  obtain ⟨j, -, haway, hj⟩ := exists_shortest .away hx
  have hnone (p : Int) : x.onGrid? .even p = none ↔ x.onGrid? .away p = none := by
    obtain heq | ⟨-, -, -, he, ha⟩ := onGrid?_even_away (x := x) (p := p)
    · rw [heq]
    · simp [he, ha]
  obtain rfl : i = j := by
    rcases lt_trichotomy i j with hij | rfl | hji
    · rw [(hnone _).mpr (hj i hij)] at heven
      cases heven
    · rfl
    · rw [(hnone _).mp (hi j hji)] at haway
      cases haway
  obtain heq | ⟨hsteps, hhalfway, habove, he, ha⟩ := onGrid?_even_away (x := x) (p := x.coarsestPower - i)
  · rw [heq, haway] at heven
    exact .inl (Option.some.inj heven).symm
  · rw [he] at heven
    rw [ha] at haway
    exact .inr ⟨_, hsteps, hhalfway, habove, (Option.some.inj heven).symm, (Option.some.inj haway).symm⟩

/-- Where the tie to even goes down, no number has the digits of the neighbour above as its shortest ones. -/
theorem toRat_shortest_even_ne {D : Nat} {p : Int} (habove : x.ReadsBack ⟨D + 1, p⟩)
    (heven : x.shortest .even = ⟨D, p⟩) (y : Binary64) : (y.shortest .even).toRat ≠ Numeral.toRat ⟨D + 1, p⟩ := by
  intro hsame
  have hpow : (0 : Rat) < 10 ^ p := by positivity
  have hy : y.significand ≠ 0 := by
    intro hzero
    rw [shortest, if_pos hzero, Numeral.toRat, Numeral.toRat, Nat.cast_zero, zero_mul, eq_comm] at hsame
    exact absurd (mul_eq_zero.mp hsame) (by simp [hpow.ne']; positivity)
  -- Both numbers read back from these digits, so they are one number, and its digits are the ones below.
  obtain ⟨hs, he⟩ := (readsBack_shortest .even hy).unique habove hsame
  rw [shortest_congr hs he, heven, Numeral.toRat, Numeral.toRat] at hsame
  have hdigits := mul_right_cancel₀ hpow.ne' hsame
  have hdigits : D = D + 1 := by exact_mod_cast hdigits
  omega

end Search

section Halfway

variable {x : Binary64} {p : Int}

theorem ten_zpow_le_of_isHalfway (h : x.IsHalfway p) (hback : x.ReadsBack ⟨x.steps p + 1, p⟩) :
    (10 : Rat) ^ p ≤ 2 ^ x.exponent := by
  have hhigh : (x.steps p + 1 : Nat) * (10 : Rat) ^ p ≤ x.high * x.quarter := hback.bounds.2
  have hquarter : (2 : Rat) ^ x.exponent = 4 * x.quarter := by
    rw [quarter, zpow_sub₀ (by norm_num)]
    norm_num
    ring
  unfold IsHalfway at h
  rw [magnitude_eq] at h
  unfold high at hhigh
  push_cast at hhigh
  rw [hquarter]
  linarith

/-- A number halfway between neighbours that read back has no more units than steps. -/
theorem significand_le_steps_of_isHalfway (h : x.IsHalfway p) (hback : x.ReadsBack ⟨x.steps p + 1, p⟩) :
    x.significand ≤ x.steps p := by
  have hunit : (0 : Rat) < 2 ^ x.exponent := zpow_pos (by norm_num) _
  have hle : (2 * x.significand : Nat) * (2 : Rat) ^ x.exponent ≤ (2 * x.steps p + 1 : Nat) * 2 ^ x.exponent := by
    calc (2 * x.significand : Nat) * (2 : Rat) ^ x.exponent = 2 * x.magnitude := by
          rw [magnitude]
          push_cast
          ring
      _ = (2 * x.steps p + 1 : Nat) * 10 ^ p := by
          rw [h]
          push_cast
          rfl
      _ ≤ (2 * x.steps p + 1 : Nat) * 2 ^ x.exponent :=
          mul_le_mul_of_nonneg_left (ten_zpow_le_of_isHalfway h hback) (by positivity)
  have hle : 2 * x.significand ≤ 2 * x.steps p + 1 := by exact_mod_cast le_of_mul_le_mul_right hle hunit
  omega

/-- Over as many places as decimals have, such a number has a significand of full length. -/
theorem two_pow_le_steps_of_isHalfway (h : x.IsHalfway p) (hback : x.ReadsBack ⟨x.steps p + 1, p⟩) (hp : -28 ≤ p) :
    4503599627370496 ≤ x.steps p := by
  have hexponent : x.exponent ≠ -1074 := by
    intro hleast
    have hten : (10 : Rat) ^ (-28 : Int) ≤ 10 ^ p := zpow_le_zpow_right₀ (by norm_num) hp
    have htwo : (2 : Rat) ^ x.exponent ≤ 2 ^ (-100 : Int) := zpow_le_zpow_right₀ (by norm_num) (by omega)
    have hle := hten.trans ((ten_zpow_le_of_isHalfway h hback).trans htwo)
    norm_num at hle
  exact (x.le_significand.resolve_right hexponent).trans (significand_le_steps_of_isHalfway h hback)

/-- The grid of a number halfway between neighbours that read back has places: over the whole numbers, half steps are
odd. -/
theorem power_neg_of_isHalfway (h : x.IsHalfway p) (hback : x.ReadsBack ⟨x.steps p + 1, p⟩) : p < 0 := by
  by_contra hp
  obtain ⟨p, rfl⟩ := Int.eq_ofNat_of_zero_le (not_lt.mp hp)
  have hle := ten_zpow_le_of_isHalfway h hback
  have he : 0 ≤ x.exponent := by
    by_contra he
    have hone : (2 : Rat) ^ x.exponent < 1 := zpow_lt_one_of_neg₀ (by norm_num) (by omega)
    have hten : (1 : Rat) ≤ 10 ^ (p : Int) := one_le_zpow₀ (by norm_num) (by omega)
    linarith
  obtain ⟨e, he⟩ := Int.eq_ofNat_of_zero_le he
  unfold IsHalfway magnitude at h
  generalize x.steps p = D at h
  rw [he, zpow_natCast, zpow_natCast] at h hle
  have hle : 10 ^ p ≤ 2 ^ e := by exact_mod_cast hle
  have h : 2 * (x.significand * 2 ^ e) = (2 * D + 1) * 10 ^ p := by exact_mod_cast h
  have hpe : p ≤ e := (Nat.pow_le_pow_iff_right (by decide : 1 < 2)).mp
    ((Nat.pow_le_pow_left (by decide) p).trans hle)
  obtain ⟨k, rfl⟩ := Nat.exists_eq_add_of_le hpe
  have hcancel : 2 * (x.significand * 2 ^ k) = (2 * D + 1) * 5 ^ p := by
    refine Nat.eq_of_mul_eq_mul_left (by positivity : 0 < 2 ^ p) ?_
    calc 2 ^ p * (2 * (x.significand * 2 ^ k)) = 2 * (x.significand * 2 ^ (p + k)) := by rw [pow_add]; ring
      _ = (2 * D + 1) * (2 * 5) ^ p := h
      _ = 2 ^ p * ((2 * D + 1) * 5 ^ p) := by rw [mul_pow]; ring
  have hodd : Odd ((2 * D + 1) * 5 ^ p) := (odd_two_mul_add_one D).mul (Odd.pow (by decide))
  rw [← hcancel] at hodd
  exact absurd (even_two_mul _) (Nat.not_even_iff_odd.mpr hodd)

/-- A number halfway between neighbours that read back has few places: each takes a factor five from the half steps. -/
theorem five_pow_dvd_of_isHalfway (h : x.IsHalfway p) (hback : x.ReadsBack ⟨x.steps p + 1, p⟩) :
    ∃ q : Nat, 0 < q ∧ p = -q ∧ 5 ^ q ∣ 2 * x.steps p + 1 := by
  have hp := power_neg_of_isHalfway h hback
  obtain ⟨q, rfl⟩ : ∃ q : Nat, p = -q := ⟨(-p).toNat, by omega⟩
  refine ⟨q, by omega, rfl, ?_⟩
  unfold IsHalfway magnitude at h
  generalize x.steps (-q) = D at h
  rw [zpow_neg, zpow_natCast, ← div_eq_mul_inv, eq_div_iff (by positivity)] at h
  -- A power of two on one side only does not touch the fives.
  have hdvd : ∃ b : Nat, 5 ^ q ∣ (2 * D + 1) * 2 ^ b := by
    rcases le_or_gt 0 x.exponent with he | he
    · obtain ⟨e, he⟩ := Int.eq_ofNat_of_zero_le he
      rw [he, zpow_natCast] at h
      have h : 2 * (x.significand * 2 ^ e) * (2 * 5) ^ q = 2 * D + 1 := by exact_mod_cast h
      exact ⟨0, ⟨2 * (x.significand * 2 ^ e) * 2 ^ q, by rw [pow_zero, mul_one, ← h, mul_pow]; ring⟩⟩
    · obtain ⟨e, he⟩ : ∃ e : Nat, x.exponent = -e := ⟨(-x.exponent).toNat, by omega⟩
      rw [he, zpow_neg, zpow_natCast, ← div_eq_mul_inv, ← mul_div_assoc, div_mul_eq_mul_div,
        div_eq_iff (by positivity)] at h
      have h : 2 * x.significand * (2 * 5) ^ q = (2 * D + 1) * 2 ^ e := by exact_mod_cast h
      exact ⟨e, ⟨2 * x.significand * 2 ^ q, by rw [← h, mul_pow]; ring⟩⟩
  obtain ⟨b, hb⟩ := hdvd
  exact (Nat.Coprime.pow q b (by decide)).dvd_of_dvd_mul_right hb

end Halfway

end Binary64

end Repricing
