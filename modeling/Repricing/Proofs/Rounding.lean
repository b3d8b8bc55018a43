import Mathlib.Algebra.Order.Field.Rat
import Mathlib.Algebra.Order.Ring.Abs
import Mathlib.Algebra.Ring.Int.Parity
import Mathlib.Tactic.FieldSimp
import Mathlib.Tactic.Linarith
import Mathlib.Tactic.NormNum
import Mathlib.Tactic.Positivity
import Mathlib.Tactic.Ring
import Repricing.Rounding

namespace Repricing.Rounding

/-- The whole number `k` is the number `x`, rounded by the rule. -/
def Rounds (rule : Rounding) (x : Rat) (k : Int) : Prop :=
  match rule with
  | halfEven => |x - k| ≤ 1 / 2 ∧ (|x - k| = 1 / 2 → Even k)
  | halfAway => |x - k| ≤ 1 / 2 ∧ (|x - k| = 1 / 2 → |x| < |(k : Rat)|)
  | up => x ≤ k ∧ k < x + 1
  | down => k ≤ x ∧ x < k + 1

theorem rounds_intCast (rule : Rounding) (k : Int) : rule.Rounds k k := by
  cases rule <;> simp [Rounds]

/-- Two numbers in order are nearest to whole numbers out of order only at the midpoint between the two. -/
theorem midpoint_of_lt {x y : Rat} {k l : Int} (hx : |x - k| ≤ 1 / 2) (hy : |y - l| ≤ 1 / 2) (h : x ≤ y)
    (hlt : l < k) : k = l + 1 ∧ x - k = -(1 / 2) ∧ y - l = 1 / 2 := by
  have hs : (l : Rat) + 1 ≤ k := by exact_mod_cast hlt
  have hk := abs_le.mp hx
  have hl := abs_le.mp hy
  have he : (k : Rat) = l + 1 := by linarith
  refine ⟨by exact_mod_cast he, ?_, ?_⟩
  · linarith
  · linarith

/-- A rule keeps the order: the half rules because both sides of a tie would have to win it. -/
theorem Rounds.mono {rule : Rounding} {x y : Rat} {k l : Int} (hx : rule.Rounds x k) (hy : rule.Rounds y l)
    (h : x ≤ y) : k ≤ l := by
  by_contra hlt
  have hlt : l < k := by omega
  have hs : (l : Rat) + 1 ≤ k := by exact_mod_cast hlt
  cases rule with
  | halfEven =>
    obtain ⟨hk, hke⟩ := hx
    obtain ⟨hl, hle⟩ := hy
    obtain ⟨he, hkx, hly⟩ := midpoint_of_lt hk hl h hlt
    have hk2 : Even k := hke (by rw [hkx]; norm_num)
    have hl2 : Even l := hle (by rw [hly]; norm_num)
    obtain ⟨a, ha⟩ := hk2
    obtain ⟨b, hb⟩ := hl2
    omega
  | halfAway =>
    obtain ⟨hk, hka⟩ := hx
    obtain ⟨hl, hla⟩ := hy
    obtain ⟨he, hkx, hly⟩ := midpoint_of_lt hk hl h hlt
    have hk2 := hka (by rw [hkx]; norm_num)
    have hl2 := hla (by rw [hly]; norm_num)
    have hkc : (k : Rat) = l + 1 := by exact_mod_cast he
    rcases le_or_gt 0 l with h0 | h0
    · have hc : (0 : Rat) ≤ l := by exact_mod_cast h0
      rw [abs_of_nonneg hc, abs_of_nonneg (by linarith : 0 ≤ y)] at hl2
      linarith
    · have hc : (l : Rat) + 1 ≤ 0 := by exact_mod_cast h0
      rw [abs_of_nonpos (by linarith : (k : Rat) ≤ 0), abs_of_nonpos (by linarith : x ≤ 0)] at hk2
      linarith
  | up => linarith [hx.2, hy.1]
  | down => linarith [hx.1, hy.2]

theorem Rounds.unique {rule : Rounding} {x : Rat} {k l : Int} (hk : rule.Rounds x k) (hl : rule.Rounds x l) :
    k = l :=
  Int.le_antisymm (hk.mono hl le_rfl) (hl.mono hk le_rfl)

theorem Rounds.eq_of_intCast {rule : Rounding} {k l : Int} (h : rule.Rounds (l : Rat) k) : k = l :=
  h.unique (rounds_intCast rule l)

/-- The rule that does to a number what the given rule does to its opposite. -/
def opposite : Rounding → Rounding
  | halfEven => halfEven
  | halfAway => halfAway
  | up => down
  | down => up

theorem Rounds.neg {rule : Rounding} {x : Rat} {k : Int} (h : rule.Rounds x k) : rule.opposite.Rounds (-x) (-k) := by
  have he : |-x - (-k : Int)| = |x - k| := by
    rw [← abs_neg]
    congr 1
    push_cast
    ring
  cases rule with
  | halfEven => exact ⟨he ▸ h.1, fun ht => (h.2 (he ▸ ht)).neg⟩
  | halfAway =>
    refine ⟨he ▸ h.1, fun ht => ?_⟩
    rw [Int.cast_neg, abs_neg, abs_neg]
    exact h.2 (he ▸ ht)
  | up =>
    have hk : ((-k : Int) : Rat) = -k := by push_cast; rfl
    exact ⟨by linarith [h.1], by linarith [h.2]⟩
  | down =>
    have hk : ((-k : Int) : Rat) = -k := by push_cast; rfl
    exact ⟨by linarith [h.1], by linarith [h.2]⟩

section Quotient

variable (n k : Int) {d : Nat} (hd : 0 < d)
include hd

/-- The distance of a whole number from a quotient, over the divisor. -/
theorem abs_div_sub : |(n : Rat) / d - k| = (n - k * d).natAbs / (d : Rat) := by
  have hp : (0 : Rat) < d := by exact_mod_cast hd
  have he : (n : Rat) / d - k = ((n - k * d : Int) : Rat) / d := by
    push_cast
    rw [sub_div, mul_div_cancel_right₀ _ hp.ne']
  rw [he, abs_div, abs_of_pos hp, Nat.cast_natAbs, Int.cast_abs]

theorem abs_div_sub_le_half : |(n : Rat) / d - k| ≤ 1 / 2 ↔ 2 * (n - k * d).natAbs ≤ d := by
  rw [abs_div_sub n k hd, div_le_div_iff₀ (by exact_mod_cast hd) (by norm_num), one_mul, mul_comm]
  exact_mod_cast Iff.rfl

theorem abs_div_sub_eq_half : |(n : Rat) / d - k| = 1 / 2 ↔ 2 * (n - k * d).natAbs = d := by
  have hp : (0 : Rat) < d := by exact_mod_cast hd
  rw [abs_div_sub n k hd, div_eq_div_iff hp.ne' (by norm_num), one_mul, mul_comm]
  exact_mod_cast Iff.rfl

end Quotient

/-- What the whole quotient and the next whole number leave of the numerator. -/
theorem sub_whole_mul (n d : Nat) :
    (n : Int) - (n / d : Nat) * d = (n % d : Nat) ∧ (n : Int) - ((n / d : Nat) + 1) * d = (n % d : Nat) - d := by
  have hn : d * (n / d) + n % d = n := Nat.div_add_mod n d
  have hc : ((n / d : Nat) : Int) * d = (d * (n / d) : Nat) := by push_cast; ring
  constructor
  · rw [hc]
    omega
  · rw [add_mul, hc]
    omega

theorem rounds_nearestEven (n : Nat) {d : Nat} (hd : 0 < d) : halfEven.Rounds ((n : Int) / (d : Rat)) (nearestEven n d) := by
  have hr : n % d < d := Nat.mod_lt n hd
  obtain ⟨hkeep, hnext⟩ := sub_whole_mul n d
  rw [Rounds, abs_div_sub_le_half _ _ hd, abs_div_sub_eq_half _ _ hd, nearestEven]
  split_ifs with h
  · rw [Nat.cast_add_one, hnext]
    refine ⟨by omega, fun ht => ?_⟩
    rw [Int.even_iff]
    omega
  · rw [hkeep]
    refine ⟨by omega, fun ht => ?_⟩
    rw [Int.even_iff]
    omega

theorem rounds_nearestUp (n : Nat) {d : Nat} (hd : 0 < d) : halfAway.Rounds ((n : Int) / (d : Rat)) (nearestUp n d) := by
  have hr : n % d < d := Nat.mod_lt n hd
  have hp : (0 : Rat) < d := by exact_mod_cast hd
  obtain ⟨hkeep, hnext⟩ := sub_whole_mul n d
  rw [Rounds, abs_div_sub_le_half _ _ hd, abs_div_sub_eq_half _ _ hd, nearestUp]
  split_ifs with h
  · rw [Nat.cast_add_one, hnext]
    refine ⟨by omega, fun ht => ?_⟩
    rw [abs_of_nonneg (by positivity), abs_of_nonneg (by positivity), div_lt_iff₀ hp]
    have hlt : (n : Int) < ((n / d : Nat) + 1) * d := by omega
    exact_mod_cast hlt
  · rw [hkeep]
    refine ⟨by omega, fun ht => ?_⟩
    omega

theorem rounds_ediv (n : Int) {d : Nat} (hd : 0 < d) : down.Rounds ((n : Rat) / d) (n / (d : Int)) := by
  have hp : (0 : Rat) < d := by exact_mod_cast hd
  have hz : (0 : Int) < d := by exact_mod_cast hd
  constructor
  · rw [le_div_iff₀ hp]
    exact_mod_cast Int.ediv_mul_le n hz.ne'
  · rw [div_lt_iff₀ hp]
    exact_mod_cast Int.lt_ediv_add_one_mul_self n hz

/-- A half rule on the magnitude, under the sign of the numerator. -/
theorem Rounds.signed {rule : Rounding} (half : rule.opposite = rule) {n : Int} {d k : Nat}
    (h : rule.Rounds ((n.natAbs : Int) / (d : Rat)) k) : rule.Rounds ((n : Rat) / d) (signed n k) := by
  unfold Rounding.signed
  split_ifs with hn
  · have hc : (n : Rat) / d = -(((n.natAbs : Int) : Rat) / d) := by
      rw [← neg_div, ← Int.cast_neg]
      congr 2
      omega
    rw [hc, ← half]
    exact h.neg
  · have hc : (n.natAbs : Int) = n := by omega
    rwa [hc] at h

/-- The rounded quotient of integers is the exact quotient, rounded. -/
theorem rounds_quotient (rule : Rounding) (n : Int) {d : Nat} (hd : 0 < d) :
    rule.Rounds ((n : Rat) / d) (rule.quotient n d) := by
  cases rule with
  | halfEven => exact Rounds.signed rfl (rounds_nearestEven n.natAbs hd)
  | halfAway => exact Rounds.signed rfl (rounds_nearestUp n.natAbs hd)
  | up =>
    have h := (rounds_ediv (-n) hd).neg
    rwa [Int.cast_neg, neg_div, neg_neg] at h
  | down => exact rounds_ediv n hd

theorem exists_rounds (rule : Rounding) (x : Rat) : ∃ k, rule.Rounds x k := by
  have h := rounds_quotient rule x.num x.den_pos
  rw [Rat.num_div_den] at h
  exact ⟨_, h⟩

end Repricing.Rounding
