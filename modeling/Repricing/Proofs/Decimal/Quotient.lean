import Mathlib.Algebra.Order.Field.Power
import Repricing.Decimal.Quotient
import Repricing.Proofs.Decimal.Rounded

namespace Repricing.Decimal

/-- What a division has found and what remains make up the number that is looked for. -/
structure Division.Tracks (x : Division) (divisor : Nat) (value : Rat) : Prop where
  remainder_lt : x.remainder < divisor
  digits_lt : x.digits < 79228162514264337593543950336
  scale_le : x.scale ≤ 28
  eq_mul : (x.digits : Rat) + x.remainder / divisor = value * 10 ^ x.scale

/-- Digits that the number is rounded to, or none where it is too large. -/
def Settles (value : Rat) : Option Digits → Prop
  | some digits => 0 ≤ digits.scale ∧ RoundedAt value digits.scale.toNat digits.value
  | none => largest + 1 / 2 ≤ value

theorem zpow_eq_pow_toNat {s : Int} (h : 0 ≤ s) : (10 : Rat) ^ s = 10 ^ s.toNat := by
  rw [← zpow_natCast, Int.toNat_of_nonneg h]

section Groups

variable {x : Division} {divisor : Nat} {value : Rat}

theorem Division.Tracks.digits_le (h : x.Tracks divisor value) : (x.digits : Rat) ≤ value * 10 ^ x.scale := by
  rw [← h.eq_mul]
  exact le_add_of_nonneg_right (by positivity)

theorem Division.Tracks.value_nonneg (h : x.Tracks divisor value) : 0 ≤ value := by
  have hd := h.digits_le
  have hp : (0 : Rat) < 10 ^ x.scale := by positivity
  by_contra hv
  have : value * 10 ^ x.scale < 0 := mul_neg_of_neg_of_pos (by linarith) hp
  have : (0 : Rat) ≤ x.digits := by positivity
  linarith

/-- A further group leaves what is looked for as it is. -/
theorem Division.Tracks.extend_eq_mul (h : x.Tracks divisor value) (n : Nat) :
    ((x.extend divisor n).digits : Rat) + (x.extend divisor n).remainder / divisor =
      value * 10 ^ (x.extend divisor n).scale := by
  have hc : (0 : Rat) < divisor := by exact_mod_cast Nat.zero_lt_of_lt h.remainder_lt
  have hdiv : ((x.remainder * tenPow n / divisor : Nat) : Rat) + (x.remainder * tenPow n % divisor : Nat) / divisor =
      x.remainder * 10 ^ n / divisor := by
    rw [← tenPow_cast, eq_div_iff hc.ne', add_mul, div_mul_cancel₀ _ hc.ne', mul_comm]
    exact_mod_cast Nat.div_add_mod _ _
  calc ((x.extend divisor n).digits : Rat) + (x.extend divisor n).remainder / divisor
      = x.digits * 10 ^ n + ((x.remainder * tenPow n / divisor : Nat) +
          (x.remainder * tenPow n % divisor : Nat) / (divisor : Rat)) := by
        simp only [Division.extend]
        push_cast [tenPow_cast]
        ring
    _ = (x.digits + x.remainder / divisor) * 10 ^ n := by
        rw [hdiv]
        ring
    _ = value * 10 ^ (x.extend divisor n).scale := by
        rw [h.eq_mul, mul_assoc, ← zpow_natCast, ← zpow_add₀ (by norm_num)]
        rfl

theorem Division.Tracks.extend (h : x.Tracks divisor value) {n : Nat} (hs : x.scale + n ≤ 28)
    (hd : (x.extend divisor n).digits < 79228162514264337593543950336) : (x.extend divisor n).Tracks divisor value :=
  ⟨Nat.mod_lt _ (Nat.zero_lt_of_lt h.remainder_lt), hd, hs, h.extend_eq_mul n⟩

/-- In a falling list, no later element is larger than the first one that is found. -/
theorem le_of_find?_eq_some {p : Nat → Bool} {l : List Nat} (hl : l.Pairwise (· > ·)) {m n : Nat}
    (hf : l.find? p = some m) (hn : n ∈ l) (hp : p n) : n ≤ m := by
  induction l with
  | nil => cases hn
  | cons k l ih =>
    rw [List.pairwise_cons] at hl
    rw [List.find?_cons] at hf
    split at hf
    · obtain rfl := Option.some.inj hf
      rcases List.mem_cons.mp hn with rfl | hm
      · exact le_rfl
      · exact (hl.1 n hm).le
    · rcases List.mem_cons.mp hn with rfl | hm
      · simp_all
      · exact ih hl.2 hf hm

/-- A group is no longer than nine digits, and one that is shorter is as long as it can be. -/
theorem Division.groupSize_spec (x : Division) :
    x.groupSize ≤ 9 ∧ (x.groupSize < 9 → ¬x.HasRoom (x.groupSize + 1)) := by
  unfold groupSize
  generalize hf : [9, 8, 7, 6, 5, 4, 3, 2, 1].find? (fun n => decide (x.HasRoom n)) = found
  cases found with
  | none =>
    refine ⟨by decide, fun _ hr => ?_⟩
    have := List.find?_eq_none.mp hf 1 (by decide)
    exact this (decide_eq_true hr)
  | some m =>
    have hm := List.mem_of_find?_eq_some hf
    simp only [List.mem_cons, List.not_mem_nil, or_false] at hm
    rw [Option.getD_some]
    refine ⟨by omega, fun h hr => ?_⟩
    have hn : m + 1 ∈ [9, 8, 7, 6, 5, 4, 3, 2, 1] := by
      simp only [List.mem_cons, List.not_mem_nil, or_false]
      omega
    have := le_of_find?_eq_some (by decide) hf hn (decide_eq_true hr)
    omega

theorem natCast_le_largest {n : Nat} (h : n < 79228162514264337593543950336) : |((n : Int) : Rat)| ≤ largest := by
  rw [Int.cast_natCast, abs_of_nonneg (by positivity), largest]
  exact_mod_cast Nat.le_of_lt_succ h

/-- Nothing remains and no whole digit is owed. -/
theorem Division.Tracks.settles_exact (h : x.Tracks divisor value) (hr : x.remainder = 0) (hs : 0 ≤ x.scale) :
    Settles value (some ⟨x.digits, x.scale⟩) := by
  have hx : value * 10 ^ x.scale.toNat = ((x.digits : Int) : Rat) := by
    rw [← zpow_eq_pow_toNat hs, ← h.eq_mul, hr]
    simp
  have hscale := h.scale_le
  refine ⟨hs, ⟨?_, natCast_le_largest h.digits_lt, by dsimp only; omega, .inl hx⟩⟩
  rw [hx]
  exact Rounding.rounds_intCast _ _

/-- Digits without room for the whole digits that are owed stand for a number that is too large. -/
theorem Division.Tracks.settles_none (h : x.Tracks divisor value) {n : Nat} (hs : n ≤ -x.scale)
    (hd : 79228162514264337593543950336 ≤ x.digits * tenPow n) : Settles value none := by
  have hp : (0 : Rat) < 10 ^ x.scale := by positivity
  have hle : (10 : Rat) ^ n * 10 ^ x.scale ≤ 1 := by
    rw [← zpow_natCast, ← zpow_add₀ (by norm_num)]
    exact zpow_le_one_of_nonpos₀ (by norm_num) (by omega)
  have hd : (79228162514264337593543950336 : Rat) ≤ x.digits * 10 ^ n := by
    rw [← tenPow_cast]
    exact_mod_cast hd
  have hv : (x.digits : Rat) * 10 ^ n ≤ value := by
    refine le_of_mul_le_mul_right ?_ hp
    calc (x.digits : Rat) * 10 ^ n * 10 ^ x.scale = x.digits * (10 ^ n * 10 ^ x.scale) := mul_assoc _ _ _
      _ ≤ x.digits * 1 := mul_le_mul_of_nonneg_left hle (by positivity)
      _ ≤ value * 10 ^ x.scale := by rw [mul_one]; exact h.digits_le
  change largest + 1 / 2 ≤ value
  unfold largest
  linarith

/-- The rounding of a last digit with what was cut off behind it: half to even, where nothing was cut off. -/
theorem rounds_tenth (n : Nat) {rest : Rat} {inexact : Bool} (h0 : 0 ≤ rest) (h1 : rest < 1)
    (hi : inexact = true ↔ rest ≠ 0) :
    Rounding.halfEven.Rounds ((n + rest) / 10)
      (if 5 < n % 10 ∨ (n % 10 = 5 ∧ (inexact ∨ n / 10 % 2 = 1)) then n / 10 + 1 else n / 10 : Nat) := by
  have hn : (n : Rat) = 10 * (n / 10 : Nat) + (n % 10 : Nat) := by exact_mod_cast (Nat.div_add_mod n 10).symm
  have hl : n % 10 < 10 := Nat.mod_lt n (by decide)
  generalize n / 10 = tenth at hn ⊢
  generalize n % 10 = last at hn hl ⊢
  have hl : (last : Rat) ≤ 9 := by exact_mod_cast Nat.le_of_lt_succ hl
  split_ifs with h
  · have hfive : 5 ≤ last := by omega
    have hge : (5 : Rat) ≤ last := by exact_mod_cast hfive
    have he : (n + rest) / 10 - ((tenth + 1 : Nat) : Int) = -(1 - (last + rest) / 10) := by
      push_cast
      linarith
    rw [Rounding.Rounds, he, abs_neg, abs_of_nonneg (by linarith)]
    refine ⟨by linarith, fun ht => ?_⟩
    have hlast : last = 5 := by
      have : (last : Rat) ≤ 5 := by linarith
      have : last ≤ 5 := by exact_mod_cast this
      omega
    have hrest : rest = 0 := by linarith
    have hexact : ¬inexact = true := fun hc => hi.mp hc hrest
    have hodd : tenth % 2 = 1 := by grind
    rw [Int.even_iff]
    omega
  · have hsum : (last : Rat) + rest ≤ 5 ∧ ((last : Rat) + rest = 5 → tenth % 2 = 0) := by
      rcases Nat.lt_or_ge last 5 with hlt | hge
      · have : (last : Rat) + 1 ≤ 5 := by exact_mod_cast hlt
        exact ⟨by linarith, fun ht => by linarith⟩
      · have hlast : last = 5 := by omega
        have hexact : ¬inexact = true := fun hc => h (.inr ⟨hlast, .inl hc⟩)
        have hrest : rest = 0 := by
          by_contra hne
          exact hexact (hi.mpr hne)
        refine ⟨by rw [hlast, hrest]; norm_num, fun _ => ?_⟩
        have : ¬tenth % 2 = 1 := fun hc => h (.inr ⟨hlast, .inr hc⟩)
        omega
    have he : (n + rest) / 10 - ((tenth : Nat) : Int) = (last + rest) / 10 := by
      push_cast
      linarith
    rw [Rounding.Rounds, he, abs_of_nonneg (by positivity)]
    refine ⟨by linarith [hsum.1], fun ht => ?_⟩
    rw [Int.even_iff]
    have := hsum.2 (by linarith)
    omega

/-- A last digit too many is rounded away with all that was cut off behind it. -/
theorem settles_dropLast {n : Nat} {rest : Rat} {s : Int} {inexact : Bool} (hx : n + rest = value * 10 ^ s)
    (hs : s ≤ 28) (h0 : 0 ≤ rest) (h1 : rest < 1) (hi : inexact = true ↔ rest ≠ 0)
    (hn : 79228162514264337593543950336 ≤ n) (hm : n < 792281625142643375935439503350) :
    Settles value (Digits.dropLast? n s inexact) := by
  have hL : largest + 1 / 2 ≤ value * 10 ^ s := by
    have : (79228162514264337593543950336 : Rat) ≤ n := by exact_mod_cast hn
    rw [← hx, largest]
    linarith
  have hv : 0 ≤ value := by
    by_contra hv
    have : value * 10 ^ s < 0 := mul_neg_of_neg_of_pos (by linarith) (by positivity)
    unfold largest at hL
    linarith
  unfold Digits.dropLast?
  by_cases hs0 : s ≤ 0
  · rw [if_pos hs0]
    have hp : (10 : Rat) ^ s ≤ 1 := zpow_le_one_of_nonpos₀ (by norm_num) hs0
    exact hL.trans (mul_le_of_le_one_right hv hp)
  rw [if_neg hs0]
  have htenth : value * 10 ^ (s - 1).toNat = (n + rest) / 10 := by
    rw [← zpow_eq_pow_toNat (by omega), hx, zpow_sub_one₀ (by norm_num)]
    ring
  refine ⟨by dsimp only; omega, ?_, ?_, by dsimp only; omega, .inr (.inr ?_)⟩
  · rw [htenth]
    exact rounds_tenth n h0 h1 hi
  · refine natCast_le_largest ?_
    dsimp only
    split_ifs <;> omega
  · dsimp only
    rw [abs_of_nonneg hv, show (s - 1).toNat + 1 = s.toNat by omega, ← zpow_eq_pow_toNat (by omega)]
    exact hL

/-- The last digit rounded up past the largest coefficient. -/
theorem Division.Tracks.settles_carry (h : x.Tracks divisor value) (hd : x.digits = 79228162514264337593543950335)
    (hr : divisor ≤ 2 * x.remainder) : Settles value (Digits.dropLast? (x.digits + 1) x.scale true) := by
  have hpos : 0 < divisor := by have := h.remainder_lt; omega
  have hc : (0 : Rat) < divisor := by exact_mod_cast hpos
  have hscale := h.scale_le
  have hhalf : (1 : Rat) / 2 ≤ x.remainder / divisor := by
    rw [div_le_div_iff₀ (by norm_num) hc]
    exact_mod_cast (by omega : 1 * divisor ≤ x.remainder * 2)
  have hone : (x.remainder : Rat) / divisor < 1 := by
    rw [div_lt_one hc]
    exact_mod_cast h.remainder_lt
  have hx := h.eq_mul
  rw [hd] at hx ⊢
  push_cast at hx
  have hL : largest + 1 / 2 ≤ value * 10 ^ x.scale := by
    unfold largest
    linarith
  change Settles value (if x.scale ≤ 0 then none else some ⟨7922816251426433759354395034, x.scale - 1⟩)
  split_ifs with hs0
  · have hp : (10 : Rat) ^ x.scale ≤ 1 := zpow_le_one_of_nonpos₀ (by norm_num) hs0
    exact hL.trans (mul_le_of_le_one_right h.value_nonneg hp)
  · have htenth : value * 10 ^ (x.scale - 1).toNat = value * 10 ^ x.scale / 10 := by
      rw [← zpow_eq_pow_toNat (by omega), zpow_sub_one₀ (by norm_num)]
      ring
    refine ⟨by dsimp only; omega, ?_, natCast_le_largest (by norm_num), by dsimp only; omega, .inr (.inr ?_)⟩
    · have habs : |value * 10 ^ (x.scale - 1).toNat - ((7922816251426433759354395034 : Nat) : Int)| < 1 / 2 := by
        rw [htenth, abs_lt]
        push_cast
        constructor <;> linarith
      exact ⟨habs.le, fun ht => absurd ht habs.ne⟩
    · dsimp only
      rw [abs_of_nonneg h.value_nonneg, show (x.scale - 1).toNat + 1 = x.scale.toNat by omega,
        ← zpow_eq_pow_toNat (by omega)]
      exact hL

/-- No room for a further digit: what remains rounds the last one. -/
theorem Division.Tracks.settles_roundLast (h : x.Tracks divisor value) (hs : 0 ≤ x.scale) (hr : ¬x.HasRoom 1) :
    Settles value (x.roundLast? divisor) := by
  have hpos : 0 < divisor := by have := h.remainder_lt; omega
  have hc : (0 : Rat) < divisor := by exact_mod_cast hpos
  have hx := h.eq_mul
  have hscale := h.scale_le
  have hdigits := h.digits_lt
  -- The digits and the remainder are the quotient and the remainder of one division.
  have hround := Rounding.rounds_nearestEven (x.digits * divisor + x.remainder) hpos
  have hdiv : (x.digits * divisor + x.remainder) / divisor = x.digits := by
    rw [Nat.add_comm, Nat.add_mul_div_right _ _ hpos, Nat.div_eq_of_lt h.remainder_lt, Nat.zero_add]
  have hmod : (x.digits * divisor + x.remainder) % divisor = x.remainder := by
    rw [Nat.add_comm, Nat.add_mul_mod_self_right, Nat.mod_eq_of_lt h.remainder_lt]
  have hvalue : (((x.digits * divisor + x.remainder : Nat) : Int) : Rat) / divisor = value * 10 ^ x.scale.toNat := by
    rw [← zpow_eq_pow_toNat hs, ← hx]
    push_cast
    rw [add_div, mul_div_cancel_right₀ _ hc.ne']
  rw [Rounding.nearestEven, hdiv, hmod, hvalue] at hround
  have hfine : x.scale.toNat = 28 ∨ largest + 1 / 2 ≤ |value| * 10 ^ (x.scale.toNat + 1) := by
    rw [Division.HasRoom, not_and_or] at hr
    rcases hr with hfull | hlast
    · right
      have hfull : 79228162514264337593543950336 ≤ x.digits * 10 := Nat.le_of_not_lt hfull
      have hfull : (79228162514264337593543950336 : Rat) ≤ x.digits * 10 := by exact_mod_cast hfull
      have hle := h.digits_le
      rw [abs_of_nonneg h.value_nonneg, pow_succ, ← mul_assoc, ← zpow_eq_pow_toNat hs]
      unfold largest
      linarith
    · left
      omega
  unfold Division.roundLast?
  split_ifs at hround ⊢ with hup
  · unfold Digits.fit?
    split_ifs with hfit
    · exact ⟨hs, hround, natCast_le_largest hfit, by dsimp only; omega, .inr hfine⟩
    · have hfit : ¬x.digits + 1 < 79228162514264337593543950336 := hfit
      exact h.settles_carry (by omega) (by omega)
  · exact ⟨hs, hround, natCast_le_largest h.digits_lt, by dsimp only; omega, .inr hfine⟩

/-- A group with one digit too many. -/
theorem Division.Tracks.settles_overflow (h : x.Tracks divisor value) {n : Nat} (hr : x.HasRoom n) (hn : n ≤ 9)
    (hd : ¬(x.extend divisor n).digits < 79228162514264337593543950336) :
    Settles value
      (Digits.dropLast? (x.extend divisor n).digits (x.extend divisor n).scale ((x.extend divisor n).remainder ≠ 0)) := by
  have hpos : 0 < divisor := Nat.zero_lt_of_lt h.remainder_lt
  have hc : (0 : Rat) < divisor := by exact_mod_cast hpos
  have hrem : (x.extend divisor n).remainder < divisor := Nat.mod_lt _ hpos
  have hgroup : x.remainder * tenPow n / divisor < tenPow n := by
    rw [Nat.div_lt_iff_lt_mul hpos, mul_comm]
    exact Nat.mul_lt_mul_of_pos_left h.remainder_lt (tenPow_pos n)
  have hnine : tenPow n ≤ 1000000000 := Nat.pow_le_pow_right (by decide) hn
  have hroom : x.digits * tenPow n < 79228162514264337593543950336 := hr.1
  have hdigits : (x.extend divisor n).digits < 792281625142643375935439503350 := by
    change x.digits * tenPow n + x.remainder * tenPow n / divisor < _
    omega
  refine settles_dropLast (h.extend_eq_mul n) hr.2 (by positivity) ?_ ?_ (Nat.le_of_not_lt hd) hdigits
  · rw [div_lt_one hc]
    exact_mod_cast hrem
  · rw [decide_eq_true_iff, not_iff_not, div_eq_zero_iff, or_iff_left hc.ne', Nat.cast_eq_zero]

/-- Every division ends with the rounded number, or shows that the number is too large. -/
theorem Division.Tracks.settles (h : x.Tracks divisor value) : Settles value (x.finish? divisor) := by
  fun_induction Division.finish? x divisor with
  | case1 x hr hs => exact h.settles_exact hr hs
  | case2 x hr hs owed hroom ih =>
    have hzero : x.remainder * tenPow owed / divisor = 0 := by rw [hr, Nat.zero_mul, Nat.zero_div]
    have hdigits : (x.extend divisor owed).digits < 79228162514264337593543950336 := by
      change x.digits * tenPow owed + x.remainder * tenPow owed / divisor < _
      rw [hzero]
      exact hroom
    exact ih (h.extend (by omega) hdigits)
  | case3 x hr hs owed hroom => exact h.settles_none (by omega) (Nat.le_of_not_lt hroom)
  | case4 x hr n hn =>
    have hroom := x.groupSize_spec.2 hn.1
    rw [Division.HasRoom, not_and_or] at hroom
    have hdigits := hroom.resolve_right (by omega)
    exact h.settles_none (n := n + 1) (by omega) (Nat.le_of_not_lt hdigits)
  | case5 x hr n hn h0 =>
    have hroom := x.groupSize_spec.2 (by omega)
    have hn0 : x.groupSize = 0 := h0
    rw [hn0] at hroom
    exact h.settles_roundLast (by omega) hroom
  | case6 x hr n hn h0 next hfit ih => exact ih (h.extend (Division.hasRoom_groupSize h0).2 hfit)
  | case7 x hr n hn h0 next hfit =>
    exact h.settles_overflow (Division.hasRoom_groupSize h0) x.groupSize_spec.1 hfit

end Groups

section Shortening

/-- Fewer digits of the same value. -/
structure Digits.Shortens (d e : Digits) : Prop where
  value_le : e.value ≤ d.value
  scale_nonneg : 0 ≤ e.scale
  scale_le : e.scale ≤ d.scale
  div_eq : (e.value : Rat) / 10 ^ e.scale = d.value / 10 ^ d.scale

theorem Digits.Shortens.trans {d e f : Digits} (h : d.Shortens e) (k : e.Shortens f) : d.Shortens f :=
  ⟨k.value_le.trans h.value_le, k.scale_nonneg, k.scale_le.trans h.scale_le, k.div_eq.trans h.div_eq⟩

theorem Digits.shortens_refl {d : Digits} (h : 0 ≤ d.scale) : d.Shortens d := ⟨le_rfl, h, le_rfl, rfl⟩

/-- Zeros at the end carry no value. -/
theorem Digits.shortens_div {d : Digits} {n : Nat} (hs : n ≤ d.scale) (hd : d.value % tenPow n = 0) :
    d.Shortens ⟨d.value / tenPow n, d.scale - n⟩ := by
  refine ⟨Nat.div_le_self _ _, by dsimp only; omega, by dsimp only; omega, ?_⟩
  have hv : (d.value : Rat) = (d.value / tenPow n : Nat) * 10 ^ n := by
    rw [← tenPow_cast]
    exact_mod_cast (Nat.div_mul_cancel (Nat.dvd_of_mod_eq_zero hd)).symm
  have hp : (10 : Rat) ^ d.scale = 10 ^ (d.scale - n) * 10 ^ n := by
    rw [← zpow_natCast, ← zpow_add₀ (by norm_num), sub_add_cancel]
  rw [hp, hv, mul_div_mul_right _ _ (by positivity)]

theorem Digits.shortens_strip {d : Digits} (h : 0 ≤ d.scale) (n : Nat) : d.Shortens (d.strip n) := by
  unfold strip
  split_ifs with hz
  · exact shortens_div hz.2.1 hz.2.2
  · exact shortens_refl h

theorem Digits.shortens_stripEights {d : Digits} (h : 0 ≤ d.scale) (n : Nat) : d.Shortens (d.stripEights n) := by
  induction n generalizing d with
  | zero => exact shortens_refl h
  | succ n ih =>
    unfold stripEights
    split_ifs with hz
    · have hd : d.Shortens ⟨d.value / tenPow 8, d.scale - 8⟩ := shortens_div hz.2.1 hz.2.2
      exact hd.trans (ih hd.scale_nonneg)
    · exact shortens_refl h

theorem Digits.shortens_shorten {d : Digits} (h : 0 ≤ d.scale) : d.Shortens d.shorten := by
  have h8 := shortens_stripEights h 3
  have h4 := h8.trans (shortens_strip h8.scale_nonneg 4)
  have h2 := h4.trans (shortens_strip h4.scale_nonneg 2)
  exact h2.trans (shortens_strip h2.scale_nonneg 1)

end Shortening

/-- The first whole quotient of a division. -/
theorem tracks_start (a : Decimal) {b : Decimal} (hb : ¬b.IsZero) :
    (⟨a.coefficient.natAbs / b.coefficient.natAbs, a.coefficient.natAbs % b.coefficient.natAbs,
      a.scale - b.scale⟩ : Division).Tracks b.coefficient.natAbs |a.toRat / b.toRat| := by
  have hpos : 0 < b.coefficient.natAbs := Int.natAbs_pos.mpr hb
  have ha : a.coefficient.natAbs < 79228162514264337593543950336 := a.coefficient_lt
  have hscale := a.scale_le
  have hc : (0 : Rat) < b.coefficient.natAbs := by exact_mod_cast hpos
  refine ⟨Nat.mod_lt _ hpos, lt_of_le_of_lt (Nat.div_le_self _ _) ha, by dsimp only; omega, ?_⟩
  have hsplit : ((a.coefficient.natAbs / b.coefficient.natAbs : Nat) : Rat) +
      (a.coefficient.natAbs % b.coefficient.natAbs : Nat) / b.coefficient.natAbs =
      a.coefficient.natAbs / b.coefficient.natAbs := by
    rw [eq_div_iff hc.ne', add_mul, div_mul_cancel₀ _ hc.ne', mul_comm]
    exact_mod_cast Nat.div_add_mod _ _
  rw [hsplit, toRat_eq, toRat_eq, abs_div, abs_div, abs_div, Nat.cast_natAbs, Nat.cast_natAbs, Int.cast_abs,
    Int.cast_abs, zpow_sub₀ (by norm_num), zpow_natCast, zpow_natCast, abs_of_pos (by positivity : (0 : Rat) < 10 ^ a.scale),
    abs_of_pos (by positivity : (0 : Rat) < 10 ^ b.scale)]
  field_simp

theorem toRat_div_neg_iff (a b : Decimal) : a.toRat / b.toRat < 0 ↔ a.coefficient * b.coefficient < 0 := by
  have hpos (d : Decimal) : 0 < d.toRat ↔ 0 < d.coefficient := isPositive_iff_toRat.symm
  have hneg (d : Decimal) : d.toRat < 0 ↔ d.coefficient < 0 := by
    rw [toRat_eq, div_lt_iff₀ (by positivity), zero_mul, Int.cast_lt_zero]
  rw [div_neg_iff, mul_neg_iff, hpos, hpos, hneg, hneg]

theorem RoundedAt.signed {x : Rat} {s n : Nat} {k : Int} (h : RoundedAt |x| s n) (hk : x < 0 ↔ k < 0) :
    RoundedAt x s (Rounding.signed k n) := by
  unfold Rounding.signed
  split_ifs with hneg
  · rw [abs_of_neg (hk.mpr hneg)] at h
    simpa using h.neg
  · rwa [abs_of_nonneg (not_lt.mp (hk.not.mpr hneg))] at h

/-- The decimal with shortened digits, under its sign. -/
theorem exists_make?_signed {x : Rat} {d e : Digits} {k : Int} (hs : 0 ≤ d.scale)
    (h : RoundedAt |x| d.scale.toNat d.value) (hk : x < 0 ↔ k < 0) (he : d.Shortens e) :
    ∃ q, make? (Rounding.signed k e.value) e.scale.toNat = some q ∧ Rounded x q := by
  have hscale : e.scale.toNat ≤ 28 := by
    have h28 := h.scale_le
    have hes := he.scale_le
    omega
  have hvalue : e.value < 79228162514264337593543950336 := by
    have hc := h.coefficient_le
    rw [Int.cast_natCast, abs_of_nonneg (by positivity), largest] at hc
    have hc : d.value ≤ 79228162514264337593543950335 := by exact_mod_cast hc
    have hle := he.value_le
    omega
  have hfits : (Rounding.signed k e.value).natAbs < twoPow 96 ∧ e.scale.toNat ≤ 28 := by
    rw [Rounding.natAbs_signed]
    exact ⟨hvalue, hscale⟩
  refine ⟨_, dif_pos hfits, d.scale.toNat, _, h.signed hk, ?_⟩
  have hdiv := he.div_eq
  rw [zpow_eq_pow_toNat he.scale_nonneg, zpow_eq_pow_toNat hs] at hdiv
  rw [toRat_eq]
  unfold Rounding.signed
  split_ifs
  · push_cast
    rw [neg_div, neg_div, hdiv]
  · push_cast
    exact hdiv

/-- The quotient of two decimals is the exact quotient, rounded. -/
theorem roundsTo_div? (a : Decimal) {b : Decimal} (hb : ¬b.IsZero) : RoundsTo (a.toRat / b.toRat) (a.div? b) := by
  unfold div?
  rw [if_neg hb]
  split_ifs with ha
  · rw [isZero_iff_toRat.mp ha, zero_div, ← toRat_zero]
    exact rounded_toRat zero
  have h := (tracks_start a hb).settles
  dsimp only
  generalize Division.finish? _ _ = found at h ⊢
  cases found with
  | none => exact h
  | some digits =>
    obtain ⟨hs, hr⟩ := h
    have he : digits.Shortens (if a.coefficient.natAbs % b.coefficient.natAbs = 0 then digits else digits.shorten) := by
      split_ifs
      · exact Digits.shortens_refl hs
      · exact Digits.shortens_shorten hs
    obtain ⟨q, hq, hx⟩ := exists_make?_signed hs hr (toRat_div_neg_iff a b) he
    rw [Option.bind_some, hq]
    exact hx

theorem rounded_div? {a b d : Decimal} (hb : ¬b.IsZero) (h : a.div? b = some d) : Rounded (a.toRat / b.toRat) d := by
  have hround := roundsTo_div? a hb
  rwa [h] at hround

end Repricing.Decimal
