namespace Repricing

def tenPow (n : Nat) : Nat := Nat.pow 10 n

def twoPow (n : Nat) : Nat := Nat.pow 2 n

theorem tenPow_zero : tenPow 0 = 1 := rfl

theorem tenPow_pos (n : Nat) : 0 < tenPow n := Nat.pow_pos (by decide)

theorem twoPow_pos (n : Nat) : 0 < twoPow n := Nat.pow_pos (by decide)

theorem tenPow_add (m n : Nat) : tenPow (m + n) = tenPow m * tenPow n := Nat.pow_add 10 m n

/-- A whole number that 64 bits hold with its sign. -/
def IsInt64 (n : Int) : Prop := -9223372036854775808 ≤ n ∧ n ≤ 9223372036854775807

instance (n : Int) : Decidable (IsInt64 n) := inferInstanceAs (Decidable (_ ∧ _))

/-- How a quotient that is not whole becomes whole. The half rules go to the nearer neighbour and differ only on
ties. -/
inductive Rounding where
  | halfEven
  | halfAway
  | up
  | down
  deriving DecidableEq

namespace Rounding

/-- The nearest whole number to `n / d`; of two that are equally near, the even one. -/
def nearestEven (n d : Nat) : Nat :=
  if d < 2 * (n % d) ∨ (2 * (n % d) = d ∧ n / d % 2 = 1) then n / d + 1 else n / d

/-- The nearest whole number to `n / d`; of two that are equally near, the larger one. -/
def nearestUp (n d : Nat) : Nat :=
  if d ≤ 2 * (n % d) then n / d + 1 else n / d

/-- The magnitude `k` under the sign of `n`. -/
def signed (n : Int) (k : Nat) : Int :=
  if n < 0 then -k else k

/-- The quotient `n / d`, made whole by the rule. -/
def quotient (rule : Rounding) (n : Int) (d : Nat) : Int :=
  match rule with
  | halfEven => signed n (nearestEven n.natAbs d)
  | halfAway => signed n (nearestUp n.natAbs d)
  | up => -(-n / d)
  | down => n / d

theorem natAbs_signed (n : Int) (k : Nat) : (signed n k).natAbs = k := by
  unfold signed
  split <;> omega

theorem signed_natAbs (n : Int) : signed n n.natAbs = n := by
  unfold signed
  split <;> omega

theorem nearestEven_one (n : Nat) : nearestEven n 1 = n := by
  simp [nearestEven, Nat.mod_one]

theorem nearestUp_one (n : Nat) : nearestUp n 1 = n := by
  simp [nearestUp, Nat.mod_one]

theorem quotient_one (rule : Rounding) (n : Int) : rule.quotient n 1 = n := by
  cases rule with
  | halfEven => rw [quotient, nearestEven_one, signed_natAbs]
  | halfAway => rw [quotient, nearestUp_one, signed_natAbs]
  | up => simp [quotient]
  | down => simp [quotient]

/-- A divisor of at least one either keeps the numerator or leaves room for one step away from zero. -/
theorem div_succ_le {n d : Nat} (hd : 1 < d) (hn : 0 < n) : n / d + 1 ≤ n := by
  have := Nat.div_lt_self hn hd
  omega

theorem nearestEven_le {n d : Nat} (hd : 0 < d) : nearestEven n d ≤ n := by
  unfold nearestEven
  by_cases h1 : d = 1
  · subst h1
    simp [Nat.mod_one]
  · by_cases hn : n = 0
    · subst hn
      simp
    · have := div_succ_le (d := d) (by omega) (by omega : 0 < n)
      split <;> omega

theorem nearestUp_le {n d : Nat} (hd : 0 < d) : nearestUp n d ≤ n := by
  unfold nearestUp
  by_cases h1 : d = 1
  · subst h1
    simp [Nat.mod_one]
  · by_cases hn : n = 0
    · subst hn
      simp
      omega
    · have := div_succ_le (d := d) (by omega) (by omega : 0 < n)
      split <;> omega

theorem natAbs_quotient_le (rule : Rounding) (n : Int) {d : Nat} (hd : 0 < d) :
    (rule.quotient n d).natAbs ≤ n.natAbs := by
  cases rule with
  | halfEven => simpa [quotient, natAbs_signed] using nearestEven_le hd
  | halfAway => simpa [quotient, natAbs_signed] using nearestUp_le hd
  | up =>
    have := Int.natAbs_ediv_le_natAbs (-n) d
    simpa [quotient] using this
  | down => exact Int.natAbs_ediv_le_natAbs n d

end Rounding

end Repricing
