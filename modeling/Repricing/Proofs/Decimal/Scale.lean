import Repricing.Proofs.Decimal.Arithmetic
import Repricing.Proofs.Decimal.Quotient

namespace Repricing

section Rel

variable {α β γ δ : Type} {R : α → β → Prop} {S : γ → δ → Prop} {o : Option α} {o' : Option β}

theorem rel_bind {f : α → Option γ} {f' : β → Option δ} (h : Option.Rel R o o')
    (hf : ∀ a a', R a a' → Option.Rel S (f a) (f' a')) : Option.Rel S (o.bind f) (o'.bind f') := by
  cases h with
  | some h => exact hf _ _ h
  | none => exact .none

theorem rel_map {f : α → γ} {f' : β → δ} (h : Option.Rel R o o') (hf : ∀ a a', R a a' → S (f a) (f' a')) :
    Option.Rel S (o.map f) (o'.map f') := by
  cases h with
  | some h => exact .some (hf _ _ h)
  | none => exact .none

/-- Two choices under conditions that come to the same. -/
theorem rel_ite {p q : Prop} [Decidable p] [Decidable q] {a b : α} {a' b' : β} (hpq : p ↔ q) (ha : p → R a a')
    (hb : ¬p → R b b') : R (if p then a else b) (if q then a' else b') := by
  by_cases hp : p
  · rw [if_pos hp, if_pos (hpq.mp hp)]
    exact ha hp
  · rw [if_neg hp, if_neg (hpq.not.mp hp)]
    exact hb hp

end Rel

namespace Decimal

variable {a a' b b' : Decimal}

theorem SameValue.rfl {a : Decimal} : a.SameValue a := Eq.refl _

theorem SameValue.toRat_eq (h : a.SameValue a') : a.toRat = a'.toRat := sameValue_iff_toRat.mp h

section Order

variable (ha : a.SameValue a') (hb : b.SameValue b')
include ha

theorem SameValue.isPositive_congr : a.IsPositive ↔ a'.IsPositive := by
  rw [isPositive_iff_toRat, isPositive_iff_toRat, ha.toRat_eq]

theorem SameValue.isZero_congr : a.IsZero ↔ a'.IsZero := by
  rw [isZero_iff_toRat, isZero_iff_toRat, ha.toRat_eq]

include hb

theorem SameValue.le_congr : a ≤ b ↔ a' ≤ b' := by
  rw [le_iff_toRat, le_iff_toRat, ha.toRat_eq, hb.toRat_eq]

theorem SameValue.lt_congr : a < b ↔ a' < b' := by
  rw [lt_iff_toRat, lt_iff_toRat, ha.toRat_eq, hb.toRat_eq]

theorem SameValue.congr : a.SameValue b ↔ a'.SameValue b' := by
  rw [sameValue_iff_toRat, sameValue_iff_toRat, ha.toRat_eq, hb.toRat_eq]

theorem SameValue.max : (max a b).SameValue (max a' b') := by
  rw [sameValue_iff_toRat, toRat_max, toRat_max, ha.toRat_eq, hb.toRat_eq]

theorem SameValue.min : (min a b).SameValue (min a' b') := by
  rw [sameValue_iff_toRat, toRat_min, toRat_min, ha.toRat_eq, hb.toRat_eq]

end Order

section Arithmetic

/-- A number has one rounded value. -/
theorem RoundsTo.rel {x : Rat} {o o' : Option Decimal} (h : RoundsTo x o) (h' : RoundsTo x o') :
    Option.Rel SameValue o o' := by
  cases o with
  | none =>
    have hnone : o' = none := h'.eq_none_iff.mpr (h.eq_none_iff.mp rfl)
    rw [hnone]
    exact .none
  | some d =>
    cases o' with
    | none => exact absurd (Rounded.inRange h) (h'.eq_none_iff.mp rfl)
    | some d' => exact .some (sameValue_iff_toRat.mpr (Rounded.unique h h'))

variable (ha : a.SameValue a')
include ha

theorem SameValue.round (rule : Rounding) (digits : Nat) : (a.round rule digits).SameValue (a'.round rule digits) := by
  have hle : a ≤ a' := le_iff_toRat.mpr ha.toRat_eq.le
  have hge : a' ≤ a := le_iff_toRat.mpr ha.toRat_eq.ge
  rw [sameValue_iff_toRat]
  exact le_antisymm (le_iff_toRat.mp (round_mono hle)) (le_iff_toRat.mp (round_mono hge))

theorem SameValue.toCents : a.toCents.SameValue a'.toCents := ha.round .halfAway 2

variable (hb : b.SameValue b')
include hb

theorem SameValue.add? : Option.Rel SameValue (a.add? b) (a'.add? b') := by
  have hsum := roundsTo_add? a' b'
  rw [← ha.toRat_eq, ← hb.toRat_eq] at hsum
  exact (roundsTo_add? a b).rel hsum

theorem SameValue.sub? : Option.Rel SameValue (a.sub? b) (a'.sub? b') := by
  have hdifference := roundsTo_sub? a' b'
  rw [← ha.toRat_eq, ← hb.toRat_eq] at hdifference
  exact (roundsTo_sub? a b).rel hdifference

theorem SameValue.mul? : Option.Rel SameValue (a.mul? b) (a'.mul? b') := by
  have hproduct := roundsTo_mul? a' b'
  rw [← ha.toRat_eq, ← hb.toRat_eq] at hproduct
  exact (roundsTo_mul? a b).rel hproduct

theorem SameValue.div? : Option.Rel SameValue (a.div? b) (a'.div? b') := by
  by_cases hzero : b.IsZero
  · rw [Decimal.div?, if_pos hzero, Decimal.div?, if_pos (hb.isZero_congr.mp hzero)]
    exact .none
  · have hquotient := roundsTo_div? a' (hb.isZero_congr.not.mp hzero)
    rw [← ha.toRat_eq, ← hb.toRat_eq] at hquotient
    exact (roundsTo_div? a hzero).rel hquotient

end Arithmetic

end Decimal

end Repricing
