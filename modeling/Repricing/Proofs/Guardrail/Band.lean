import Repricing.Proofs.Guardrail.Steps
import Repricing.Proofs.Margin

namespace Repricing

section Around

variable {currentPrice pct : Decimal} {b : Band}

theorem Band.around_eq {down up : Decimal} (hpos : currentPrice.IsPositive) (hdown : factorDown? pct = some down)
    (hup : factorUp? pct = some up) :
    Band.around currentPrice pct =
      ((currentPrice.mul? down).bind fun lower => (currentPrice.mul? up).map (Band.mk lower)).elim
        (.error .outOfRange) fun band => .ok (some band) := by
  obtain ⟨fraction, hfraction, hdown⟩ := Option.bind_eq_some_iff.mp hdown
  rw [factorUp?, hfraction, Option.bind_some] at hup
  rw [Band.around, if_pos hpos, hfraction, Option.bind_some, hdown, Option.bind_some, hup, Option.bind_some]
  cases currentPrice.mul? down with
  | none => rfl
  | some lower => cases currentPrice.mul? up <;> rfl

/-- What the bounds of a band are made of. -/
theorem Band.exists_factors (h : Band.around currentPrice pct = .ok (some b)) :
    currentPrice.IsPositive ∧ ∃ down up, factorDown? pct = some down ∧ factorUp? pct = some up ∧
      currentPrice.mul? down = some b.lower ∧ currentPrice.mul? up = some b.upper := by
  by_cases hpos : currentPrice.IsPositive
  · obtain ⟨down, hdown⟩ := exists_factorDown? pct
    obtain ⟨up, hup⟩ := exists_factorUp? pct
    refine ⟨hpos, down, up, hdown, hup, ?_⟩
    rw [around_eq hpos hdown hup] at h
    cases hlower : currentPrice.mul? down with
    | none => simp [hlower] at h
    | some lower =>
      cases hupper : currentPrice.mul? up with
      | none => simp [hlower, hupper] at h
      | some upper =>
        simp only [hlower, hupper, Option.bind_some, Option.map_some, Option.elim_some, Except.ok.injEq,
          Option.some.injEq] at h
        subst h
        exact ⟨rfl, rfl⟩
  · rw [around, if_neg hpos] at h
    cases h

/-- Without a band the current price is not above zero. -/
theorem Band.not_isPositive_of_around (h : Band.around currentPrice pct = .ok none) : ¬currentPrice.IsPositive := by
  intro hpos
  unfold Band.around at h
  rw [if_pos hpos] at h
  split at h <;> cases h

theorem Band.contains_of_around (hpct : Decimal.zero ≤ pct) (h : Band.around currentPrice pct = .ok (some b)) :
    b.Contains currentPrice := by
  obtain ⟨hpos, down, up, hdown, hup, hlower, hupper⟩ := exists_factors h
  have hprice := (Decimal.isPositive_iff_toRat.mp hpos).le
  constructor
  · rw [Decimal.le_iff_toRat]
    exact (Decimal.rounded_mul? hlower).le_of_le (mul_le_of_le_one_right hprice (factorDown?_le_one hpct hdown))
  · rw [Decimal.le_iff_toRat]
    exact (Decimal.rounded_mul? hupper).le_of_ge (le_mul_of_one_le_right hprice (one_le_factorUp? hpct hup))

end Around

theorem maxChangePct_nonneg {policy : Policy} (h : policy.faults = []) : Decimal.zero ≤ policy.maxChangePct :=
  Decimal.zero_le_iff_toRat.mpr (Policy.faults_eq_nil_iff.mp h).2

section Limits

variable {g : Limits} {cost currentPrice : Decimal} {policy : Policy}

theorem Limits.Of.contains (hg : g.Of cost currentPrice policy) (hvalid : policy.faults = []) {b : Band}
    (hb : b ∈ g.band) : b.Contains currentPrice := by
  have hband : g.band = some b := hb
  exact Band.contains_of_around (maxChangePct_nonneg hvalid) (hband ▸ hg.band)

/-- The band holds the current price. -/
theorem Limits.Of.belowTop (hg : g.Of cost currentPrice policy) (hvalid : policy.faults = []) :
    g.BelowTop currentPrice.toRat := by
  intro b hb
  exact Decimal.le_iff_toRat.mp (hg.contains hvalid hb).2

theorem Limits.Of.aboveBottom (hg : g.Of cost currentPrice policy) (hvalid : policy.faults = []) :
    g.AboveBottom currentPrice.toRat := by
  intro b hb
  exact Decimal.le_iff_toRat.mp (hg.contains hvalid hb).1

end Limits

end Repricing
