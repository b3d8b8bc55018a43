import Repricing.Proofs.Guardrail.Band

namespace Repricing

/-- The number can be a final price: a multiple of the mode's step, in whole cents. -/
def RoundingMode.IsFinal (mode : RoundingMode) (x : Rat) : Prop := mode.IsMultiple x ∧ ∃ k : Int, x = k / 100

namespace Limits

variable {g : Limits} {price : Decimal} {s x n l m y : Rat}

theorem restrain_le (hs : s ≤ x) (hbottom : ∀ b ∈ g.band, b.lower.toRat ≤ x) (hfloor : g.floor.toRat ≤ x) :
    g.restrain s ≤ x := by
  refine max_le ?_ hfloor
  unfold clamp
  split
  · exact hs
  · rename_i b hb
    exact (min_le_left _ _).trans (max_le hs (hbottom b hb))

theorem le_restrain (hs : x ≤ s) (htop : g.BelowTop x) : x ≤ g.restrain s := by
  refine le_max_of_le_left ?_
  unfold clamp
  split
  · exact hs
  · rename_i b hb
    exact le_min (le_max_of_le_left hs) (htop b hb)

/-- No repair passes a multiple above the price and above the limits that raise it. -/
theorem Passage.le_of_le (h : g.Passage price n l m y) (hx : g.mode.IsMultiple x) (hprice : price.toRat ≤ x)
    (hbottom : ∀ b ∈ g.band, b.lower.toRat ≤ x) (hfloor : g.floor.toRat ≤ x) : y ≤ x := by
  obtain ⟨d, hd, rfl⟩ := h.nearest
  have hn : d.toRat ≤ x := RoundingMode.snap?_le hd hx hprice
  have hl : l ≤ x := by
    cases h.lifts with
    | keep => exact hn
    | giveUp => exact hn
    | lift b u hb _ hu _ => exact RoundingMode.snap?_le hu hx (hbottom b hb)
  have hm : m ≤ x := by
    cases h.raises with
    | keep => exact hl
    | raise u _ hu _ => exact RoundingMode.snap?_le hu hx hfloor
  exact h.le_raised.trans hm

/-- No repair passes a multiple below the price and below the top of the band. -/
theorem Passage.ge_of_ge (h : g.Passage price n l m y) (hx : g.mode.IsMultiple x) (hprice : x ≤ price.toRat)
    (htop : g.BelowTop x) : x ≤ y := by
  obtain ⟨d, hd, rfl⟩ := h.nearest
  have hn : x ≤ d.toRat := RoundingMode.le_snap? hd hx hprice
  exact h.lowers.le_of_belowTop hx ((hn.trans h.nearest_le_lifted).trans h.lifted_le_raised) htop

end Limits

section Enforce

variable {g : Limits} {cost currentPrice suggestedPrice : Decimal} {policy : Policy} {x : Rat}

theorem suggestedPriceFinal_le (hg : g.Of cost currentPrice policy)
    (hok : (enforce cost currentPrice suggestedPrice policy).isOk = true) (hx : g.mode.IsFinal x)
    (hsuggested : suggestedPrice.toRat ≤ x) (hbottom : ∀ b ∈ g.band, b.lower.toRat ≤ x) (hfloor : g.floor.toRat ≤ x) :
    (enforce cost currentPrice suggestedPrice policy).suggestedPriceFinal.toRat ≤ x := by
  obtain ⟨n, l, m, y, h⟩ := exists_passage_of_isOk hg hok
  obtain ⟨-, ⟨d, rfl, hfinal⟩, -⟩ := enforce_of_passage hg h
  obtain ⟨hmultiple, k, rfl⟩ := hx
  rw [hfinal]
  refine Decimal.toCents_le_of_le (h.le_of_le hmultiple ?_ hbottom hfloor)
  rw [Candidate.toRat_start]
  exact Limits.restrain_le (Decimal.toCents_le_of_le hsuggested) hbottom hfloor

theorem le_suggestedPriceFinal (hg : g.Of cost currentPrice policy)
    (hok : (enforce cost currentPrice suggestedPrice policy).isOk = true) (hx : g.mode.IsFinal x)
    (hsuggested : x ≤ suggestedPrice.toRat) (htop : g.BelowTop x) :
    x ≤ (enforce cost currentPrice suggestedPrice policy).suggestedPriceFinal.toRat := by
  obtain ⟨n, l, m, y, h⟩ := exists_passage_of_isOk hg hok
  obtain ⟨-, ⟨d, rfl, hfinal⟩, -⟩ := enforce_of_passage hg h
  obtain ⟨hmultiple, k, rfl⟩ := hx
  rw [hfinal]
  refine Decimal.le_toCents_of_le (h.ge_of_ge hmultiple ?_ htop)
  rw [Candidate.toRat_start]
  exact Limits.le_restrain (Decimal.le_toCents_of_le hsuggested) htop

end Enforce

end Repricing
