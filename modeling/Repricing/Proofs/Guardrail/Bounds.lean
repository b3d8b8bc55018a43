import Repricing.Proofs.Guardrail.Steps

namespace Repricing

namespace Limits

variable {g : Limits} {price : Decimal} {n l m y : Rat}

theorem Passage.floor_le_or_eq_snap (h : g.Passage price n l m y) :
    g.floor.toRat ≤ y ∨ ∃ d, g.mode.snapUp? g.floor = some d ∧ d.toRat = y := by
  cases h.raises with
  | keep hf => exact .inl (h.lowers.floor_le hf)
  | raise d _ hd htop =>
    have hle := h.lowers.le_of_belowTop (RoundingMode.isMultiple_snap? hd) le_rfl htop
    exact .inr ⟨d, hd, le_antisymm hle h.le_raised⟩

theorem Passage.le_upper_or_eq_snap {b : Band} (h : g.Passage price n l m y) (hb : b ∈ g.band) :
    y ≤ b.upper.toRat ∨ ∃ d, g.mode.snapDown? b.upper = some d ∧ d.toRat = y := by
  cases h.lowers with
  | keep htop => exact .inl (htop b hb)
  | lower c d hc _ hd _ _ =>
    obtain rfl := Option.mem_unique hb hc
    exact .inr ⟨d, hd, rfl⟩

/-- An outcome below the band: no multiple is in the band, or the snap of its bottom falls short of it. -/
theorem Passage.no_multiple_or_eq_snap {b : Band} (h : g.Passage price n l m y) (hb : b ∈ g.band)
    (hlt : y < b.lower.toRat) :
    (∀ x, g.mode.IsMultiple x → b.lower.toRat ≤ x → b.upper.toRat < x) ∨
      ∃ d, g.mode.snapUp? b.lower = some d ∧ d.toRat = y := by
  cases h.lowers with
  | lower c d hc _ hd _ _ =>
    obtain rfl := Option.mem_unique hb hc
    refine .inl fun x hx hlow => ?_
    by_contra htop
    linarith [RoundingMode.le_snap? hd hx (not_lt.mp htop)]
  | keep htop =>
    cases h.lifts with
    | keep habove => linarith [habove b hb, h.lifted_le_raised]
    | giveUp c d hc _ hd hover =>
      obtain rfl := Option.mem_unique hb hc
      exact .inl fun x hx hlow => hover.trans_le (RoundingMode.snap?_le hd hx hlow)
    | lift c d hc _ hd _ =>
      obtain rfl := Option.mem_unique hb hc
      exact .inr ⟨d, hd, le_antisymm h.lifted_le_raised (RoundingMode.le_snap? hd h.isMultiple hlt.le)⟩

section Quotients

variable {step : Decimal} {k : Int} (hm : g.mode.step = some step)
include hm

theorem Passage.exists_floor_quotient (h : g.Passage price n l m y) (hy : y = k * step.toRat) :
    ∃ q, g.floor.div? step = some q ∧ q.toRat ≤ k := by
  rcases h.floor_le_or_eq_snap with hle | ⟨d, hd, hdy⟩
  · obtain ⟨d, rfl⟩ := h.exists_decimal
    exact RoundingMode.exists_quotient_le hm hy hle
  · obtain ⟨q, hq, hup⟩ := RoundingMode.exists_quotient_of_snap? hm hd (hdy.trans hy)
    exact ⟨q, hq, hup.1⟩

theorem Passage.exists_upper_quotient {b : Band} (h : g.Passage price n l m y) (hy : y = k * step.toRat)
    (hb : b ∈ g.band) : ∃ q, b.upper.div? step = some q ∧ (k : Rat) ≤ q.toRat := by
  rcases h.le_upper_or_eq_snap hb with hle | ⟨d, hd, hdy⟩
  · obtain ⟨d, rfl⟩ := h.exists_decimal
    exact RoundingMode.exists_le_quotient hm hy hle
  · obtain ⟨q, hq, hdown⟩ := RoundingMode.exists_quotient_of_snap? hm hd (hdy.trans hy)
    exact ⟨q, hq, hdown.1⟩

/-- The snap of the bottom falls short of it only if the quotient of the bottom was rounded to a whole number. -/
theorem Passage.no_multiple_or_quotient {b : Band} (h : g.Passage price n l m y) (hy : y = k * step.toRat)
    (hb : b ∈ g.band) (hlt : y < b.lower.toRat) :
    (∀ x, g.mode.IsMultiple x → b.lower.toRat ≤ x → b.upper.toRat < x) ∨
      ∃ q, b.lower.div? step = some q ∧ q.toRat = k := by
  refine (h.no_multiple_or_eq_snap hb hlt).imp id ?_
  rintro ⟨d, hd, rfl⟩
  exact RoundingMode.exists_quotient_eq_of_snapUp?_le hm hd hy (Decimal.le_iff_toRat.mpr hlt.le)

end Quotients

end Limits

/-- The place `k` of an approved price in the multiples of the step, bounded by the quotients of the floor and of the
top of the band, and by that of its bottom if there is a multiple in the band. -/
structure WithinBounds (cost currentPrice : Decimal) (policy : Policy) (step final : Decimal) (k : Int) : Prop where
  multiple : final.toRat = k * step.toRat
  floor : ∃ floor q, minPriceForMargin? cost policy.minMarginPct = some floor ∧ floor.div? step = some q ∧
    q.toRat ≤ k ∧ (q.toRat * step.toRat = floor.toRat → floor ≤ final)
  band : ∃ band, Band.around currentPrice policy.maxChangePct = .ok band ∧ ∀ b ∈ band,
    (∃ q, b.upper.div? step = some q ∧ (k : Rat) ≤ q.toRat ∧
      (q.toRat * step.toRat = b.upper.toRat → final ≤ b.upper)) ∧
    (final < b.lower →
      (¬∃ j : Int, b.lower.toRat ≤ j * step.toRat ∧ j * step.toRat ≤ b.upper.toRat) ∨
      ∃ q, b.lower.div? step = some q ∧ q.toRat = k)

/-- In a mode with a step, an approved price is a multiple of the step within bounds. They are bounds on the rounded
quotients by the step, hence on the prices themselves where the quotients are exact. -/
theorem approved_bounds (cost currentPrice suggestedPrice step : Decimal) (policy : Policy)
    (hstep : policy.roundingMode.step = some step)
    (hok : (enforce cost currentPrice suggestedPrice policy).isOk = true) :
    let final := (enforce cost currentPrice suggestedPrice policy).suggestedPriceFinal
    ∃ k : Int, WithinBounds cost currentPrice policy step final k := by
  intro final
  obtain ⟨g, hg⟩ := Limits.exists_of hok
  obtain ⟨n, l, m, y, h⟩ := exists_passage_of_isOk hg hok
  have hm : g.mode.step = some step := hg.mode ▸ hstep
  have hfinal : final.toRat = y := toRat_suggestedPriceFinal hg hm h
  obtain ⟨k, hk⟩ := (RoundingMode.isMultiple_iff hm).mp h.isMultiple
  have hpos : 0 ≤ step.toRat := by linarith [RoundingMode.one_le_step hm]
  refine ⟨k, hfinal.trans hk, ?_, g.band, hg.band, fun b hb => ⟨?_, fun hlt => ?_⟩⟩
  · obtain ⟨q, hq, hle⟩ := h.exists_floor_quotient hm hk
    refine ⟨g.floor, q, hg.floor, hq, hle, fun hexact => ?_⟩
    rw [Decimal.le_iff_toRat, hfinal, hk, ← hexact]
    exact mul_le_mul_of_nonneg_right hle hpos
  · obtain ⟨q, hq, hle⟩ := h.exists_upper_quotient hm hk hb
    refine ⟨q, hq, hle, fun hexact => ?_⟩
    rw [Decimal.le_iff_toRat, hfinal, hk, ← hexact]
    exact mul_le_mul_of_nonneg_right hle hpos
  · rw [Decimal.lt_iff_toRat, hfinal] at hlt
    refine (h.no_multiple_or_quotient hm hk hb hlt).imp ?_ id
    rintro hnone ⟨j, hlow, htop⟩
    exact (hnone _ ((RoundingMode.isMultiple_iff hm).mpr ⟨j, rfl⟩) hlow).not_ge htop

/-- Around 33 the band from 31.35 to 34.65 holds no multiple of ten; 30 is approved below it. -/
theorem approved_bounds_thirty :
    let policy : Policy := ⟨.ten, .five, .nearest10⟩
    let result := enforce .ten (.ofNat 33) (.ofNat 33) policy
    policy.roundingMode.step = some .ten ∧ result.isOk = true ∧
      result.suggestedPriceFinal.SameValue (.ofNat 30) ∧
      ∃ k : Int, WithinBounds .ten (.ofNat 33) policy .ten result.suggestedPriceFinal k :=
  ⟨rfl, by decide +kernel, by decide +kernel, approved_bounds _ _ _ _ _ rfl (by decide +kernel)⟩

end Repricing
