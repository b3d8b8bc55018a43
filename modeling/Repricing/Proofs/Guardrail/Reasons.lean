import Repricing.Proofs.Guardrail.Band

namespace Repricing

/-- Blocked, and for this reason. -/
def GuardrailResult.IsBlockedFor (r : GuardrailResult) (reason : BlockReason) : Prop :=
  r.isBlocked = true ∧ r.safetyReason = some reason

instance (r : GuardrailResult) (reason : BlockReason) : Decidable (r.IsBlockedFor reason) :=
  inferInstanceAs (Decidable (_ ∧ _))

/-- Both factors lead from the current price to numbers that have decimals, unless there is no band. -/
def Band.HasBounds (currentPrice down up : Decimal) : Prop :=
  currentPrice.IsPositive →
    Decimal.InRange (currentPrice.toRat * down.toRat) ∧ Decimal.InRange (currentPrice.toRat * up.toRat)

theorem Band.exists_around_iff {currentPrice pct down up : Decimal} (hdown : factorDown? pct = some down)
    (hup : factorUp? pct = some up) :
    (∃ band, around currentPrice pct = .ok band) ↔ HasBounds currentPrice down up := by
  by_cases hpos : currentPrice.IsPositive
  · have hlower := (Decimal.roundsTo_mul? currentPrice down).exists_iff
    have hupper := (Decimal.roundsTo_mul? currentPrice up).exists_iff
    rw [around_eq hpos hdown hup, HasBounds, forall_prop_of_true hpos, ← hlower, ← hupper]
    cases currentPrice.mul? down with
    | none => simp
    | some lower => cases currentPrice.mul? up <;> simp
  · rw [around, if_neg hpos]
    exact iff_of_true ⟨none, rfl⟩ fun h => absurd h hpos

section Enforce

variable {cost currentPrice suggestedPrice : Decimal} {policy : Policy} {reason : BlockReason}

theorem isBlockedFor_iff : (enforce cost currentPrice suggestedPrice policy).IsBlockedFor reason ↔
    ∃ e, Candidate.guard cost currentPrice policy ⟨suggestedPrice.toCents, []⟩ = .error e ∧ e.reason = reason := by
  unfold GuardrailResult.IsBlockedFor
  cases h : Candidate.guard cost currentPrice policy ⟨suggestedPrice.toCents, []⟩ with
  | ok c => simp [enforce, h, GuardrailResult.isBlocked]
  | error e => simp [enforce, h, GuardrailResult.isBlocked]

/-- Without its band a price is out of range, whatever else is asked of it. -/
theorem isBlockedFor_outOfRange (h : ¬∃ band, Band.around currentPrice policy.maxChangePct = .ok band) :
    (enforce cost currentPrice suggestedPrice policy).IsBlockedFor .outOfRange := by
  rw [isBlockedFor_iff]
  cases hband : Band.around currentPrice policy.maxChangePct with
  | error e =>
    refine ⟨⟨e, []⟩, ?_, Band.eq_outOfRange_of_around hband⟩
    simp only [Candidate.guard, hband, Candidate.block]
  | ok band => exact absurd ⟨band, hband⟩ h

/-- No step but the search for a floor blocks for the least margin. -/
theorem isBlockedFor_invalidMinMargin_iff :
    (enforce cost currentPrice suggestedPrice policy).IsBlockedFor .invalidMinMargin ↔
      (∃ band, Band.around currentPrice policy.maxChangePct = .ok band) ∧
        minPriceForMargin? cost policy.minMarginPct = none := by
  rw [isBlockedFor_iff]
  rcases Candidate.guard_cases cost currentPrice policy ⟨suggestedPrice.toCents, []⟩ with
    ⟨reason, hband, hguard⟩ | ⟨band, hband, hfloor, hguard⟩ | ⟨g, hg, -⟩
  · apply iff_of_false
    · rintro ⟨e, he, hinvalid⟩
      cases hguard.symm.trans he
      cases (Band.eq_outOfRange_of_around hband).symm.trans hinvalid
    · rintro ⟨⟨band, hok⟩, -⟩
      cases hband.symm.trans hok
  · exact iff_of_true ⟨_, hguard, rfl⟩ ⟨⟨band, hband⟩, hfloor⟩
  · apply iff_of_false
    · rintro ⟨e, he, hinvalid⟩
      have hjustified := Candidate.justified_guard hg _ e he
      rw [hinvalid] at hjustified
      rcases hjustified with h | h <;> cases h
    · rintro ⟨-, hnone⟩
      cases hg.floor.symm.trans hnone

end Enforce

/-- A least margin of a hundred percent is the reason for a block only behind a band in range, and there it shares the
reason with a least price out of range. -/
theorem blocked_for_margin (cost currentPrice suggestedPrice : Decimal) (policy : Policy) :
    let result := enforce cost currentPrice suggestedPrice policy
    ∃ left down up, factorDown? policy.minMarginPct = some left ∧ factorDown? policy.maxChangePct = some down ∧
      factorUp? policy.maxChangePct = some up ∧
      (result.IsBlockedFor .invalidMinMargin ↔ Band.HasBounds currentPrice down up ∧
        (.hundred ≤ policy.minMarginPct ∨ ¬Decimal.InRange (cost.toRat / left.toRat))) ∧
      (¬Band.HasBounds currentPrice down up → result.IsBlockedFor .outOfRange) := by
  intro result
  obtain ⟨left, hleft⟩ := exists_factorDown? policy.minMarginPct
  obtain ⟨down, hdown⟩ := exists_factorDown? policy.maxChangePct
  obtain ⟨up, hup⟩ := exists_factorUp? policy.maxChangePct
  refine ⟨left, down, up, hleft, hdown, hup, ?_, ?_⟩
  · rw [isBlockedFor_invalidMinMargin_iff, Band.exists_around_iff hdown hup, minPriceForMargin?_eq_none_iff hleft]
  · rw [← Band.exists_around_iff hdown hup]
    exact isBlockedFor_outOfRange

/-- At twelve percent a cost of `7 * 10 ^ 28` has no least price, and at a hundred percent the largest current price has
no band: either block gives the reason of the other. -/
theorem blocked_past_range :
    let twelve : Policy := ⟨.ofNat 12, .ofNat 15, .nearest10⟩
    let hundred : Policy := ⟨.hundred, .ofNat 15, .nearest1⟩
    let largest := Decimal.ofNat 79228162514264337593543950335
    (twelve.faults = [] ∧
      (factorDown? twelve.minMarginPct).bind (Decimal.ofNat 70000000000000000000000000000).div? = none ∧
      (enforce (.ofNat 70000000000000000000000000000) .zero .one twelve).IsBlockedFor .invalidMinMargin) ∧
    (Decimal.hundred ≤ hundred.minMarginPct ∧
      (enforce .one largest .hundred hundred).IsBlockedFor .outOfRange) := by
  decide +kernel

end Repricing
