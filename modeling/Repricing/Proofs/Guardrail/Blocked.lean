import Repricing.Proofs.Guardrail.Bounds
import Repricing.Proofs.Margin

namespace Repricing

namespace Limits

variable {g : Limits} {price : Decimal} {x n l m y : Rat}

/-- The number is a multiple from the margin floor to the top of the band. -/
def Fits (g : Limits) (x : Rat) : Prop :=
  g.mode.IsMultiple x ∧ g.floor.toRat ≤ x ∧ g.BelowTop x

/-- Each reason for a refusal leaves no room between the floor and the top of the band. -/
theorem Refuses.not_fits {r : BlockReason} (h : g.Refuses r) (hcost : g.cost ≤ g.floor) : ¬g.Fits x := by
  rintro ⟨hx, hfloor, htop⟩
  cases h with
  | floorAbove b hb hlt =>
    rw [Decimal.lt_iff_toRat] at hlt
    linarith [htop b hb]
  | multipleAbove b d hb hd hlt =>
    rw [Decimal.lt_iff_toRat] at hlt
    linarith [htop b hb, RoundingMode.snap?_le hd hx hfloor]
  | multipleBelow b d hb hd hlt =>
    have hlt : d.toRat < g.floor.toRat := by
      rw [Decimal.le_iff_toRat] at hcost
      rw [Decimal.lt_iff_toRat, Decimal.lt_iff_toRat] at hlt
      exact hlt.elim (fun h => h.trans_le hcost) id
    linarith [RoundingMode.le_snap? hd hx (htop b hb)]

theorem Refuses.exists_band {r : BlockReason} (h : g.Refuses r) : ∃ b, b ∈ g.band := by
  cases h with
  | floorAbove b hb => exact ⟨b, hb⟩
  | multipleAbove b d hb => exact ⟨b, hb⟩
  | multipleBelow b d hb => exact ⟨b, hb⟩

/-- Where the snaps of the floor and of the top keep to their sides, an outcome is safe. -/
theorem Passage.fits (h : g.Passage price n l m y)
    (hup : ∀ d, g.mode.snapUp? g.floor = some d → g.floor ≤ d)
    (hdown : ∀ b ∈ g.band, ∀ d, g.mode.snapDown? b.upper = some d → d ≤ b.upper) : g.Fits y := by
  refine ⟨h.isMultiple, ?_, fun b hb => ?_⟩
  · rcases h.floor_le_or_eq_snap with hle | ⟨d, hd, rfl⟩
    · exact hle
    · exact Decimal.le_iff_toRat.mp (hup d hd)
  · rcases h.le_upper_or_eq_snap hb with hle | ⟨d, hd, rfl⟩
    · exact hle
    · exact Decimal.le_iff_toRat.mp (hdown b hb d hd)

end Limits

theorem minMarginPct_nonneg {policy : Policy} (h : policy.faults = []) : Decimal.zero ≤ policy.minMarginPct :=
  Decimal.zero_le_iff_toRat.mpr (Policy.faults_eq_nil_iff.mp h).1.1

section Verdict

variable {g : Limits} {cost currentPrice suggestedPrice : Decimal} {policy : Policy}

theorem exists_band_of_isBlocked (hg : g.Of cost currentPrice policy) (hcost : g.cost ≤ g.floor)
    (hblocked : (enforce cost currentPrice suggestedPrice policy).isBlocked = true)
    (hreason : (enforce cost currentPrice suggestedPrice policy).safetyReason ≠ some .outOfRange) :
    (∃ b, b ∈ g.band) ∧ ∀ x, ¬g.Fits x := by
  obtain ⟨r, hr⟩ := refuses_of_isBlocked hg hblocked hreason
  exact ⟨hr.exists_band, fun _ => hr.not_fits hcost⟩

theorem GuardrailResult.isBlocked_of_not_isOk {r : GuardrailResult} (h : ¬r.isOk = true) : r.isBlocked = true := by
  unfold isOk at h
  unfold isBlocked
  cases hs : r.safetyStatus with
  | ok => simp [hs] at h
  | blocked => rfl

theorem GuardrailResult.safetyStatus_eq {r r' : GuardrailResult} (h : r.isOk = true ↔ r'.isOk = true) :
    r.safetyStatus = r'.safetyStatus := by
  unfold isOk at h
  cases hr : r.safetyStatus <;> cases hr' : r'.safetyStatus <;> simp [hr, hr'] at h ⊢

/-- One approved suggestion shows that there is room, so every other one is approved. -/
theorem isOk_of_isOk {s t : Decimal} (hg : g.Of cost currentPrice policy) (hcost : g.cost ≤ g.floor)
    (hup : ∀ d, g.mode.snapUp? g.floor = some d → g.floor ≤ d)
    (hdown : ∀ b ∈ g.band, ∀ d, g.mode.snapDown? b.upper = some d → d ≤ b.upper)
    (hs : (enforce cost currentPrice s policy).isOk = true)
    (ht : (enforce cost currentPrice t policy).safetyReason ≠ some .outOfRange) :
    (enforce cost currentPrice t policy).isOk = true := by
  by_contra hok
  obtain ⟨n, l, m, y, h⟩ := exists_passage_of_isOk hg hs
  exact (exists_band_of_isBlocked hg hcost (GuardrailResult.isBlocked_of_not_isOk hok) ht).2 y (h.fits hup hdown)

end Verdict

/-- A price is blocked, other than for want of a decimal, only where the band holds no multiple at or above the margin
floor. Where the snaps of the floor and of the top of the band keep to their sides, the verdict does not depend on the
suggestion. -/
theorem blocked_without_safe_price (cost currentPrice floor : Decimal) (policy : Policy)
    (hvalid : policy.faults = []) (hcost : Decimal.zero ≤ cost)
    (hfloor : minPriceForMargin? cost policy.minMarginPct = some floor) :
    (∀ suggestedPrice,
      let result := enforce cost currentPrice suggestedPrice policy
      result.isBlocked = true → result.safetyReason ≠ some .outOfRange →
        ∃ band, Band.around currentPrice policy.maxChangePct = .ok (some band) ∧
          ¬∃ x, policy.roundingMode.IsMultiple x ∧ floor.toRat ≤ x ∧ x ≤ band.upper.toRat) ∧
    ((∀ up, policy.roundingMode.snapUp? floor = some up → floor ≤ up) →
      (∀ band, Band.around currentPrice policy.maxChangePct = .ok (some band) →
        ∀ down, policy.roundingMode.snapDown? band.upper = some down → down ≤ band.upper) →
      ∀ suggested suggested',
        (enforce cost currentPrice suggested policy).safetyReason ≠ some .outOfRange →
        (enforce cost currentPrice suggested' policy).safetyReason ≠ some .outOfRange →
        (enforce cost currentPrice suggested policy).safetyStatus =
          (enforce cost currentPrice suggested' policy).safetyStatus) := by
  have hcost := cost_le_minPriceForMargin? hcost (minMarginPct_nonneg hvalid) hfloor
  constructor
  · intro suggestedPrice result hblocked hreason
    obtain ⟨g, hg⟩ := Limits.exists_of_ne_outOfRange hfloor hreason
    obtain rfl : g.floor = floor := Option.some.inj (hg.floor.symm.trans hfloor)
    obtain ⟨⟨b, hb⟩, hnone⟩ := exists_band_of_isBlocked hg (hg.cost ▸ hcost) hblocked hreason
    have hband : g.band = some b := hb
    refine ⟨b, hband ▸ hg.band, ?_⟩
    rintro ⟨x, hx, hlow, htop⟩
    exact hnone x ⟨hg.mode ▸ hx, hlow, Limits.belowTop_of_mem hb htop⟩
  · intro hup hdown suggested suggested' hreason hreason'
    obtain ⟨g, hg⟩ := Limits.exists_of_ne_outOfRange hfloor hreason
    obtain rfl : g.floor = floor := Option.some.inj (hg.floor.symm.trans hfloor)
    have hcost : g.cost ≤ g.floor := hg.cost ▸ hcost
    have hup : ∀ d, g.mode.snapUp? g.floor = some d → g.floor ≤ d := hg.mode ▸ hup
    have hdown : ∀ b ∈ g.band, ∀ d, g.mode.snapDown? b.upper = some d → d ≤ b.upper := by
      intro b hb
      have hband : g.band = some b := hb
      exact hg.mode ▸ hdown b (hband ▸ hg.band)
    apply GuardrailResult.safetyStatus_eq
    constructor
    · intro hok
      exact isOk_of_isOk hg hcost hup hdown hok hreason'
    · intro hok
      exact isOk_of_isOk hg hcost hup hdown hok hreason

/-- A margin of forty percent at a cost of 100 asks for 166.67, and the band around 105 ends at 110.25. -/
theorem blocked_at_hundred :
    let policy : Policy := ⟨.ofNat 40, .five, .nearest1⟩
    let result (suggestedPrice : Decimal) := enforce .hundred (.ofNat 105) suggestedPrice policy
    policy.faults = [] ∧ Decimal.zero ≤ Decimal.hundred ∧
      ∃ floor, minPriceForMargin? .hundred policy.minMarginPct = some floor ∧
        ((result (.ofNat 80)).isBlocked = true ∧ (result (.ofNat 80)).safetyReason ≠ some .outOfRange ∧
          ∃ band, Band.around (.ofNat 105) policy.maxChangePct = .ok (some band) ∧
            ¬∃ x, policy.roundingMode.IsMultiple x ∧ floor.toRat ≤ x ∧ x ≤ band.upper.toRat) ∧
        ∀ suggested, (result suggested).safetyReason ≠ some .outOfRange →
          (result suggested).safetyStatus = .blocked := by
  intro policy result
  have hfaults : policy.faults = [] := by decide +kernel
  have hcost : Decimal.zero ≤ Decimal.hundred := by decide +kernel
  have hblocked : (result (.ofNat 80)).isBlocked = true := by decide +kernel
  have hreason : (result (.ofNat 80)).safetyReason ≠ some .outOfRange := by decide +kernel
  let floor : Decimal := ⟨16666666666666666666666666667, 26, by decide, by decide⟩
  have hfloor : minPriceForMargin? .hundred policy.minMarginPct = some floor := by decide +kernel
  have hup : policy.roundingMode.snapUp? floor = some (.ofNat 167) := by decide +kernel
  let band : Band := ⟨⟨9975, 2, by decide, by decide⟩, ⟨11025, 2, by decide, by decide⟩⟩
  have hband : Band.around (.ofNat 105) policy.maxChangePct = .ok (some band) := by decide +kernel
  have hdown : policy.roundingMode.snapDown? band.upper = some (.ofNat 110) := by decide +kernel
  obtain ⟨hnone, hsame⟩ :=
    blocked_without_safe_price .hundred (.ofNat 105) floor policy hfaults hcost hfloor
  refine ⟨hfaults, hcost, floor, hfloor, ⟨hblocked, hreason, hnone _ hblocked hreason⟩, ?_⟩
  intro suggested hs
  have hstatus := hsame ?_ ?_ suggested (.ofNat 80) hs hreason
  · exact hstatus.trans (by decide +kernel)
  · intro up h
    obtain rfl := Option.some.inj (hup.symm.trans h)
    decide +kernel
  · intro b hb down h
    obtain rfl := Option.some.inj (Except.ok.inj (hband.symm.trans hb))
    obtain rfl := Option.some.inj (hdown.symm.trans h)
    decide +kernel

end Repricing
