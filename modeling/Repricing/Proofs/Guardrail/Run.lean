import Repricing.Proofs.Guardrail.Band
import Repricing.Proofs.Guardrail.Blocked

namespace Repricing

/-- One step of a run: the verdict on a suggested price, and the current price from then on. -/
structure Applied where
  verdict : GuardrailResult
  price : Decimal
  deriving DecidableEq

/-- A verdict is applied: an approved price becomes the current one, a blocked one leaves it as it is. -/
def applyPrice (cost : Decimal) (policy : Policy) (currentPrice suggestedPrice : Decimal) : Applied :=
  let verdict := enforce cost currentPrice suggestedPrice policy
  ⟨verdict, if verdict.isOk then verdict.suggestedPriceFinal else currentPrice⟩

/-- The steps of a run over the suggested prices. -/
def run (cost : Decimal) (policy : Policy) (currentPrice : Decimal) : List Decimal → List Applied
  | [] => []
  | suggestedPrice :: rest =>
    let applied := applyPrice cost policy currentPrice suggestedPrice
    applied :: run cost policy applied.price rest

/-- A price that is a multiple of the mode's step and not below the margin floor. -/
structure IsSafe (mode : RoundingMode) (floor price : Decimal) : Prop where
  multiple : mode.IsMultiple price.toRat
  floor_le : floor ≤ price

/-- The verdict approves, or it blocks for want of a decimal. -/
def GuardrailResult.IsDecided (r : GuardrailResult) : Prop :=
  r.isOk = true ∨ (r.isBlocked = true ∧ r.safetyReason = some .outOfRange)

section Step

variable {cost currentPrice suggestedPrice floor : Decimal} {policy : Policy}

/-- A safe current price is in its band, so there is a safe price to be found. -/
theorem IsSafe.isDecided (h : IsSafe policy.roundingMode floor currentPrice) (hvalid : policy.faults = [])
    (hcost : Decimal.zero ≤ cost) (hfloor : minPriceForMargin? cost policy.minMarginPct = some floor) :
    (enforce cost currentPrice suggestedPrice policy).IsDecided := by
  by_cases hok : (enforce cost currentPrice suggestedPrice policy).isOk = true
  · exact .inl hok
  have hblocked := GuardrailResult.isBlocked_of_not_isOk hok
  refine .inr ⟨hblocked, ?_⟩
  by_contra hreason
  obtain ⟨g, hg⟩ := Limits.exists_of_ne_outOfRange hfloor hreason
  obtain rfl : g.floor = floor := Option.some.inj (hg.floor.symm.trans hfloor)
  have hle := cost_le_minPriceForMargin? hcost (minMarginPct_nonneg hvalid) hfloor
  have hnone := (exists_band_of_isBlocked hg (hg.cost ▸ hle) hblocked hreason).2
  exact hnone currentPrice.toRat
    ⟨hg.mode ▸ h.multiple, Decimal.le_iff_toRat.mp h.floor_le, hg.belowTop hvalid⟩

theorem isSafe_suggestedPriceFinal {step : Decimal} (hstep : policy.roundingMode.step = some step)
    (hfloor : minPriceForMargin? cost policy.minMarginPct = some floor)
    (hup : ∀ up, policy.roundingMode.snapUp? floor = some up → floor ≤ up)
    (hok : (enforce cost currentPrice suggestedPrice policy).isOk = true) :
    IsSafe policy.roundingMode floor (enforce cost currentPrice suggestedPrice policy).suggestedPriceFinal := by
  obtain ⟨g, hg⟩ := Limits.exists_of hok
  obtain ⟨n, l, m, y, h⟩ := exists_passage_of_isOk hg hok
  obtain rfl : g.floor = floor := Option.some.inj (hg.floor.symm.trans hfloor)
  have hfinal := toRat_suggestedPriceFinal hg (hg.mode ▸ hstep) h
  constructor
  · rw [hfinal, ← hg.mode]
    exact h.isMultiple
  · rw [Decimal.le_iff_toRat, hfinal]
    rcases h.floor_le_or_eq_snap with hle | ⟨d, hd, rfl⟩
    · exact hle
    · exact Decimal.le_iff_toRat.mp (hup d (hg.mode ▸ hd))

/-- An applied verdict leaves a safe price. -/
theorem IsSafe.applyPrice {step : Decimal} (h : IsSafe policy.roundingMode floor currentPrice)
    (suggestedPrice : Decimal) (hstep : policy.roundingMode.step = some step)
    (hfloor : minPriceForMargin? cost policy.minMarginPct = some floor)
    (hup : ∀ up, policy.roundingMode.snapUp? floor = some up → floor ≤ up) :
    IsSafe policy.roundingMode floor (applyPrice cost policy currentPrice suggestedPrice).price := by
  unfold Repricing.applyPrice
  dsimp only
  split_ifs with hok
  · exact isSafe_suggestedPriceFinal hstep hfloor hup hok
  · exact h

end Step

/-- With a step, a run from a safe price stays at safe prices, and blocks no suggestion but for want of a decimal. -/
theorem run_safe (cost currentPrice floor step : Decimal) (policy : Policy) (hvalid : policy.faults = [])
    (hcost : Decimal.zero ≤ cost) (hstep : policy.roundingMode.step = some step)
    (hfloor : minPriceForMargin? cost policy.minMarginPct = some floor)
    (hup : ∀ up, policy.roundingMode.snapUp? floor = some up → floor ≤ up)
    (hstart : IsSafe policy.roundingMode floor currentPrice) (suggestedPrices : List Decimal) :
    ∀ applied ∈ run cost policy currentPrice suggestedPrices,
      applied.verdict.IsDecided ∧ IsSafe policy.roundingMode floor applied.price := by
  induction suggestedPrices generalizing currentPrice with
  | nil => simp [run]
  | cons suggestedPrice rest ih =>
    have hnext := hstart.applyPrice suggestedPrice hstep hfloor hup
    intro applied hmem
    rw [run, List.mem_cons] at hmem
    rcases hmem with rfl | hmem
    · exact ⟨hstart.isDecided hvalid hcost hfloor, hnext⟩
    · exact ih _ hnext applied hmem

/-- A cost of 50 asks for at least 55.55…, so 40 is raised to 60; 200 is lowered to 65 and 58 is snapped to 60. -/
theorem run_safe_sixty :
    let policy : Policy := ⟨.ten, .ofNat 15, .nearest5⟩
    let steps := run (.ofNat 50) policy (.ofNat 60) [.ofNat 40, .ofNat 200, .ofNat 58]
    policy.faults = [] ∧ Decimal.zero ≤ .ofNat 50 ∧ policy.roundingMode.step = some .five ∧
      steps.map (·.price) = [.ofNat 60, .ofNat 65, .ofNat 60] ∧
      ∃ floor, minPriceForMargin? (.ofNat 50) policy.minMarginPct = some floor ∧
        policy.roundingMode.snapUp? floor = some (.ofNat 60) ∧ IsSafe policy.roundingMode floor (.ofNat 60) ∧
        ∀ applied ∈ steps, applied.verdict.IsDecided ∧ IsSafe policy.roundingMode floor applied.price := by
  intro policy steps
  have hvalid : policy.faults = [] := by decide +kernel
  have hcost : Decimal.zero ≤ .ofNat 50 := by decide +kernel
  let floor : Decimal := ⟨55555555555555555555555555556, 27, by decide, by decide⟩
  have hfloor : minPriceForMargin? (.ofNat 50) policy.minMarginPct = some floor := by decide +kernel
  have hsnap : policy.roundingMode.snapUp? floor = some (.ofNat 60) := by decide +kernel
  have hle : floor ≤ .ofNat 60 := by decide +kernel
  have hstart : IsSafe policy.roundingMode floor (.ofNat 60) :=
    ⟨(RoundingMode.isMultiple_iff rfl).mpr ⟨12, by decide +kernel⟩, hle⟩
  have hup : ∀ up, policy.roundingMode.snapUp? floor = some up → floor ≤ up := by
    intro up h
    obtain rfl := Option.some.inj (hsnap.symm.trans h)
    exact hle
  exact ⟨hvalid, hcost, rfl, by decide +kernel, floor, hfloor, hsnap, hstart,
    run_safe _ _ floor _ policy hvalid hcost rfl hfloor hup hstart _⟩

end Repricing
