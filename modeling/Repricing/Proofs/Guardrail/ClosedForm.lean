import Repricing.Proofs.Guardrail.Steps

namespace Repricing

namespace Decimal

/-- The larger of a decimal and a bound, if there is one. -/
def atLeast (bound : Option Decimal) (d : Decimal) : Decimal := bound.elim d (max d)

/-- The smaller of a decimal and a bound, if there is one. -/
def atMost (bound : Option Decimal) (d : Decimal) : Decimal := bound.elim d (min d)

variable {bound : Option Decimal} {d m : Decimal}

theorem toRat_atLeast_of_le (h : ∀ b ∈ bound, b.toRat ≤ d.toRat) : (d.atLeast bound).toRat = d.toRat := by
  cases bound with
  | none => rfl
  | some b => exact (toRat_max d b).trans (max_eq_left (h b rfl))

theorem toRat_atLeast_of_ge (hm : bound = some m) (h : d.toRat ≤ m.toRat) : (d.atLeast bound).toRat = m.toRat := by
  subst hm
  exact (toRat_max d m).trans (max_eq_right h)

theorem toRat_atMost_of_ge (h : ∀ b ∈ bound, d.toRat ≤ b.toRat) : (d.atMost bound).toRat = d.toRat := by
  cases bound with
  | none => rfl
  | some b => exact (toRat_min d b).trans (min_eq_left (h b rfl))

theorem toRat_atMost_of_le (hm : bound = some m) (h : m.toRat ≤ d.toRat) : (d.atMost bound).toRat = m.toRat := by
  subst hm
  exact (toRat_min d m).trans (min_eq_right h)

end Decimal

namespace Limits

/-- The price in the band, but never below the floor. -/
def restrained (g : Limits) (price : Decimal) : Decimal := max (g.band.elim price fun b => b.clamp price) g.floor

/-- The multiple above the bottom of the band, if the band reaches it. -/
def bottom? (g : Limits) : Option Decimal :=
  g.band.bind fun b => (g.mode.snapUp? b.lower).filter fun m => m ≤ b.upper

/-- The multiple below the top of the band. -/
def top? (g : Limits) : Option Decimal := g.band.bind fun b => g.mode.snapDown? b.upper

/-- The outcome for a suggested price, before it is rounded to cents. A multiple that has no decimal bounds nothing. -/
def settled? (g : Limits) (price : Decimal) : Option Decimal :=
  (g.mode.snapNearest? (g.restrained price)).map fun nearest =>
    ((nearest.atLeast g.bottom?).atLeast (g.mode.snapUp? g.floor)).atMost g.top?

variable {g : Limits} {price price' d : Decimal} {n l m y : Rat}

theorem toRat_restrained (g : Limits) (price : Decimal) : (g.restrained price).toRat = g.restrain price.toRat := by
  rw [restrained, restrain, clamp, Decimal.toRat_max]
  cases g.band with
  | none => rfl
  | some b =>
    change max (b.clamp price).toRat _ = _
    rw [Band.clamp, Decimal.toRat_min, Decimal.toRat_max]

theorem bottom?_eq_some_iff :
    g.bottom? = some d ↔ ∃ b ∈ g.band, g.mode.snapUp? b.lower = some d ∧ d.toRat ≤ b.upper.toRat := by
  simp [bottom?, Option.bind_eq_some_iff, Option.filter_eq_some_iff, Decimal.le_iff_toRat]

theorem top?_eq_some_iff : g.top? = some d ↔ ∃ b ∈ g.band, g.mode.snapDown? b.upper = some d := by
  simp [top?, Option.bind_eq_some_iff]

theorem Lifts.eq_atLeast (h : g.Lifts d.toRat l) (hd : g.mode.IsMultiple d.toRat) :
    l = (d.atLeast g.bottom?).toRat := by
  cases h with
  | keep habove =>
    refine (Decimal.toRat_atLeast_of_le fun u hu => ?_).symm
    obtain ⟨b, hb, hup, -⟩ := bottom?_eq_some_iff.mp hu
    exact RoundingMode.snap?_le hup hd (habove b hb)
  | giveUp b u hb _ hup hover =>
    refine (Decimal.toRat_atLeast_of_le fun v hv => ?_).symm
    obtain ⟨c, hc, hup', hreach⟩ := bottom?_eq_some_iff.mp hv
    obtain rfl := Option.mem_unique hb hc
    obtain rfl := Option.some.inj (hup.symm.trans hup')
    exact absurd hreach (not_le.mpr hover)
  | lift b u hb hlt hup hreach =>
    exact (Decimal.toRat_atLeast_of_ge (bottom?_eq_some_iff.mpr ⟨b, hb, hup, hreach⟩)
      (RoundingMode.le_snap? hup hd hlt.le)).symm

theorem Raises.eq_atLeast (h : g.Raises d.toRat m) (hd : g.mode.IsMultiple d.toRat) :
    m = (d.atLeast (g.mode.snapUp? g.floor)).toRat := by
  cases h with
  | keep hle =>
    exact (Decimal.toRat_atLeast_of_le fun u hup => RoundingMode.snap?_le hup hd hle).symm
  | raise u hlt hup _ => exact (Decimal.toRat_atLeast_of_ge hup (RoundingMode.le_snap? hup hd hlt.le)).symm

theorem Lowers.eq_atMost (h : g.Lowers d.toRat y) (hd : g.mode.IsMultiple d.toRat) :
    y = (d.atMost g.top?).toRat := by
  cases h with
  | keep htop =>
    refine (Decimal.toRat_atMost_of_ge fun u hu => ?_).symm
    obtain ⟨b, hb, hdown⟩ := top?_eq_some_iff.mp hu
    exact RoundingMode.le_snap? hdown hd (htop b hb)
  | lower b u hb hlt hdown _ _ =>
    exact (Decimal.toRat_atMost_of_le (top?_eq_some_iff.mpr ⟨b, hb, hdown⟩)
      (RoundingMode.snap?_le hdown hd hlt.le)).symm

/-- Prices of one value have one passage, whatever their scales. -/
theorem Passage.congr (h : g.Passage price n l m y) (hsame : price'.toRat = price.toRat) :
    g.Passage price' n l m y := by
  obtain ⟨d, hd, rfl⟩ := h.nearest
  obtain ⟨d', hd', hlow, hhigh⟩ := RoundingMode.exists_snap?_between hd hd
    (Decimal.le_iff_toRat.mpr hsame.ge) (Decimal.le_iff_toRat.mpr hsame.le)
  exact ⟨hsame ▸ h.within, ⟨d', hd', le_antisymm hhigh hlow⟩, h.lifts, h.raises, h.lowers⟩

theorem Passage.exists_settled? (h : g.Passage (g.restrained price) n l m y) :
    ∃ e, g.settled? price = some e ∧ e.toRat = y := by
  obtain ⟨d, hd, rfl⟩ := h.nearest
  have hlifts := h.lifts
  have hraises := h.raises
  have hlowers := h.lowers
  have hlifted := h.isMultiple_lifted
  have hraised := h.isMultiple_raised
  rw [hlifts.eq_atLeast h.isMultiple_nearest] at hraises hlifted
  rw [hraises.eq_atLeast hlifted] at hlowers hraised
  exact ⟨_, congrArg (Option.map _) hd, (hlowers.eq_atMost hraised).symm⟩

end Limits

/-- An approved price is the nearest multiple of the restrained suggestion, or a larger one that the bottom of the band
or the floor asks for, but none above the top of the band, rounded to cents. -/
theorem suggestedPriceFinal_eq_settled (cost currentPrice suggestedPrice : Decimal) (policy : Policy)
    (hok : (enforce cost currentPrice suggestedPrice policy).isOk = true) :
    let result := enforce cost currentPrice suggestedPrice policy
    ∃ g : Limits, g.Of cost currentPrice policy ∧ ∃ price, g.settled? result.suggestedPriceOriginal = some price ∧
      result.suggestedPriceFinal.SameValue price.toCents := by
  intro result
  obtain ⟨g, hg⟩ := Limits.exists_of hok
  obtain ⟨n, l, m, y, h⟩ := exists_passage_of_isOk hg hok
  obtain ⟨-, ⟨d, rfl, hfinal⟩, -⟩ := enforce_of_passage hg h
  have horiginal : result.suggestedPriceOriginal = suggestedPrice.toCents := by
    simp only [result, enforce]
    split <;> rfl
  have hstart := Candidate.toRat_start g policy suggestedPrice
  have hrestrained := g.toRat_restrained suggestedPrice.toCents
  obtain ⟨price, hprice, hvalue⟩ := (h.congr (hrestrained.trans hstart.symm)).exists_settled?
  refine ⟨g, hg, price, ?_, ?_⟩
  · rw [horiginal]
    exact hprice
  · rw [Decimal.sameValue_iff_toRat, hfinal]
    exact Decimal.toRat_toCents_congr hvalue.symm

/-- A suggestion of 50 around 96 snaps to 85; the bottom of the band asks for 90. -/
theorem suggestedPriceFinal_eq_settled_ninety :
    let policy : Policy := ⟨.ten, .ten, .nearest5⟩
    let result := enforce .ten (.ofNat 96) (.ofNat 50) policy
    result.isOk = true ∧ result.suggestedPriceFinal.SameValue (.ofNat 90) ∧
      ∃ g : Limits, g.Of .ten (.ofNat 96) policy ∧ ∃ price, g.settled? result.suggestedPriceOriginal = some price ∧
        result.suggestedPriceFinal.SameValue price.toCents :=
  ⟨by decide +kernel, by decide +kernel, suggestedPriceFinal_eq_settled _ _ _ _ (by decide +kernel)⟩

end Repricing
