import Repricing.Guardrail.Band
import Repricing.Proofs.Snap

namespace Repricing

/-- What a price is held to. -/
structure Limits where
  band : Option Band
  cost : Decimal
  floor : Decimal
  mode : RoundingMode

namespace Limits

def clamp (g : Limits) (x : Rat) : Rat :=
  match g.band with
  | none => x
  | some b => min (max x b.lower.toRat) b.upper.toRat

/-- The value that is snapped: in the band, but never below the floor. -/
def restrain (g : Limits) (x : Rat) : Rat := max (g.clamp x) g.floor.toRat

def BelowTop (g : Limits) (x : Rat) : Prop := ∀ b ∈ g.band, x ≤ b.upper.toRat

def AboveBottom (g : Limits) (x : Rat) : Prop := ∀ b ∈ g.band, b.lower.toRat ≤ x

/-- The repair of the lower bound, which gives up where the next multiple is above the band. -/
inductive Lifts (g : Limits) (x : Rat) : Rat → Prop
  | keep (h : g.AboveBottom x) : Lifts g x x
  | giveUp (b : Band) (m : Decimal) (hb : b ∈ g.band) (hx : x < b.lower.toRat)
      (hm : g.mode.snapUp? b.lower = some m) (hu : b.upper.toRat < m.toRat) : Lifts g x x
  | lift (b : Band) (m : Decimal) (hb : b ∈ g.band) (hx : x < b.lower.toRat)
      (hm : g.mode.snapUp? b.lower = some m) (hu : m.toRat ≤ b.upper.toRat) : Lifts g x m.toRat

inductive Raises (g : Limits) (x : Rat) : Rat → Prop
  | keep (h : g.floor.toRat ≤ x) : Raises g x x
  | raise (m : Decimal) (hx : x < g.floor.toRat) (hm : g.mode.snapUp? g.floor = some m)
      (hu : g.BelowTop m.toRat) : Raises g x m.toRat

inductive Lowers (g : Limits) (x : Rat) : Rat → Prop
  | keep (h : g.BelowTop x) : Lowers g x x
  | lower (b : Band) (m : Decimal) (hb : b ∈ g.band) (hx : b.upper.toRat < x)
      (hm : g.mode.snapDown? b.upper = some m) (hc : g.cost.toRat ≤ m.toRat)
      (hf : g.floor.toRat ≤ m.toRat) : Lowers g x m.toRat

/-- From a restrained price to its nearest multiple `n` and through the repairs to `y`. -/
structure Passage (g : Limits) (price : Decimal) (n l m y : Rat) : Prop where
  within : g.BelowTop price.toRat
  nearest : ∃ d, g.mode.snapNearest? price = some d ∧ d.toRat = n
  lifts : g.Lifts n l
  raises : g.Raises l m
  lowers : g.Lowers m y

/-- Why a price may be refused, apart from prices that have no decimal. -/
inductive Refuses (g : Limits) : BlockReason → Prop
  | floorAbove (b : Band) (hb : b ∈ g.band) (h : b.upper < g.floor) : Refuses g .marginOutsideBand
  | multipleAbove (b : Band) (m : Decimal) (hb : b ∈ g.band) (hm : g.mode.snapUp? g.floor = some m)
      (h : b.upper < m) : Refuses g .marginAfterRounding
  | multipleBelow (b : Band) (m : Decimal) (hb : b ∈ g.band) (hm : g.mode.snapDown? b.upper = some m)
      (h : m < g.cost ∨ m < g.floor) : Refuses g .maxChangeAfterRounding

variable {g : Limits}

section Band

variable {b : Band} {x : Rat}

theorem belowTop_of_mem (hb : b ∈ g.band) (h : x ≤ b.upper.toRat) : g.BelowTop x := by
  intro c hc
  rwa [Option.mem_unique hc hb]

theorem aboveBottom_of_mem (hb : b ∈ g.band) (h : b.lower.toRat ≤ x) : g.AboveBottom x := by
  intro c hc
  rwa [Option.mem_unique hc hb]

theorem belowTop_of_eq_none (hband : g.band = none) : g.BelowTop x := by simp [BelowTop, hband]

theorem exists_of_not_belowTop (h : ¬g.BelowTop x) : ∃ b ∈ g.band, b.upper.toRat < x := by
  simpa [BelowTop] using h

theorem exists_of_not_aboveBottom (h : ¬g.AboveBottom x) : ∃ b ∈ g.band, x < b.lower.toRat := by
  simpa [AboveBottom] using h

theorem BelowTop.mono {y : Rat} (h : g.BelowTop y) (hle : x ≤ y) : g.BelowTop x :=
  fun b hb => hle.trans (h b hb)

theorem AboveBottom.mono {y : Rat} (h : g.AboveBottom x) (hle : x ≤ y) : g.AboveBottom y :=
  fun b hb => (h b hb).trans hle

end Band

section Restrain

theorem floor_le_restrain (g : Limits) (x : Rat) : g.floor.toRat ≤ g.restrain x := le_max_right _ _

theorem belowTop_restrain_iff {x : Rat} : g.BelowTop (g.restrain x) ↔ g.BelowTop g.floor.toRat := by
  constructor
  · intro h
    exact h.mono (g.floor_le_restrain x)
  · intro h b hb
    have hclamp : g.clamp x ≤ b.upper.toRat := by
      have hg : g.band = some b := hb
      simp [clamp, hg]
    exact max_le hclamp (h b hb)

/-- A restrained value below the band is the top of a band that is upside down. -/
theorem eq_upper_of_restrain_lt {x : Rat} {b : Band} (hb : b ∈ g.band) (hlt : g.restrain x < b.lower.toRat) :
    b.upper.toRat < b.lower.toRat ∧ b.upper.toRat ≤ g.restrain x := by
  have hg : g.band = some b := hb
  have hclamp : g.clamp x ≤ g.restrain x := le_max_left _ _
  simp only [clamp, hg] at hclamp
  have hlow := le_max_right x b.lower.toRat
  rcases min_choice (max x b.lower.toRat) b.upper.toRat with h | h
  · rw [h] at hclamp
    linarith
  · rw [h] at hclamp
    exact ⟨by linarith, hclamp⟩

/-- Restraining moves a value towards each restrained one. -/
theorem restrain_between (g : Limits) (x y : Rat) :
    (y ≤ g.restrain y ∧ g.restrain y ≤ g.restrain x) ∨ (g.restrain x ≤ g.restrain y ∧ g.restrain y ≤ y) := by
  unfold restrain clamp
  cases g.band with
  | none => grind
  | some b => grind

end Restrain

section Repairs

variable {x l m y : Rat}

theorem Lifts.isMultiple (h : g.Lifts x l) (hx : g.mode.IsMultiple x) : g.mode.IsMultiple l := by
  cases h with
  | keep => exact hx
  | giveUp => exact hx
  | lift b d _ _ hm _ => exact RoundingMode.isMultiple_snap? hm

theorem Lifts.le (h : g.Lifts x l) (hx : g.mode.IsMultiple x) : x ≤ l := by
  cases h with
  | keep => exact le_rfl
  | giveUp => exact le_rfl
  | lift b d _ hlt hm _ => exact RoundingMode.le_snap? hm hx hlt.le

theorem Raises.isMultiple (h : g.Raises l m) (hl : g.mode.IsMultiple l) : g.mode.IsMultiple m := by
  cases h with
  | keep => exact hl
  | raise d _ hm _ => exact RoundingMode.isMultiple_snap? hm

theorem Raises.le (h : g.Raises l m) (hl : g.mode.IsMultiple l) : l ≤ m := by
  cases h with
  | keep => exact le_rfl
  | raise d hlt hm _ => exact RoundingMode.le_snap? hm hl hlt.le

theorem Lowers.isMultiple (h : g.Lowers m y) (hm : g.mode.IsMultiple m) : g.mode.IsMultiple y := by
  cases h with
  | keep => exact hm
  | lower b d _ _ hd _ _ => exact RoundingMode.isMultiple_snap? hd

theorem Lowers.le (h : g.Lowers m y) (hm : g.mode.IsMultiple m) : y ≤ m := by
  cases h with
  | keep => exact le_rfl
  | lower b d _ hlt hd _ _ => exact RoundingMode.snap?_le hd hm hlt.le

/-- Multiples below the top stay below what the last repair leads to. -/
theorem Lowers.le_of_belowTop (h : g.Lowers m y) (hx : g.mode.IsMultiple x) (hxm : x ≤ m) (ht : g.BelowTop x) :
    x ≤ y := by
  cases h with
  | keep => exact hxm
  | lower b d hb _ hd _ _ => exact RoundingMode.le_snap? hd hx (ht b hb)

end Repairs

section Passage

variable {price price' : Decimal} {n l m y : Rat}

theorem Passage.isMultiple_nearest (h : g.Passage price n l m y) : g.mode.IsMultiple n := by
  obtain ⟨d, hd, rfl⟩ := h.nearest
  exact RoundingMode.isMultiple_snap? hd

theorem Passage.isMultiple_lifted (h : g.Passage price n l m y) : g.mode.IsMultiple l :=
  h.lifts.isMultiple h.isMultiple_nearest

theorem Passage.isMultiple_raised (h : g.Passage price n l m y) : g.mode.IsMultiple m :=
  h.raises.isMultiple h.isMultiple_lifted

theorem Passage.isMultiple (h : g.Passage price n l m y) : g.mode.IsMultiple y :=
  h.lowers.isMultiple h.isMultiple_raised

theorem Passage.nearest_le_lifted (h : g.Passage price n l m y) : n ≤ l := h.lifts.le h.isMultiple_nearest

theorem Passage.lifted_le_raised (h : g.Passage price n l m y) : l ≤ m := h.raises.le h.isMultiple_lifted

theorem Passage.le_raised (h : g.Passage price n l m y) : y ≤ m := h.lowers.le h.isMultiple_raised

theorem Passage.exists_decimal (h : g.Passage price n l m y) : ∃ d : Decimal, d.toRat = y := by
  obtain ⟨dn, -, hn⟩ := h.nearest
  have hl : ∃ d : Decimal, d.toRat = l := by
    cases h.lifts with
    | keep => exact ⟨dn, hn⟩
    | giveUp => exact ⟨dn, hn⟩
    | lift b d => exact ⟨d, rfl⟩
  have hm : ∃ d : Decimal, d.toRat = m := by
    cases h.raises with
    | keep => exact hl
    | raise d => exact ⟨d, rfl⟩
  cases h.lowers with
  | keep => exact hm
  | lower b d => exact ⟨d, rfl⟩

end Passage

section Between

variable {d d' : Decimal} {l l' m m' y : Rat}

theorem Lifts.exists_of_le (h : g.Lifts d.toRat l) (hd : g.mode.IsMultiple d.toRat)
    (hd' : g.mode.IsMultiple d'.toRat) (hle : d'.toRat ≤ d.toRat) : ∃ l', g.Lifts d'.toRat l' ∧ l' ≤ l := by
  by_cases habove : g.AboveBottom d'.toRat
  · exact ⟨d'.toRat, .keep habove, hle.trans (h.le hd)⟩
  obtain ⟨b, hb, hlt⟩ := exists_of_not_aboveBottom habove
  cases h with
  | keep hkeep =>
    -- The lower bound lies between two multiples, so its multiple above has a decimal.
    obtain ⟨a, ha, had⟩ := RoundingMode.exists_snap?_of_isMultiple .up hd
    obtain ⟨a', ha', had'⟩ := RoundingMode.exists_snap?_of_isMultiple .up hd'
    obtain ⟨u, hu, hau, hua⟩ := RoundingMode.exists_snap?_between ha' ha
      (Decimal.le_iff_toRat.mpr hlt.le) (Decimal.le_iff_toRat.mpr (hkeep b hb))
    rcases le_or_gt u.toRat b.upper.toRat with htop | htop
    · exact ⟨u.toRat, .lift b u hb hlt hu htop, by linarith⟩
    · exact ⟨d'.toRat, .giveUp b u hb hlt hu htop, hle⟩
  | giveUp c u hc _ hu htop =>
    obtain rfl := Option.mem_unique hb hc
    exact ⟨d'.toRat, .giveUp b u hb hlt hu htop, hle⟩
  | lift c u hc _ hu htop =>
    obtain rfl := Option.mem_unique hb hc
    exact ⟨u.toRat, .lift b u hb hlt hu htop, le_rfl⟩

theorem Lifts.exists_of_ge (h : g.Lifts d.toRat l) (hd' : g.mode.IsMultiple d'.toRat)
    (hle : d.toRat ≤ d'.toRat) (hy : d'.toRat ≤ y) (hl : l ≤ y) :
    ∃ l', g.Lifts d'.toRat l' ∧ l ≤ l' ∧ l' ≤ y := by
  by_cases habove : g.AboveBottom d'.toRat
  · refine ⟨d'.toRat, .keep habove, ?_, hy⟩
    cases h with
    | keep => exact hle
    | giveUp => exact hle
    | lift b u hb _ hu _ => exact RoundingMode.snap?_le hu hd' (habove b hb)
  obtain ⟨b, hb, hlt⟩ := exists_of_not_aboveBottom habove
  cases h with
  | keep hkeep =>
    have hb' := hkeep b hb
    linarith
  | giveUp c u hc _ hu htop =>
    obtain rfl := Option.mem_unique hb hc
    exact ⟨d'.toRat, .giveUp b u hb hlt hu htop, hle, hy⟩
  | lift c u hc _ hu htop =>
    obtain rfl := Option.mem_unique hb hc
    exact ⟨u.toRat, .lift b u hb hlt hu htop, le_rfl, hl⟩

/-- A price that did not need the margin repair keeps to the floor. -/
theorem Lowers.floor_le (h : g.Lowers m y) (hm : g.floor.toRat ≤ m) : g.floor.toRat ≤ y := by
  cases h with
  | keep => exact hm
  | lower b u _ _ _ _ hf => exact hf

theorem Raises.exists_of_le (h : g.Raises l m) (hw : g.Lowers m y) (hy : y ≤ l') (hle : l' ≤ l) :
    ∃ m', g.Raises l' m' ∧ m' ≤ m := by
  cases h with
  | keep hf => exact ⟨l', .keep ((hw.floor_le hf).trans hy), hle⟩
  | raise u hlt hu htop => exact ⟨u.toRat, .raise u (hle.trans_lt hlt) hu htop, le_rfl⟩

theorem Raises.exists_of_ge (h : g.Raises l m) (hw : g.Lowers m y) (hl' : g.mode.IsMultiple l') (hle : l ≤ l')
    (hy : l' ≤ y) : ∃ m', g.Raises l' m' ∧ m ≤ m' ∧ m' ≤ y := by
  cases h with
  | keep hf => exact ⟨l', .keep (hf.trans hle), hle, hy⟩
  | raise u hlt hu htop =>
    rcases le_or_gt g.floor.toRat l' with hf | hf
    · exact ⟨l', .keep hf, RoundingMode.snap?_le hu hl' hf, hy⟩
    · exact ⟨u.toRat, .raise u hf hu htop, le_rfl,
        hw.le_of_belowTop (RoundingMode.isMultiple_snap? hu) le_rfl htop⟩

theorem Lowers.of_between (h : g.Lowers m y) (hm' : g.mode.IsMultiple m') (hy : y ≤ m') (hle : m' ≤ m) :
    g.Lowers m' y := by
  cases h with
  | keep htop =>
    obtain rfl := le_antisymm hle hy
    exact .keep htop
  | lower b u hb hlt hu hc hf =>
    rcases le_or_gt m' b.upper.toRat with htop | htop
    · -- Nothing is left between the greatest multiple below the top and the top.
      obtain rfl := le_antisymm (RoundingMode.le_snap? hu hm' htop) hy
      exact .keep (belowTop_of_mem hb htop)
    · exact .lower b u hb htop hu hc hf

variable {price price' : Decimal} {n : Rat}

theorem Passage.lifted_le (h : g.Passage price n l m y) (hn : n ≤ y) : l ≤ y := by
  cases h.lifts with
  | keep => exact hn
  | giveUp => exact hn
  | lift b u hb _ hu htop =>
    exact h.lowers.le_of_belowTop (RoundingMode.isMultiple_snap? hu) h.lifted_le_raised (belowTop_of_mem hb htop)

/-- A price between a price and the outcome of its passage has the same outcome. -/
theorem Passage.between (h : g.Passage price n l m y) (hwithin : g.BelowTop price'.toRat)
    (hbetween : (y ≤ price'.toRat ∧ price' ≤ price) ∨ (price ≤ price' ∧ price'.toRat ≤ y)) :
    ∃ n' l' m', g.Passage price' n' l' m' y := by
  obtain ⟨d, hd, rfl⟩ := h.nearest
  obtain ⟨e, rfl⟩ := h.exists_decimal
  obtain ⟨f, hf, hfe⟩ := RoundingMode.exists_snap?_of_isMultiple .halfAway h.isMultiple
  rcases hbetween with ⟨hlow, hhigh⟩ | ⟨hlow, hhigh⟩
  · obtain ⟨d', hd', hy, hle⟩ :=
      RoundingMode.exists_snap?_between hf hd (Decimal.le_iff_toRat.mpr hlow) hhigh
    rw [hfe] at hy
    have hmul := RoundingMode.isMultiple_snap? hd'
    obtain ⟨l', hl', hle⟩ := h.lifts.exists_of_le h.isMultiple_nearest hmul hle
    have hy := hy.trans (hl'.le hmul)
    have hmul := hl'.isMultiple hmul
    obtain ⟨m', hm', hle⟩ := h.raises.exists_of_le h.lowers hy hle
    have hy := hy.trans (hm'.le hmul)
    have hmul := hm'.isMultiple hmul
    exact ⟨d'.toRat, l', m', hwithin, ⟨d', hd', rfl⟩, hl', hm', h.lowers.of_between hmul hy hle⟩
  · obtain ⟨d', hd', hle, hy⟩ :=
      RoundingMode.exists_snap?_between hd hf hlow (Decimal.le_iff_toRat.mpr hhigh)
    rw [hfe] at hy
    have hmul := RoundingMode.isMultiple_snap? hd'
    obtain ⟨l', hl', hle, hy⟩ := h.lifts.exists_of_ge hmul hle hy (h.lifted_le (hle.trans hy))
    have hmul := hl'.isMultiple hmul
    obtain ⟨m', hm', hle, hy⟩ := h.raises.exists_of_ge h.lowers hmul hle hy
    obtain rfl := le_antisymm hle (hy.trans h.le_raised)
    exact ⟨d'.toRat, l', m, hwithin, ⟨d', hd', rfl⟩, hl', hm', h.lowers⟩

end Between

section Unstepped

variable {price : Decimal} {x y : Rat}

/-- Without a step a restrained price stays as it is, and is refused only for a floor above the band. -/
theorem exists_passage_iff_of_unstepped (hm : g.mode.step = none) (hx : price.toRat = g.restrain x) :
    (∃ n l m, g.Passage price n l m y) ↔ g.BelowTop g.floor.toRat ∧ y = price.toRat := by
  have hsnap (rule : Rounding) (v : Decimal) : g.mode.snap? rule v = some v :=
    RoundingMode.snap?_of_unstepped hm
  have hfloor : g.floor.toRat ≤ price.toRat := by
    rw [hx]
    exact g.floor_le_restrain x
  constructor
  · rintro ⟨n, l, m, h⟩
    have htop := h.within
    refine ⟨htop.mono hfloor, ?_⟩
    obtain ⟨d, hd, rfl⟩ := h.nearest
    obtain rfl : price = d := Option.some.inj ((hsnap _ _).symm.trans hd)
    have hl : l = price.toRat := by
      cases h.lifts with
      | keep => rfl
      | giveUp => rfl
      | lift b u hb hlt hu hle =>
        obtain rfl : b.lower = u := Option.some.inj ((hsnap _ _).symm.trans hu)
        have hturned := eq_upper_of_restrain_lt hb (hx ▸ hlt)
        linarith [hturned.1]
    subst hl
    have hm : m = price.toRat := by
      cases h.raises with
      | keep => rfl
      | raise u hlt => linarith
    subst hm
    cases h.lowers with
    | keep => rfl
    | lower b u hb hlt => linarith [htop b hb]
  · rintro ⟨hunder, rfl⟩
    have htop : g.BelowTop price.toRat := by
      rw [hx]
      exact belowTop_restrain_iff.mpr hunder
    refine ⟨price.toRat, price.toRat, price.toRat, htop, ⟨price, hsnap _ _, rfl⟩, ?_, .keep hfloor, .keep htop⟩
    by_cases habove : g.AboveBottom price.toRat
    · exact .keep habove
    · obtain ⟨b, hb, hlt⟩ := exists_of_not_aboveBottom habove
      exact .giveUp b b.lower hb hlt (hsnap _ _) (eq_upper_of_restrain_lt hb (hx ▸ hlt)).1

end Unstepped

end Limits

end Repricing
