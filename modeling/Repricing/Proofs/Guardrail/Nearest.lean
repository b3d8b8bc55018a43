import Repricing.Proofs.Guardrail.Steps

namespace Repricing

/-- The member of `s` that is closest to `x`; of two at the same distance, the one farther from zero. -/
def IsClosest (s : Set Rat) (x y : Rat) : Prop :=
  y ∈ s ∧ ∀ z ∈ s, |y - x| ≤ |z - x| ∧ (|z - x| = |y - x| → |z| ≤ |y|)

theorem IsClosest.of_isLeast {s : Set Rat} {x y : Rat} (h : IsLeast s y) (hx : x ≤ y) : IsClosest s x y := by
  refine ⟨h.1, fun z hz => ?_⟩
  have hle : y ≤ z := h.2 hz
  rw [abs_of_nonneg (by linarith : 0 ≤ y - x), abs_of_nonneg (by linarith : 0 ≤ z - x)]
  refine ⟨by linarith, fun heq => ?_⟩
  rw [sub_left_inj.mp heq]

theorem IsClosest.of_isGreatest {s : Set Rat} {x y : Rat} (h : IsGreatest s y) (hx : y ≤ x) : IsClosest s x y := by
  refine ⟨h.1, fun z hz => ?_⟩
  have hle : z ≤ y := h.2 hz
  rw [abs_of_nonpos (by linarith : y - x ≤ 0), abs_of_nonpos (by linarith : z - x ≤ 0)]
  refine ⟨by linarith, fun heq => ?_⟩
  rw [sub_left_inj.mp (neg_inj.mp heq)]

namespace Limits

/-- The multiples in the band that are not below the floor. -/
def safe (g : Limits) : Set Rat :=
  {x | g.mode.IsMultiple x ∧ g.floor.toRat ≤ x ∧ g.AboveBottom x ∧ g.BelowTop x}

variable {g : Limits} {price : Decimal} {a x n l m y : Rat}

/-- Restraining moves a value towards every safe one. -/
theorem abs_sub_eq_add (ha : a ∈ g.safe) (x : Rat) :
    |a - x| = |a - g.restrain x| + |g.restrain x - x| := by
  obtain ⟨-, hfloor, hlow, htop⟩ := ha
  have hbetween : (x ≤ g.restrain x ∧ g.restrain x ≤ a) ∨ (a ≤ g.restrain x ∧ g.restrain x ≤ x) := by
    unfold restrain clamp
    cases hband : g.band with
    | none => grind
    | some b =>
      have hlow := hlow b hband
      have htop := htop b hband
      grind
  rcases hbetween with ⟨h1, h2⟩ | ⟨h1, h2⟩
  · rw [abs_of_nonneg (by linarith : 0 ≤ a - x), abs_of_nonneg (by linarith : 0 ≤ a - g.restrain x),
      abs_of_nonneg (by linarith : 0 ≤ g.restrain x - x)]
    linarith
  · rw [abs_of_nonpos (by linarith : a - x ≤ 0), abs_of_nonpos (by linarith : a - g.restrain x ≤ 0),
      abs_of_nonpos (by linarith : g.restrain x - x ≤ 0)]
    linarith

/-- What is closest to the restrained value is closest to the value itself. -/
theorem isClosest_of_restrain (h : IsClosest g.safe (g.restrain x) y) : IsClosest g.safe x y := by
  refine ⟨h.1, fun z hz => ?_⟩
  obtain ⟨hle, htie⟩ := h.2 z hz
  rw [abs_sub_eq_add h.1 x, abs_sub_eq_add hz x, add_left_inj]
  exact ⟨by linarith, htie⟩

/-- The snaps that a passage asks for lead to the multiples that they stand for. -/
structure Snaps (g : Limits) (price : Decimal) (n l m : Rat) : Prop where
  nearest : ∀ z, g.mode.IsMultiple z → |n - price.toRat| ≤ |z - price.toRat|
  lower : ∀ b ∈ g.band, n < b.lower.toRat → ∀ d, g.mode.snapUp? b.lower = some d →
    IsLeast {z | g.mode.IsMultiple z ∧ b.lower.toRat ≤ z} d.toRat
  floor : l < g.floor.toRat → ∀ d, g.mode.snapUp? g.floor = some d →
    IsLeast {z | g.mode.IsMultiple z ∧ g.floor.toRat ≤ z} d.toRat
  upper : ∀ b ∈ g.band, b.upper.toRat < m → ∀ d, g.mode.snapDown? b.upper = some d →
    IsGreatest {z | g.mode.IsMultiple z ∧ z ≤ b.upper.toRat} d.toRat

/-- On the far side of the nearest multiple, a multiple is beyond the price. -/
theorem Snaps.lt_of_lt (s : g.Snaps price n l m) (hx : g.mode.IsMultiple x) (h : n < x) : price.toRat < x := by
  by_contra hle
  have hnear := s.nearest x hx
  rw [abs_of_nonpos (by linarith : n - price.toRat ≤ 0), abs_of_nonpos (by linarith : x - price.toRat ≤ 0)] at hnear
  linarith

theorem Snaps.gt_of_gt (s : g.Snaps price n l m) (hx : g.mode.IsMultiple x) (h : x < n) : x < price.toRat := by
  by_contra hle
  have hnear := s.nearest x hx
  rw [abs_of_nonneg (by linarith : 0 ≤ n - price.toRat), abs_of_nonneg (by linarith : 0 ≤ x - price.toRat)] at hnear
  linarith

/-- If there is a safe multiple, the repair of the lower bound succeeds. -/
theorem Passage.lifted_spec (h : g.Passage price n l m y) (s : g.Snaps price n l m) (ha : a ∈ g.safe) :
    g.AboveBottom l ∧ (l = n ∨ (price.toRat < l ∧ ∀ z ∈ g.safe, l ≤ z)) := by
  have hl := h.isMultiple_lifted
  obtain ⟨hmul, -, hlow, htop⟩ := ha
  cases h.lifts with
  | keep habove => exact ⟨habove, .inl rfl⟩
  | giveUp b d hb _ hd hover => linarith [htop b hb, RoundingMode.snap?_le hd hmul (hlow b hb)]
  | lift b d hb hlt hd _ =>
    obtain ⟨⟨-, hle⟩, hleast⟩ := s.lower b hb hlt d hd
    refine ⟨aboveBottom_of_mem hb hle, .inr ⟨s.lt_of_lt hl (by linarith), fun z hz => ?_⟩⟩
    exact hleast ⟨hz.1, hz.2.2.1 b hb⟩

theorem Passage.floor_le_raised (h : g.Passage price n l m y) (s : g.Snaps price n l m) : g.floor.toRat ≤ m := by
  cases h.raises with
  | keep hfloor => exact hfloor
  | raise d hlt hd _ => exact (s.floor hlt d hd).1.2

theorem Passage.raised_spec (h : g.Passage price n l m y) (s : g.Snaps price n l m) (ha : a ∈ g.safe) :
    g.AboveBottom m ∧ (m = n ∨ (price.toRat < m ∧ ∀ z ∈ g.safe, m ≤ z)) := by
  obtain ⟨habove, hl⟩ := h.lifted_spec s ha
  have hm := h.isMultiple_raised
  have hn := h.nearest_le_lifted
  have hle := h.lifted_le_raised
  cases h.raises with
  | keep => exact ⟨habove, hl⟩
  | raise d hlt hd _ =>
    obtain ⟨⟨-, hfloor⟩, hleast⟩ := s.floor hlt d hd
    refine ⟨habove.mono hle, .inr ⟨s.lt_of_lt hm (by linarith), fun z hz => ?_⟩⟩
    exact hleast ⟨hz.1, hz.2.1⟩

theorem Passage.isClosest (h : g.Passage price n l m y) (s : g.Snaps price n l m)
    (htie : ∀ z, g.mode.IsMultiple z → |z - price.toRat| = |n - price.toRat| → |z| ≤ |n|)
    (hsafe : g.safe.Nonempty) : IsClosest g.safe price.toRat y := by
  obtain ⟨a, ha⟩ := hsafe
  obtain ⟨habove, hm⟩ := h.raised_spec s ha
  have hfloor := h.floor_le_raised s
  have hmul := h.isMultiple_raised
  cases h.lowers with
  | keep htop =>
    have hmem : m ∈ g.safe := ⟨hmul, hfloor, habove, htop⟩
    rcases hm with rfl | ⟨hlt, hleast⟩
    · exact ⟨hmem, fun z hz => ⟨s.nearest z hz.1, htie z hz.1⟩⟩
    · exact .of_isLeast ⟨hmem, hleast⟩ hlt.le
  | lower b d hb hlt hd _ hf =>
    obtain ⟨⟨hmul, htop⟩, hgreatest⟩ := s.upper b hb hlt d hd
    have hmem : d.toRat ∈ g.safe :=
      ⟨hmul, hf, ha.2.2.1.mono (hgreatest ⟨ha.1, ha.2.2.2 b hb⟩), belowTop_of_mem hb htop⟩
    refine .of_isGreatest ⟨hmem, fun z hz => hgreatest ⟨hz.1, hz.2.2.2 b hb⟩⟩ ?_
    -- The price was snapped over the top, so the multiple below the top is below the price.
    rcases hm with rfl | ⟨-, hleast⟩
    · exact (s.gt_of_gt hmul (by linarith)).le
    · linarith [hleast a ha, ha.2.2.2 b hb]

theorem Passage.isGreatest (h : g.Passage price n l m y) (s : g.Snaps price n l m)
    (hx : price.toRat = g.restrain x) (hsafe : g.safe = ∅) :
    ∃ b ∈ g.band, IsGreatest {z | g.mode.IsMultiple z ∧ z ≤ b.upper.toRat} y := by
  have hnone (z : Rat) : z ∉ g.safe := by simp [hsafe]
  have hfloor := h.floor_le_raised s
  have hn := h.nearest_le_lifted
  have hle := h.lifted_le_raised
  have hmul := h.isMultiple_raised
  cases h.lowers with
  | lower b d hb hlt hd _ _ => exact ⟨b, hb, s.upper b hb hlt d hd⟩
  | keep htop =>
    have habove : ¬g.AboveBottom m := fun habove => hnone m ⟨hmul, hfloor, habove, htop⟩
    obtain ⟨b, hb, hlow⟩ := exists_of_not_aboveBottom habove
    refine ⟨b, hb, ⟨hmul, htop b hb⟩, ?_⟩
    rintro z ⟨hz, hzb⟩
    by_contra hlt
    rw [not_le] at hlt
    -- A multiple between the outcome and the top of the band would be safe, or nearer to the price.
    have hpz : price.toRat < z := s.lt_of_lt hz (by linarith)
    have hbottom : b.lower.toRat ≤ price.toRat := by
      by_contra hout
      rw [not_le, hx] at hout
      have hturned := eq_upper_of_restrain_lt hb hout
      linarith [hturned.2]
    exact hnone z ⟨hz, by linarith, aboveBottom_of_mem hb (by linarith), belowTop_of_mem hb hzb⟩

end Limits

/-- Every snap that is asked for on the way of a restrained candidate leads to the multiple that it stands for: the
nearest one, the least one that is not below, or the greatest one that is not above. -/
structure SnapsHold (g : Limits) (c : Candidate) : Prop where
  nearest : ∀ d, g.mode.snapNearest? c.price = some d →
    ∀ z, g.mode.IsMultiple z → |d.toRat - c.price.toRat| ≤ |z - c.price.toRat|
  lower : ∀ c', c.round g.mode = .ok c' → ∀ b ∈ g.band, c'.price < b.lower →
    ∀ d, g.mode.snapUp? b.lower = some d → IsLeast {z | g.mode.IsMultiple z ∧ b.lower.toRat ≤ z} d.toRat
  floor : ∀ c', c.lifted g = .ok c' → c'.price < g.floor →
    ∀ d, g.mode.snapUp? g.floor = some d → IsLeast {z | g.mode.IsMultiple z ∧ g.floor.toRat ≤ z} d.toRat
  upper : ∀ c', c.raised g = .ok c' → ∀ b ∈ g.band, b.upper < c'.price →
    ∀ d, g.mode.snapDown? b.upper = some d → IsGreatest {z | g.mode.IsMultiple z ∧ z ≤ b.upper.toRat} d.toRat

theorem SnapsHold.snaps {g : Limits} {c : Candidate} {n l m y : Rat} (hs : SnapsHold g c)
    (h : g.Passage c.price n l m y) : g.Snaps c.price n l m := by
  obtain ⟨c₁, hc₁, hn⟩ := Candidate.yields_round_iff.mpr h.nearest
  obtain ⟨c₂, hc₂, hl⟩ := Candidate.yields_lifted_iff.mpr ⟨n, h.nearest, h.lifts⟩
  obtain ⟨c₃, hc₃, hm⟩ := Candidate.yields_raised_iff.mpr ⟨l, ⟨c₂, hc₂, hl⟩, h.raises⟩
  subst hn hl hm
  obtain ⟨d, hd, hdn⟩ := h.nearest
  refine ⟨?_, ?_, ?_, ?_⟩
  · rw [← hdn]
    exact hs.nearest d hd
  · intro b hb hlt
    exact hs.lower c₁ hc₁ b hb (Decimal.lt_iff_toRat.mpr hlt)
  · intro hlt
    exact hs.floor c₂ hc₂ (Decimal.lt_iff_toRat.mpr hlt)
  · intro b hb hlt
    exact hs.upper c₃ hc₃ b hb (Decimal.lt_iff_toRat.mpr hlt)

/-- The snaps hold wherever the quotients by the step have decimals. -/
theorem snapsHold_of_exact {g : Limits} {c : Candidate} {step : Decimal} (hm : g.mode.step = some step)
    (hprice : ∃ e : Decimal, e.toRat = c.price.toRat / step.toRat)
    (hfloor : ∃ e : Decimal, e.toRat = g.floor.toRat / step.toRat)
    (hband : ∀ b ∈ g.band, (∃ e : Decimal, e.toRat = b.lower.toRat / step.toRat) ∧
      ∃ e : Decimal, e.toRat = b.upper.toRat / step.toRat) : SnapsHold g c where
  nearest d hd z hz := by
    obtain ⟨e, he⟩ := hprice
    exact RoundingMode.abs_snapNearest?_sub_le hm he hd hz
  lower _ _ b hb _ d hd := by
    obtain ⟨⟨e, he⟩, -⟩ := hband b hb
    exact RoundingMode.isLeast_snapUp? hm he hd
  floor _ _ _ d hd := by
    obtain ⟨e, he⟩ := hfloor
    exact RoundingMode.isLeast_snapUp? hm he hd
  upper _ _ b hb _ d hd := by
    obtain ⟨-, e, he⟩ := hband b hb
    exact RoundingMode.isGreatest_snapDown? hm he hd

/-- With a step, the approved price is the safe multiple closest to the suggestion, and the greatest one in or below
the band if none is safe. -/
theorem approved_closest (cost currentPrice suggestedPrice step : Decimal) (policy : Policy) (g : Limits)
    (hg : g.Of cost currentPrice policy) (hstep : policy.roundingMode.step = some step)
    (hsnaps : SnapsHold g (Candidate.start g policy suggestedPrice))
    (hok : (enforce cost currentPrice suggestedPrice policy).isOk = true) :
    let result := enforce cost currentPrice suggestedPrice policy
    (g.safe.Nonempty →
      IsClosest g.safe result.suggestedPriceOriginal.toRat result.suggestedPriceFinal.toRat) ∧
    (g.safe = ∅ → ∃ b ∈ g.band,
      IsGreatest {z | g.mode.IsMultiple z ∧ z ≤ b.upper.toRat} result.suggestedPriceFinal.toRat) := by
  intro result
  obtain ⟨n, l, m, y, h⟩ := exists_passage_of_isOk hg hok
  have hm : g.mode.step = some step := hg.mode ▸ hstep
  have hstart := Candidate.toRat_start g policy suggestedPrice
  have hs := hsnaps.snaps h
  have horiginal : result.suggestedPriceOriginal = suggestedPrice.toCents := by
    simp only [result, enforce]
    split <;> rfl
  rw [horiginal, toRat_suggestedPriceFinal hg hm h]
  refine ⟨fun hsafe => ?_, h.isGreatest hs hstart⟩
  have htie (z : Rat) (hz : g.mode.IsMultiple z)
      (heq : |z - (Candidate.start g policy suggestedPrice).price.toRat| =
        |n - (Candidate.start g policy suggestedPrice).price.toRat|) : |z| ≤ |n| := by
    obtain ⟨d, hd, rfl⟩ := h.nearest
    exact RoundingMode.abs_le_of_tie hm hd hz heq
  have hclosest := h.isClosest hs htie hsafe
  rw [hstart] at hclosest
  exact Limits.isClosest_of_restrain hclosest

/-- A suggestion of 50 is clamped to 86.40 and snapped to 85, below the band; 90 is the safe multiple closest to it. -/
theorem approved_closest_ninety :
    let policy : Policy := ⟨.ten, .ten, .nearest5⟩
    let g : Limits := ⟨some ⟨⟨8640, 2, by decide, by decide⟩, ⟨10560, 2, by decide, by decide⟩⟩, .ofNat 9,
      ⟨10, 0, by decide, by decide⟩, .nearest5⟩
    let result := enforce (.ofNat 9) (.ofNat 96) (.ofNat 50) policy
    g.Of (.ofNat 9) (.ofNat 96) policy ∧ policy.roundingMode.step = some .five ∧
      SnapsHold g (Candidate.start g policy (.ofNat 50)) ∧ result.isOk = true ∧
      result.suggestedPriceFinal.SameValue (.ofNat 90) ∧
      (g.safe.Nonempty →
        IsClosest g.safe result.suggestedPriceOriginal.toRat result.suggestedPriceFinal.toRat) ∧
      (g.safe = ∅ → ∃ b ∈ g.band,
        IsGreatest {z | g.mode.IsMultiple z ∧ z ≤ b.upper.toRat} result.suggestedPriceFinal.toRat) := by
  intro policy g result
  have hg : g.Of (.ofNat 9) (.ofNat 96) policy := ⟨by decide +kernel, by decide +kernel, rfl, rfl⟩
  have hsnaps : SnapsHold g (Candidate.start g policy (.ofNat 50)) := by
    have hm : g.mode.step = some .five := rfl
    refine snapsHold_of_exact hm ⟨⟨1728, 2, by decide, by decide⟩, by decide +kernel⟩
      ⟨⟨2, 0, by decide, by decide⟩, by decide +kernel⟩ ?_
    intro b hb
    obtain rfl := Option.mem_some.mp hb
    exact ⟨⟨⟨1728, 2, by decide, by decide⟩, by decide +kernel⟩, ⟨⟨2112, 2, by decide, by decide⟩, by decide +kernel⟩⟩
  have hok : result.isOk = true := by decide +kernel
  exact ⟨hg, rfl, hsnaps, hok, by decide +kernel, approved_closest _ _ _ _ policy g hg rfl hsnaps hok⟩

end Repricing
