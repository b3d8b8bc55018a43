import Repricing.Guardrail.Enforce
import Repricing.Proofs.Guardrail.Limits

namespace Repricing

/-- The limits that a policy sets at a cost and a current price. -/
structure Limits.Of (g : Limits) (cost currentPrice : Decimal) (policy : Policy) : Prop where
  band : Band.around currentPrice policy.maxChangePct = .ok g.band
  floor : minPriceForMargin? cost policy.minMarginPct = some g.floor
  cost : g.cost = cost
  mode : g.mode = policy.roundingMode

namespace Candidate

/-- The outcome is a price of the value `y`. -/
def Yields (o : Except Blocked Candidate) (y : Rat) : Prop := ∃ c, o = .ok c ∧ c.price.toRat = y

/-- The outcome, if it is blocked, is so for want of a decimal or for a reason that the limits give. -/
def Justified (g : Limits) (o : Except Blocked Candidate) : Prop :=
  ∀ e, o = .error e → e.reason = .outOfRange ∨ g.Refuses e.reason

variable {g : Limits} {c : Candidate} {o : Except Blocked Candidate} {f : Candidate → Except Blocked Candidate}
  {y : Rat}

@[simp] theorem yields_ok : Yields (.ok c) y ↔ c.price.toRat = y := by simp [Yields]

@[simp] theorem not_yields_block {r : BlockReason} : ¬Yields (c.block r) y := by simp [Yields, block]

@[simp] theorem justified_ok : Justified g (.ok c) := by simp [Justified]

theorem justified_block {r : BlockReason} (h : r = .outOfRange ∨ g.Refuses r) : Justified g (c.block r) := by
  intro e he
  cases he
  exact h

theorem yields_bind {R : Rat → Prop} (hf : ∀ d, Yields (f d) y ↔ R d.price.toRat) :
    Yields (o >>= f) y ↔ ∃ x, Yields o x ∧ R x := by
  cases o with
  | error e => simp [Yields, bind, Except.bind]
  | ok d =>
    change Yields (f d) y ↔ _
    simp [hf]

theorem Justified.bind (ho : Justified g o) (hf : ∀ d, Justified g (f d)) : Justified g (o >>= f) := by
  cases o with
  | error e => exact ho
  | ok d => exact hf d

theorem yields_withPrice {p : Option Decimal} {next : Decimal → Except Blocked Candidate} :
    Yields (c.withPrice p next) y ↔ ∃ d, p = some d ∧ Yields (next d) y := by
  cases p <;> simp [withPrice]

theorem justified_withPrice {p : Option Decimal} {next : Decimal → Except Blocked Candidate}
    (h : ∀ d, p = some d → Justified g (next d)) : Justified g (c.withPrice p next) := by
  cases p with
  | none => exact justified_block (.inl rfl)
  | some d => exact h d rfl

section Steps

theorem toRat_clampToBand (c : Candidate) (g : Limits) (pct : Decimal) :
    (c.clampToBand g.band pct).price.toRat = g.clamp c.price.toRat := by
  unfold clampToBand Limits.clamp
  cases g.band with
  | none => rfl
  | some b =>
    have hclamp : (b.clamp c.price).toRat = min (max c.price.toRat b.lower.toRat) b.upper.toRat := by
      rw [Band.clamp, Decimal.toRat_min, Decimal.toRat_max]
    dsimp only
    split_ifs with hsame
    · rw [← hclamp, Decimal.sameValue_iff_toRat.mp hsame]
    · exact hclamp

theorem toRat_raiseToFloor (c : Candidate) (floor pct : Decimal) :
    (c.raiseToFloor floor pct).price.toRat = max c.price.toRat floor.toRat := by
  unfold raiseToFloor
  split_ifs with hlt
  · rw [max_eq_right (Decimal.lt_iff_toRat.mp hlt).le]
    rfl
  · rw [Decimal.not_lt_iff_toRat] at hlt
    rw [max_eq_left hlt]

/-- The candidate in the band and above the floor, as it is snapped. -/
def restrain (g : Limits) (policy : Policy) (c : Candidate) : Candidate :=
  (c.clampToBand g.band policy.maxChangePct).raiseToFloor g.floor policy.minMarginPct

theorem toRat_restrain (g : Limits) (policy : Policy) (c : Candidate) :
    (c.restrain g policy).price.toRat = g.restrain c.price.toRat := by
  rw [restrain, toRat_raiseToFloor, toRat_clampToBand, Limits.restrain]

theorem ensureWithinBand_eq_ok_iff {d : Candidate} :
    c.ensureWithinBand g.band = .ok d ↔ d = c ∧ g.BelowTop c.price.toRat := by
  unfold ensureWithinBand Limits.BelowTop
  cases g.band with
  | none => simp [eq_comm]
  | some b =>
    dsimp only
    split_ifs with hlt
    · have htop : ¬c.price.toRat ≤ b.upper.toRat := not_le.mpr (Decimal.lt_iff_toRat.mp hlt)
      simp [block, htop]
    · rw [Decimal.not_lt_iff_toRat] at hlt
      simp [hlt, eq_comm]

theorem yields_round_iff {n : Rat} :
    Yields (c.round g.mode) n ↔ ∃ d, g.mode.snapNearest? c.price = some d ∧ d.toRat = n := by
  unfold round
  rw [yields_withPrice]
  refine exists_congr fun d => and_congr_right fun _ => ?_
  rw [yields_ok]
  split_ifs with hsame
  · rw [Decimal.sameValue_iff_toRat.mp hsame]
  · rfl

theorem repairLowerBound_of_aboveBottom (h : g.AboveBottom c.price.toRat) :
    c.repairLowerBound g.band g.mode = .ok c := by
  unfold repairLowerBound
  split
  · rfl
  · rename_i b hb
    rw [if_pos (Decimal.le_iff_toRat.mpr (h b hb))]

theorem repairLowerBound_of_lt {b : Band} (hb : b ∈ g.band) (hlt : c.price.toRat < b.lower.toRat) :
    c.repairLowerBound g.band g.mode = c.withPrice (g.mode.snapUp? b.lower) fun repaired =>
      .ok (if repaired ≤ b.upper then c.moveTo .lowerBoundAfterRounding repaired else c) := by
  have hband : g.band = some b := hb
  simp only [repairLowerBound, hband]
  rw [if_neg (Decimal.not_le_iff_toRat.mpr hlt)]

theorem yields_repairLowerBound_iff {l : Rat} :
    Yields (c.repairLowerBound g.band g.mode) l ↔ g.Lifts c.price.toRat l := by
  by_cases habove : g.AboveBottom c.price.toRat
  · rw [repairLowerBound_of_aboveBottom habove, yields_ok]
    constructor
    · rintro rfl
      exact .keep habove
    · intro h
      cases h with
      | keep => rfl
      | giveUp b _ hb hlt => linarith [habove b hb]
      | lift b _ hb hlt => linarith [habove b hb]
  · obtain ⟨b, hb, hlt⟩ := Limits.exists_of_not_aboveBottom habove
    rw [repairLowerBound_of_lt hb hlt, yields_withPrice]
    constructor
    · rintro ⟨m, hm, h⟩
      rw [yields_ok] at h
      split_ifs at h with htop
      · subst h
        exact .lift b m hb hlt hm (Decimal.le_iff_toRat.mp htop)
      · subst h
        exact .giveUp b m hb hlt hm (Decimal.not_le_iff_toRat.mp htop)
    · intro h
      cases h with
      | keep hkeep => exact absurd hkeep habove
      | giveUp b' m hb' _ hm htop =>
        obtain rfl := Option.mem_unique hb hb'
        refine ⟨m, hm, ?_⟩
        rw [if_neg (Decimal.not_le_iff_toRat.mpr htop), yields_ok]
      | lift b' m hb' _ hm htop =>
        obtain rfl := Option.mem_unique hb hb'
        refine ⟨m, hm, ?_⟩
        rw [if_pos (Decimal.le_iff_toRat.mpr htop), yields_ok]
        rfl

theorem yields_repairMargin_iff {m : Rat} :
    Yields (c.repairMargin g.floor g.band g.mode) m ↔ g.Raises c.price.toRat m := by
  unfold repairMargin
  split_ifs with hfloor
  · rw [Decimal.le_iff_toRat] at hfloor
    rw [yields_ok]
    constructor
    · rintro rfl
      exact .keep hfloor
    · intro h
      cases h with
      | keep => rfl
      | raise d hlt => linarith
  · rw [Decimal.not_le_iff_toRat] at hfloor
    rw [yields_withPrice]
    constructor
    · rintro ⟨d, hd, h⟩
      split at h
      · rename_i b hb
        split_ifs at h with hlt
        · exact absurd h not_yields_block
        · rw [yields_ok] at h
          subst h
          exact .raise d hfloor hd (Limits.belowTop_of_mem hb (Decimal.not_lt_iff_toRat.mp hlt))
      · rename_i hband
        rw [yields_ok] at h
        subst h
        exact .raise d hfloor hd (Limits.belowTop_of_eq_none hband)
    · intro h
      cases h with
      | keep hle => linarith
      | raise d _ hd htop =>
        refine ⟨d, hd, ?_⟩
        split
        · rename_i b hb
          rw [if_neg (by rw [Decimal.not_lt_iff_toRat]; exact htop b hb), yields_ok]
          rfl
        · rw [yields_ok]
          rfl

theorem repairUpperBound_of_belowTop (h : g.BelowTop c.price.toRat) :
    c.repairUpperBound g.band g.cost g.floor g.mode = .ok c := by
  unfold repairUpperBound
  split
  · rfl
  · rename_i b hb
    rw [if_pos (Decimal.le_iff_toRat.mpr (h b hb))]

theorem repairUpperBound_of_lt {b : Band} (hb : b ∈ g.band) (hlt : b.upper.toRat < c.price.toRat) :
    c.repairUpperBound g.band g.cost g.floor g.mode =
      c.withPrice (g.mode.snapDown? b.upper) fun repaired =>
        if repaired < g.cost ∨ repaired < g.floor then c.block .maxChangeAfterRounding
        else .ok (c.moveTo .upperBoundAfterRounding repaired) := by
  have hband : g.band = some b := hb
  simp only [repairUpperBound, hband]
  rw [if_neg (Decimal.not_le_iff_toRat.mpr hlt)]

theorem yields_repairUpperBound_iff :
    Yields (c.repairUpperBound g.band g.cost g.floor g.mode) y ↔ g.Lowers c.price.toRat y := by
  by_cases htop : g.BelowTop c.price.toRat
  · rw [repairUpperBound_of_belowTop htop, yields_ok]
    constructor
    · rintro rfl
      exact .keep htop
    · intro h
      cases h with
      | keep => rfl
      | lower b _ hb hlt => linarith [htop b hb]
  · obtain ⟨b, hb, hlt⟩ := Limits.exists_of_not_belowTop htop
    rw [repairUpperBound_of_lt hb hlt, yields_withPrice]
    constructor
    · rintro ⟨d, hd, h⟩
      split_ifs at h with hlow
      · exact absurd h not_yields_block
      · rw [yields_ok] at h
        subst h
        rw [not_or, Decimal.not_lt_iff_toRat, Decimal.not_lt_iff_toRat] at hlow
        exact .lower b d hb hlt hd hlow.1 hlow.2
    · intro h
      cases h with
      | keep hkeep => exact absurd hkeep htop
      | lower b' d hb' _ hd hc hf =>
        obtain rfl := Option.mem_unique hb hb'
        have hlow : ¬(d < g.cost ∨ d < g.floor) := by
          rw [not_or, Decimal.not_lt_iff_toRat, Decimal.not_lt_iff_toRat]
          exact ⟨hc, hf⟩
        refine ⟨d, hd, ?_⟩
        rw [if_neg hlow, yields_ok]
        rfl

end Steps

section Blocks

/-- The band holds every restrained price, unless the floor is above it. -/
theorem justified_ensureWithinBand {x : Rat} (hx : c.price.toRat = g.restrain x) :
    Justified g (c.ensureWithinBand g.band) := by
  unfold ensureWithinBand
  split
  · rename_i b hb
    split_ifs with hlt
    · refine justified_block (.inr (.floorAbove b hb ?_))
      by_contra hle
      have hfloor := Limits.belowTop_of_mem hb (Decimal.not_lt_iff_toRat.mp hle)
      have htop : g.BelowTop (g.restrain x) := Limits.belowTop_restrain_iff.mpr hfloor
      rw [Decimal.lt_iff_toRat, hx] at hlt
      exact absurd (htop b hb) (not_le.mpr hlt)
    · exact justified_ok
  · exact justified_ok

theorem justified_round : Justified g (c.round g.mode) := justified_withPrice fun _ _ => justified_ok

theorem justified_repairLowerBound : Justified g (c.repairLowerBound g.band g.mode) := by
  by_cases habove : g.AboveBottom c.price.toRat
  · rw [repairLowerBound_of_aboveBottom habove]
    exact justified_ok
  · obtain ⟨b, hb, hlt⟩ := Limits.exists_of_not_aboveBottom habove
    rw [repairLowerBound_of_lt hb hlt]
    exact justified_withPrice fun _ _ => justified_ok

theorem justified_repairMargin : Justified g (c.repairMargin g.floor g.band g.mode) := by
  unfold repairMargin
  split_ifs
  · exact justified_ok
  · refine justified_withPrice fun d hd => ?_
    split
    · rename_i b hb
      split_ifs with hlt
      · exact justified_block (.inr (.multipleAbove b d hb hd hlt))
      · exact justified_ok
    · exact justified_ok

theorem justified_repairUpperBound : Justified g (c.repairUpperBound g.band g.cost g.floor g.mode) := by
  by_cases htop : g.BelowTop c.price.toRat
  · rw [repairUpperBound_of_belowTop htop]
    exact justified_ok
  · obtain ⟨b, hb, hlt⟩ := Limits.exists_of_not_belowTop htop
    rw [repairUpperBound_of_lt hb hlt]
    refine justified_withPrice fun d hd => ?_
    split_ifs with hlow
    · exact justified_block (.inr (.multipleBelow b d hb hd hlow))
    · exact justified_ok

end Blocks

section Guard

/-- The candidate at its nearest multiple, after the repair of the lower bound. -/
def lifted (g : Limits) (c : Candidate) : Except Blocked Candidate :=
  c.round g.mode >>= fun c => c.repairLowerBound g.band g.mode

def raised (g : Limits) (c : Candidate) : Except Blocked Candidate :=
  c.lifted g >>= fun c => c.repairMargin g.floor g.band g.mode

def lowered (g : Limits) (c : Candidate) : Except Blocked Candidate :=
  c.raised g >>= fun c => c.repairUpperBound g.band g.cost g.floor g.mode

theorem yields_lifted_iff {l : Rat} : Yields (c.lifted g) l ↔
    ∃ n, (∃ d, g.mode.snapNearest? c.price = some d ∧ d.toRat = n) ∧ g.Lifts n l := by
  rw [lifted, yields_bind (R := fun n => g.Lifts n l) fun _ => yields_repairLowerBound_iff]
  simp only [yields_round_iff]

theorem yields_raised_iff {m : Rat} :
    Yields (c.raised g) m ↔ ∃ l, Yields (c.lifted g) l ∧ g.Raises l m := by
  rw [raised, yields_bind (R := fun l => g.Raises l m) fun _ => yields_repairMargin_iff]

theorem yields_lowered_iff : Yields (c.lowered g) y ↔ ∃ m, Yields (c.raised g) m ∧ g.Lowers m y := by
  rw [lowered, yields_bind (R := fun m => g.Lowers m y) fun _ => yields_repairUpperBound_iff]

theorem justified_lowered : Justified g (c.lowered g) := by
  have hlifted : Justified g (c.lifted g) := justified_round.bind fun _ => justified_repairLowerBound
  have hraised : Justified g (c.raised g) := hlifted.bind fun _ => justified_repairMargin
  exact hraised.bind fun _ => justified_repairUpperBound

variable {cost currentPrice : Decimal} {policy : Policy}

theorem guard_eq (hg : g.Of cost currentPrice policy) (c : Candidate) :
    c.guard cost currentPrice policy = (c.restrain g policy).ensureWithinBand g.band >>= lowered g := by
  obtain ⟨hband, hfloor, rfl, hmode⟩ := hg
  simp only [guard, hband, hfloor]
  congr 1
  funext d
  simp only [lowered, raised, lifted, bind_assoc, hmode]

/-- The three ways of a price: without the band that it should be held to, without a floor, and through the steps. -/
theorem guard_cases (cost currentPrice : Decimal) (policy : Policy) (c : Candidate) :
    (∃ reason, Band.around currentPrice policy.maxChangePct = .error reason ∧
        c.guard cost currentPrice policy = c.block reason) ∨
      (∃ band, Band.around currentPrice policy.maxChangePct = .ok band ∧
        minPriceForMargin? cost policy.minMarginPct = none ∧
        c.guard cost currentPrice policy = (c.clampToBand band policy.maxChangePct).block .invalidMinMargin) ∨
      ∃ g : Limits, g.Of cost currentPrice policy ∧
        c.guard cost currentPrice policy = (c.restrain g policy).ensureWithinBand g.band >>= lowered g := by
  cases hband : Band.around currentPrice policy.maxChangePct with
  | error reason =>
    refine .inl ⟨reason, rfl, ?_⟩
    simp only [guard, hband]
  | ok band =>
    cases hfloor : minPriceForMargin? cost policy.minMarginPct with
    | none =>
      refine .inr (.inl ⟨band, rfl, rfl, ?_⟩)
      simp only [guard, hband, hfloor]
    | some floor =>
      have hg : Limits.Of ⟨band, cost, floor, policy.roundingMode⟩ cost currentPrice policy :=
        ⟨hband, hfloor, rfl, rfl⟩
      exact .inr (.inr ⟨_, hg, guard_eq hg c⟩)

/-- The steps lead to a price exactly along a passage. -/
theorem yields_guard_iff (hg : g.Of cost currentPrice policy) :
    Yields (c.guard cost currentPrice policy) y ↔
      ∃ n l m, g.Passage (c.restrain g policy).price n l m y := by
  rw [guard_eq hg]
  constructor
  · rintro ⟨d, hd, rfl⟩
    cases hwithin : (c.restrain g policy).ensureWithinBand g.band with
    | error e =>
      rw [hwithin] at hd
      cases hd
    | ok d' =>
      obtain ⟨rfl, htop⟩ := ensureWithinBand_eq_ok_iff.mp hwithin
      rw [hwithin] at hd
      obtain ⟨m, hm, hy⟩ := yields_lowered_iff.mp ⟨d, hd, rfl⟩
      obtain ⟨l, hl, hm⟩ := yields_raised_iff.mp hm
      obtain ⟨n, hn, hl⟩ := yields_lifted_iff.mp hl
      exact ⟨n, l, m, htop, hn, hl, hm, hy⟩
  · rintro ⟨n, l, m, htop, hn, hl, hm, hy⟩
    rw [ensureWithinBand_eq_ok_iff.mpr ⟨rfl, htop⟩]
    have hl := yields_lifted_iff.mpr ⟨n, hn, hl⟩
    have hm := yields_raised_iff.mpr ⟨l, hl, hm⟩
    exact yields_lowered_iff.mpr ⟨m, hm, hy⟩

theorem justified_guard (hg : g.Of cost currentPrice policy) (c : Candidate) :
    Justified g (c.guard cost currentPrice policy) := by
  rw [guard_eq hg]
  exact (justified_ensureWithinBand (c.toRat_restrain ..)).bind fun _ => justified_lowered

end Guard

end Candidate

section Enforce

variable {g : Limits} {cost currentPrice suggestedPrice : Decimal} {policy : Policy} {n l m y : Rat}

/-- The candidate that a suggested price becomes before it is snapped. -/
def Candidate.start (g : Limits) (policy : Policy) (suggestedPrice : Decimal) : Candidate :=
  Candidate.restrain g policy ⟨suggestedPrice.toCents, []⟩

theorem Candidate.toRat_start (g : Limits) (policy : Policy) (suggestedPrice : Decimal) :
    (start g policy suggestedPrice).price.toRat = g.restrain suggestedPrice.toCents.toRat :=
  toRat_restrain _ _ _

/-- The verdict on a price that has passed all steps. -/
def Candidate.verdict (suggested : Decimal) (margin : Option Decimal) (c : Candidate) : GuardrailResult where
  safetyStatus := .ok
  safetyReason := none
  suggestedPriceOriginal := suggested
  suggestedPriceFinal := c.price.toCents
  adjusted := !decide (c.price.toCents.SameValue suggested)
  reasons := c.log.map Adjustment.message
  marginPctFinal := margin

/-- The verdict on a price that was given up. -/
def Blocked.verdict (suggested : Decimal) (b : Blocked) : GuardrailResult where
  safetyStatus := .blocked
  safetyReason := some b.reason
  suggestedPriceOriginal := suggested
  suggestedPriceFinal := suggested
  adjusted := false
  reasons := b.log.map Adjustment.message
  marginPctFinal := none

theorem enforce_of_guard_ok {c : Candidate}
    (h : Candidate.guard cost currentPrice policy ⟨suggestedPrice.toCents, []⟩ = .ok c) :
    enforce cost currentPrice suggestedPrice policy =
      c.verdict suggestedPrice.toCents (marginPct? c.price.toCents cost) := by
  simp only [enforce, h, Candidate.verdict]

theorem enforce_of_guard_error {b : Blocked}
    (h : Candidate.guard cost currentPrice policy ⟨suggestedPrice.toCents, []⟩ = .error b) :
    enforce cost currentPrice suggestedPrice policy = b.verdict suggestedPrice.toCents := by
  simp only [enforce, h, Blocked.verdict]

/-- Whatever is approved has a margin floor, and a band unless the current price is not above zero. -/
theorem Limits.exists_of (h : (enforce cost currentPrice suggestedPrice policy).isOk = true) :
    ∃ g : Limits, g.Of cost currentPrice policy := by
  rcases Candidate.guard_cases cost currentPrice policy ⟨suggestedPrice.toCents, []⟩ with
    ⟨reason, -, hguard⟩ | ⟨band, -, -, hguard⟩ | ⟨g, hg, -⟩
  · rw [enforce_of_guard_error hguard] at h
    cases h
  · rw [enforce_of_guard_error hguard] at h
    cases h
  · exact ⟨g, hg⟩

theorem enforce_of_passage (hg : g.Of cost currentPrice policy)
    (h : g.Passage (Candidate.start g policy suggestedPrice).price n l m y) :
    let result := enforce cost currentPrice suggestedPrice policy
    result.isOk = true ∧ (∃ d : Decimal, d.toRat = y ∧ result.suggestedPriceFinal = d.toCents) ∧
      result.adjusted = !decide (result.suggestedPriceFinal.SameValue suggestedPrice.toCents) := by
  obtain ⟨c, hc, hy⟩ := (Candidate.yields_guard_iff hg).mpr ⟨n, l, m, h⟩
  intro result
  refine ⟨?_, ⟨c.price, hy, ?_⟩, ?_⟩
  · simp [result, enforce, hc, GuardrailResult.isOk]
  · simp [result, enforce, hc]
  · simp [result, enforce, hc]

/-- A price in cents whose passage leads to the same cents is approved as it is. -/
theorem enforce_unchanged_of_passage {price e : Decimal} (hg : g.Of cost currentPrice policy)
    (h : g.Passage (Candidate.start g policy price).price n l m e.toRat) (hcents : price.toCents = price)
    (hsame : e.toCents.toRat = price.toRat) :
    let result := enforce cost currentPrice price policy
    result.isOk = true ∧ result.suggestedPriceFinal.SameValue price ∧ result.adjusted = false := by
  intro result
  obtain ⟨hok, ⟨d, hd, hfinal⟩, hadjusted⟩ := enforce_of_passage hg h
  have hvalue : result.suggestedPriceFinal.SameValue price := by
    rw [Decimal.sameValue_iff_toRat, hfinal, Decimal.toRat_toCents_congr hd, hsame]
  refine ⟨hok, hvalue, ?_⟩
  rw [hadjusted, hcents]
  simpa using hvalue

theorem exists_passage_of_isOk (hg : g.Of cost currentPrice policy)
    (h : (enforce cost currentPrice suggestedPrice policy).isOk = true) :
    ∃ n l m y, g.Passage (Candidate.start g policy suggestedPrice).price n l m y := by
  cases hc : Candidate.guard cost currentPrice policy ⟨suggestedPrice.toCents, []⟩ with
  | error e => simp [enforce, hc, GuardrailResult.isOk] at h
  | ok c =>
    obtain ⟨n, l, m, hp⟩ := (Candidate.yields_guard_iff hg).mp ⟨c, hc, rfl⟩
    exact ⟨n, l, m, c.price.toRat, hp⟩

/-- A band fails in one way only. -/
theorem Band.eq_outOfRange_of_around {pct : Decimal} {reason : BlockReason}
    (h : Band.around currentPrice pct = .error reason) : reason = .outOfRange := by
  unfold Band.around at h
  split_ifs at h
  split at h
  · cases h
  · cases h
    rfl

/-- A price that is not out of range was measured against limits. -/
theorem Limits.exists_of_ne_outOfRange {floor : Decimal}
    (hfloor : minPriceForMargin? cost policy.minMarginPct = some floor)
    (h : (enforce cost currentPrice suggestedPrice policy).safetyReason ≠ some .outOfRange) :
    ∃ g : Limits, g.Of cost currentPrice policy := by
  cases hband : Band.around currentPrice policy.maxChangePct with
  | error e => simp [enforce, Candidate.guard, hband, Candidate.block, Band.eq_outOfRange_of_around hband] at h
  | ok band => exact ⟨⟨band, cost, floor, policy.roundingMode⟩, hband, hfloor, rfl, rfl⟩

theorem refuses_of_isBlocked (hg : g.Of cost currentPrice policy)
    (hblocked : (enforce cost currentPrice suggestedPrice policy).isBlocked = true)
    (h : (enforce cost currentPrice suggestedPrice policy).safetyReason ≠ some .outOfRange) :
    ∃ r, g.Refuses r := by
  cases hc : Candidate.guard cost currentPrice policy ⟨suggestedPrice.toCents, []⟩ with
  | ok c => simp [enforce, hc, GuardrailResult.isBlocked] at hblocked
  | error e =>
    have hne : e.reason ≠ .outOfRange := by
      intro he
      simp [enforce, hc, he] at h
    exact ⟨e.reason, (Candidate.justified_guard hg _ e hc).resolve_left hne⟩

/-- With a step the passage's outcome is the final price. -/
theorem toRat_suggestedPriceFinal {step : Decimal} (hg : g.Of cost currentPrice policy)
    (hm : g.mode.step = some step) (h : g.Passage (Candidate.start g policy suggestedPrice).price n l m y) :
    (enforce cost currentPrice suggestedPrice policy).suggestedPriceFinal.toRat = y := by
  obtain ⟨-, ⟨d, rfl, hfinal⟩, -⟩ := enforce_of_passage hg h
  rw [hfinal, h.isMultiple.toRat_toCents hm]

end Enforce

end Repricing
