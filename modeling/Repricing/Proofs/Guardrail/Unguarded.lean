import Repricing.Proofs.Guardrail.Band

/-!
The arithmetic of the guardrails as it runs without a guard. A percentage as a fraction of one, and what it leaves of
one for the cost, are taken for granted to have decimals. Here such an operation fails with a fault where it has none,
and a division by zero fails even where a missing decimal would do no harm. No input leads to a fault
(`enforce_without_fault`).
-/

namespace Repricing

/-- What an operation without a guard fails with. -/
inductive Fault where
  | overflow
  | divisionByZero
  deriving DecidableEq

namespace Decimal

/-- The quotient, where nothing is done about a missing one. -/
def quotient (a b : Decimal) : Except Fault Decimal :=
  if b.IsZero then .error .divisionByZero
  else
    match a.div? b with
    | some q => .ok q
    | none => .error .overflow

/-- The difference, where nothing is done about a missing one. -/
def difference (a b : Decimal) : Except Fault Decimal :=
  match a.sub? b with
  | some d => .ok d
  | none => .error .overflow

/-- The quotient, where a missing one is none, but nothing is done about a divisor of zero. -/
def guardedQuotient (a b : Decimal) : Except Fault (Option Decimal) :=
  if b.IsZero then .error .divisionByZero else .ok (a.div? b)

variable {a b d : Decimal}

theorem quotient_of_div? (h : a.div? b = some d) : a.quotient b = .ok d := by
  have hb : ¬b.IsZero := by
    intro hb
    rw [div?, if_pos hb] at h
    cases h
  rw [quotient, if_neg hb, h]

theorem difference_of_sub? (h : a.sub? b = some d) : a.difference b = .ok d := by
  rw [difference, h]

theorem guardedQuotient_of_pos (hb : 0 < b.toRat) : a.guardedQuotient b = .ok (a.div? b) := by
  rw [guardedQuotient, if_neg (isZero_iff_toRat.not.mpr hb.ne')]

end Decimal

namespace Unguarded

def percent (pct : Decimal) : Except Fault Decimal := pct.quotient .hundred

def minPriceForMargin (cost minMarginPct : Decimal) : Except Fault (Option Decimal) :=
  if Decimal.hundred ≤ minMarginPct then .ok none
  else do
    let fraction ← percent minMarginPct
    let left ← Decimal.one.difference fraction
    if left.IsPositive then cost.guardedQuotient left else .ok none

def around (currentPrice maxChangePct : Decimal) : Except Fault (Except BlockReason (Option Band)) :=
  if currentPrice.IsPositive then do
    let fraction ← percent maxChangePct
    let band :=
      ((Decimal.one.sub? fraction).bind currentPrice.mul?).bind fun lower =>
        ((Decimal.one.add? fraction).bind currentPrice.mul?).map (Band.mk lower)
    .ok (band.elim (.error .outOfRange) fun band => .ok (some band))
  else .ok (.ok none)

def marginPct (price cost : Decimal) : Except Fault (Option Decimal) :=
  if price.IsPositive then
    match price.sub? cost with
    | none => .ok none
    | some gain => do
      let fraction ← gain.guardedQuotient price
      .ok (fraction.bind fun fraction => (fraction.mul? .hundred).map Decimal.toCents)
  else .ok none

def snap (mode : RoundingMode) (rule : Rounding) (price : Decimal) : Except Fault (Option Decimal) :=
  match mode.step with
  | none => .ok (some price)
  | some step => do
    let quotient ← price.guardedQuotient step
    .ok (quotient.bind fun quotient => (quotient.round rule 0).mul? step)

/-- All steps, in their order. Those behind the floor do no arithmetic but snap, which has no fault at all
(`snap_eq`). -/
def guard (cost currentPrice : Decimal) (policy : Policy) (c : Candidate) :
    Except Fault (Except Blocked Candidate) := do
  match ← around currentPrice policy.maxChangePct with
  | .error reason => .ok (c.block reason)
  | .ok band =>
    match ← minPriceForMargin cost policy.minMarginPct with
    | none => .ok ((c.clampToBand band policy.maxChangePct).block .invalidMinMargin)
    | some floor =>
      let g : Limits := ⟨band, cost, floor, policy.roundingMode⟩
      .ok ((c.restrain g policy).ensureWithinBand band >>= Candidate.lowered g)

def enforce (cost currentPrice suggestedPrice : Decimal) (policy : Policy) : Except Fault GuardrailResult := do
  let suggested := suggestedPrice.toCents
  match ← guard cost currentPrice policy ⟨suggested, []⟩ with
  | .error b => .ok (b.verdict suggested)
  | .ok c =>
    let margin ← marginPct c.price.toCents cost
    .ok (c.verdict suggested margin)

section Total

variable {cost currentPrice suggestedPrice price pct : Decimal} {policy : Policy}

theorem percent_of_percent? {fraction : Decimal} (h : percent? pct = some fraction) : percent pct = .ok fraction :=
  Decimal.quotient_of_div? h

/-- Both operations that nothing guards have decimals, for a percentage of any sign and magnitude. -/
theorem exists_left (pct : Decimal) :
    ∃ fraction left, percent pct = .ok fraction ∧ Decimal.one.difference fraction = .ok left ∧
      percent? pct = some fraction ∧ Decimal.one.sub? fraction = some left := by
  obtain ⟨left, hleft⟩ := exists_factorDown? pct
  obtain ⟨fraction, hfraction, hsub⟩ := Option.bind_eq_some_iff.mp hleft
  exact ⟨fraction, left, percent_of_percent? hfraction, Decimal.difference_of_sub? hsub, hfraction, hsub⟩

theorem minPriceForMargin_eq : minPriceForMargin cost pct = .ok (minPriceForMargin? cost pct) := by
  obtain ⟨fraction, left, hpercent, hdifference, hfraction, hsub⟩ := exists_left pct
  unfold minPriceForMargin minPriceForMargin?
  split_ifs with hhundred
  · rfl
  · simp only [hpercent, hdifference, hfraction, hsub, bind, Except.bind, Option.bind_some]
    split_ifs with hleft
    · exact Decimal.guardedQuotient_of_pos (Decimal.isPositive_iff_toRat.mp hleft)
    · rfl

theorem around_eq : around currentPrice pct = .ok (Band.around currentPrice pct) := by
  by_cases hpos : currentPrice.IsPositive
  · obtain ⟨fraction, left, hpercent, -, hfraction, hsub⟩ := exists_left pct
    obtain ⟨up, hup⟩ := exists_factorUp? pct
    have hdown : factorDown? pct = some left := by rw [factorDown?, hfraction, Option.bind_some, hsub]
    have hadd : Decimal.one.add? fraction = some up := by rwa [factorUp?, hfraction, Option.bind_some] at hup
    rw [around, if_pos hpos, hpercent, Band.around_eq hpos hdown hup]
    simp only [bind, Except.bind, hsub, hadd, Option.bind_some]
  · rw [around, if_neg hpos, Band.around, if_neg hpos]

theorem marginPct_eq : marginPct price cost = .ok (marginPct? price cost) := by
  unfold marginPct marginPct?
  split_ifs with hpos
  · cases price.sub? cost with
    | none => rfl
    | some gain =>
      dsimp only
      rw [Decimal.guardedQuotient_of_pos (Decimal.isPositive_iff_toRat.mp hpos)]
      rfl
  · rfl

theorem snap_eq (mode : RoundingMode) (rule : Rounding) (price : Decimal) :
    snap mode rule price = .ok (mode.snap? rule price) := by
  cases hm : mode.step with
  | none => rw [RoundingMode.snap?_of_unstepped hm, snap, hm]
  | some step =>
    have hstep : 0 < step.toRat := by linarith [RoundingMode.one_le_step hm]
    rw [RoundingMode.snap?_eq_bind hm, snap, hm]
    dsimp only
    rw [Decimal.guardedQuotient_of_pos hstep]
    rfl

theorem guard_eq (c : Candidate) :
    guard cost currentPrice policy c = .ok (c.guard cost currentPrice policy) := by
  rw [guard, around_eq, minPriceForMargin_eq]
  rcases c.guard_cases cost currentPrice policy with
    ⟨reason, hband, hguard⟩ | ⟨band, hband, hfloor, hguard⟩ | ⟨g, ⟨hband, hfloor, rfl, hmode⟩, hguard⟩
  · rw [hguard, hband]
    rfl
  · rw [hguard, hband, hfloor]
    rfl
  · rw [hguard, hband, hfloor, ← hmode]
    rfl

theorem enforce_eq : enforce cost currentPrice suggestedPrice policy =
    .ok (Repricing.enforce cost currentPrice suggestedPrice policy) := by
  rw [enforce, guard_eq]
  cases h : Candidate.guard cost currentPrice policy ⟨suggestedPrice.toCents, []⟩ with
  | error b => rw [enforce_of_guard_error h]; rfl
  | ok c =>
    rw [enforce_of_guard_ok h]
    change (marginPct c.price.toCents cost >>= _) = _
    rw [marginPct_eq]
    rfl

end Total

/-- A percentage of any sign and magnitude has a fraction of one, and that a rest; so nothing that the guardrails
compute ends in a fault, whatever the prices and the policy, and their results are those of the guarded operations. -/
theorem enforce_without_fault (pct price cost currentPrice suggestedPrice : Decimal) (policy : Policy) :
    (∃ fraction left, pct.quotient .hundred = .ok fraction ∧ Decimal.one.difference fraction = .ok left) ∧
      minPriceForMargin cost pct = .ok (minPriceForMargin? cost pct) ∧
      around currentPrice pct = .ok (Band.around currentPrice pct) ∧
      marginPct price cost = .ok (marginPct? price cost) ∧
      (∀ mode rule, snap mode rule price = .ok (mode.snap? rule price)) ∧
      enforce cost currentPrice suggestedPrice policy =
        .ok (Repricing.enforce cost currentPrice suggestedPrice policy) := by
  obtain ⟨fraction, left, hpercent, hdifference, -, -⟩ := exists_left pct
  exact ⟨⟨fraction, left, hpercent, hdifference⟩, minPriceForMargin_eq, around_eq, marginPct_eq,
    fun mode rule => snap_eq mode rule price, enforce_eq⟩

end Unguarded

end Repricing
