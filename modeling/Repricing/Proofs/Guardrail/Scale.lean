import Repricing.Proofs.Decimal.Scale
import Repricing.Proofs.Guardrail.Band
import Repricing.Proofs.Guardrail.Line

namespace Repricing

open Decimal (SameValue)

/-- Policies of the same values. -/
structure Policy.Alike (p p' : Policy) : Prop where
  minMarginPct : p.minMarginPct.SameValue p'.minMarginPct
  maxChangePct : p.maxChangePct.SameValue p'.maxChangePct
  roundingMode : p.roundingMode = p'.roundingMode

structure Band.Alike (b b' : Band) : Prop where
  lower : b.lower.SameValue b'.lower
  upper : b.upper.SameValue b'.upper

/-- Candidates at prices of one value, after adjustments of the same kinds. -/
structure Candidate.Alike (c c' : Candidate) : Prop where
  price : c.price.SameValue c'.price
  kinds : c.log.map Adjustment.kind = c'.log.map Adjustment.kind

structure Blocked.Alike (b b' : Blocked) : Prop where
  reason : b.reason = b'.reason
  kinds : b.log.map Adjustment.kind = b'.log.map Adjustment.kind

/-- Verdicts that differ in the digits that they print only. -/
structure GuardrailResult.Alike (r r' : GuardrailResult) : Prop where
  status : r.safetyStatus = r'.safetyStatus
  reason : r.safetyReason = r'.safetyReason
  original : r.suggestedPriceOriginal.SameValue r'.suggestedPriceOriginal
  final : r.suggestedPriceFinal.SameValue r'.suggestedPriceFinal
  adjusted : r.adjusted = r'.adjusted
  kinds : r.reasons.map Line.kind? = r'.reasons.map Line.kind?
  margin : Option.Rel SameValue r.marginPctFinal r'.marginPctFinal

/-- Both results are errors in the one relation, or both are values in the other. -/
inductive BothWays {ε α : Type} (E : ε → ε → Prop) (R : α → α → Prop) : Except ε α → Except ε α → Prop
  | ok {a a' : α} (h : R a a') : BothWays E R (.ok a) (.ok a')
  | error {e e' : ε} (h : E e e') : BothWays E R (.error e) (.error e')

section Margin

variable {cost cost' price price' pct pct' : Decimal}

theorem percent?_alike (hpct : pct.SameValue pct') : Option.Rel SameValue (percent? pct) (percent? pct') :=
  hpct.div? .rfl

theorem minPriceForMargin?_alike (hcost : cost.SameValue cost') (hpct : pct.SameValue pct') :
    Option.Rel SameValue (minPriceForMargin? cost pct) (minPriceForMargin? cost' pct') := by
  apply rel_ite (SameValue.rfl.le_congr hpct)
  · intro _
    exact .none
  · intro _
    apply rel_bind (percent?_alike hpct)
    intro fraction fraction' hfraction
    apply rel_bind (SameValue.rfl.sub? hfraction)
    intro left left' hleft
    exact rel_ite hleft.isPositive_congr (fun _ => hcost.div? hleft) fun _ => .none

theorem marginPct?_alike (hprice : price.SameValue price') (hcost : cost.SameValue cost') :
    Option.Rel SameValue (marginPct? price cost) (marginPct? price' cost') := by
  apply rel_ite hprice.isPositive_congr
  · intro _
    apply rel_bind (hprice.sub? hcost)
    intro gain gain' hgain
    apply rel_bind (hgain.div? hprice)
    intro fraction fraction' hfraction
    exact rel_map (hfraction.mul? .rfl) fun _ _ h => h.toCents
  · intro _
    exact .none

theorem RoundingMode.snap?_alike (mode : RoundingMode) (rule : Rounding) (hprice : price.SameValue price') :
    Option.Rel SameValue (mode.snap? rule price) (mode.snap? rule price') := by
  cases hm : mode.step with
  | none =>
    rw [snap?_of_unstepped hm, snap?_of_unstepped hm]
    exact .some hprice
  | some step =>
    rw [snap?_eq_bind hm, snap?_eq_bind hm]
    apply rel_bind (hprice.div? .rfl)
    intro quotient quotient' hquotient
    exact (hquotient.round rule 0).mul? .rfl

theorem factorDown?_alike (hpct : pct.SameValue pct') : Option.Rel SameValue (factorDown? pct) (factorDown? pct') :=
  rel_bind (percent?_alike hpct) fun _ _ h => SameValue.rfl.sub? h

theorem factorUp?_alike (hpct : pct.SameValue pct') : Option.Rel SameValue (factorUp? pct) (factorUp? pct') :=
  rel_bind (percent?_alike hpct) fun _ _ h => SameValue.rfl.add? h

theorem bothWays_elim {o o' : Option Band} {reason : BlockReason} (h : Option.Rel Band.Alike o o') :
    BothWays Eq (Option.Rel Band.Alike) (o.elim (.error reason) fun band => .ok (some band))
      (o'.elim (.error reason) fun band => .ok (some band)) := by
  cases h with
  | some h => exact .ok (.some h)
  | none => exact .error rfl

theorem Band.around_alike (hprice : price.SameValue price') (hpct : pct.SameValue pct') :
    BothWays Eq (Option.Rel Band.Alike) (around price pct) (around price' pct') := by
  by_cases hpos : price.IsPositive
  · obtain ⟨down, hdown⟩ := exists_factorDown? pct
    obtain ⟨up, hup⟩ := exists_factorUp? pct
    obtain ⟨down', hdown'⟩ := exists_factorDown? pct'
    obtain ⟨up', hup'⟩ := exists_factorUp? pct'
    have hdowns := factorDown?_alike hpct
    have hups := factorUp?_alike hpct
    rw [hdown, hdown', Option.rel_some_some] at hdowns
    rw [hup, hup', Option.rel_some_some] at hups
    rw [around_eq hpos hdown hup, around_eq (hprice.isPositive_congr.mp hpos) hdown' hup']
    apply bothWays_elim
    apply rel_bind (hprice.mul? hdowns)
    intro lower lower' hlower
    apply rel_map (hprice.mul? hups)
    intro upper upper' hupper
    exact ⟨hlower, hupper⟩
  · rw [around, if_neg hpos, around, if_neg (hprice.isPositive_congr.not.mp hpos)]
    exact .ok .none

end Margin

namespace Candidate

section Outcome

variable {c c' : Candidate} {o o' : Except Blocked Candidate}

theorem Alike.block (h : c.Alike c') (reason : BlockReason) :
    BothWays Blocked.Alike Alike (c.block reason) (c'.block reason) :=
  .error ⟨rfl, h.kinds⟩

theorem Alike.moveTo {rule rule' : Adjustment.Rule} {price price' : Decimal} (h : c.Alike c')
    (hrule : rule.kind = rule'.kind) (hprice : price.SameValue price') :
    (c.moveTo rule price).Alike (c'.moveTo rule' price') := by
  refine ⟨hprice, ?_⟩
  rw [Candidate.moveTo, Candidate.moveTo, List.map_append, List.map_append, h.kinds]
  exact congrArg (fun kind => _ ++ [kind]) hrule

theorem bothWays_bind {f f' : Candidate → Except Blocked Candidate} (h : BothWays Blocked.Alike Alike o o')
    (hf : ∀ c c', c.Alike c' → BothWays Blocked.Alike Alike (f c) (f' c')) :
    BothWays Blocked.Alike Alike (o >>= f) (o' >>= f') := by
  cases h with
  | ok h => exact hf _ _ h
  | error h => exact .error h

theorem bothWays_withPrice {p p' : Option Decimal} {next next' : Decimal → Except Blocked Candidate}
    (h : c.Alike c') (hp : Option.Rel SameValue p p')
    (hnext : ∀ d d', d.SameValue d' → BothWays Blocked.Alike Alike (next d) (next' d')) :
    BothWays Blocked.Alike Alike (c.withPrice p next) (c'.withPrice p' next') := by
  cases hp with
  | some hd => exact hnext _ _ hd
  | none => exact h.block .outOfRange

end Outcome

section Steps

variable {c c' : Candidate} {band band' : Option Band} {cost cost' floor floor' pct pct' : Decimal}
  {mode : RoundingMode} (hc : c.Alike c')
include hc

theorem Alike.raiseToFloor (hfloor : floor.SameValue floor') :
    (c.raiseToFloor floor pct).Alike (c'.raiseToFloor floor' pct') := by
  apply rel_ite (hc.price.lt_congr hfloor)
  · intro _
    exact hc.moveTo rfl hfloor
  · intro _
    exact hc

theorem Alike.round : BothWays Blocked.Alike Alike (c.round mode) (c'.round mode) := by
  apply bothWays_withPrice hc (mode.snap?_alike _ hc.price)
  intro rounded rounded' hrounded
  exact .ok (rel_ite (hrounded.congr hc.price) (fun _ => hc) fun _ => hc.moveTo rfl hrounded)

variable (hband : Option.Rel Band.Alike band band')
include hband

theorem Alike.clampToBand : (c.clampToBand band pct).Alike (c'.clampToBand band' pct') := by
  cases hband with
  | none => exact hc
  | some hb =>
    have hclamp := (hc.price.max hb.lower).min hb.upper
    exact rel_ite (hclamp.congr hc.price) (fun _ => hc) fun _ => hc.moveTo rfl hclamp

theorem Alike.ensureWithinBand :
    BothWays Blocked.Alike Alike (c.ensureWithinBand band) (c'.ensureWithinBand band') := by
  cases hband with
  | none => exact .ok hc
  | some hb => exact rel_ite (hb.upper.lt_congr hc.price) (fun _ => hc.block _) fun _ => .ok hc

theorem Alike.repairLowerBound :
    BothWays Blocked.Alike Alike (c.repairLowerBound band mode) (c'.repairLowerBound band' mode) := by
  cases hband with
  | none => exact .ok hc
  | some hb =>
    apply rel_ite (hb.lower.le_congr hc.price)
    · intro _
      exact .ok hc
    · intro _
      apply bothWays_withPrice hc (mode.snap?_alike _ hb.lower)
      intro repaired repaired' hrepaired
      exact .ok (rel_ite (hrepaired.le_congr hb.upper) (fun _ => hc.moveTo rfl hrepaired) fun _ => hc)

theorem Alike.repairMargin (hfloor : floor.SameValue floor') :
    BothWays Blocked.Alike Alike (c.repairMargin floor band mode) (c'.repairMargin floor' band' mode) := by
  apply rel_ite (hfloor.le_congr hc.price)
  · intro _
    exact .ok hc
  · intro _
    apply bothWays_withPrice hc (mode.snap?_alike _ hfloor)
    intro repaired repaired' hrepaired
    have hraised : (c.moveTo .marginAfterRounding repaired).Alike (c'.moveTo .marginAfterRounding repaired') :=
      hc.moveTo rfl hrepaired
    cases hband with
    | none => exact .ok hraised
    | some hb => exact rel_ite (hb.upper.lt_congr hrepaired) (fun _ => hc.block _) fun _ => .ok hraised

theorem Alike.repairUpperBound (hcost : cost.SameValue cost') (hfloor : floor.SameValue floor') :
    BothWays Blocked.Alike Alike (c.repairUpperBound band cost floor mode)
      (c'.repairUpperBound band' cost' floor' mode) := by
  cases hband with
  | none => exact .ok hc
  | some hb =>
    apply rel_ite (hc.price.le_congr hb.upper)
    · intro _
      exact .ok hc
    · intro _
      apply bothWays_withPrice hc (mode.snap?_alike _ hb.upper)
      intro repaired repaired' hrepaired
      apply rel_ite (or_congr (hrepaired.lt_congr hcost) (hrepaired.lt_congr hfloor))
      · intro _
        exact hc.block _
      · intro _
        exact .ok (hc.moveTo rfl hrepaired)

end Steps

theorem Alike.guard {c c' : Candidate} {cost cost' currentPrice currentPrice' : Decimal} {policy policy' : Policy}
    (hc : c.Alike c') (hcost : cost.SameValue cost') (hcurrent : currentPrice.SameValue currentPrice')
    (hpolicy : policy.Alike policy') :
    BothWays Blocked.Alike Alike (c.guard cost currentPrice policy) (c'.guard cost' currentPrice' policy') := by
  have haround := Band.around_alike hcurrent hpolicy.maxChangePct
  have hmargin := minPriceForMargin?_alike hcost hpolicy.minMarginPct
  unfold Candidate.guard
  rw [← hpolicy.roundingMode]
  generalize Band.around currentPrice policy.maxChangePct = around at haround ⊢
  generalize Band.around currentPrice' policy'.maxChangePct = around' at haround ⊢
  cases haround with
  | error h =>
    subst h
    exact hc.block _
  | @ok band band' hband =>
    have hclamped : (c.clampToBand band policy.maxChangePct).Alike (c'.clampToBand band' policy'.maxChangePct) :=
      hc.clampToBand hband
    generalize minPriceForMargin? cost policy.minMarginPct = floor at hmargin ⊢
    generalize minPriceForMargin? cost' policy'.minMarginPct = floor' at hmargin ⊢
    cases hmargin with
    | none => exact hclamped.block _
    | some hfloor =>
      apply bothWays_bind ((hclamped.raiseToFloor hfloor).ensureWithinBand hband)
      intro c c' hc
      apply bothWays_bind hc.round
      intro c c' hc
      apply bothWays_bind (hc.repairLowerBound hband)
      intro c c' hc
      apply bothWays_bind (hc.repairMargin hband hfloor)
      intro c c' hc
      exact hc.repairUpperBound hband hcost hfloor

end Candidate

section Verdict

variable {suggested suggested' : Decimal} (hsuggested : suggested.SameValue suggested')
include hsuggested

theorem Candidate.Alike.verdict {c c' : Candidate} {margin margin' : Option Decimal} (h : c.Alike c')
    (hmargin : Option.Rel SameValue margin margin') :
    (c.verdict suggested margin).Alike (c'.verdict suggested' margin') where
  status := rfl
  reason := rfl
  original := hsuggested
  final := h.price.toCents
  adjusted := by
    have hsame := h.price.toCents.congr hsuggested
    simp only [Candidate.verdict, hsame]
  kinds := by
    simp only [Candidate.verdict, Adjustment.map_kind?_lines, h.kinds]
  margin := hmargin

theorem Blocked.Alike.verdict {b b' : Blocked} (h : b.Alike b') :
    (b.verdict suggested).Alike (b'.verdict suggested') where
  status := rfl
  reason := congrArg some h.reason
  original := hsuggested
  final := hsuggested
  adjusted := rfl
  kinds := by
    simp only [Blocked.verdict, Adjustment.map_kind?_lines, h.kinds]
  margin := .none

end Verdict

/-- Numbers of one value lead to one verdict, in the same steps, whatever their scales. -/
theorem enforce_alike (cost cost' currentPrice currentPrice' suggestedPrice suggestedPrice' : Decimal)
    (policy policy' : Policy) (hcost : cost.SameValue cost') (hcurrent : currentPrice.SameValue currentPrice')
    (hsuggested : suggestedPrice.SameValue suggestedPrice') (hpolicy : policy.Alike policy') :
    (enforce cost currentPrice suggestedPrice policy).Alike
      (enforce cost' currentPrice' suggestedPrice' policy') := by
  have hcents := hsuggested.toCents
  have hstart : Candidate.Alike ⟨suggestedPrice.toCents, []⟩ ⟨suggestedPrice'.toCents, []⟩ := ⟨hcents, rfl⟩
  have hguard := hstart.guard hcost hcurrent hpolicy
  cases h : Candidate.guard cost currentPrice policy ⟨suggestedPrice.toCents, []⟩ with
  | ok c =>
    cases h' : Candidate.guard cost' currentPrice' policy' ⟨suggestedPrice'.toCents, []⟩ with
    | ok c' =>
      rw [h, h'] at hguard
      cases hguard with
      | ok hc =>
        rw [enforce_of_guard_ok h, enforce_of_guard_ok h']
        exact hc.verdict hcents (marginPct?_alike hc.price.toCents hcost)
    | error b' =>
      rw [h, h'] at hguard
      cases hguard
  | error b =>
    cases h' : Candidate.guard cost' currentPrice' policy' ⟨suggestedPrice'.toCents, []⟩ with
    | ok c' =>
      rw [h, h'] at hguard
      cases hguard
    | error b' =>
      rw [h, h'] at hguard
      cases hguard with
      | error hb =>
        rw [enforce_of_guard_error h, enforce_of_guard_error h']
        exact hb.verdict hcents

/-- A third more at a least margin of a third, with and without zeros at the end: the texts of the reasons differ, and
nothing else. -/
theorem enforce_alike_eighty :
    let policy : Policy := ⟨⟨333, 1, by decide, by decide⟩, .ofNat 15, .nearest5⟩
    let policy' : Policy := ⟨⟨33300, 3, by decide, by decide⟩, ⟨1500, 2, by decide, by decide⟩, .nearest5⟩
    let cost' : Decimal := ⟨8000, 2, by decide, by decide⟩
    let current' : Decimal := ⟨1200000, 4, by decide, by decide⟩
    let suggested' : Decimal := ⟨1100, 1, by decide, by decide⟩
    (Decimal.ofNat 80).SameValue cost' ∧ (Decimal.ofNat 120).SameValue current' ∧
      (Decimal.ofNat 110).SameValue suggested' ∧ policy.Alike policy' ∧
      (enforce (.ofNat 80) (.ofNat 120) (.ofNat 110) policy).reasons ≠
        (enforce cost' current' suggested' policy').reasons ∧
      (enforce (.ofNat 80) (.ofNat 120) (.ofNat 110) policy).Alike (enforce cost' current' suggested' policy') := by
  intro policy policy' cost' current' suggested'
  have hcost : (Decimal.ofNat 80).SameValue cost' := by decide +kernel
  have hcurrent : (Decimal.ofNat 120).SameValue current' := by decide +kernel
  have hsuggested : (Decimal.ofNat 110).SameValue suggested' := by decide +kernel
  have hpolicy : policy.Alike policy' := ⟨by decide +kernel, by decide +kernel, rfl⟩
  exact ⟨hcost, hcurrent, hsuggested, hpolicy, by decide +kernel,
    enforce_alike _ _ _ _ _ _ _ _ hcost hcurrent hsuggested hpolicy⟩

end Repricing
