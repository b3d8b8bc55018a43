import Repricing.Proofs.Guardrail.Line
import Repricing.Proofs.Guardrail.Steps

namespace Repricing

open Adjustment (Kind)

/-- Each adjustment goes on from the price that the one before it led to. -/
def Adjustment.Leads : Decimal → List Adjustment → Decimal → Prop
  | start, [], stop => start = stop
  | start, a :: log, stop => a.before = start ∧ Leads a.after log stop

section Leads

variable {start stop : Decimal} {log : List Adjustment}

theorem Adjustment.Leads.append_one (h : Leads start log stop) (rule : Rule) (price : Decimal) :
    Leads start (log ++ [⟨rule, stop, price⟩]) price := by
  induction log generalizing start with
  | nil => exact ⟨Eq.symm h, rfl⟩
  | cons a log ih =>
    obtain ⟨hbefore, hrest⟩ := h
    exact ⟨hbefore, ih hrest⟩

/-- The lines tell what the log says, in cents. -/
theorem Adjustment.Leads.lines (h : Leads start log stop) :
    Line.Leads start.toCents.toText (log.map message) stop.toCents.toText := by
  induction log generalizing start with
  | nil =>
    have hstop : start = stop := h
    rw [hstop]
    rfl
  | cons a log ih =>
    obtain ⟨rfl, hrest⟩ := h
    refine ⟨a.before_message, ?_⟩
    rw [a.after_message]
    exact ih hrest

end Leads

/-- What can happen to a price up to its rounding. -/
def Adjustment.Kind.untilRounding : List Kind := [.maxChange, .minMargin, .rounding]

/-- What can happen to a price that is never lowered after rounding. -/
def Adjustment.Kind.raising : List Kind := untilRounding ++ [.lowerBoundAfterRounding] ++ [.marginAfterRounding]

/-- What can happen to a price that is never raised after rounding. -/
def Adjustment.Kind.lowering : List Kind := untilRounding ++ [.upperBoundAfterRounding]

namespace Candidate

/-- The log leads from the first price to the candidate's own, by adjustments of these kinds in this order, of each kind
one at most. -/
structure Logged (start : Decimal) (kinds : List Kind) (c : Candidate) : Prop where
  leads : Adjustment.Leads start c.log c.price
  kinds : (c.log.map Adjustment.kind).Sublist kinds

/-- The outcome is a candidate with the property, or one with the property was given up. -/
def StopsAt (P : Candidate → Prop) : Except Blocked Candidate → Prop
  | .ok c => P c
  | .error b => ∃ c, P c ∧ b.log = c.log

section StopsAt

variable {P Q : Candidate → Prop} {c : Candidate} {o : Except Blocked Candidate}

theorem stopsAt_block (h : P c) (reason : BlockReason) : StopsAt P (c.block reason) := ⟨c, h, rfl⟩

theorem StopsAt.mono (h : StopsAt P o) (hPQ : ∀ c, P c → Q c) : StopsAt Q o := by
  cases o with
  | ok c => exact hPQ c h
  | error b =>
    obtain ⟨c, hc, hlog⟩ := h
    exact ⟨c, hPQ c hc, hlog⟩

theorem StopsAt.bind {f : Candidate → Except Blocked Candidate} (h : StopsAt P o) (hPQ : ∀ c, P c → Q c)
    (hf : ∀ c, P c → StopsAt Q (f c)) : StopsAt Q (o >>= f) := by
  cases o with
  | ok c => exact hf c h
  | error b => exact h.mono hPQ

theorem stopsAt_withPrice {price : Option Decimal} {next : Decimal → Except Blocked Candidate} (hc : P c)
    (h : ∀ d, StopsAt P (next d)) : StopsAt P (c.withPrice price next) := by
  cases price with
  | none => exact stopsAt_block hc .outOfRange
  | some d => exact h d

end StopsAt

section Steps

variable {start : Decimal} {kinds kinds' : List Kind} {g : Limits} {c : Candidate}

theorem Logged.mono (h : c.Logged start kinds) (hsub : kinds.Sublist kinds') : c.Logged start kinds' :=
  ⟨h.leads, h.kinds.trans hsub⟩

theorem Logged.keep (h : c.Logged start kinds) (kind : Kind) : c.Logged start (kinds ++ [kind]) :=
  h.mono (List.sublist_append_left _ _)

theorem Logged.moveTo (h : c.Logged start kinds) (rule : Adjustment.Rule) (price : Decimal) :
    (c.moveTo rule price).Logged start (kinds ++ [rule.kind]) := by
  refine ⟨h.leads.append_one rule price, ?_⟩
  rw [Candidate.moveTo, List.map_append]
  exact h.kinds.append (List.Sublist.refl _)

theorem Logged.clampToBand (h : c.Logged start kinds) (band : Option Band) (pct : Decimal) :
    (c.clampToBand band pct).Logged start (kinds ++ [.maxChange]) := by
  unfold Candidate.clampToBand
  cases band with
  | none => exact h.keep _
  | some b =>
    dsimp only
    split_ifs
    · exact h.keep _
    · exact h.moveTo (.maxChange pct) _

theorem Logged.raiseToFloor (h : c.Logged start kinds) (floor pct : Decimal) :
    (c.raiseToFloor floor pct).Logged start (kinds ++ [.minMargin]) := by
  unfold Candidate.raiseToFloor
  split_ifs
  · exact h.moveTo (.minMargin pct) _
  · exact h.keep _

theorem Logged.ensureWithinBand (h : c.Logged start kinds) (band : Option Band) :
    StopsAt (Logged start kinds) (c.ensureWithinBand band) := by
  unfold Candidate.ensureWithinBand
  cases band with
  | none => exact h
  | some b =>
    dsimp only
    split_ifs
    · exact stopsAt_block h _
    · exact h

theorem Logged.round (h : c.Logged start kinds) (mode : RoundingMode) :
    StopsAt (Logged start (kinds ++ [.rounding])) (c.round mode) := by
  apply stopsAt_withPrice (h.keep _)
  intro rounded
  split_ifs
  · exact h.keep _
  · exact h.moveTo (.rounding mode) _

/-- Nothing has happened since rounding; or what has happened are raises of these kinds, and they left the price in the
band. -/
def Repaired (g : Limits) (start : Decimal) (kinds : List Kind) (c : Candidate) : Prop :=
  c.Logged start Kind.untilRounding ∨ c.Logged start kinds ∧ g.BelowTop c.price.toRat

theorem Repaired.keep (h : c.Repaired g start kinds) (kind : Kind) : c.Repaired g start (kinds ++ [kind]) := by
  rcases h with h | ⟨h, htop⟩
  · exact .inl h
  · exact .inr ⟨h.keep kind, htop⟩

theorem Logged.repairLowerBound (h : c.Logged start Kind.untilRounding) :
    StopsAt (Repaired g start (Kind.untilRounding ++ [.lowerBoundAfterRounding]))
      (c.repairLowerBound g.band g.mode) := by
  by_cases habove : g.AboveBottom c.price.toRat
  · rw [repairLowerBound_of_aboveBottom habove]
    exact .inl h
  · obtain ⟨b, hb, hlt⟩ := Limits.exists_of_not_aboveBottom habove
    rw [repairLowerBound_of_lt hb hlt]
    apply stopsAt_withPrice (.inl h)
    intro repaired
    split_ifs with htop
    · exact .inr ⟨h.moveTo .lowerBoundAfterRounding _, Limits.belowTop_of_mem hb (Decimal.le_iff_toRat.mp htop)⟩
    · exact .inl h

theorem Repaired.repairMargin
    (h : c.Repaired g start (Kind.untilRounding ++ [.lowerBoundAfterRounding])) :
    StopsAt (Repaired g start Kind.raising) (c.repairMargin g.floor g.band g.mode) := by
  have hlogged : c.Logged start (Kind.untilRounding ++ [.lowerBoundAfterRounding]) := by
    rcases h with h | ⟨h, -⟩
    · exact h.keep _
    · exact h
  have hkeep : c.Repaired g start Kind.raising := h.keep .marginAfterRounding
  unfold Candidate.repairMargin
  split_ifs
  · exact hkeep
  · apply stopsAt_withPrice hkeep
    intro repaired
    have hraised : (c.moveTo .marginAfterRounding repaired).Logged start Kind.raising :=
      hlogged.moveTo .marginAfterRounding repaired
    split
    · rename_i b hb
      split_ifs with hlt
      · exact stopsAt_block hkeep _
      · exact .inr ⟨hraised, Limits.belowTop_of_mem hb (Decimal.not_lt_iff_toRat.mp hlt)⟩
    · rename_i hband
      exact .inr ⟨hraised, Limits.belowTop_of_eq_none hband⟩

/-- The log of a price that was raised after rounding, or lowered, or neither; never both. -/
def Told (start : Decimal) (c : Candidate) : Prop := c.Logged start Kind.raising ∨ c.Logged start Kind.lowering

theorem Repaired.told (h : c.Repaired g start Kind.raising) : c.Told start := by
  rcases h with h | ⟨h, -⟩
  · exact .inr (h.keep _)
  · exact .inl h

theorem Repaired.repairUpperBound (h : c.Repaired g start Kind.raising) :
    StopsAt (Told start) (c.repairUpperBound g.band g.cost g.floor g.mode) := by
  by_cases htop : g.BelowTop c.price.toRat
  · rw [repairUpperBound_of_belowTop htop]
    exact h.told
  · obtain ⟨b, hb, hlt⟩ := Limits.exists_of_not_belowTop htop
    -- A raise would have left the price in the band.
    have hlogged : c.Logged start Kind.untilRounding := h.resolve_right fun h => htop h.2
    rw [repairUpperBound_of_lt hb hlt]
    apply stopsAt_withPrice h.told
    intro repaired
    split_ifs
    · exact stopsAt_block h.told _
    · exact .inr (hlogged.moveTo .upperBoundAfterRounding repaired)

end Steps

section Guard

variable {start cost currentPrice : Decimal} {policy : Policy} {g : Limits} {c : Candidate}

theorem Logged.restrain (h : c.Logged start []) (g : Limits) (policy : Policy) :
    (c.restrain g policy).Logged start [.maxChange, .minMargin] :=
  (h.clampToBand g.band policy.maxChangePct).raiseToFloor g.floor policy.minMarginPct

theorem Logged.lowered (h : c.Logged start [.maxChange, .minMargin]) : StopsAt (Told start) (c.lowered g) := by
  have hround : StopsAt (Logged start Kind.untilRounding) (c.round g.mode) := h.round g.mode
  have hlifted : StopsAt (Repaired g start (Kind.untilRounding ++ [.lowerBoundAfterRounding])) (c.lifted g) :=
    hround.bind (fun _ => .inl) fun _ => Logged.repairLowerBound
  have hraised : StopsAt (Repaired g start Kind.raising) (c.raised g) :=
    hlifted.bind (fun _ h => h.keep _) fun _ => Repaired.repairMargin
  exact hraised.bind (fun _ => Repaired.told) fun _ => Repaired.repairUpperBound

/-- All steps keep the log in order, also where they block. -/
theorem stopsAt_guard (start cost currentPrice : Decimal) (policy : Policy) :
    StopsAt (Told start) (guard cost currentPrice policy ⟨start, []⟩) := by
  have hstart : Logged start [] ⟨start, []⟩ := ⟨rfl, List.Sublist.refl _⟩
  have htold {c : Candidate} (h : c.Logged start [.maxChange, .minMargin]) : c.Told start :=
    .inr ((h.keep .rounding).keep .upperBoundAfterRounding)
  rcases guard_cases cost currentPrice policy ⟨start, []⟩ with
    ⟨reason, -, hguard⟩ | ⟨band, -, -, hguard⟩ | ⟨g, -, hguard⟩
  · rw [hguard]
    exact stopsAt_block (htold (hstart.mono (List.nil_sublist _))) _
  · have hclamped : Logged start [.maxChange] (clampToBand band policy.maxChangePct ⟨start, []⟩) :=
      hstart.clampToBand band policy.maxChangePct
    rw [hguard]
    exact stopsAt_block (htold (hclamped.keep .minMargin)) _
  · rw [hguard]
    exact ((hstart.restrain g policy).ensureWithinBand g.band).bind (fun _ => htold) fun _ => Logged.lowered

end Guard

/-- One list of kinds or the other, in the order of all kinds. -/
theorem Told.kinds {start : Decimal} {c : Candidate} (h : c.Told start) :
    (c.log.map Adjustment.kind).Sublist Kind.all ∧
      (Kind.upperBoundAfterRounding ∈ c.log.map Adjustment.kind →
        Kind.lowerBoundAfterRounding ∉ c.log.map Adjustment.kind ∧
          Kind.marginAfterRounding ∉ c.log.map Adjustment.kind) := by
  rcases h with h | h
  · refine ⟨h.kinds.trans (by decide), ?_⟩
    intro hupper
    exact absurd (h.kinds.subset hupper) (by decide)
  · refine ⟨h.kinds.trans (by decide), fun _ => ⟨?_, ?_⟩⟩
    · intro hlower
      exact absurd (h.kinds.subset hlower) (by decide)
    · intro hmargin
      exact absurd (h.kinds.subset hmargin) (by decide)

theorem Told.leads {start : Decimal} {c : Candidate} (h : c.Told start) : Adjustment.Leads start c.log c.price :=
  h.elim Logged.leads Logged.leads

/-- The lines lead from the text of a price in cents to that of the candidate's price. -/
theorem Told.lines {price : Decimal} {c : Candidate} (h : c.Told price.toCents) :
    Line.Leads price.toCents.toText (c.log.map Adjustment.message) c.price.toCents.toText := by
  have hlines := h.leads.lines
  rwa [Decimal.toCents_toCents] at hlines

theorem Told.toCents_eq {price : Decimal} {c : Candidate} (h : c.Told price.toCents) (hlog : c.log = []) :
    c.price.toCents = price.toCents := by
  have hleads := h.leads
  rw [hlog] at hleads
  have hprice : price.toCents = c.price := hleads
  rw [← hprice, Decimal.toCents_toCents]

end Candidate

/-- The reasons of a verdict read as a chain of prices from the original price, and to the final one if that is
approved. No reason is given twice, they stand in the order of the steps, and no price is lowered to the band after it
was raised after rounding. -/
theorem reasons_chain (cost currentPrice suggestedPrice : Decimal) (policy : Policy) :
    let result := enforce cost currentPrice suggestedPrice policy
    (∃ last, Line.Leads result.suggestedPriceOriginal.toText result.reasons last ∧
      (result.isOk = true → last = result.suggestedPriceFinal.toText)) ∧
      (result.reasons = [] → result.suggestedPriceFinal = result.suggestedPriceOriginal) ∧
      (result.adjusted = true → result.reasons ≠ []) ∧
      ∃ kinds : List Kind, result.reasons.map Line.kind? = kinds.map some ∧ kinds.Sublist Kind.all ∧
        (Kind.upperBoundAfterRounding ∈ kinds →
          Kind.lowerBoundAfterRounding ∉ kinds ∧ Kind.marginAfterRounding ∉ kinds) := by
  intro result
  have hstops := Candidate.stopsAt_guard suggestedPrice.toCents cost currentPrice policy
  cases h : Candidate.guard cost currentPrice policy ⟨suggestedPrice.toCents, []⟩ with
  | ok c =>
    rw [h] at hstops
    have htold : c.Told suggestedPrice.toCents := hstops
    have hresult : result = c.verdict suggestedPrice.toCents _ := enforce_of_guard_ok h
    rw [hresult]
    refine ⟨⟨_, htold.lines, fun _ => rfl⟩, ?_, ?_, _, Adjustment.map_kind?_lines c.log, htold.kinds⟩
    · intro hreasons
      exact htold.toCents_eq (List.map_eq_nil_iff.mp hreasons)
    · intro hadjusted hreasons
      have hsame := htold.toCents_eq (List.map_eq_nil_iff.mp hreasons)
      simp [Candidate.verdict, hsame, Decimal.SameValue] at hadjusted
  | error b =>
    rw [h] at hstops
    obtain ⟨c, htold, hlog⟩ := hstops
    have hlines := htold.lines
    have hkinds := htold.kinds
    rw [← hlog] at hlines hkinds
    have hresult : result = b.verdict suggestedPrice.toCents := enforce_of_guard_error h
    rw [hresult]
    refine ⟨⟨_, hlines, ?_⟩, fun _ => rfl, ?_, _, Adjustment.map_kind?_lines b.log, hkinds⟩
    · intro hok
      cases hok
    · intro hadjusted
      cases hadjusted

/-- Clamped, rounded out of the band and raised into it again. -/
theorem reasons_chain_fifty :
    let policy : Policy := ⟨.ofNat 10, .ofNat 15, .nearest10⟩
    let result := enforce .ten (.ofNat 99) (.ofNat 50) policy
    result.isOk = true ∧ result.adjusted = true ∧
      result.reasons = ["adjusted by max-change guardrail (15%): 50 -> 84.15",
        "rounded by workspace setting (NEAREST_10): 84.15 -> 80",
        "raised to max-change lower bound after rounding: 80 -> 90"] ∧
      (∃ last, Line.Leads result.suggestedPriceOriginal.toText result.reasons last ∧
        (result.isOk = true → last = result.suggestedPriceFinal.toText)) ∧ result.reasons ≠ [] := by
  intro policy result
  have hok : result.isOk = true := by decide +kernel
  have hadjusted : result.adjusted = true := by decide +kernel
  obtain ⟨hlines, -, hreasons, -⟩ := reasons_chain .ten (.ofNat 99) (.ofNat 50) policy
  exact ⟨hok, hadjusted, by decide +kernel, hlines, hreasons hadjusted⟩

end Repricing
