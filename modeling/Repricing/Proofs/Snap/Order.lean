import Repricing.Proofs.Decimal.Cents
import Repricing.Proofs.Snap

namespace Repricing.RoundingMode

/-- The ways to snap a price. -/
def snaps (mode : RoundingMode) : List (Decimal → Option Decimal) :=
  [mode.snapNearest?, mode.snapUp?, mode.snapDown?]

section Snaps

variable {mode : RoundingMode} {snap again : Decimal → Option Decimal} {v w a b : Decimal}

theorem exists_rule_of_mem_snaps (h : snap ∈ mode.snaps) : ∃ rule, snap = mode.snap? rule := by
  simp only [snaps, List.mem_cons, List.not_mem_nil, or_false] at h
  rcases h with rfl | rfl | rfl
  · exact ⟨.halfAway, rfl⟩
  · exact ⟨.up, rfl⟩
  · exact ⟨.down, rfl⟩

theorem le_of_mem_snaps (h : snap ∈ mode.snaps) (hvw : v ≤ w) (ha : snap v = some a) (hb : snap w = some b) :
    a ≤ b := by
  obtain ⟨rule, rfl⟩ := exists_rule_of_mem_snaps h
  exact Decimal.le_iff_toRat.mpr (snap?_mono ha hb hvw)

theorem isMultiple_of_mem_snaps (h : snap ∈ mode.snaps) (ha : snap v = some a) : mode.IsMultiple a.toRat := by
  obtain ⟨rule, rfl⟩ := exists_rule_of_mem_snaps h
  exact isMultiple_snap? ha

theorem exists_sameValue_of_mem_snaps (h : snap ∈ mode.snaps) (hv : mode.IsMultiple v.toRat) :
    ∃ a, snap v = some a ∧ a.SameValue v := by
  obtain ⟨rule, rfl⟩ := exists_rule_of_mem_snaps h
  obtain ⟨a, ha, hav⟩ := exists_snap?_of_isMultiple rule hv
  exact ⟨a, ha, Decimal.sameValue_iff_toRat.mpr hav⟩

/-- A snapped price is kept by every snap. -/
theorem exists_sameValue_of_snapped (h : snap ∈ mode.snaps) (ha : snap v = some a) (hagain : again ∈ mode.snaps) :
    ∃ b, again a = some b ∧ b.SameValue a :=
  exists_sameValue_of_mem_snaps hagain (isMultiple_of_mem_snaps h ha)

end Snaps

/-- Of two prices in order, the snapped ones are in order, and so are the ones in cents. What is snapped is a multiple
and is kept by every snap, as any multiple is; what is in cents stays as it is. -/
theorem rounding_keeps_order (mode : RoundingMode) {v w : Decimal} (h : v ≤ w) :
    (∀ snap ∈ mode.snaps,
      (∀ a b, snap v = some a → snap w = some b → a ≤ b) ∧
      (∀ a, snap v = some a →
        mode.IsMultiple a.toRat ∧ ∀ again ∈ mode.snaps, ∃ b, again a = some b ∧ b.SameValue a) ∧
      (mode.IsMultiple v.toRat → ∃ a, snap v = some a ∧ a.SameValue v)) ∧
    v.toCents ≤ w.toCents ∧ v.toCents.toCents = v.toCents ∧ |v.toCents.toRat - v.toRat| ≤ 1 / 200 := by
  refine ⟨fun snap hsnap => ⟨?mono, ?multiple, ?kept⟩, ?cents⟩
  case mono =>
    intro a b ha hb
    exact le_of_mem_snaps hsnap h ha hb
  case multiple =>
    intro a ha
    exact ⟨isMultiple_of_mem_snaps hsnap ha, fun again hagain => exists_sameValue_of_snapped hsnap ha hagain⟩
  case kept => exact exists_sameValue_of_mem_snaps hsnap
  case cents => exact ⟨Decimal.round_mono h, Decimal.toCents_toCents v, v.abs_toCents_sub_le⟩

/-- The lower price is below a multiple by the last digit that a decimal has. -/
theorem rounding_keeps_order_five :
    let low : Decimal := ⟨49999999999999999999999999999, 28, by decide, by decide⟩
    let high : Decimal := ⟨125, 1, by decide, by decide⟩
    low ≤ high ∧ nearest5.snapDown? low = some .five ∧ nearest5.snapDown? high = some .ten ∧ Decimal.five ≤ .ten ∧
      nearest5.IsMultiple Decimal.five.toRat ∧ (∃ b, nearest5.snapUp? .five = some b ∧ b.SameValue .five) ∧
      low.toCents ≤ high.toCents ∧ |low.toCents.toRat - low.toRat| ≤ 1 / 200 := by
  intro low high
  have hle : low ≤ high := by decide +kernel
  have hlow : nearest5.snapDown? low = some .five := by decide +kernel
  have hhigh : nearest5.snapDown? high = some .ten := by decide +kernel
  obtain ⟨hsnaps, hcents, -, hnear⟩ := rounding_keeps_order nearest5 hle
  obtain ⟨hmono, hsnapped, -⟩ := hsnaps nearest5.snapDown? (by simp [snaps])
  obtain ⟨hmultiple, hagain⟩ := hsnapped .five hlow
  exact ⟨hle, hlow, hhigh, hmono _ _ hlow hhigh, hmultiple, hagain nearest5.snapUp? (by simp [snaps]), hcents, hnear⟩

end Repricing.RoundingMode
