import Repricing.Proofs.Decimal.Value

namespace Repricing.Decimal

/-- No more than two fraction digits, apart from zeros at the end. -/
def InCents (d : Decimal) : Prop := d.toCents.SameValue d

instance (d : Decimal) : Decidable d.InCents := inferInstanceAs (Decidable (d.toCents.SameValue d))

variable {d e : Decimal}

theorem rounds_toCents (d : Decimal) :
    ∃ k : Int, Rounding.halfAway.Rounds (d.toRat * 100) k ∧ d.toCents.toRat = k / 100 := by
  obtain ⟨k, hk, hd⟩ := d.rounds_round .halfAway 2
  norm_num at hk hd
  exact ⟨k, hk, hd⟩

theorem abs_toCents_sub_le (d : Decimal) : |d.toCents.toRat - d.toRat| ≤ 1 / 200 := by
  obtain ⟨k, hk, hd⟩ := d.rounds_toCents
  have hnear := abs_le.mp hk.1
  rw [hd, abs_le]
  constructor <;> linarith

/-- Rounding to cents passes no whole number of cents. -/
theorem toCents_le_of_le {k : Int} (h : d.toRat ≤ k / 100) : d.toCents.toRat ≤ k / 100 := by
  obtain ⟨j, hj, hd⟩ := d.rounds_toCents
  have hjk : j ≤ k := hj.mono (Rounding.rounds_intCast _ k) (by linarith)
  rw [hd]
  exact div_le_div_of_nonneg_right (by exact_mod_cast hjk) (by norm_num)

theorem le_toCents_of_le {k : Int} (h : k / 100 ≤ d.toRat) : k / 100 ≤ d.toCents.toRat := by
  obtain ⟨j, hj, hd⟩ := d.rounds_toCents
  have hkj : k ≤ j := (Rounding.rounds_intCast _ k).mono hj (by linarith)
  rw [hd]
  exact div_le_div_of_nonneg_right (by exact_mod_cast hkj) (by norm_num)

/-- Rounding to cents stays at or below a limit exactly if it goes down or a whole number of cents lies in between. -/
theorem toCents_le_iff {limit : Decimal} (h : d.toRat ≤ limit.toRat) :
    d.toCents.toRat ≤ limit.toRat ↔
      d.toCents.toRat ≤ d.toRat ∨ ∃ k : Int, d.toRat ≤ k / 100 ∧ (k : Rat) / 100 ≤ limit.toRat := by
  constructor
  · intro hle
    obtain ⟨k, -, hk⟩ := d.rounds_toCents
    rcases le_total d.toCents.toRat d.toRat with hdown | hup
    · exact .inl hdown
    · exact .inr ⟨k, hk ▸ hup, hk ▸ hle⟩
  · rintro (hdown | ⟨k, hd, hlimit⟩)
    · exact hdown.trans h
    · exact (toCents_le_of_le hd).trans hlimit

theorem inCents_toCents (d : Decimal) : d.toCents.InCents := by
  rw [InCents, toCents_toCents]
  rfl

theorem InCents.toRat_toCents (h : d.InCents) : d.toCents.toRat = d.toRat := sameValue_iff_toRat.mp h

theorem InCents.exists_int (h : d.InCents) : ∃ k : Int, d.toRat * 100 = k := by
  obtain ⟨k, -, hd⟩ := d.rounds_toCents
  refine ⟨k, ?_⟩
  rw [← h.toRat_toCents, hd, div_mul_cancel₀ _ (by norm_num)]

theorem InCents.cent_le (h : d.InCents) (hpos : 0 < d.toRat) : 1 / 100 ≤ d.toRat := by
  obtain ⟨k, hk⟩ := h.exists_int
  have hk0 : 0 < k := by
    have hk0 : (0 : Rat) < k := by linarith
    exact_mod_cast hk0
  have hk1 : (1 : Rat) ≤ k := by exact_mod_cast hk0
  linarith

/-- A value in cents stays below what rounds to cents from less than half a cent under it. -/
theorem InCents.le_toCents_of_lt (h : d.InCents) (hlt : d.toRat - 1 / 200 < e.toRat) : d.toRat ≤ e.toCents.toRat := by
  obtain ⟨j, hj⟩ := h.exists_int
  obtain ⟨k, hk, he⟩ := e.rounds_toCents
  have hnear := abs_le.mp hk.1
  have hjk : j ≤ k := by
    have hlt : (j : Rat) < k + 1 := by linarith
    exact Int.lt_add_one_iff.mp (by exact_mod_cast hlt)
  have hjk : (j : Rat) ≤ k := by exact_mod_cast hjk
  rw [he]
  linarith

theorem InCents.le_toCents (h : d.InCents) (hle : d.toRat ≤ e.toRat) : d.toRat ≤ e.toCents.toRat :=
  h.le_toCents_of_lt (by linarith)

theorem InCents.toCents_le (h : d.InCents) (hle : e.toRat ≤ d.toRat) : e.toCents.toRat ≤ d.toRat := by
  rw [← h.toRat_toCents]
  exact toRat_toCents_mono hle

end Repricing.Decimal
