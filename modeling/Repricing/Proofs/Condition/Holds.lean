import Repricing.Condition.Holds
import Repricing.Proofs.Decimal.Value

namespace Repricing

namespace Value

mutual

theorem same_self : ∀ v : Value, same v v = true
  | number _ => decide_eq_true rfl
  | text s => beq_self_eq_true s
  | bool b => beq_self_eq_true b
  | record fields => sameFields_self fields
  | list slots => sameSlots_self slots

theorem sameFields_self : ∀ fields : List (String × Value), sameFields fields fields = true
  | [] => rfl
  | (key, v) :: rest => by simp [sameFields, same_self v, sameFields_self rest]

theorem sameSlots_self : ∀ slots : List (Option Value), sameSlots slots slots = true
  | [] => rfl
  | none :: rest => sameSlots_self rest
  | some v :: rest => by simp [sameSlots, same_self v, sameSlots_self rest]

end

mutual

/-- Equal values are equal to the same values. -/
theorem same_congr : ∀ v w : Value, same v w = true → ∀ u, same v u = same w u
  | number d, number e, h, u => by
    have hde : d.SameValue e := of_decide_eq_true h
    cases u with
    | number f =>
      rw [Decimal.sameValue_iff_toRat] at hde
      simp [same, Decimal.sameValue_iff_toRat, hde]
    | _ => rfl
  | text s, text t, h, u => by
    obtain rfl : s = t := eq_of_beq h
    rfl
  | bool b, bool c, h, u => by
    obtain rfl : b = c := eq_of_beq h
    rfl
  | record fields, record fields', h, u => by
    cases u with
    | record others => exact sameFields_congr fields fields' h others
    | _ => rfl
  | list slots, list slots', h, u => by
    cases u with
    | list others => exact sameSlots_congr slots slots' h others
    | _ => rfl

theorem sameFields_congr : ∀ fields fields' : List (String × Value), sameFields fields fields' = true →
    ∀ others, sameFields fields others = sameFields fields' others
  | [], [], _, _ => rfl
  | (key, v) :: rest, (key', v') :: rest', h, others => by
    simp only [sameFields, Bool.and_eq_true, beq_iff_eq] at h
    obtain ⟨⟨rfl, hv⟩, hrest⟩ := h
    cases others with
    | nil => rfl
    | cons other others => simp only [sameFields, same_congr v v' hv, sameFields_congr rest rest' hrest]

theorem sameSlots_congr : ∀ slots slots' : List (Option Value), sameSlots slots slots' = true →
    ∀ others, sameSlots slots others = sameSlots slots' others
  | [], [], _, _ => rfl
  | none :: rest, none :: rest', h, others => by
    cases others with
    | nil => rfl
    | cons other others =>
      cases other with
      | none => exact sameSlots_congr rest rest' h others
      | some u => rfl
  | some v :: rest, some v' :: rest', h, others => by
    simp only [sameSlots, Bool.and_eq_true] at h
    cases others with
    | nil => rfl
    | cons other others =>
      cases other with
      | none => rfl
      | some u => simp only [sameSlots, same_congr v v' h.1, sameSlots_congr rest rest' h.2]

end

theorem same_symm {v w : Value} (h : same v w = true) : same w v = true := by
  rw [← same_congr v w h]
  exact same_self v

theorem same_comm (v w : Value) : same v w = same w v :=
  Bool.eq_iff_iff.mpr ⟨same_symm, same_symm⟩

variable {x x' y y' : Option Value}

theorem same?_self (x : Option Value) : same? x x = true := by
  cases x with
  | none => rfl
  | some v => exact same_self v

theorem same?_comm : ∀ x y : Option Value, same? x y = same? y x
  | none, none | none, some _ | some _, none => rfl
  | some v, some w => same_comm v w

theorem same?_congr_left (hx : same? x x' = true) (y : Option Value) : same? x y = same? x' y := by
  match x, x', y with
  | none, none, _ | some _, some _, none => rfl
  | some v, some v', some w => exact same_congr v v' hx w

theorem same?_congr (hx : same? x x' = true) (hy : same? y y' = true) : same? x y = same? x' y' :=
  calc
    same? x y = same? x' y := same?_congr_left hx y
    _ = same? y x' := same?_comm x' y
    _ = same? y' x' := same?_congr_left hy x'
    _ = same? x' y' := same?_comm y' x'

/-- Where equal values are numbers, they are equal numbers. -/
theorem asNumber?_of_same? (h : same? x x' = true) :
    (x.bind asNumber? = none ∧ x'.bind asNumber? = none) ∨
      ∃ d d', x.bind asNumber? = some d ∧ x'.bind asNumber? = some d' ∧ d.toRat = d'.toRat := by
  cases x with
  | none =>
    cases x' with
    | none => exact .inl ⟨rfl, rfl⟩
    | some v => cases h
  | some v =>
    cases x' with
    | none => cases h
    | some v' =>
      cases v with
      | number d =>
        cases v' with
        | number d' => exact .inr ⟨d, d', rfl, rfl, Decimal.sameValue_iff_toRat.mp (of_decide_eq_true h)⟩
        | _ => cases h
      | _ =>
        cases v' with
        | number d' => cases h
        | _ => exact .inl ⟨rfl, rfl⟩

end Value

namespace Condition

variable {x x' y y' : Option Value}

theorem ordered_of_same? {relation : Decimal → Decimal → Bool}
    (hrelation : ∀ {d d' e e' : Decimal}, d.toRat = d'.toRat → e.toRat = e'.toRat → relation d e = relation d' e')
    (hx : Value.same? x x' = true) (hy : Value.same? y y' = true) :
    holdsBetween.ordered x y relation = holdsBetween.ordered x' y' relation := by
  unfold holdsBetween.ordered
  obtain ⟨hnone, hnone'⟩ | ⟨d, d', hd, hd', hvalue⟩ := Value.asNumber?_of_same? hx
  · rw [hnone, hnone']
  · obtain ⟨hnone, hnone'⟩ | ⟨e, e', he, he', hvalue'⟩ := Value.asNumber?_of_same? hy
    · rw [hd, hd', hnone, hnone']
    · rw [hd, hd', he, he']
      exact hrelation hvalue hvalue'

/-- Comparisons of equal values have one answer. -/
theorem holdsBetween_of_same? (op : Comparison) (hx : Value.same? x x' = true) (hy : Value.same? y y' = true) :
    holdsBetween op x y = holdsBetween op x' y' := by
  cases op with
  | eq => exact Value.same?_congr hx hy
  | neq => exact congrArg not (Value.same?_congr hx hy)
  | lt => exact ordered_of_same? (by simp +contextual [Decimal.lt_iff_toRat]) hx hy
  | lte => exact ordered_of_same? (by simp +contextual [Decimal.le_iff_toRat]) hx hy
  | gt => exact ordered_of_same? (by simp +contextual [Decimal.lt_iff_toRat]) hx hy
  | gte => exact ordered_of_same? (by simp +contextual [Decimal.le_iff_toRat]) hx hy

end Condition

end Repricing
