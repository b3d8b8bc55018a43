import Mathlib.Data.List.Forall2

namespace Repricing

variable {α β ε : Type} {f : α → Except ε β} {a : α} {b : β} {e : ε}

theorem mapM_cons_of_ok (h : f a = .ok b) (rest : List α) :
    (a :: rest).mapM f = (rest.mapM f).map (b :: ·) := by
  rw [List.mapM_cons, h]
  cases rest.mapM f <;> rfl

theorem mapM_cons_of_error (h : f a = .error e) (rest : List α) : (a :: rest).mapM f = .error e := by
  rw [List.mapM_cons, h]
  rfl

/-- A traversal that succeeds has a result for every item, in their order. -/
theorem mapM_eq_ok_iff {items : List α} {results : List β} :
    items.mapM f = .ok results ↔ List.Forall₂ (fun a b => f a = .ok b) items results := by
  induction items generalizing results with
  | nil => cases results <;> simp [pure, Except.pure]
  | cons a rest ih =>
    cases ha : f a with
    | error e =>
      rw [mapM_cons_of_error ha]
      cases results <;> simp [ha]
    | ok b =>
      rw [mapM_cons_of_ok ha]
      cases hrest : rest.mapM f with
      | error e => cases results <;> simp [← ih, hrest, Except.map]
      | ok tail => cases results <;> simp [← ih, hrest, ha, Except.map]

/-- A traversal fails with the error of the first item that has one. -/
theorem mapM_eq_error_iff {items : List α} :
    items.mapM f = .error e ↔
      ∃ front a back, items = front ++ a :: back ∧ (∀ x ∈ front, ∃ b, f x = .ok b) ∧ f a = .error e := by
  induction items with
  | nil => simp [pure, Except.pure]
  | cons a rest ih =>
    constructor
    · intro h
      cases ha : f a with
      | error e' =>
        rw [mapM_cons_of_error ha] at h
        exact ⟨[], a, rest, rfl, by simp, by rw [ha, Except.error.inj h]⟩
      | ok b =>
        have hrest : rest.mapM f = .error e := by
          rw [mapM_cons_of_ok ha] at h
          cases hrest : rest.mapM f with
          | error e' => simpa [hrest, Except.map] using h
          | ok tail => simp [hrest, Except.map] at h
        obtain ⟨front, a', back, rfl, hfront, ha'⟩ := ih.mp hrest
        exact ⟨a :: front, a', back, rfl, List.forall_mem_cons.mpr ⟨⟨b, ha⟩, hfront⟩, ha'⟩
    · rintro ⟨front, a', back, hsplit, hfront, ha'⟩
      cases front with
      | nil =>
        cases hsplit
        exact mapM_cons_of_error ha' _
      | cons x front =>
        cases hsplit
        obtain ⟨⟨b, hb⟩, hfront⟩ := List.forall_mem_cons.mp hfront
        rw [mapM_cons_of_ok hb, ih.mpr ⟨front, a', back, rfl, hfront, ha'⟩]
        rfl

theorem exists_left_of_mem {R : α → β → Prop} {items : List α} {results : List β} (h : List.Forall₂ R items results)
    (hb : b ∈ results) : ∃ a ∈ items, R a b := by
  induction h with
  | nil => cases hb
  | cons hhead _ ih =>
    rcases List.mem_cons.mp hb with rfl | hb
    · exact ⟨_, List.mem_cons_self, hhead⟩
    · obtain ⟨a, ha, hab⟩ := ih hb
      exact ⟨a, List.mem_cons_of_mem _ ha, hab⟩

theorem forall₂_congr_of_mem {R S : α → β → Prop} {items : List α} {results : List β}
    (h : ∀ a, ∀ b ∈ results, R a b ↔ S a b) : List.Forall₂ R items results ↔ List.Forall₂ S items results := by
  induction results generalizing items with
  | nil => rw [List.forall₂_nil_right_iff, List.forall₂_nil_right_iff]
  | cons b rest ih =>
    cases items with
    | nil => simp
    | cons a items =>
      have hrest := @ih items fun a b hb => h a b (List.mem_cons_of_mem _ hb)
      rw [List.forall₂_cons, List.forall₂_cons, h a b List.mem_cons_self, hrest]

theorem exists_forall₂ {S : α → β → Prop} {items : List α} (h : ∀ a ∈ items, ∃ b, S a b) :
    ∃ results, List.Forall₂ S items results := by
  induction items with
  | nil => exact ⟨[], .nil⟩
  | cons a rest ih =>
    obtain ⟨⟨b, hb⟩, hrest⟩ := List.forall_mem_cons.mp h
    obtain ⟨results, hresults⟩ := ih hrest
    exact ⟨b :: results, .cons hb hresults⟩

end Repricing
