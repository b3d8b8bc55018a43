import Repricing.Proofs.Json.Written
import Repricing.Recommendation

namespace Repricing

namespace Json

variable {depth : Nat} {name : String} {value : Json} {members more : List (String × Json)}

/-- The values of the members can be read from a text. -/
def AreLegible (depth : Nat) (members : List (String × Json)) : Prop := ∀ m ∈ members, IsLegible depth m.2

@[simp] theorem isLegible_null (depth : Nat) : IsLegible depth null := .null depth

@[simp] theorem isLegible_bool (depth : Nat) (b : Bool) : IsLegible depth (bool b) := .bool depth b

@[simp] theorem isLegible_string (depth : Nat) (s : String) : IsLegible depth (string s) := .string depth s

@[simp] theorem isLegible_ofInt (depth : Nat) (n : Int64) : IsLegible depth (ofInt n.toInt) := by
  have hlow := n.le_toInt
  have hhigh := n.toInt_lt
  have hunsigned : (2 : Int) ^ 63 < twoPow 64 := by decide
  exact .number depth (isLegible_integer hlow (hhigh.trans hunsigned))

@[simp] theorem isLegible_array {items : List Json} :
    IsLegible (depth + 1) (array items) ↔ ∀ item ∈ items, IsLegible depth item := by
  constructor
  · intro h
    cases h with
    | array h => exact h
  · exact .array

@[simp] theorem isLegible_object : IsLegible (depth + 1) (object members) ↔ AreLegible depth members := by
  constructor
  · intro h
    cases h with
    | object h => exact h
  · exact .object

@[simp] theorem areLegible_nil (depth : Nat) : AreLegible depth [] := List.forall_mem_nil _

@[simp] theorem areLegible_cons :
    AreLegible depth ((name, value) :: members) ↔ IsLegible depth value ∧ AreLegible depth members :=
  List.forall_mem_cons

@[simp] theorem areLegible_append :
    AreLegible depth (members ++ more) ↔ AreLegible depth members ∧ AreLegible depth more :=
  List.forall_mem_append

@[simp] theorem areLegible_optionalMember {α : Type} {toJson : α → Json} {given : Option α} :
    AreLegible depth (optionalMember name toJson given) ↔ ∀ a ∈ given, IsLegible depth (toJson a) := by
  cases given <;> simp [optionalMember]

end Json

open Json

theorem Payload.isLegible_toJson (depth : Nat) (p : Payload) : IsLegible (depth + 1) p.toJson := by
  cases p <;> simp [toJson]

theorem Event.isLegible_toJson (depth : Nat) (e : Event) : IsLegible (depth + 2) e.toJson := by
  simp [toJson, Payload.isLegible_toJson]

theorem Sku.isLegible_toJson {depth : Nat} {s : Sku} (h : AreLegible depth s.attributes) :
    IsLegible (depth + 2) s.toJson := by
  cases hattributes : s.attributes with
  | nil => simp [toJson, hattributes]
  | cons m rest =>
    rw [hattributes] at h
    simp [toJson, hattributes, h]

theorem Policy.isLegible_toJson (depth : Nat) (p : Policy) : IsLegible (depth + 1) p.toJson := by
  simp [toJson]

theorem ActionDetails.isLegible_toJson (depth : Nat) (d : ActionDetails) : IsLegible (depth + 1) d.toJson := by
  cases d <;> simp [toJson]

theorem SuggestedAction.isLegible_toJson (depth : Nat) (a : SuggestedAction) : IsLegible (depth + 2) a.toJson := by
  simp [toJson, ActionDetails.isLegible_toJson]

theorem GuardrailResult.isLegible_toJson (depth : Nat) (r : GuardrailResult) : IsLegible (depth + 2) r.toJson := by
  simp [toJson]

theorem Recommendation.isLegible_toJson (depth : Nat) (r : Recommendation) : IsLegible (depth + 3) r.toJson := by
  cases hguardrail : r.guardrail with
  | none => simp [toJson, hguardrail, SuggestedAction.isLegible_toJson]
  | some result => simp [toJson, hguardrail, SuggestedAction.isLegible_toJson, GuardrailResult.isLegible_toJson]

end Repricing
