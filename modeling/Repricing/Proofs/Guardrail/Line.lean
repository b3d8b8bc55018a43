import Repricing.Guardrail.Result
import Repricing.Proofs.Decimal.Text

namespace Repricing

/-- What moves a price, without the numbers. -/
inductive Adjustment.Kind where
  | maxChange
  | minMargin
  | rounding
  | lowerBoundAfterRounding
  | marginAfterRounding
  | upperBoundAfterRounding
  deriving DecidableEq

namespace Adjustment

/-- The kinds, in the order of the steps. -/
def Kind.all : List Kind :=
  [maxChange, minMargin, rounding, lowerBoundAfterRounding, marginAfterRounding, upperBoundAfterRounding]

/-- The words that every line of the kind starts with. -/
def Kind.opening : Kind → String
  | maxChange => "adjusted by max-change guardrail ("
  | minMargin => "raised to meet minimum margin ("
  | rounding => "rounded by workspace setting ("
  | lowerBoundAfterRounding => "raised to max-change lower bound after rounding"
  | marginAfterRounding => "raised to meet minimum margin after rounding"
  | upperBoundAfterRounding => "lowered to max-change upper bound after rounding"

def Rule.kind : Rule → Kind
  | maxChange _ => .maxChange
  | minMargin _ => .minMargin
  | rounding _ => .rounding
  | lowerBoundAfterRounding => .lowerBoundAfterRounding
  | marginAfterRounding => .marginAfterRounding
  | upperBoundAfterRounding => .upperBoundAfterRounding

def kind (a : Adjustment) : Kind := a.rule.kind

end Adjustment

namespace Line

/-- The kind whose words the line starts with. -/
def kind? (line : String) : Option Adjustment.Kind :=
  Adjustment.Kind.all.find? fun kind => kind.opening.toList.isPrefixOf line.toList

/-- Both prices and the arrow: what stands behind the colon and its blank. -/
def prices (line : String) : List Char := (line.toList.dropWhile (· ≠ ':')).drop 2

/-- The price before the adjustment, which ends at the first blank. -/
def before (line : String) : String := String.ofList ((prices line).takeWhile (· ≠ ' '))

/-- The price after the adjustment, behind the arrow and its blanks. -/
def after (line : String) : String := String.ofList (((prices line).dropWhile (· ≠ ' ')).drop 4)

/-- Each line goes on from the price that the line before it led to, from the first price to the last one. -/
def Leads : String → List String → String → Prop
  | start, [], stop => start = stop
  | start, line :: lines, stop => before line = start ∧ Leads (after line) lines stop

end Line

section Characters

theorem Decimal.isDigit_of_mem_toChars {d : Decimal} {c : Char} (h : c ∈ d.toChars) :
    c.isDigit = true ∨ c = '-' ∨ c = '.' := by
  unfold toChars at h
  dsimp only at h
  rw [List.mem_append, List.mem_append] at h
  rcases h with (hsign | hwhole) | hfraction
  · split_ifs at hsign <;> simp_all
  · exact .inl (isDigit_toDigits _ _ hwhole)
  · split_ifs at hfraction
    · cases hfraction
    · rcases List.mem_cons.mp hfraction with hpoint | hdigit
      · exact .inr (.inr hpoint)
      · exact .inl (isDigit_fixedDigits _ _ _ hdigit)

/-- A price has no blank, and no colon. -/
theorem Decimal.not_mem_toChars (d : Decimal) : ' ' ∉ d.toChars ∧ ':' ∉ d.toChars := by
  constructor <;> intro h <;> rcases isDigit_of_mem_toChars h with h | h | h <;> revert h <;> decide

theorem Decimal.toList_toText (d : Decimal) : d.toText.toList = d.toChars := String.toList_ofList

/-- Stated for variables: a literal that meets the pattern of `String.toList_append` would be unfolded. -/
theorem toList_append_append (s t u : String) : (s ++ t ++ u).toList = s.toList ++ (t.toList ++ u.toList) := by
  rw [String.toList_append, String.toList_append, List.append_assoc]

end Characters

namespace Adjustment

/-- The words of a rule go on with its number or its mode, if it has one, and come to no colon. -/
theorem Rule.exists_rest (rule : Rule) :
    ∃ rest, rule.message.toList = rule.kind.opening.toList ++ rest ∧ ':' ∉ rest := by
  cases rule with
  | maxChange pct =>
    refine ⟨pct.toText.toList ++ "%)".toList, toList_append_append "adjusted by max-change guardrail (" _ _, ?_⟩
    rw [pct.toList_toText]
    exact List.not_mem_append pct.not_mem_toChars.2 (by decide)
  | minMargin pct =>
    refine ⟨pct.toText.toList ++ "%)".toList, toList_append_append "raised to meet minimum margin (" _ _, ?_⟩
    rw [pct.toList_toText]
    exact List.not_mem_append pct.not_mem_toChars.2 (by decide)
  | rounding mode =>
    refine ⟨mode.name.toList ++ ")".toList, toList_append_append "rounded by workspace setting (" _ _, ?_⟩
    cases mode <;> decide
  | lowerBoundAfterRounding => exact ⟨[], (List.append_nil _).symm, List.not_mem_nil⟩
  | marginAfterRounding => exact ⟨[], (List.append_nil _).symm, List.not_mem_nil⟩
  | upperBoundAfterRounding => exact ⟨[], (List.append_nil _).symm, List.not_mem_nil⟩

theorem Kind.not_mem_opening (kind : Kind) : ':' ∉ kind.opening.toList := by
  cases kind <;> simp [opening]

/-- The opening words of one kind are not those of another one. -/
theorem Kind.eq_of_prefix {kind kind' : Kind} (h : kind.opening.toList <+: kind'.opening.toList) : kind = kind' := by
  rw [← List.isPrefixOf_iff_prefix] at h
  revert h
  cases kind <;> cases kind' <;> simp [opening]

theorem toList_message (a : Adjustment) : a.message.toList =
    a.rule.message.toList ++ ':' :: ' ' :: (a.before.toCents.toChars ++ ' ' :: '-' :: '>' :: ' ' ::
      a.after.toCents.toChars) := by
  simp [message, Decimal.toText]

theorem kind?_message (a : Adjustment) : Line.kind? a.message = some a.kind := by
  obtain ⟨rest, hrest, -⟩ := a.rule.exists_rest
  have hprefix : a.kind.opening.toList <+: a.message.toList := by
    rw [toList_message, hrest, List.append_assoc]
    exact List.prefix_append _ _
  have hmem : a.kind ∈ Kind.all := by
    cases a.kind <;> decide
  cases h : Line.kind? a.message with
  | none =>
    have hnone := List.find?_eq_none.mp h _ hmem
    exact absurd (List.isPrefixOf_iff_prefix.mpr hprefix) hnone
  | some kind =>
    have hkind : kind.opening.toList <+: a.message.toList := by
      have hsome := List.find?_some h
      exact List.isPrefixOf_iff_prefix.mp hsome
    -- Of two prefixes of one line the shorter one is a prefix of the other.
    rcases List.prefix_or_prefix_of_prefix hkind hprefix with hle | hle
    · rw [Kind.eq_of_prefix hle]
    · rw [Kind.eq_of_prefix hle]

/-- The lines of a log are of the kinds of its adjustments. -/
theorem map_kind?_lines (log : List Adjustment) : (log.map message).map Line.kind? = (log.map kind).map some := by
  rw [List.map_map, List.map_map]
  apply List.map_congr_left
  intro a _
  exact a.kind?_message

theorem prices_message (a : Adjustment) : Line.prices a.message =
    a.before.toCents.toChars ++ ' ' :: '-' :: '>' :: ' ' :: a.after.toCents.toChars := by
  obtain ⟨rest, hrest, hcolon⟩ := a.rule.exists_rest
  have hwords : ∀ c ∈ a.rule.message.toList, decide (c ≠ ':') = true := by
    rintro c hc
    rw [hrest, List.mem_append] at hc
    apply decide_eq_true
    rintro rfl
    exact hc.elim (Kind.not_mem_opening _) hcolon
  rw [Line.prices, toList_message, List.dropWhile_append_of_pos hwords]
  rfl

theorem not_blank (d : Decimal) : ∀ c ∈ d.toChars, decide (c ≠ ' ') = true := by
  intro c hc
  apply decide_eq_true
  rintro rfl
  exact d.not_mem_toChars.1 hc

@[simp] theorem before_message (a : Adjustment) : Line.before a.message = a.before.toCents.toText := by
  rw [Line.before, prices_message, List.takeWhile_append_of_pos (not_blank _)]
  simp [Decimal.toText]

@[simp] theorem after_message (a : Adjustment) : Line.after a.message = a.after.toCents.toText := by
  rw [Line.after, prices_message, List.dropWhile_append_of_pos (not_blank _)]
  rfl

end Adjustment

end Repricing
