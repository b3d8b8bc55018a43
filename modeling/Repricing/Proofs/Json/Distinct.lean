import Mathlib.Tactic.SplitIfs
import Repricing.Json.Reader
import Repricing.Proofs.Json.Sorted

namespace Repricing.Json

/-- If a document is read, no object of it has a key twice. -/
def GivesDistinct (result : Except ReadError (Json × Cursor)) : Prop :=
  ∀ document c, result = .ok (document, c) → document.KeysDistinct

section Outcome

variable {α : Type} {document : Json} {c : Cursor}

theorem givesDistinct_ok (h : document.KeysDistinct) : GivesDistinct (.ok (document, c)) := by
  rintro _ _ ⟨⟩
  exact h

theorem givesDistinct_fail (fault : SyntaxFault) : GivesDistinct (c.fail fault) := by
  rintro _ _ ⟨⟩

theorem givesDistinct_failAhead (fault : SyntaxFault) : GivesDistinct (c.failAhead fault) :=
  givesDistinct_fail fault

theorem GivesDistinct.bind {x : Except ReadError (α × Cursor)} {f : α × Cursor → Except ReadError (Json × Cursor)}
    (h : ∀ a c, x = .ok (a, c) → GivesDistinct (f (a, c))) : GivesDistinct (x >>= f) := by
  cases x with
  | error e => rintro _ _ ⟨⟩
  | ok found => exact h found.1 found.2 rfl

end Outcome

section Token

variable {value : Json} {negative powerNegative : Bool} {digits : Nat} {power : Int}

theorem givesDistinct_readWord (h : value.KeysDistinct) (word : List Char) (c : Cursor) :
    GivesDistinct (readWord value word c) := by
  induction word generalizing c with
  | nil => exact givesDistinct_ok h
  | cons expected word ih =>
    unfold readWord
    split
    · exact givesDistinct_fail _
    · split_ifs
      · exact ih _
      · exact givesDistinct_failAhead _

theorem givesDistinct_floatAt (c : Cursor) : GivesDistinct (floatAt c negative digits power) := by
  unfold floatAt
  split
  · exact givesDistinct_ok (.number _)
  · exact givesDistinct_fail _

theorem givesDistinct_hugePower (c : Cursor) : GivesDistinct (hugePower c negative digits powerNegative) := by
  unfold hugePower
  split_ifs
  · exact givesDistinct_fail _
  · exact givesDistinct_ok (.number _)

theorem givesDistinct_readPowerDigits (value : Nat) (text : List Char) (c : Cursor) :
    GivesDistinct (readPowerDigits negative digits power powerNegative value text c) := by
  induction text generalizing value c with
  | nil => exact givesDistinct_floatAt c
  | cons ch rest ih =>
    unfold readPowerDigits
    dsimp only
    split_ifs
    · exact givesDistinct_hugePower _
    · exact ih _ _
    · exact givesDistinct_floatAt c
    · exact givesDistinct_floatAt c

theorem givesDistinct_readPower (c : Cursor) : GivesDistinct (readPower negative digits power c) := by
  unfold readPower
  dsimp only
  split
  · exact givesDistinct_fail _
  · split_ifs
    · exact givesDistinct_readPowerDigits _ _ _
    · exact givesDistinct_failAhead _

theorem givesDistinct_wholeAt (c : Cursor) (n unread : Nat) :
    GivesDistinct (readNumberTail.wholeAt negative c n unread) := by
  unfold readNumberTail.wholeAt
  split_ifs
  · exact givesDistinct_floatAt c
  · exact givesDistinct_ok (.number _)
  · exact givesDistinct_floatAt c
  · exact givesDistinct_ok (.number _)

theorem givesDistinct_readNumberTail (whole : List Char) (c : Cursor) :
    GivesDistinct (readNumberTail negative whole c) := by
  unfold readNumberTail
  dsimp only
  split
  · split
    · exact givesDistinct_fail _
    · exact givesDistinct_failAhead _
    · split_ifs
      · exact givesDistinct_readPower _
      · exact givesDistinct_floatAt _
    · exact givesDistinct_floatAt _
  · split_ifs
    · exact givesDistinct_readPower _
    · exact givesDistinct_wholeAt _ _ _
  · exact givesDistinct_wholeAt _ _ _

theorem givesDistinct_readNumber (c : Cursor) : GivesDistinct (readNumber negative c) := by
  unfold readNumber
  split
  · exact givesDistinct_fail _
  · split
    · split_ifs
      · exact givesDistinct_failAhead _
      · exact givesDistinct_readNumberTail _ _
    · exact givesDistinct_readNumberTail _ _
  · split_ifs
    · exact givesDistinct_readNumberTail _ _
    · exact givesDistinct_failAhead _

end Token

section Value

variable {fuel depth : Nat}

theorem givesDistinct_readItems (hvalue : ∀ c, GivesDistinct (readValue fuel depth c))
    (hitems : ∀ read : List Json, (∀ item ∈ read, item.KeysDistinct) → ∀ c, GivesDistinct (readItems fuel depth read c))
    {read : List Json} (hread : ∀ item ∈ read, item.KeysDistinct) (c : Cursor) :
    GivesDistinct (readItems (fuel + 1) depth read c) := by
  unfold readItems
  dsimp only
  split
  · exact givesDistinct_failAhead _
  · split_ifs
    · exact givesDistinct_ok (.array fun item hitem => hread item (List.mem_reverse.mp hitem))
    · exact .bind fun item c' h => hitems _ (List.forall_mem_singleton.mpr (hvalue _ item c' h)) c'
    · split
      · exact givesDistinct_failAhead _
      · exact givesDistinct_failAhead _
      · exact .bind fun item c' h => hitems _ (List.forall_mem_cons.mpr ⟨hvalue _ item c' h, hread⟩) c'
    · exact givesDistinct_failAhead _

/-- The members of an object that have been read stand in order, and no object inside of them has a key twice. -/
structure AreDistinct (members : List (String × Json)) : Prop where
  ascending : Ascending members
  values : ∀ m ∈ members, m.2.KeysDistinct

theorem AreDistinct.insertMember {members : List (String × Json)} {key : String} {value : Json}
    (h : AreDistinct members) (hvalue : value.KeysDistinct) : AreDistinct (insertMember key value members) where
  ascending := h.ascending.insertMember
  values m hm := by
    rcases mem_of_mem_insertMember hm with rfl | hm
    · exact hvalue
    · exact h.values m hm

theorem givesDistinct_readMembers (hvalue : ∀ c, GivesDistinct (readValue fuel depth c))
    (hmembers : ∀ read, AreDistinct read → ∀ c, GivesDistinct (readMembers fuel depth read false c))
    {read : List (String × Json)} (hread : AreDistinct read) (first : Bool) (c : Cursor) :
    GivesDistinct (readMembers (fuel + 1) depth read first c) := by
  have hnext (key : String) {value : Json} (hvalue : value.KeysDistinct) (c : Cursor) :
      GivesDistinct (readMembers fuel depth (insertMember key value read) false c) :=
    hmembers _ (hread.insertMember hvalue) c
  unfold readMembers
  dsimp only
  split
  · exact givesDistinct_failAhead _
  · split_ifs
    · exact givesDistinct_ok (.object hread.ascending.nodup hread.values)
    · exact .bind fun key c' _ => .bind fun value c'' h => hnext key (hvalue c' value c'' h) c''
    · exact givesDistinct_failAhead _
    · split
      · exact givesDistinct_failAhead _
      · exact .bind fun key c' _ => .bind fun value c'' h => hnext key (hvalue c' value c'' h) c''
      · exact givesDistinct_failAhead _
      · exact givesDistinct_failAhead _
    · exact givesDistinct_failAhead _

theorem givesDistinct_readValue (hitems : ∀ c, GivesDistinct (readItems fuel (depth - 1) [] c))
    (hmembers : ∀ c, GivesDistinct (readMembers fuel (depth - 1) [] true c)) (c : Cursor) :
    GivesDistinct (readValue (fuel + 1) depth c) := by
  unfold readValue
  dsimp only
  split
  · exact givesDistinct_failAhead _
  · split_ifs
    · exact givesDistinct_readWord .null _ _
    · exact givesDistinct_readWord (.bool true) _ _
    · exact givesDistinct_readWord (.bool false) _ _
    · exact givesDistinct_readNumber _
    · exact givesDistinct_readNumber _
    · exact .bind fun s c' _ => givesDistinct_ok (.string s)
    · exact givesDistinct_failAhead _
    · exact hitems _
    · exact givesDistinct_failAhead _
    · exact hmembers _
    · exact givesDistinct_failAhead _

/-- All three readers keep the keys apart, by induction on the calls that are left. -/
theorem givesDistinct_readers (fuel : Nat) :
    (∀ depth c, GivesDistinct (readValue fuel depth c)) ∧
      (∀ depth read c, (∀ item ∈ read, item.KeysDistinct) → GivesDistinct (readItems fuel depth read c)) ∧
      ∀ depth read first c, AreDistinct read → GivesDistinct (readMembers fuel depth read first c) := by
  induction fuel with
  | zero =>
    refine ⟨fun depth c => ?_, fun depth read c _ => ?_, fun depth read first c _ => ?_⟩
    · unfold readValue
      exact givesDistinct_fail _
    · unfold readItems
      exact givesDistinct_fail _
    · unfold readMembers
      exact givesDistinct_fail _
  | succ fuel ih =>
    obtain ⟨hvalue, hitems, hmembers⟩ := ih
    have hnone : AreDistinct [] := ⟨.nil, List.forall_mem_nil _⟩
    refine ⟨fun depth c => ?_, fun depth read c hread => ?_, fun depth read first c hread => ?_⟩
    · exact givesDistinct_readValue (fun c => hitems _ _ c (List.forall_mem_nil _)) (fun c => hmembers _ _ _ c hnone) c
    · exact givesDistinct_readItems (hvalue depth) (fun read h c => hitems depth read c h) hread c
    · exact givesDistinct_readMembers (hvalue depth) (fun read h c => hmembers depth read false c h) hread first c

end Value

/-- Whatever text is read, no object of the document has a key twice. -/
theorem keysDistinct_of_ofText {text : String} {document : Json} (h : ofText text = .ok document) :
    document.KeysDistinct := by
  unfold ofText at h
  dsimp only at h
  cases hvalue : readValue (2 * text.toList.length + 2) 128 ⟨text.toList, 1, 0⟩ with
  | error e =>
    rw [hvalue] at h
    cases h
  | ok found =>
    rw [hvalue] at h
    dsimp only [bind, Except.bind] at h
    split at h
    · cases h
      exact (givesDistinct_readers _).1 _ _ _ _ hvalue
    · cases h

end Repricing.Json
