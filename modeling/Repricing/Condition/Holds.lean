import Repricing.Context

namespace Repricing

namespace Condition

/-- Whether a comparison holds. Equality is of values that may be missing; order is of numbers only. -/
def holdsBetween (op : Comparison) (left right : Option Value) : Bool :=
  match op with
  | .eq => Value.same? left right
  | .neq => !Value.same? left right
  | .lt => ordered fun a b => a < b
  | .lte => ordered fun a b => a ≤ b
  | .gt => ordered fun a b => b < a
  | .gte => ordered fun a b => b ≤ a
where
  ordered (relation : Decimal → Decimal → Bool) : Bool :=
    match left.bind Value.asNumber?, right.bind Value.asNumber? with
    | some a, some b => relation a b
    | _, _ => false

mutual

def holds (c : Context) (condition : Condition) : Bool :=
  match condition with
  | compare op left right => holdsBetween op (c.operand left) (c.operand right)
  | junction .all children => allHold c children
  | junction .any children => anyHolds c children

def allHold (c : Context) : List Condition → Bool
  | [] => true
  | child :: rest => holds c child && allHold c rest

def anyHolds (c : Context) : List Condition → Bool
  | [] => false
  | child :: rest => holds c child || anyHolds c rest

end

theorem allHold_eq_all (c : Context) (children : List Condition) :
    allHold c children = children.all fun child => child.holds c := by
  induction children with
  | nil => simp [allHold]
  | cons child rest ih => simp [allHold, ih]

theorem anyHolds_eq_any (c : Context) (children : List Condition) :
    anyHolds c children = children.any fun child => child.holds c := by
  induction children with
  | nil => simp [anyHolds]
  | cons child rest ih => simp [anyHolds, ih]

theorem holds_all (c : Context) (children : List Condition) :
    (junction .all children).holds c = children.all fun child => child.holds c := by
  rw [holds, allHold_eq_all]

theorem holds_any (c : Context) (children : List Condition) :
    (junction .any children).holds c = children.any fun child => child.holds c := by
  rw [holds, anyHolds_eq_any]

end Condition

end Repricing
