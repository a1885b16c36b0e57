/-
  ContentGate.Evaluation.Compare — loose comparison of values.

  - a truth value or `null` on either side compares truth;
  - arrays are equal or different, and have no order;
  - numbers and numeric strings compare as numbers, and NaN compares
    with nothing;
  - everything else compares as text, character by character.
-/
import ContentGate.Condition.Value
import ContentGate.Condition.Operator
import ContentGate.Evaluation.Error

namespace ContentGate

namespace Decimal

/-- The order of two floats; none if one of them is NaN. -/
def compare? (x y : Float) : Option Ordering :=
  if x < y then some .lt
  else if y < x then some .gt
  else if x == y then some .eq
  else none

end Decimal

/-- Does a comparison hold of operands in this order?  Unordered
operands are different, and nothing else. -/
def Operator.holdsOf : Operator → Option Ordering → Bool
  | .eq, o => o == some .eq
  | .ne, o => o != some .eq
  | .gt, o => o == some .gt
  | .ge, o => o == some .gt || o == some .eq
  | .lt, o => o == some .lt
  | .le, o => o == some .lt || o == some .eq
  | .and, _ | .or, _ => false

namespace Value

/-- Truth values and `null` turn a comparison into one of truth. -/
def comparesTruth : Value → Bool
  | .bool _ | .null => true
  | _ => false

/-- Is the value an array? -/
def isArray : Value → Bool
  | .array _ => true
  | _ => false

/-- The order of two values none of which is an array, as numbers if
both have a number, else as texts. -/
def numbersOrTexts (l r : Value) : Option Ordering :=
  match l.toFloat?, r.toFloat? with
  | some x, some y => Decimal.compare? x y
  | _, _ => some (compare l.comparedText r.comparedText)

/-- The outcome of a comparison. -/
def compareWith (op : Operator) (l r : Value) : Except EvalError Bool :=
  if l.comparesTruth || r.comparesTruth then
    .ok (op.holdsOf (some (compare l.truthy.toNat r.truthy.toNat)))
  else if l.isArray || r.isArray then
    match op with
    | .eq => .ok (l.same r)
    | .ne => .ok (!l.same r)
    | _ => .error (.invalidOperation
        ("Cannot compare " ++ l.kind ++ " and " ++ r.kind ++ " with " ++ op.symbol))
  else .ok (op.holdsOf (l.numbersOrTexts r))

end Value

end ContentGate
