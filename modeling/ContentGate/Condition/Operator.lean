/-
  ContentGate.Condition.Operator — the binary operators.
-/
import ContentGate.Text.Search

namespace ContentGate

/-- A binary operator: six comparisons and two connectives. -/
inductive Operator where
  | eq
  | ne
  | gt
  | ge
  | lt
  | le
  | and
  | or
  deriving Repr, DecidableEq, Inhabited

namespace Operator

/-- Does the operator compare? -/
def isComparison : Operator → Bool
  | .and | .or => false
  | _ => true

/-- Does the operator connect? -/
def isLogical (op : Operator) : Bool := !op.isComparison

/-- The written form of an operator. -/
def symbol : Operator → String
  | .eq => "=="
  | .ne => "!="
  | .gt => ">"
  | .ge => ">="
  | .lt => "<"
  | .le => "<="
  | .and => "&&"
  | .or => "||"

/-- All spellings: the symbols, the strict comparisons (which are as
loose as the others) and the keywords. -/
def spellings : List (String × Operator) :=
  [("==", .eq), ("===", .eq), ("!=", .ne), ("!==", .ne), ("<", .lt), (">", .gt),
    ("<=", .le), (">=", .ge), ("&&", .and), ("and", .and), ("||", .or), ("or", .or)]

/-- The operator of a spelling; ASCII case does not matter. -/
def ofText? (s : String) : Option Operator :=
  let small := Text.lower s.toList
  (spellings.find? fun (t, _) => t.toList == small).map (·.2)

/-- Every operator is read back from its symbol. -/
theorem ofText?_symbol (op : Operator) : ofText? op.symbol = some op := by
  cases op <;> decide +kernel

end Operator

end ContentGate
