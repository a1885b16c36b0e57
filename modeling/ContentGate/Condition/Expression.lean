/-
  ContentGate.Condition.Expression — condition trees.

  A condition is a tree of literals, predicates and calls, joined by
  operators and groups.  `depth` is its height, `leaves` counts the
  literals, predicates and calls outside arguments, and `text` writes it.
  The members of a group are always bracketed, so that a member never
  binds to its neighbours.
-/
import ContentGate.Condition.Value
import ContentGate.Condition.Operator
import ContentGate.Condition.Predicate

namespace ContentGate

/-- How a group joins its members. -/
inductive GroupOp where
  | any
  | all
  deriving Repr, DecidableEq, Inhabited

namespace GroupOp

/-- The written form of a group's join. -/
def connective : GroupOp → String
  | .any => "||"
  | .all => "&&"

/-- The binary operator that joins two members. -/
def operator : GroupOp → Operator
  | .any => .or
  | .all => .and

end GroupOp

/-- The unary operators. -/
inductive UnaryOp where
  | not
  | negate
  deriving Repr, DecidableEq, Inhabited

/-- The written form of a unary operator. -/
def UnaryOp.symbol : UnaryOp → String
  | .not => "!"
  | .negate => "-"

/-- A condition. -/
inductive Expression where
  | literal (v : Value)
  | predicate (p : Predicate)
  | call (name : String) (args : List Expression)
  | binary (left : Expression) (op : Operator) (right : Expression)
  | unary (op : UnaryOp) (operand : Expression)
  | group (op : GroupOp) (members : List Expression)
  deriving Inhabited

namespace Expression

/-- The logical negation of a condition. -/
def not (e : Expression) : Expression := .unary .not e

/-- The conditions joined; a single condition stands for itself. -/
def joined (op : GroupOp) : List Expression → Expression
  | [e] => e
  | es => .group op es

/-! ## Measures -/

mutual

/-- The height of the tree; a leaf has height one. -/
def depth : Expression → Nat
  | .literal _ | .predicate _ => 1
  | .call _ args => 1 + depthList args
  | .binary left _ right => 1 + max (depth left) (depth right)
  | .unary _ operand => 1 + depth operand
  | .group _ members => 1 + depthList members

/-- The greatest height in a list. -/
def depthList : List Expression → Nat
  | [] => 0
  | e :: es => max (depth e) (depthList es)

end

mutual

/-- The number of literals, predicates and calls; arguments belong to their call. -/
def leaves : Expression → Nat
  | .literal _ | .predicate _ | .call _ _ => 1
  | .binary left _ right => leaves left + leaves right
  | .unary _ operand => leaves operand
  | .group _ members => leavesList members

/-- The sum over a list. -/
def leavesList : List Expression → Nat
  | [] => 0
  | e :: es => leaves e + leavesList es

end

/-! ## The written form -/

/-- Operators and groups are bracketed where they are operands. -/
def isCompound : Expression → Bool
  | .binary _ _ _ | .group _ _ => true
  | _ => false

/-- Text between parentheses, if asked for. -/
def bracketedIf (b : Bool) (s : String) : String := if b then "(" ++ s ++ ")" else s

mutual

/-- A condition, written. -/
def text : Expression → String
  | .literal v => v.text
  | .predicate p => p.text
  | .call name args => name ++ "(" ++ textArgs args ++ ")"
  | .binary left op right =>
    bracketedIf left.isCompound (text left) ++ " " ++ op.symbol ++ " "
      ++ bracketedIf right.isCompound (text right)
  | .unary op operand => op.symbol ++ bracketedIf operand.isCompound (text operand)
  | .group op members => textMembers op members

/-- Arguments with commas between them. -/
def textArgs : List Expression → String
  | [] => ""
  | [e] => text e
  | e :: f :: es => text e ++ ", " ++ textArgs (f :: es)

/-- Members, each between parentheses, with the connective between them. -/
def textMembers (op : GroupOp) : List Expression → String
  | [] => ""
  | [e] => "(" ++ text e ++ ")"
  | e :: f :: es => "(" ++ text e ++ ") " ++ op.connective ++ " " ++ textMembers op (f :: es)

end

end Expression

end ContentGate
