/-
  ContentGate.Notation.Formula — the formulas of attribute values.

      or      := and (OR and)*
      and     := unary (AND unary)*
      unary   := '!' unary | '(' or ')' | operand
      operand := item (',' item)*

  A formula only joins what its operands mean; what an operand means is
  up to the attribute, which passes a `meaning` from operands to
  conditions.  The meaning is asked once for each operand, from left to
  right, and may have effects of its own, so the reader works in any
  monad.  Chains are joined to the left.

  Two limits hold, both `maxNesting`: on the number of `!` and `(`
  around a token, and on the height of every tree that is built.
-/
import ContentGate.Condition.Expression
import ContentGate.Notation.Token

namespace ContentGate

open Notation

/-- The items of an operand, in order; there is at least one. -/
abbrev Operand := List String

namespace Operand

/-- The conditions of the items, joined: the comma shorthand. -/
def expand (op : GroupOp) (f : String → Except ParseError Expression) (items : Operand) :
    Except ParseError Expression :=
  (items.mapM f).map (Expression.joined op)

end Operand

namespace Formula

variable {m : Type → Type} [Monad m]

/-- Refuses a tree that is too high. -/
def bounded (e : Expression) : Except ParseError Expression :=
  if e.depth ≤ maxNesting then .ok e else .error (.nestingTooDeep maxNesting)

/-- The further items of an operand. -/
def moreItems : List Token → Except ParseError (List String × List Token)
  | ⟨.comma, _⟩ :: ⟨.item s, _⟩ :: ts => do
    let (items, rest) ← moreItems ts
    .ok (s :: items, rest)
  | ⟨.comma, _⟩ :: t :: _ => .error t.unexpected
  | [⟨.comma, _⟩] => .error .unexpectedEnd
  | ts => .ok ([], ts)

/-- An operand whose first item has been read. -/
def operand (first : String) (ts : List Token) : Except ParseError (Operand × List Token) := do
  let (items, rest) ← moreItems ts
  match (first :: items).find? (Text.blank ·.toList) with
  | some item => .error (.invalidOperand ("empty token '" ++ item ++ "'"))
  | none => .ok (first :: items, rest)

/-- A reader of part of a formula: the tree and the tokens behind it. -/
abbrev Reader (m : Type → Type) := List Token → ExceptT ParseError m (Expression × List Token)

/-- `left` followed by any number of units, each behind the connective;
`fuel` is at least the number of tokens. -/
def chain (kind : TokenKind) (op : Operator) (unit : Reader m) :
    (fuel : Nat) → Expression → Reader m
  | 0, left, ts => pure (left, ts)
  | _ + 1, left, [] => pure (left, [])
  | fuel + 1, left, t :: ts =>
    if t.kind = kind then do
      let (right, rest) ← unit ts
      let joined ← bounded (.binary left op right)
      chain kind op unit fuel joined rest
    else pure (left, t :: ts)

/-- Units joined by AND. -/
def andChain (unit : Reader m) : Reader m := fun ts => do
  let (left, rest) ← unit ts
  chain .and .and unit rest.length left rest

/-- AND chains joined by OR. -/
def orChain (unit : Reader m) : Reader m := fun ts => do
  let (left, rest) ← andChain unit ts
  chain .or .or (andChain unit) rest.length left rest

/-- A negation, a group or an operand, with `levels` more allowed inside. -/
def unary (meaning : Operand → ExceptT ParseError m Expression) : (levels : Nat) → Reader m
  | _, [] => throw .unexpectedEnd
  | 0, ⟨.not, _⟩ :: _ => throw (.nestingTooDeep maxNesting)
  | levels + 1, ⟨.not, _⟩ :: ts => do
    let (e, rest) ← unary meaning levels ts
    let e ← bounded e.not
    pure (e, rest)
  | 0, ⟨.openParen, _⟩ :: _ => throw (.nestingTooDeep maxNesting)
  | levels + 1, ⟨.openParen, _⟩ :: ts => do
    let (e, rest) ← orChain (unary meaning levels) ts
    match rest with
    | ⟨.closeParen, _⟩ :: rest => pure (e, rest)
    | t :: _ => throw t.unexpected
    | [] => throw .unexpectedEnd
  | _, ⟨.item first, _⟩ :: ts => do
    let (items, rest) ← operand first ts
    let e ← meaning items
    pure (e, rest)
  | _, t :: _ => throw t.unexpected

/-- The condition of a formula. -/
def compile (raw : String) (meaning : Operand → ExceptT ParseError m Expression) :
    ExceptT ParseError m Expression := do
  let cs := Text.trim raw.toList
  if cs.isEmpty then throw .emptyExpression
  let ts ← tokens cs
  if !parensBalance 0 ts then throw (.unbalancedParentheses (String.ofList cs))
  let (e, rest) ← orChain (unary meaning maxNesting) ts
  match rest with
  | t :: _ => throw t.unexpected
  | [] => pure e

end Formula

end ContentGate
