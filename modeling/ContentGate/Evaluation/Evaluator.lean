/-
  ContentGate.Evaluation.Evaluator — the value of a condition.

  What a condition can reach is a `Host`: answers to predicates and
  calls of functions by name.  The evaluator is written for a host in
  any monad, so that it fixes which questions are asked in which order,
  whatever an answer does to the state behind it.

  The connectives and groups stop at the first operand that decides
  them, and their value is a truth value.
-/
import ContentGate.Condition.Expression
import ContentGate.Evaluation.Compare

namespace ContentGate

/-- What a condition can reach. -/
structure Host (m : Type → Type) where
  predicate : Predicate → ExceptT EvalError m Bool
  call : String → List Value → ExceptT EvalError m Value

namespace Expression

variable {m : Type → Type} [Monad m]

/-- The negative of a number. -/
def negated : Value → Except EvalError Value
  | .number x => .ok (.number (-x))
  | v => .error (.typeError ("Cannot negate " ++ v.kind))

mutual

/-- The value of a condition. -/
def value (host : Host m) : Expression → ExceptT EvalError m Value
  | .literal v => pure v
  | .predicate p => do
    let b ← host.predicate p
    pure (.bool b)
  | .call name args => do
    let vs ← values host args
    host.call name vs
  | .binary left .and right => do
    let l ← value host left
    if l.truthy then
      let r ← value host right
      pure (.bool r.truthy)
    else pure (.bool false)
  | .binary left .or right => do
    let l ← value host left
    if l.truthy then pure (.bool true)
    else
      let r ← value host right
      pure (.bool r.truthy)
  | .binary left op right => do
    let l ← value host left
    let r ← value host right
    let b ← Value.compareWith op l r
    pure (.bool b)
  | .unary .not operand => do
    let v ← value host operand
    pure (.bool !v.truthy)
  | .unary .negate operand => do
    let v ← value host operand
    negated v
  | .group _ [] => pure (.bool false)
  | .group op (e :: es) => do
    let b ← groupHolds host op (e :: es)
    pure (.bool b)

/-- The values of arguments, from left to right. -/
def values (host : Host m) : List Expression → ExceptT EvalError m (List Value)
  | [] => pure []
  | e :: es => do
    let v ← value host e
    let vs ← values host es
    pure (v :: vs)

/-- Do all members hold, or does any of them? -/
def groupHolds (host : Host m) (op : GroupOp) : List Expression → ExceptT EvalError m Bool
  | [] => pure (op == .all)
  | e :: es => do
    let v ← value host e
    match op, v.truthy with
    | .all, false => pure false
    | .any, true => pure true
    | _, _ => groupHolds host op es

end

/-- Does a condition hold? -/
def holds (host : Host m) (e : Expression) : ExceptT EvalError m Bool := do
  let v ← value host e
  pure v.truthy

end Expression

end ContentGate
