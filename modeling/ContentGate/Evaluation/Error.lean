/-
  ContentGate.Evaluation.Error — why a condition has no value.
-/

namespace ContentGate

/-- The cause of a failed evaluation. -/
inductive EvalError where
  /-- No function has this name. -/
  | undefinedFunction (name : String)
  /-- A function got the wrong number or kind of arguments. -/
  | invalidArguments (function expected : String)
  /-- An operand of the wrong kind. -/
  | typeError (detail : String)
  /-- An operation that is not defined for its operands. -/
  | invalidOperation (detail : String)
  /-- The product catalog could not answer. -/
  | lookupFailed (detail : String)
  deriving Repr, DecidableEq

/-- The message of a failed evaluation. -/
def EvalError.message : EvalError → String
  | .undefinedFunction name => "Call to undefined function " ++ name ++ "()"
  | .invalidArguments function expected => function ++ "() expects " ++ expected
  | .typeError detail => "Type error: " ++ detail
  | .invalidOperation detail => "Invalid operation: " ++ detail
  | .lookupFailed detail => "Commerce lookup failed: " ++ detail

end ContentGate
