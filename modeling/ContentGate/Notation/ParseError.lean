/-
  ContentGate.Notation.ParseError — why a written condition is refused.

  Positions count UTF-8 bytes from the start of the trimmed text.
-/

namespace ContentGate

/-- The cause of a refusal. -/
inductive ParseError where
  /-- Nothing but blanks. -/
  | emptyExpression
  /-- A quote is left open in the text. -/
  | unbalancedQuotes (text : String)
  /-- The parentheses of the text do not pair up. -/
  | unbalancedParentheses (text : String)
  /-- A character that the notation does not have. -/
  | invalidCharacter (c : Char) (position : Nat)
  /-- A token where another one belongs. -/
  | unexpectedToken (found : String) (position : Nat)
  /-- The text ends where more belongs. -/
  | unexpectedEnd
  /-- More levels than the limit. -/
  | nestingTooDeep (limit : Nat)
  /-- A spelling that is no operator. -/
  | invalidOperator (spelling : String)
  /-- A text that is no operand of any kind. -/
  | invalidExpression (detail : String)
  /-- An operand that its attribute refuses. -/
  | invalidOperand (detail : String)
  deriving Repr, DecidableEq

namespace ParseError

/-- The message of a refusal. -/
def message : ParseError → String
  | .emptyExpression => "Empty expression"
  | .unbalancedQuotes text => "Unbalanced quotes in: " ++ text
  | .unbalancedParentheses text => "Unbalanced parentheses in: " ++ text
  | .invalidCharacter c position =>
    "Invalid character '" ++ c.toString ++ "' at position " ++ toString position
  | .unexpectedToken found position =>
    "Unexpected " ++ found ++ " at position " ++ toString position
  | .unexpectedEnd => "Unexpected end of expression"
  | .nestingTooDeep limit => "Expression nested deeper than " ++ toString limit ++ " levels"
  | .invalidOperator spelling => "Invalid operator: " ++ spelling
  | .invalidExpression detail => "Invalid expression syntax: " ++ detail
  | .invalidOperand detail => "Invalid operand: " ++ detail

end ParseError

/-- How many levels a written condition may nest. -/
def maxNesting : Nat := 64

end ContentGate
