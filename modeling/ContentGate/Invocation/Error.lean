/-
  ContentGate.Invocation.Error — what is wrong with a tag.

  Errors are collected while a tag is compiled and evaluated.  In the
  messages, what authors wrote stands between backticks.
-/
import ContentGate.Notation.ParseError

namespace ContentGate

/-- One error of a tag. -/
inductive TagError where
  /-- The attribute needs an option that is off; `arbitrary` tells an
  author's attribute. -/
  | featureDisabled (tag name value : String) (arbitrary : Bool)
  /-- The author's attribute is not on the site's list. -/
  | notWhitelisted (tag name value : String)
  /-- The author's attribute has a name that no function may have. -/
  | invalidAttributeName (tag name value : String) (minLength : Nat)
  /-- The value of the attribute is no condition. -/
  | invalidExpression (tag name value : String) (cause : ParseError)
  /-- The condition could not be evaluated. -/
  | evaluationFailure (message : String)
  /-- A value without a name. -/
  | unsupportedBareAttribute (tag value : String)
  deriving Repr, DecidableEq

namespace TagError

/-- An attribute in a message. -/
def assignment (name value : String) : String :=
  "\x60" ++ name ++ "=\"" ++ value ++ "\"\x60"

/-- A tag in a message. -/
def bracketed (tag : String) : String := "\x60[" ++ tag ++ "]\x60"

/-- The message of an error. -/
def message : TagError → String
  | .featureDisabled tag name value arbitrary =>
    (if arbitrary then "Arbitrary " else "") ++ bracketed tag ++ " shortcode attribute "
      ++ assignment name value ++ " is not enabled via plugin options."
  | .notWhitelisted tag name value =>
    "Arbitrary " ++ bracketed tag ++ " shortcode attribute " ++ assignment name value
      ++ " is not whitelisted via plugin options."
  | .invalidAttributeName tag name value minLength =>
    "Arbitrary " ++ bracketed tag ++ " shortcode attribute " ++ assignment name value
      ++ " contains invalid chars in the attribute name. Must match: "
      ++ "\x60^[a-z][a-z0-9_]*[a-z0-9]$\x60 with at least " ++ toString minLength ++ " chars."
  | .invalidExpression tag name value cause =>
    bracketed tag ++ " shortcode attribute contains an invalid (or imbalanced) expression: "
      ++ assignment name value ++ " (" ++ cause.message ++ ")"
  | .evaluationFailure message => message
  | .unsupportedBareAttribute tag value =>
    bracketed tag ++ " shortcode attribute \x60" ++ value ++ "\x60, by itself, without "
      ++ "\x60=\"\"\x60, is not supported. Instead, use \x60" ++ value ++ "=\"true\"\x60. "
      ++ "Consult the shortcode documentation for assistance."

end TagError

end ContentGate
