/-
  ContentGate.Evaluation.Context — what conditions are evaluated in.

  A context is a visitor, commerce if it is active, whether the site is
  part of a network, and the site's functions.  It is the host that
  answers the predicates and calls of a condition.  Predicates
  about users are false for user `0`; predicates about commerce are
  false where it is not active.
-/
import ContentGate.Commerce.Lookup
import ContentGate.Evaluation.Evaluator
import ContentGate.Evaluation.Functions

namespace ContentGate

/-- What a condition is evaluated in. -/
structure Context (κ : Type) extends Surroundings κ where
  functions : LinkedRegistry κ

namespace Context

variable {κ : Type}

/-- The meta entry that marks a paying customer. -/
def payingCustomerKey : String := "paying_customer"

/-- The answer to a predicate. -/
def answer (c : Context κ) : Predicate → Evaluation κ Bool
  | .userLoggedIn => pure c.visitor.isLoggedIn
  | .userCan capability => pure (c.visitor.can capability)
  | .userCanForBlog blog capability => pure (c.visitor.canForBlog blog capability)
  | .userOption user key => pure (user != 0 && (c.visitor.option user key).truthy)
  | .userMeta user key => pure (user != 0 && (c.visitor.userMeta user key).truthy)
  | .payingCustomer user =>
    pure (c.commerce?.isSome && user != 0 && (c.visitor.userMeta user payingCustomerKey).truthy)
  | .boughtProduct user product =>
    match c.commerce? with
    | some commerce => if user = 0 then pure false else commerce.bought user product
    | none => pure false

/-- The context as a host of conditions. -/
def host (c : Context κ) : Host (StateM (Session κ)) where
  predicate := c.answer
  call := c.functions.call c.toSurroundings

/-- The value of a condition in a context. -/
def value (c : Context κ) (e : Expression) : Evaluation κ Value := e.value c.host

/-- Does a condition hold in a context? -/
def holds (c : Context κ) (e : Expression) : Evaluation κ Bool := e.holds c.host

end Context

end ContentGate
