/-
  ContentGate.Invocation.Compile — what a tag asks.

  Every attribute contributes a condition, an error, or nothing
  (`contribution`), and no attribute looks at another.  Two errors come
  before all others: a direct condition and a question about another
  site, where the site does not allow them.
-/
import ContentGate.Invocation.Basic
import ContentGate.Notation.Direct
import ContentGate.Notation.Formula

namespace ContentGate

/-- The condition of a formula whose operands have a meaning without effects. -/
def Formula.condition (raw : String) (meaning : Operand → Except ParseError Expression) :
    Except ParseError Expression :=
  (Formula.compile raw fun o => (liftM (meaning o) : ExceptT ParseError Id Expression)).run

namespace Invocation

/-- A flag: `false` negates, any other value stands for the question itself. -/
def flag (value : String) (question : Expression) : Expression :=
  if value = "false" then question.not else question

/-- A condition, or the error of an attribute whose value is none. -/
def conditionOr (i : Invocation) (name value : String) :
    Except ParseError Expression → Except TagError Expression
  | .ok e => .ok e
  | .error cause => .error (.invalidExpression i.tag name value cause)

/-- A formula over predicates; the items of an operand must all hold. -/
def predicates (i : Invocation) (name value : String) (make : String → Predicate) :
    Except TagError Expression :=
  i.conditionOr name value
    (Formula.condition value (Operand.expand .all fun item => .ok (.predicate (make item))))

/-- Are capabilities asked for on another site? -/
def crossSite (i : Invocation) (r : Resolved) (multisite : Bool) : Bool :=
  i.forBlog != 0 && r.options.allowForBlog && multisite

/-- A capability, on the site that the tag asks about. -/
def capability (i : Invocation) (r : Resolved) (multisite : Bool) (name : String) : Predicate :=
  if i.crossSite r multisite then .userCanForBlog i.forBlog name else .userCan name

/-- What an author's attribute contributes: a call, if the site allows it. -/
def arbitrary (i : Invocation) (r : Resolved) (name value : String) :
    Except TagError Expression :=
  if !r.options.allowArbitrary then .error (.featureDisabled i.tag name value true)
  else if !r.allows name then .error (.notWhitelisted i.tag name value)
  else if !isValidName name r.options.minNameLength then
    .error (.invalidAttributeName i.tag name value r.options.minNameLength)
  else if value = "true" ∨ value = "false" then .ok (flag value (.call name []))
  else
    i.conditionOr name value (Formula.condition value fun items =>
      .ok (.call name (items.map fun item => .literal (.string item))))

/-- What an attribute contributes. -/
def contribution (i : Invocation) (r : Resolved) (multisite : Bool) :
    AttributeKey × String → Option (Except TagError Expression)
  | (.positional _, value) => some (.error (.unsupportedBareAttribute i.tag value))
  | (.named name, value) =>
    if isFalsy value then none
    else match AttributeKind.ofName name with
      | .direct =>
        if r.options.allowDirect then some (i.conditionOr name value (Direct.parse value)) else none
      | .loggedIn => some (.ok (flag value (.predicate .userLoggedIn)))
      | .payingCustomer => some (.ok (flag value (.predicate (.payingCustomer i.user))))
      | .userCan => some (i.predicates name value (i.capability r multisite))
      | .userOption => some (i.predicates name value (.userOption i.user))
      | .userMeta => some (i.predicates name value (.userMeta i.user))
      | .boughtProduct => some (i.predicates name value (.boughtProduct i.user))
      | .modifier => none
      | .arbitrary => if name.toList.head? = some '_' then none else some (i.arbitrary r name value)

/-- The errors that come before all others. -/
def earlyErrors (i : Invocation) (r : Resolved) : List TagError :=
  let direct := valueOf i.attributes AttributeName.direct
  (if !isFalsy direct && !r.options.allowDirect then
    [.featureDisabled i.tag AttributeName.direct direct false] else [])
  ++ (if i.forBlog != 0 && !r.options.allowForBlog then
    [.featureDisabled i.tag AttributeName.forBlog (toString i.forBlog) false] else [])

/-- What all attributes contribute, in order. -/
def contributions (i : Invocation) (r : Resolved) (multisite : Bool) :
    List (Except TagError Expression) :=
  i.attributes.entries.filterMap (i.contribution r multisite)

/-- The conditions among contributions. -/
def conditionsOf (cs : List (Except TagError Expression)) : List Expression :=
  cs.filterMap fun
    | .ok e => some e
    | .error _ => none

/-- The errors among contributions. -/
def errorsOf (cs : List (Except TagError Expression)) : List TagError :=
  cs.filterMap fun
    | .ok _ => none
    | .error e => some e

/-- Adds what the attributes contribute. -/
def compile (i : Invocation) (r : Resolved) (multisite : Bool) : Invocation :=
  let cs := i.contributions r multisite
  { i with
    conditions := i.conditions ++ conditionsOf cs
    errors := i.errors ++ i.earlyErrors r ++ errorsOf cs }

end Invocation

end ContentGate
