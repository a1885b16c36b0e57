/-
  ContentGate.Condition.Predicate — the built-in questions about a visitor.

  Each item of a built-in attribute becomes one predicate.  Predicates
  about a user carry the user's id, as it was when the tag was read.
-/
import ContentGate.Text.Search

namespace ContentGate

/-- The number of a user; `0` is the anonymous visitor. -/
abbrev UserId := UInt64

/-- The number of a product; `0` is no product. -/
abbrev ProductId := UInt64

/-- The number of a site of a network. -/
abbrev BlogId := Int64

/-- A question about the visitor or about commerce. -/
inductive Predicate where
  /-- Is the visitor logged in? -/
  | userLoggedIn
  /-- Has the visitor the role or capability on this site? -/
  | userCan (capability : String)
  /-- Has the visitor the role or capability on another site of the network? -/
  | userCanForBlog (blog : BlogId) (capability : String)
  /-- Is the user's option on this site true? -/
  | userOption (user : UserId) (key : String)
  /-- Is the user's meta entry true? -/
  | userMeta (user : UserId) (key : String)
  /-- Has the customer completed a paid order? -/
  | payingCustomer (user : UserId)
  /-- Has the customer bought the product with this number or SKU? -/
  | boughtProduct (user : UserId) (product : String)
  deriving Repr, DecidableEq, Inhabited

namespace Predicate

/-- The name of a predicate in written conditions. -/
def name : Predicate → String
  | .userLoggedIn => "is_user_logged_in"
  | .userCan _ => "current_user_can"
  | .userCanForBlog _ _ => "current_user_can_for_blog"
  | .userOption _ _ => "get_user_option"
  | .userMeta _ _ => "get_user_meta"
  | .payingCustomer _ => "is_paying_customer"
  | .boughtProduct _ _ => "customer_bought_product"

/-- Does the answer need commerce? -/
def needsCommerce : Predicate → Bool
  | .payingCustomer _ | .boughtProduct _ _ => true
  | _ => false

/-- The user that a predicate asks about, if it carries one. -/
def user? : Predicate → Option UserId
  | .userOption user _ | .userMeta user _ => some user
  | .payingCustomer user | .boughtProduct user _ => some user
  | _ => none

/-- The arguments of a predicate, written. -/
def arguments : Predicate → List String
  | .userLoggedIn => []
  | .userCan capability => [Text.quoted capability]
  | .userCanForBlog blog capability => [toString blog, Text.quoted capability]
  | .userOption user key | .userMeta user key => [toString user, Text.quoted key]
  | .payingCustomer user => [toString user]
  | .boughtProduct user product => [toString user, Text.quoted product]

/-- A predicate the way it stands in a condition: as a call. -/
def text (p : Predicate) : String :=
  p.name ++ "(" ++ ", ".intercalate p.arguments ++ ")"

end Predicate

end ContentGate
