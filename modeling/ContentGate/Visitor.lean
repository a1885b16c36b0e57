/-
  ContentGate.Visitor — the visitor that a page is rendered for.

  A `Visitor` answers questions; a `Profile` is a visitor given by data.
  A profile answers questions about its own user only, and an anonymous
  profile has no capabilities, options or meta, whatever its data say.
-/
import ContentGate.Condition.Predicate
import ContentGate.Condition.Value

namespace ContentGate

/-- Who looks at the page. -/
structure Visitor where
  /-- `0` for an anonymous visitor. -/
  id : UserId
  /-- Has the visitor a role or capability on this site? -/
  can : String → Bool
  /-- Has the visitor a role or capability on another site? -/
  canForBlog : BlogId → String → Bool
  /-- An option of a user on this site, `null` when missing. -/
  option : UserId → String → Value
  /-- A meta entry of a user, `null` when missing. -/
  userMeta : UserId → String → Value

/-- Anyone but the anonymous visitor is logged in. -/
def Visitor.isLoggedIn (v : Visitor) : Bool := v.id != 0

/-- A visitor given by data. -/
structure Profile where
  id : UserId := 0
  capabilities : List String := []
  blogCapabilities : List (BlogId × List String) := []
  options : List (String × Value) := []
  userMeta : List (String × Value) := []
  deriving Inhabited

namespace Profile

/-- The value of a key in a list without repeated keys, `null` when missing. -/
def lookup (key : String) (entries : List (String × Value)) : Value :=
  ((entries.find? (·.1 == key)).map (·.2)).getD .null

/-- The answers of a profile. -/
def visitor (p : Profile) : Visitor where
  id := p.id
  can capability := p.id != 0 && p.capabilities.contains capability
  canForBlog blog capability :=
    p.id != 0 && (((p.blogCapabilities.find? (·.1 == blog)).map (·.2)).getD []).contains capability
  option user key := if user == 0 || user != p.id then .null else lookup key p.options
  userMeta user key := if user == 0 || user != p.id then .null else lookup key p.userMeta

end Profile

end ContentGate
