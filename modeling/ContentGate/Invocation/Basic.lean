/-
  ContentGate.Invocation.Basic — one use of a tag.

  An invocation starts from a tag of the page, the site's options and
  the visitor's number: the author's values, unescaped and trimmed, take
  the place of the defaults, the modifiers are read, and the body is cut
  into its branches.  Compiling adds conditions and errors.
-/
import ContentGate.Invocation.Error
import ContentGate.Invocation.Kind
import ContentGate.Invocation.Options
import ContentGate.Json.Writer
import ContentGate.Markup.Entity
import ContentGate.Tag.Branches
import ContentGate.Tag.Segment

namespace ContentGate

/-- One use of a tag. -/
structure Invocation where
  /-- The name of the tag, with its underscores. -/
  tag : String
  depth : Nat
  user : UserId
  /-- The attributes as the author wrote them. -/
  raw : Attributes
  /-- The attributes in normal form. -/
  attributes : Attributes
  forBlog : BlogId
  satisfy : SatisfyMode
  debug : DebugMode
  branches : Branches
  /-- What the attributes ask, in order. -/
  conditions : List Expression := []
  /-- What is wrong with the tag, in order. -/
  errors : List TagError := []
  deriving Inhabited

namespace Invocation

/-- An author's value in normal form. -/
def normalValue (value : String) : String := Text.trimmed (Markup.unescape value)

/-- The defaults with the author's values in their places. -/
def merged (raw : Attributes) (debugDefault : String) : Attributes :=
  raw.entries.foldl (fun a (key, value) => a.insert key (normalValue value))
    (defaultAttributes debugDefault)

/-- The value of an attribute, empty when it is missing. -/
def valueOf (a : Attributes) (name : String) : String := (a.get? name).getD ""

/-- The use of a tag for a user. -/
def ofTag (t : Tag) (r : Resolved) (user : UserId) : Invocation :=
  let given := merged t.attributes r.options.debugDefault
  let forBlog := lenientInt (valueOf given AttributeName.forBlog)
  let satisfy := SatisfyMode.ofText (valueOf given AttributeName.satisfy)
  let depth := TagName.depth t.name
  { tag := t.name
    depth
    user
    raw := t.attributes
    attributes :=
      (given.insert (.named AttributeName.forBlog) (toString forBlog)).insert
        (.named AttributeName.satisfy) satisfy.text
    forBlog
    satisfy
    debug := DebugMode.ofText (valueOf given AttributeName.debug)
    branches := Branches.split t.body r.options.elseName depth }

/-- Is anything wrong with the tag? -/
def hasErrors (i : Invocation) : Bool := !i.errors.isEmpty

/-- Adds an error. -/
def addError (i : Invocation) (e : TagError) : Invocation := { i with errors := i.errors ++ [e] }

/-- What the tag asks, if it asks anything. -/
def condition? (i : Invocation) : Option Expression :=
  if i.conditions.isEmpty then none
  else some (Expression.joined i.satisfy.groupOp i.conditions)

/-- What the tag asks, written; every condition between parentheses. -/
def conditionText (i : Invocation) : String :=
  (" " ++ i.satisfy.groupOp.connective ++ " ").intercalate
    (i.conditions.map fun e => "(" ++ e.text ++ ")")

/-- The tag as the author wrote it. -/
def recreate (i : Invocation) : String := i.raw.recreate i.tag

/-- The value of an attribute in a listing; modifiers have their kinds. -/
def listed (i : Invocation) : AttributeKey × String → Json
  | (.named name, value) =>
    if name = AttributeName.forBlog then .int i.forBlog.toInt
    else if name = AttributeName.debug then
      if i.debug = .verbose then .string "verbose" else .bool i.debug.isEnabled
    else .string value
  | (.positional _, value) => .string value

/-- Members with `value` under `key`: in the place of the old value, or at the end. -/
def setMember (key : String) (value : Json) :
    List (Json.Key × Json) → List (Json.Key × Json)
  | [] => [(key, value)]
  | (k, v) :: ms => if k.text = key then (key, value) :: ms else (k, v) :: setMember key value ms

/-- The attributes in normal form as JSON. -/
def attributesJson (i : Invocation) : String :=
  (Json.object (i.attributes.entries.foldl
    (fun ms e => setMember e.1.text (i.listed e) ms) [])).pretty

end Invocation

end ContentGate
