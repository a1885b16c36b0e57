/-
  ContentGate.Condition.Stored — conditions as JSON.

  A compiled condition can be stored and read again.  `toJson` writes
  each node as the variant of its kind; `ofJson?` reads it back.  Floats
  without a finite value have no JSON form and become `null`.

  Readers count nesting levels down: a value that opens an array or an
  object needs one more level than its content.
-/
import ContentGate.Condition.Expression
import ContentGate.Json.Record
import ContentGate.Json.Reader
import ContentGate.Json.Writer

namespace ContentGate

/-! ## Values -/

namespace Value

mutual

/-- A value as JSON. -/
def toJson : Value → Json
  | .null => .null
  | .bool b => .bool b
  | .number x => .float x
  | .string s => .string s
  | .array items => .array (listToJson items)

/-- A list of values as JSON. -/
def listToJson : List Value → List Json
  | [] => []
  | v :: vs => toJson v :: listToJson vs

end

/-- The value of a JSON text's content; objects are no values. -/
def ofJson? : (levels : Nat) → Json → Option Value
  | _, .null => some .null
  | _, .bool b => some (.bool b)
  | _, .number n => n.toFloat?.map .number
  | _, .string s => some (.string s)
  | levels + 1, .array items => (items.mapM (ofJson? levels)).map .array
  | _, _ => none

end Value

/-! ## Operators -/

namespace Operator

/-- The name of an operator in stored conditions. -/
def storedName : Operator → String
  | .eq => "Eq"
  | .ne => "Ne"
  | .gt => "Gt"
  | .ge => "Ge"
  | .lt => "Lt"
  | .le => "Le"
  | .and => "And"
  | .or => "Or"

/-- All operators. -/
def every : List Operator := [.eq, .ne, .gt, .ge, .lt, .le, .and, .or]

/-- The operator with a stored name. -/
def ofStoredName? (s : String) : Option Operator := every.find? (·.storedName == s)

end Operator

namespace GroupOp

/-- The name of a group's join in stored conditions. -/
def storedName : GroupOp → String
  | .any => "Any"
  | .all => "All"

/-- The join with a stored name. -/
def ofStoredName? (s : String) : Option GroupOp :=
  [GroupOp.any, .all].find? (·.storedName == s)

end GroupOp

namespace UnaryOp

/-- The name of a unary operator in stored conditions. -/
def storedName : UnaryOp → String
  | .not => "Not"
  | .negate => "Negate"

/-- The unary operator with a stored name. -/
def ofStoredName? (s : String) : Option UnaryOp :=
  [UnaryOp.not, .negate].find? (·.storedName == s)

end UnaryOp

/-- A variant without content, read by `f`; written as an object it takes a level. -/
def Json.unit? {α : Type} (levels : Nat) (f : String → Option α) (j : Json) : Option α :=
  match levels, j with
  | _, .string s => f s
  | _ + 1, j => j.unitVariant? >>= f
  | 0, _ => none

/-! ## Predicates -/

namespace Predicate

/-- A predicate as JSON. -/
def toJson : Predicate → Json
  | .userLoggedIn => .string "UserLoggedIn"
  | .userCan capability => .object [("UserCan", .object [("capability", .string capability)])]
  | .userCanForBlog blog capability =>
    .object [("UserCanForBlog",
      .object [("blog_id", .int blog.toInt), ("capability", .string capability)])]
  | .userOption user key =>
    .object [("UserOption", .object [("user_id", .int user.toNat), ("key", .string key)])]
  | .userMeta user key =>
    .object [("UserMeta", .object [("user_id", .int user.toNat), ("key", .string key)])]
  | .payingCustomer user =>
    .object [("PayingCustomer", .object [("user_id", .int user.toNat)])]
  | .boughtProduct user product =>
    .object [("BoughtProduct",
      .object [("user_id", .int user.toNat), ("product", .string product)])]

/-- A record with a user and a text. -/
def userRecord? (make : UserId → String → Predicate) (field : String) (j : Json) :
    Option Predicate :=
  match j.record? ["user_id", field] with
  | some [some user, some text] => do some (make (← user.uint64?) (← text.string?))
  | _ => none

/-- The predicate that JSON stands for; two levels are enough. -/
def ofJson? (levels : Nat) (j : Json) : Option Predicate := do
  let (name, content) ← j.variant?
  match name, content with
  | "UserLoggedIn", none => some .userLoggedIn
  | "UserLoggedIn", some .null => if 1 ≤ levels then some .userLoggedIn else none
  | name, some content =>
    if levels < 2 then none
    else match name with
      | "UserCan" =>
        match content.record? ["capability"] with
        | some [some capability] => capability.string?.map .userCan
        | _ => none
      | "UserCanForBlog" =>
        match content.record? ["blog_id", "capability"] with
        | some [some blog, some capability] => do
          some (.userCanForBlog (← blog.int64?) (← capability.string?))
        | _ => none
      | "UserOption" => userRecord? .userOption "key" content
      | "UserMeta" => userRecord? .userMeta "key" content
      | "PayingCustomer" =>
        match content.record? ["user_id"] with
        | some [some user] => user.uint64?.map .payingCustomer
        | _ => none
      | "BoughtProduct" => userRecord? .boughtProduct "product" content
      | _ => none
  | _, none => none

end Predicate

/-! ## Conditions -/

namespace Expression

mutual

/-- A condition as JSON. -/
def toJson : Expression → Json
  | .literal v => .object [("Literal", v.toJson)]
  | .predicate p => .object [("Predicate", p.toJson)]
  | .call name args =>
    .object [("FunctionCall",
      .object [("name", .string name), ("args", .array (listToJson args))])]
  | .binary left op right =>
    .object [("Binary", .object [("left", toJson left), ("op", .string op.storedName),
      ("right", toJson right)])]
  | .unary op operand =>
    .object [("Unary", .object [("op", .string op.storedName), ("operand", toJson operand)])]
  | .group op members =>
    .object [("LogicalGroup",
      .object [("op", .string op.storedName), ("conditions", .array (listToJson members))])]

/-- A list of conditions as JSON. -/
def listToJson : List Expression → List Json
  | [] => []
  | e :: es => toJson e :: listToJson es

end

/-- An array of conditions, each read by `read`. -/
def list? (read : Json → Option Expression) : Json → Option (List Expression)
  | .array items => items.mapM read
  | _ => none

/-- The condition that JSON stands for.  A node's own object and the
record in it take two levels, a list of conditions a third. -/
def ofJson? : (levels : Nat) → Json → Option Expression
  | levels + 1, .object [(⟨"Literal", _⟩, v)] => (Value.ofJson? levels v).map .literal
  | levels + 1, .object [(⟨"Predicate", _⟩, p)] => (Predicate.ofJson? levels p).map .predicate
  | levels + 2, .object [(⟨name, _⟩, content)] =>
    let list? (j : Json) : Option (List Expression) :=
      match levels with
      | 0 => none
      | levels + 1 => list? (ofJson? levels) j
    match name with
    | "FunctionCall" =>
      match content.record? ["name", "args"] with
      | some [some name, some args] => do some (.call (← name.string?) (← list? args))
      | _ => none
    | "Binary" =>
      match content.record? ["left", "op", "right"] with
      | some [some left, some op, some right] => do
        some (.binary (← ofJson? levels left) (← op.unit? levels Operator.ofStoredName?)
          (← ofJson? levels right))
      | _ => none
    | "Unary" =>
      match content.record? ["op", "operand"] with
      | some [some op, some operand] => do
        some (.unary (← op.unit? levels UnaryOp.ofStoredName?) (← ofJson? levels operand))
      | _ => none
    | "LogicalGroup" =>
      match content.record? ["op", "conditions"] with
      | some [some op, some members] => do
        some (.group (← op.unit? levels GroupOp.ofStoredName?) (← list? members))
      | _ => none
    | _ => none
  | _, _ => none

/-- The stored text of a condition. -/
def stored (e : Expression) : String := e.toJson.compact

/-- The condition that a stored text holds. -/
def ofStored? (text : String) : Option Expression :=
  Json.read? text >>= ofJson? Json.maxLevels

end Expression

end ContentGate
