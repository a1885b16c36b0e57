/-
  ContentGate.Json.Record — records and variants in JSON.

  A record with named fields is written as an object; it is also read
  from an array of its fields in order.  Members of an object that are
  no field are ignored, a repeated field is refused.  A variant without
  content is its name; a variant with content is an object whose only
  member has that name.

  Nesting is limited: `maxLevels` arrays and objects may stand inside
  one another.
-/
import ContentGate.Json.Basic

namespace ContentGate.Json

/-- How many arrays and objects may stand inside one another. -/
def maxLevels : Nat := 127

/-- The fields of a record, in the order of `names`; a missing field is `none`. -/
def record? (names : List String) : Json → Option (List (Option Json))
  | .object fields =>
    names.mapM fun name =>
      match members name fields with
      | [] => some none
      | [j] => some (some j)
      | _ => none
  | .array items =>
    if items.length ≤ names.length then
      some (items.map some ++ List.replicate (names.length - items.length) none)
    else none
  | _ => none

/-- The name and the content of a variant. -/
def variant? : Json → Option (String × Option Json)
  | .string name => some (name, none)
  | .object [(name, content)] => some (name.text, some content)
  | _ => none

/-- The name of a variant without content; `null` counts as none. -/
def unitVariant? (j : Json) : Option String :=
  match variant? j with
  | some (name, none) => some name
  | some (name, some .null) => some name
  | _ => none

end ContentGate.Json
