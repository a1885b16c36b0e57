/-
  ContentGate.Tag.Names — the names of tags at each nesting depth.

  A tag cannot stand inside a tag of the same name, so authors nest by
  adding underscores: `[if]`, `[_if]`, `[__if]`, up to `maxDepth` of
  them.  The marker between the two branches of a tag has the same
  number of underscores.
-/
import ContentGate.Text.Search

namespace ContentGate

/-- The greatest number of underscores. -/
def maxDepth : Nat := 4

namespace TagName

/-- The number of leading underscores of a name. -/
def depth (name : String) : Nat := (name.toList.takeWhile (· == '_')).length

/-- The name with `depth` underscores in front. -/
def atDepth (name : String) (depth : Nat) : String :=
  String.ofList (List.replicate depth '_' ++ name.toList)

/-- The names at all depths. -/
def family (name : String) : List String := (List.range (maxDepth + 1)).map (atDepth name)

/-- The marker between the branches of a tag of a depth. -/
def elseMarker (elseName : String) (depth : Nat) : String := "[" ++ atDepth elseName depth ++ "]"

end TagName

end ContentGate
