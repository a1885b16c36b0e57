/-
  ContentGate.Tag.Branches — the two branches of a tag.

  The marker `[else]`, with the underscores of the tag, separates what
  is shown when the condition holds from what is shown when it does not.
  Only the first marker of the tag's own depth counts; markers of deeper
  tags stay where they are.
-/
import ContentGate.Markup.Noise
import ContentGate.Tag.Names

namespace ContentGate

/-- What a tag shows when its condition holds, and when it does not. -/
structure Branches where
  yes : String
  no : String
  deriving Repr, DecidableEq, Inhabited

namespace Branches

/-- The branches of a body, each without noise at its ends. -/
def split (body elseName : String) (depth : Nat) : Branches :=
  match Text.splitAtWord? (TagName.elseMarker elseName depth).toList body.toList with
  | some (yes, no) =>
    ⟨String.ofList (Markup.trimNoise yes), String.ofList (Markup.trimNoise no)⟩
  | none => ⟨Markup.trim body, Markup.trim ""⟩

/-- The branch that is shown. -/
def choose (b : Branches) (holds : Bool) : String := if holds then b.yes else b.no

end Branches

end ContentGate
