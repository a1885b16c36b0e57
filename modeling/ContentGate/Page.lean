/-
  ContentGate.Page — pages for visitors.

  A page is text and tags.  Each tag is replaced by what it shows, and
  the branch that it shows is a page again.  A branch never contains the
  closing tag of the tag around it, so there is only one level for each
  name of the site's tag; `renderWithin` counts the levels down.
-/
import ContentGate.Site

namespace ContentGate.Site

variable {κ : Type}

/-- A page for a visitor, with `levels` renderings at most inside one
another; `none` when they are used up. -/
def renderWithin (s : Site κ) (v : Visitor) :
    (levels : Nat) → (page : String) → OptionT (StateM (Session κ)) String
  | 0, _ => failure
  | levels + 1, page => do
    let pieces ← (Segment.scan s.tagNames page).mapM fun segment =>
      match segment with
      | .text text => pure text
      | .tag t => do
        let r ← s.reply v t
        match r.branch? with
        | some branch => do
          let inner ← renderWithin s v levels branch
          pure (r.lead ++ inner)
        | none => pure r.lead
    pure (String.join pieces)

/-- How many renderings can stand inside one another: the page, a level
for each name of the tag, and the empty branch of a tag that stands alone. -/
def maxRenderings : Nat := maxDepth + 3

/-- A page for a visitor. -/
def render (s : Site κ) (v : Visitor) (page : String) : StateM (Session κ) String := do
  let text ← (s.renderWithin v maxRenderings page).run
  pure (text.getD "")

end ContentGate.Site
