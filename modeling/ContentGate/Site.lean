/-
  ContentGate.Site — tags on a site.

  A site has options, functions, perhaps a shop, and may be part of a
  network.  `invoke` compiles a tag and decides whether its condition
  holds; `reply` is what the tag shows: a text of its own, and the
  branch to be rendered behind it, unless there are errors.
-/
import ContentGate.Evaluation.Context
import ContentGate.Invocation.Compile
import ContentGate.Invocation.Report

namespace ContentGate

/-- A site. -/
structure Site (κ : Type) where
  options : Resolved
  functions : LinkedRegistry κ := .builtins
  commerce? : Option (Commerce κ) := none
  multisite : Bool := false

/-- What a tag shows. -/
structure Reply where
  /-- The tag's own text. -/
  lead : String
  /-- The branch to be rendered behind it. -/
  branch? : Option String
  deriving Repr, DecidableEq

namespace Site

variable {κ : Type}

/-- The names of the site's tags. -/
def tagNames (s : Site κ) : List String := TagName.family s.options.options.name

/-- What the conditions of a visitor's page are evaluated in. -/
def context (s : Site κ) (v : Visitor) : Context κ where
  visitor := v
  functions := s.functions
  commerce? := s.commerce?
  multisite := s.multisite

/-- A tag, compiled. -/
def compile (s : Site κ) (v : Visitor) (t : Tag) : Invocation :=
  (Invocation.ofTag t s.options v.id).compile s.options s.multisite

/-- Does the condition of a compiled tag hold?  A failure becomes an
error of the tag; a tag with errors or without a condition never holds. -/
def decide (s : Site κ) (v : Visitor) (i : Invocation) :
    StateM (Session κ) (Invocation × Bool) :=
  match i.condition?, i.hasErrors with
  | some e, false => do
    match ← ((s.context v).holds e).run with
    | .ok b => pure (i, b)
    | .error cause => pure (i.addError (.evaluationFailure cause.message), false)
  | _, _ => pure (i, false)

/-- Compiles a tag and decides whether its condition holds. -/
def invoke (s : Site κ) (v : Visitor) (t : Tag) : StateM (Session κ) (Invocation × Bool) :=
  s.decide v (s.compile v t)

/-- What a decided invocation shows; errors that are not shown are logged. -/
def replyTo (s : Site κ) (i : Invocation) (holds : Bool) : StateM (Session κ) Reply :=
  let name := s.options.options.name
  let lead := if i.debug = .verbose then i.verboseBlock name else ""
  if i.hasErrors then
    if i.debug.isEnabled then pure ⟨lead ++ i.errorBlock name, none⟩
    else do
      i.errors.forM fun e => modify (·.warn e.message)
      pure ⟨"", none⟩
  else pure ⟨lead, some (i.branches.choose holds)⟩

/-- What a tag shows to a visitor. -/
def reply (s : Site κ) (v : Visitor) (t : Tag) : StateM (Session κ) Reply := do
  let (i, holds) ← s.invoke v t
  s.replyTo i holds

/-- The text of a tag; `nested` renders the branch that is shown. -/
def showTag (s : Site κ) (v : Visitor) (t : Tag) (nested : String → StateM (Session κ) String) :
    StateM (Session κ) String := do
  let r ← s.reply v t
  match r.branch? with
  | some branch => do
    let inner ← nested branch
    pure (r.lead ++ inner)
  | none => pure r.lead

end Site

end ContentGate
