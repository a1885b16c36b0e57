/-
  ContentGate.Invocation.Options — what a site allows its authors.

  Options are read once, when the first tag needs them, and kept
  (`OptionsCache`); the list of allowed attribute names is derived from
  them at the same time.
-/
import ContentGate.Json.Record
import ContentGate.Text.Blank
import ContentGate.Text.Search

namespace ContentGate

/-- The options of a site. -/
structure Options where
  /-- The name of the tag. -/
  name : String := "if"
  /-- The name of the marker between the branches. -/
  elseName : String := "else"
  /-- May authors write direct conditions? -/
  allowDirect : Bool := false
  /-- May authors ask about capabilities on another site? -/
  allowForBlog : Bool := false
  /-- May authors call functions through attributes of their own? -/
  allowArbitrary : Bool := false
  /-- The allowed names of such attributes, with blanks or commas between them. -/
  whitelist : String := ""
  /-- The debug mode of tags that do not set one. -/
  debugDefault : String := "0"
  /-- The least length of such names, in bytes. -/
  minNameLength : Nat := 3
  deriving Repr, DecidableEq, Inhabited

namespace Options

/-- The allowed names; none where authors' attributes are not enabled. -/
def allowedNames (o : Options) : List String :=
  if o.allowArbitrary then
    ((Text.splitOn (fun c => Text.isBlank c || c == ',') o.whitelist.toList).filter
      (!·.isEmpty)).map String.ofList
  else []

/-- The names of the fields in stored options. -/
def fieldNames : List String :=
  ["name", "else_name", "enable_php_att", "enable_for_blog_att", "enable_arbitrary_atts",
    "whitelisted_arbitrary_atts", "debug_att_default", "arbitrary_att_min_length"]

/-- A field that may be missing. -/
def field? {φ α : Type} (default : α) (read : φ → Option α) : Option φ → Option α
  | none => some default
  | some f => read f

/-- Options from the values of their fields, each read by its kind. -/
def ofFields? {φ : Type} (text? : φ → Option String) (flag? : φ → Option Bool)
    (size? : φ → Option Nat) : List (Option φ) → Option Options
  | [name, elseName, direct, forBlog, arbitrary, whitelist, debug, minLength] => do
    let d : Options := {}
    some {
      name := ← field? d.name text? name
      elseName := ← field? d.elseName text? elseName
      allowDirect := ← field? d.allowDirect flag? direct
      allowForBlog := ← field? d.allowForBlog flag? forBlog
      allowArbitrary := ← field? d.allowArbitrary flag? arbitrary
      whitelist := ← field? d.whitelist text? whitelist
      debugDefault := ← field? d.debugDefault text? debug
      minNameLength := ← field? d.minNameLength size? minLength }
  | _ => none

/-- Stored options; missing fields have their defaults, wrong kinds are refused. -/
def ofJson? (j : Json) : Option Options := do
  let fields ← j.record? fieldNames
  ofFields? Json.string? Json.bool? (fun j => (Json.uint64? j).map UInt64.toNat) fields

end Options

/-- Options with what is derived from them. -/
structure Resolved where
  options : Options
  whitelist : List String
  deriving Repr, DecidableEq, Inhabited

/-- The options with the allowed names. -/
def Options.resolved (o : Options) : Resolved := ⟨o, o.allowedNames⟩

/-- May authors use an attribute of this name?  An empty list allows all. -/
def Resolved.allows (r : Resolved) (name : String) : Bool :=
  r.whitelist.isEmpty || r.whitelist.contains name

/-! ## Reading options once -/

/-- The options, once they have been read. -/
structure OptionsCache where
  kept? : Option Resolved := none
  deriving Inhabited

namespace OptionsCache

/-- Have the options been read? -/
def isLoaded (c : OptionsCache) : Bool := c.kept?.isSome

/-- The options; `load` is asked only the first time. -/
def get {m : Type → Type} [Monad m] (load : m Options) : StateT OptionsCache m Resolved := do
  match (← MonadState.get).kept? with
  | some r => pure r
  | none =>
    let o ← load
    MonadState.set (⟨some o.resolved⟩ : OptionsCache)
    pure o.resolved

end OptionsCache

end ContentGate
