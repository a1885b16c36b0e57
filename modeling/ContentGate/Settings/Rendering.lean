/-
  ContentGate.Settings.Rendering — a page as the settings describe it.

  The visitor and the inventory are read from the files that the
  settings name, the visitor first.
-/
import ContentGate.Fixture
import ContentGate.Page
import ContentGate.Settings.Basic

namespace ContentGate

/-- What is wrong with a fixture file. -/
inductive FixtureError where
  | unreadable (what : String)
  | invalid (what : String)
  deriving Repr, DecidableEq

/-- The message of a fixture error. -/
def FixtureError.message : FixtureError → String
  | .unreadable what => "Failed to read " ++ what ++ " fixture"
  | .invalid what => "Invalid " ++ what ++ " fixture"

namespace Settings

/-- A value read from a file. -/
def fixture {α : Type} (files : String → Option String) (what : String)
    (read : Yaml → Option α) (file : String) : Except FixtureError α :=
  match files file with
  | none => .error (.unreadable what)
  | some text =>
    match Yaml.read? text >>= read with
    | some a => .ok a
    | none => .error (.invalid what)

/-- The page for the visitor of the settings, and the messages of the log. -/
def render (s : Settings) (files : String → Option String) (page : String) :
    Except FixtureError (String × List String) := do
  let profile ← match s.visitorFile? with
    | some file => fixture files "visitor" Profile.ofNode? file
    | none => .ok {}
  let inventory? ← match s.inventoryFile? with
    | some file => (fixture files "catalog" Inventory.ofNode? file).map some
    | none => .ok none
  let site : Site Inventory := {
    options := s.options.resolved
    commerce? := inventory?.map fun _ => Inventory.shop s.skuLimit
    multisite := s.multisite }
  let (text, session) := (site.render profile.visitor page).run { catalog := inventory?.getD {} }
  .ok (text, session.warnings)

end Settings

end ContentGate
