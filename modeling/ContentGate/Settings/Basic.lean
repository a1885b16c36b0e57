/-
  ContentGate.Settings.Basic — the settings of the renderer.

  Settings come from a file, which variables override.  A file that does
  not hold an object is not usable: then all settings have their
  defaults, whatever the variables are.  A setting that cannot be read
  as its kind makes the whole configuration invalid.  Unknown settings
  do not matter.
-/
import ContentGate.Commerce.Lookup
import ContentGate.Invocation.Options
import ContentGate.Json.Reader
import ContentGate.Json.Record
import ContentGate.Settings.Variables

namespace ContentGate

/-- The settings of the renderer. -/
structure Settings where
  options : Options := {}
  /-- Is the site part of a network? -/
  multisite : Bool := false
  skuLimit : Nat := Commerce.defaultSkuLimit
  /-- The file with the visitor; anonymous when there is none. -/
  visitorFile? : Option String := none
  /-- The file with the inventory; no commerce when there is none. -/
  inventoryFile? : Option String := none
  deriving Inhabited

namespace Settings

/-- A file's name, which may be missing. -/
def file? : Option Setting → Option (Option String)
  | none | some .none => some none
  | some s => s.text?.map some

/-- Options from a setting. -/
def options? (s : Setting) : Option Options := do
  let fields ← s.record? Options.fieldNames
  Options.ofFields? Setting.text? Setting.flag? Setting.size? fields

/-- The settings of a table; missing ones have their defaults. -/
def ofSetting? (s : Setting) : Option Settings := do
  match ← s.record? ["shortcode", "multisite", "sku_limit", "visitor", "catalog"] with
  | [options, multisite, skuLimit, visitor, inventory] =>
    let d : Settings := {}
    some {
      options := ← options.elim (some d.options) options?
      multisite := ← multisite.elim (some d.multisite) Setting.flag?
      skuLimit := ← skuLimit.elim (some d.skuLimit) Setting.size?
      visitorFile? := ← file? visitor
      inventoryFile? := ← file? inventory }
  | _ => none

/-- Does a file hold only floats in range and strings with a text, and no
more levels than a text may nest? -/
def isUsable : (levels : Nat) → Json → Bool
  | _, .number n => n.toFloat?.isSome
  | levels + 1, .array items => items.all (isUsable levels)
  | levels + 1, .object fields =>
    fields.all fun (field : Json.Key × Json) => isUsable levels field.2
  | 0, .array _ | 0, .object _ | _, .unreadable => false
  | _, _ => true

/-- The table of a settings file; without a file it is empty, and a file
that holds no object has none. -/
def table? : Option String → Option Setting
  | none => some (.table [])
  | some text =>
    match (Json.read? text).filter (isUsable Json.maxLevels) with
    | some (.object fields) =>
      some ((Setting.tableOfJson [] fields).foldl
        (fun t (key, value) => t.setPath (SettingPath.ofKey key) value) (.table []))
    | _ => none

/-- The settings of a file and of variables. -/
def load? (file? : Option String) (vars : List (String × String)) : Option Settings :=
  match table? file? with
  | none => some {}
  | some table => ofSetting? (Variables.override table vars)

end Settings

end ContentGate
