/-
  ContentGate.Settings.Variables — variables as a source of settings.

  A variable with the prefix `IFSC_`, in any case, is a setting: the
  rest of its name, in small letters, is the setting's path, where two
  underscores separate the levels.
-/
import ContentGate.Settings.Setting

namespace ContentGate.Variables

open ContentGate.Text

/-- The start of the names that are settings. -/
def prefixOfNames : List Char := "ifsc_".toList

/-- A text with every pair of underscores replaced by a point. -/
def pointed : List Char → List Char
  | '_' :: '_' :: cs => '.' :: pointed cs
  | c :: cs => c :: pointed cs
  | [] => []

/-- The path of a variable, if it is a setting. -/
def path? (name : String) : Option SettingPath :=
  (dropWord? prefixOfNames (SettingPath.smallName name.toList)).map fun rest =>
    SettingPath.ofKey (String.ofList (pointed rest))

/-- The settings with those that variables give. -/
def override (settings : Setting) (vars : List (String × String)) : Setting :=
  vars.foldl (fun s (name, value) =>
    match path? name with
    | some path => s.setPath path (Setting.ofVariable value)
    | none => s) settings

end ContentGate.Variables
