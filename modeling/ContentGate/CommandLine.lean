/-
  ContentGate.CommandLine — what a run of the program is asked to do.

  The only operand is the file of the page, `-` for standard input.
  Options may stand before and behind it; a long option takes its value
  as the next argument or behind `=`, a short one as the next argument.
  Behind `--` no argument is an option.
-/
import ContentGate.Settings.Basic

namespace ContentGate

/-- The request of a command line. -/
structure CommandLine where
  /-- The file of the page. -/
  page? : Option String := none
  /-- The file with the visitor, in place of the one in the settings. -/
  visitorFile? : Option String := none
  /-- The file with the inventory, in place of the one in the settings. -/
  inventoryFile? : Option String := none
  /-- The file with the settings, without its extension. -/
  settingsFile : String := "config/ifsc"
  /-- Is the site part of a network, whatever the settings say? -/
  multisite : Bool := false
  /-- Is the usage asked for? -/
  help : Bool := false
  deriving Repr, DecidableEq, Inhabited

namespace CommandLine

/-- How the program is called. -/
def usage : String :=
  "Render [if] shortcode content for a visitor\n\n"
    ++ "Usage: ifsc [OPTIONS] <CONTENT>\n\n"
    ++ "Arguments:\n"
    ++ "  <CONTENT>  Content file to render, `-` for stdin\n\n"
    ++ "Options:\n"
    ++ "  -v, --visitor <VISITOR>  Visitor fixture (YAML)\n"
    ++ "  -c, --catalog <CATALOG>  Product catalog fixture (YAML)\n"
    ++ "      --config <CONFIG>    Config file path without extension [default: config/ifsc]\n"
    ++ "  -m, --multisite          Simulate a multisite network\n"
    ++ "  -h, --help               Print help\n"

/-- An option that takes a value, by name. -/
def valueOption? (name : String) : Option (String → CommandLine → CommandLine) :=
  if name = "-v" ∨ name = "--visitor" then some fun v c => { c with visitorFile? := some v }
  else if name = "-c" ∨ name = "--catalog" then some fun v c => { c with inventoryFile? := some v }
  else if name = "--config" then some fun v c => { c with settingsFile := v }
  else none

/-- An option without a value, by name. -/
def flagOption? (name : String) : Option (CommandLine → CommandLine) :=
  if name = "-m" ∨ name = "--multisite" then some fun c => { c with multisite := true }
  else if name = "-h" ∨ name = "--help" then some fun c => { c with help := true }
  else none

/-- The name and the value of a long option with `=`. -/
def assigned? (argument : String) : Option (String × String) :=
  let cs := argument.toList
  let name := cs.takeWhile (· != '=')
  match cs.dropWhile (· != '=') with
  | '=' :: value => some (String.ofList name, String.ofList value)
  | _ => none

/-- Sets the file of the page; a second one is refused. -/
def withPage (c : CommandLine) (file : String) : Except String CommandLine :=
  match c.page? with
  | none => .ok { c with page? := some file }
  | some _ => .error ("unexpected argument '" ++ file ++ "' found")

/-- The request of the rest of the arguments. -/
def read (c : CommandLine) : List String → Except String CommandLine
  | [] => .ok c
  | "--" :: files => files.foldlM withPage c
  | a :: more =>
    match flagOption? a, valueOption? a, assigned? a with
    | some set, _, _ => read (set c) more
    | none, some set, _ =>
      match more with
      | [] => .error ("a value is required for '" ++ a ++ "' but none was supplied")
      | v :: more => read (set v c) more
    | none, none, some (name, v) =>
      match valueOption? name with
      | some set => read (set v c) more
      | none => do read (← withPage c a) more
    | none, none, none =>
      if a.toList.head? = some '-' ∧ a ≠ "-" then .error ("unexpected argument '" ++ a ++ "' found")
      else do read (← withPage c a) more

/-- The request of all arguments. -/
def ofArguments (arguments : List String) : Except String CommandLine :=
  read {} arguments

/-- The settings as the command line changes them. -/
def apply (c : CommandLine) (s : Settings) : Settings :=
  { s with
    multisite := s.multisite || c.multisite
    visitorFile? := c.visitorFile?.or s.visitorFile?
    inventoryFile? := c.inventoryFile?.or s.inventoryFile? }

end CommandLine

end ContentGate
