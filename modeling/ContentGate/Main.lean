/-
  ContentGate.Main — the command line program.

  It reads the settings, the fixtures and the page, and prints the page
  as the visitor sees it.  Messages of the log go to standard error.
-/
import ContentGate.CommandLine
import ContentGate.Settings.Rendering
import ContentGate.Settings.VariableFile

namespace ContentGate.Main

/-- The text of a file, if it can be read. -/
def text? (file : String) : IO (Option String) := do
  try
    let text ← IO.FS.readFile file
    pure (some text)
  catch _ => pure none

/-- The rest of a stream, behind what has been read of it. -/
partial def rest (stream : IO.FS.Stream) (done : String) : IO String := do
  let line ← stream.getLine
  if line.isEmpty then pure done else rest stream (done ++ line)

/-- The names of the environment's variables that are settings. -/
def variableNames : List String :=
  ["MULTISITE", "SKU_LIMIT", "VISITOR", "CATALOG"].map ("IFSC_" ++ ·)
    ++ Options.fieldNames.map fun name => "IFSC_SHORTCODE__" ++ name.toUpper

/-- The variables of the environment and the `.env` file. -/
def environment : IO (List (String × String)) := do
  let found ← variableNames.filterMapM fun name => do
    let value? ← IO.getEnv name
    pure (value?.map fun value => (name, value))
  let file? ← text? ".env"
  pure ((file?.map (VariableFile.add found)).getD found)

/-- The texts of the files that the settings name. -/
def fixtures (s : Settings) : IO (String → Option String) := do
  let files := s.visitorFile?.toList ++ s.inventoryFile?.toList
  let texts ← files.mapM fun file => do
    let text? ← text? file
    pure (file, text?)
  pure fun file => (texts.find? fun entry => entry.1 == file).bind fun entry => entry.2

/-- Reports a failure of the run. -/
def failWith (message : String) : IO UInt32 := do
  IO.eprintln ("Error: " ++ message)
  pure 1

/-- Renders the page of a request. -/
def run (c : CommandLine) (page : String) : IO UInt32 := do
  let file? ← text? (c.settingsFile ++ ".json")
  let vars ← environment
  match Settings.load? file? vars with
  | none => failWith "Failed to deserialize config"
  | some s =>
    let s := c.apply s
    let content? ← if page = "-" then some <$> rest (← IO.getStdin) "" else text? page
    match content? with
    | none => failWith ("Failed to read content '" ++ page ++ "'")
    | some content =>
      let files ← fixtures s
      match s.render files content with
      | .error e => failWith e.message
      | .ok (text, warnings) =>
        warnings.forM fun warning => IO.eprintln ("WARN " ++ warning)
        IO.print text
        pure 0

end ContentGate.Main

/-- Renders a page for a visitor. -/
def main (arguments : List String) : IO UInt32 :=
  match ContentGate.CommandLine.ofArguments arguments with
  | .error message => do
    IO.eprintln ("error: " ++ message)
    IO.eprint ContentGate.CommandLine.usage
    pure 2
  | .ok c => do
    if c.help then
      IO.print ContentGate.CommandLine.usage
      pure 0
    else
      match c.page? with
      | some page => ContentGate.Main.run c page
      | none =>
        IO.eprintln "error: the content file is missing"
        IO.eprint ContentGate.CommandLine.usage
        pure 2
