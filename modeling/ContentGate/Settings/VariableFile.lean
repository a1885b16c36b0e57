/-
  ContentGate.Settings.VariableFile — variables in a `.env` file.

  A file gives values to variables, `NAME=value`, with an optional
  `export` in front.  A `#` at the start of a line, or behind a blank,
  starts a comment.  A value may stand between single or double quotes,
  also over several lines; outside single quotes a backslash takes the
  meaning of the next character, and `$NAME` or `${NAME}` stands for the
  value of a variable that is known already.

  Two passes: `linesFrom` cuts the file into lines, where a line break
  between quotes does not count; `line?` reads one line.  The file is
  read up to the first line that is not understood.
-/
import ContentGate.Text.Blank
import ContentGate.Text.Letters
import ContentGate.Text.Search

namespace ContentGate.VariableFile

open ContentGate.Text

/-! ## Lines -/

/-- Where a reader of lines stands. -/
inductive LineState where
  /-- Behind nothing but blanks. -/
  | start
  | plain
  /-- Behind a blank. -/
  | blank
  | quoted (quote : Char)
  /-- Behind a backslash, perhaps between quotes. -/
  | escaped (quote? : Option Char)
  | comment
  deriving Repr, DecidableEq

namespace LineState

/-- The state behind a character that is not special at the start of a line. -/
def nextPlain (c : Char) : LineState :=
  if c = '\\' then .escaped none
  else if c = '"' ∨ c = '\'' then .quoted c
  else .plain

/-- The state behind a character. -/
def next : LineState → Char → LineState
  | .start, c => if c = '#' then .comment else if isBlank c then .start else nextPlain c
  | .plain, c => if isBlank c ∧ c ≠ '\n' ∧ c ≠ '\r' then .blank else nextPlain c
  | .blank, c => if c = '#' then .comment else nextPlain c
  | .quoted q, c => if c = '\\' then .escaped (some q) else if c = q then .plain else .quoted q
  | .escaped none, _ => .plain
  | .escaped (some q), _ => .quoted q
  | .comment, _ => .comment

/-- May a line end in this state? -/
def endsLine : LineState → Bool
  | .start | .plain | .comment => true
  | _ => false

end LineState

/-- The lines of the rest of a file, without comments; `reversed` is the
line so far, backwards.  A line that may not end where the file ends is
dropped. -/
def linesFrom : LineState → (reversed : List Char) → List Char → List (List Char)
  | state, reversed, [] => if state.endsLine then [reversed.reverse] else []
  | state, reversed, c :: cs =>
    let state := state.next c
    if c = '\n' ∧ state.endsLine then reversed.reverse :: linesFrom .start [] cs
    else linesFrom state (if state = .comment then reversed else c :: reversed) cs

/-! ## Values -/

/-- Where a reader of a value stands. -/
inductive ValueState where
  | plain
  | single
  | double
  /-- Behind a backslash. -/
  | escaped (inDouble : Bool)
  /-- In the name behind `$`, which is kept backwards. -/
  | reference (inDouble : Bool) (reversed : List Char)
  /-- In a name between braces. -/
  | braced (inDouble : Bool) (reversed : List Char)
  /-- Behind the value: only blanks and a comment may follow. -/
  | ended
  deriving Repr, DecidableEq

/-- The state between double quotes, or outside all. -/
def ValueState.within (inDouble : Bool) : ValueState := if inDouble then .double else .plain

/-- The character that a backslash and `c` stand for. -/
def escape? (c : Char) : Option Char :=
  if ['\\', '\'', '"', '$', ' '].contains c then some c else if c = 'n' then some '\n' else none

/-- The value that a text writes, where `known` tells the values of variables. -/
def value? (known : List Char → List Char) : ValueState → List Char → Option (List Char)
  | .plain, [] | .ended, [] | .escaped false, [] => some []
  | .reference false name, [] => some (known name.reverse)
  | _, [] => none
  | .ended, c :: cs =>
    if c = ' ' ∨ c = '\t' then value? known .ended cs else if c = '#' then some [] else none
  | .escaped inDouble, c :: cs => do
    let c ← escape? c
    (value? known (.within inDouble) cs).map (c :: ·)
  | .single, c :: cs =>
    if c = '\'' then value? known .plain cs else (value? known .single cs).map (c :: ·)
  | .reference inDouble name, c :: cs =>
    if isAlphanumeric c then value? known (.reference inDouble (c :: name)) cs
    else if c = '\x7b' ∧ name.isEmpty then value? known (.braced inDouble []) cs
    else if c = '$' then (value? known (.reference inDouble []) cs).map (known name.reverse ++ ·)
    else (value? known (.within inDouble) cs).map (known name.reverse ++ c :: ·)
  | .braced inDouble name, c :: cs =>
    if c = '\x7d' then (value? known (.within inDouble) cs).map (known name.reverse ++ ·)
    else value? known (.braced inDouble (c :: name)) cs
  | .double, c :: cs =>
    if c = '$' then value? known (.reference true []) cs
    else if c = '"' then value? known .plain cs
    else if c = '\\' then value? known (.escaped true) cs
    else (value? known .double cs).map (c :: ·)
  | .plain, c :: cs =>
    if c = '$' then value? known (.reference false []) cs
    else if c = '\'' then value? known .single cs
    else if c = '"' then value? known .double cs
    else if c = '\\' then value? known (.escaped false) cs
    else if c = ' ' ∨ c = '\t' then value? known .ended cs
    else (value? known .plain cs).map (c :: ·)

/-! ## Variables -/

/-- A variable's name at the head of a text, and what follows it. -/
def name? : List Char → Option (List Char × List Char)
  | [] => none
  | c :: cs =>
    if c.isAlpha || c == '_' then
      let isNameChar (c : Char) : Bool := c.isAlphanum || c == '_' || c == '.'
      some (c :: cs.takeWhile isNameChar, cs.dropWhile isNameChar)
    else none

/-- A variable's name and an equals sign, and what follows them. -/
def assigned? (cs : List Char) : Option (List Char × List Char) := do
  let (name, rest) ← name? cs
  match trimStart rest with
  | '=' :: rest => some (name, trimStart rest)
  | _ => none

/-- A line of the file: nothing, or a variable and its value. -/
def line? (known : List Char → List Char) (cs : List Char) : Option (Option (String × String)) :=
  let cs := trim cs
  if cs.isEmpty || cs.head? == some '#' then some none
  else do
    let exported := (dropWord? "export".toList cs).bind fun rest => assigned? (trimStart rest)
    let (name, rest) ← (assigned? cs).or exported
    if rest.isEmpty || rest.head? == some '#' then some (some (String.ofList name, ""))
    else do
      let value ← value? known .plain rest
      some (some (String.ofList name, String.ofList value))

/-- The value of a variable, empty where it has none. -/
def valueIn (vars : List (String × String)) (name : List Char) : List Char :=
  (((vars.find? (·.1 == String.ofList name)).map (·.2)).getD "").toList

/-- Variables with those of the lines up to the first that is not
understood; a variable that has a value keeps it. -/
def addLines (vars : List (String × String)) : List (List Char) → List (String × String)
  | [] => vars
  | cs :: more =>
    match line? (valueIn vars) cs with
    | none => vars
    | some none => addLines vars more
    | some (some v) =>
      addLines (if vars.any (·.1 == v.1) then vars else vars ++ [v]) more

/-- The byte-order mark that may stand in front of a file. -/
def dropByteOrderMark : List Char → List Char
  | '\ufeff' :: cs => cs
  | cs => cs

/-- Variables with those of a file. -/
def add (vars : List (String × String)) (file : String) : List (String × String) :=
  addLines vars (linesFrom .start [] (dropByteOrderMark file.toList))

end ContentGate.VariableFile
