/-
  ContentGate.Tag.AttributeText — attributes as they are written in a tag.

  Between the name of a tag and its closing bracket stand assignments:

      name="value"   name='value'   name=value   "value"   'value'   value

  An assignment ends at a blank or at the end of the text.  The forms
  are tried in this order wherever a non-blank character starts a new
  assignment; the last form, any run of non-blank characters, always
  fits, so nothing an author writes is skipped.

  `Attributes.recreate` writes a tag again.
-/
import ContentGate.Tag.Attributes
import ContentGate.Text.Blank
import ContentGate.Text.Letters
import ContentGate.Text.Search

namespace ContentGate

open Text

/-- One assignment: a value, with a name or without. -/
structure Assignment where
  name? : Option String
  value : String
  deriving Repr, DecidableEq

namespace Assignment

/-! ## The forms -/

/-- The characters of attribute names. -/
def isNameChar (c : Char) : Bool := isWordChar c || c == '-'

/-- What is left behind an assignment: nothing, or the text behind a blank. -/
def finish? : List Char → Option (List Char)
  | [] => some []
  | c :: cs => if isBlank c then some cs else none

/-- A value between two quotes, and what is left behind the assignment. -/
def quotedValue? (quote : Char) : List Char → Option (String × List Char)
  | [] => none
  | c :: cs =>
    if c = quote ∧ cs.contains quote then
      let body := cs.takeWhile (· != quote)
      (finish? (cs.drop (body.length + 1))).map (String.ofList body, ·)
    else none

/-- A value without quotes and blanks, and what is left behind the assignment. -/
def bareValue? (cs : List Char) : Option (String × List Char) :=
  let isValueChar (c : Char) : Bool := !(isBlank c || c == '"' || c == '\'')
  let body := cs.takeWhile isValueChar
  if body.isEmpty then none
  else (finish? (cs.dropWhile isValueChar)).map (String.ofList body, ·)

/-- A name and an equals sign, with blanks around it: the name and what follows. -/
def assigned? (cs : List Char) : Option (String × List Char) :=
  let name := cs.takeWhile isNameChar
  if name.isEmpty then none
  else
    match trimStart (cs.dropWhile isNameChar) with
    | '=' :: rest => some (String.ofList name, trimStart rest)
    | _ => none

/-- A run of non-blank characters, and what is left behind the assignment. -/
def run (cs : List Char) : Assignment × List Char :=
  (⟨none, String.ofList (cs.takeWhile (!isBlank ·))⟩, (cs.dropWhile (!isBlank ·)).drop 1)

/-- The assignment at the head of a text that starts with a non-blank
character, and what is left behind it. -/
def first (cs : List Char) : Assignment × List Char :=
  let named : Option (Assignment × List Char) := do
    let (name, rest) ← assigned? cs
    let (value, rest) ←
      (quotedValue? '"' rest).or ((quotedValue? '\'' rest).or (bareValue? rest))
    some (⟨some name, value⟩, rest)
  let quoted : Option (Assignment × List Char) :=
    ((quotedValue? '"' cs).or (quotedValue? '\'' cs)).map fun (value, rest) =>
      (⟨none, value⟩, rest)
  (named.or quoted).getD (run cs)

/-- The assignments of the rest of a text, of which the first `taken`
characters belong to an assignment already found. -/
def listFrom : (taken : Nat) → List Char → List Assignment
  | _, [] => []
  | taken + 1, _ :: cs => listFrom taken cs
  | 0, c :: cs =>
    if isBlank c then listFrom 0 cs
    else
      let (a, rest) := first (c :: cs)
      a :: listFrom (cs.length - rest.length) cs

/-- The assignments of a text. -/
def list (cs : List Char) : List Assignment := listFrom 0 cs

/-- Every run of no-break and zero-width spaces becomes one space. -/
def visibleSpaces : List Char → List Char
  | [] => []
  | c :: cs =>
    let isInvisible (c : Char) : Bool := c == '\u00a0' || c == '\u200b'
    if isInvisible c then
      if (cs.head?.map isInvisible).getD false then visibleSpaces cs else ' ' :: visibleSpaces cs
    else c :: visibleSpaces cs

end Assignment

namespace Attributes

/-- One more assignment. -/
def assign (a : Attributes) (s : Assignment) : Attributes :=
  match s.name? with
  | some name => a.insert (.named name) s.value
  | none => a.pushPositional s.value

/-- The attributes that a text writes. -/
def ofText (text : List Char) : Attributes :=
  (Assignment.list (Assignment.visibleSpaces text)).foldl assign empty

/-! ## Writing -/

/-- A bare value has to stay one positional value when it is read. -/
def needsQuotes (value : String) : Bool :=
  value == "" || value.toList.any fun c => isBlank c || c == '"' || c == '\'' || c == '='

/-- A value between quotes: double ones, unless only single ones can hold it. -/
def quoteValue (value : String) : String :=
  if value.toList.contains '"' && !value.toList.contains '\'' then "'" ++ value ++ "'"
  else "\"" ++ value ++ "\""

/-- One attribute, written. -/
def writeEntry : AttributeKey × String → String
  | (.positional _, value) => if needsQuotes value then quoteValue value else value
  | (.named name, value) => name ++ "=" ++ quoteValue value

/-- The opening tag with these attributes. -/
def recreate (a : Attributes) (tag : String) : String :=
  "[" ++ tag ++ String.join (a.entries.map fun e => " " ++ writeEntry e) ++ "]"

end Attributes

end ContentGate
