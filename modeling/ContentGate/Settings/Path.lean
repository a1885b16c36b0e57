/-
  ContentGate.Settings.Path — where a setting stands.

  A path leads from the root of the settings to one of them.  A step
  names an entry of a table, or counts the items of a list: from its
  start, or from its end where the number is negative.

  A key writes its path with points and brackets, as in `shortcode.name`
  and `shortcode[0]`.  A key of another form is the name of one entry.
  Capitals do not matter: names of entries are in small letters.
-/
import ContentGate.Decimal.Binary
import ContentGate.Decimal.Reading
import ContentGate.Text.Search

namespace ContentGate

/-- One step from a setting to a part of it. -/
inductive SettingStep where
  /-- To the entry of a table. -/
  | entry (name : String)
  /-- To an item of a list. -/
  | item (index : Int)
  deriving Repr, DecidableEq

/-- A path from the root of the settings. -/
abbrev SettingPath := List SettingStep

namespace SettingPath

/-! ## Names -/

/-- The small letter of a capital.  The sign of the kelvin is a capital
too, the only one beyond ASCII with a small letter of ASCII. -/
def smallLetter (c : Char) : Char := if c = '\u212a' then 'k' else c.toLower

/-- A name in small letters. -/
def smallName (cs : List Char) : List Char := cs.map smallLetter

/-- The step to the entry with a name. -/
def entryStep (cs : List Char) : SettingStep := .entry (String.ofList (smallName cs))

/-- The characters of a name in a path. -/
def isNameChar (c : Char) : Bool := c.isAlphanum || c == '_' || c == '-' || c == ' '

/-! ## Keys -/

/-- The number of an item, whose opening bracket has been read, and how
many characters it takes up to its closing bracket.  Blanks may stand
around the number, which has 64 bits. -/
def index? (cs : List Char) : Option (Int × Nat) :=
  let isPad (c : Char) : Bool := c == ' ' || c == '\t'
  let number := cs.dropWhile isPad
  let (negative, ds) := match number with
    | '-' :: ds => (true, ds)
    | ds => (false, ds)
  let digits := ds.takeWhile Char.isDigit
  let rest := (ds.drop digits.length).dropWhile isPad
  let n : Int := if negative then -Decimal.digitsValue digits else Decimal.digitsValue digits
  if digits.isEmpty || rest.head? != some ']' || !Decimal.isInt64 n then none
  else some (n, cs.length - rest.length + 1)

/-- The steps that the rest of a key writes, if it is well formed.  The
first `taken` characters belong to the step before. -/
def stepsFrom? : (taken : Nat) → List Char → Option SettingPath
  | _, [] => some []
  | taken + 1, _ :: cs => stepsFrom? taken cs
  | 0, '.' :: cs =>
    let name := cs.takeWhile isNameChar
    if name.isEmpty then none else (stepsFrom? name.length cs).map (entryStep name :: ·)
  | 0, '[' :: cs =>
    match index? cs with
    | some (n, taken) => (stepsFrom? taken cs).map (.item n :: ·)
    | none => none
  | 0, _ :: _ => none

/-- The path that a key writes. -/
def ofKey (key : String) : SettingPath :=
  (stepsFrom? 0 ('.' :: key.toList)).getD [entryStep key.toList]

end SettingPath

end ContentGate
