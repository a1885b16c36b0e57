/-
  ContentGate.Json.Writer — JSON values as text.

  Two forms: `compact`, without blanks, and `pretty`, with one member or
  item a line and two blanks of indent for each level.  Strings escape
  the quote, the backslash and the controls below the space, and nothing
  else.  Floats are written with the fewest digits that identify them,
  with a point or an exponent, so that they are told from integers.
-/
import ContentGate.Json.Basic

namespace ContentGate.Json

/-! ## Leaves -/

/-- Numbers are written positionally from `1e-5` to below `1e16`, whole
floats with `.0`. -/
def numberLayout : Decimal.Layout where
  plainFrom := -5
  plainBelow := 16
  pointZero := true
  tie := .toEven
  nan := "null"
  infinity := "null"

/-- One character of a string. -/
def escapedChar (c : Char) : List Char :=
  if c = '"' then ['\\', '"']
  else if c = '\\' then ['\\', '\\']
  else if c = '\x08' then ['\\', 'b']
  else if c = '\x0c' then ['\\', 'f']
  else if c = '\n' then ['\\', 'n']
  else if c = '\r' then ['\\', 'r']
  else if c = '\t' then ['\\', 't']
  else if c.toNat < 32 then
    ['\\', 'u', '0', '0', Nat.digitChar (c.toNat / 16), Nat.digitChar (c.toNat % 16)]
  else [c]

/-- A string between quotes. -/
def writeString (s : String) : List Char :=
  '"' :: (s.toList.flatMap escapedChar ++ ['"'])

/-- A number: an integer by its digits, a float by its layout. -/
def writeNumber (n : JsonNumber) : List Char :=
  (if n.negative then ['-'] else []) ++
    if n.whole then Decimal.Layout.digitsOf n.digits
    else numberLayout.unsigned ⟨n.digits, n.exponent⟩

/-! ## Without blanks -/

mutual

/-- A value in compact form. -/
def write : Json → List Char
  | .null => "null".toList
  | .bool b => if b then "true".toList else "false".toList
  | .number n => writeNumber n
  | .string s => writeString s
  | .array items => '[' :: (writeItems items ++ [']'])
  | .object members => '\x7b' :: (writeMembers members ++ ['\x7d'])
  | .unreadable => "null".toList

/-- Items with commas between them. -/
def writeItems : List Json → List Char
  | [] => []
  | [j] => write j
  | j :: k :: js => write j ++ ',' :: writeItems (k :: js)

/-- Members with commas between them. -/
def writeMembers : List (Key × Json) → List Char
  | [] => []
  | [(key, j)] => writeString key.text ++ ':' :: write j
  | (key, j) :: m :: ms => writeString key.text ++ ':' :: (write j ++ ',' :: writeMembers (m :: ms))

end

/-- The compact text of a value. -/
def compact (j : Json) : String := String.ofList (write j)

/-! ## With line breaks -/

/-- A line break and the indent of a level. -/
def newline (level : Nat) : List Char := '\n' :: List.replicate (2 * level) ' '

mutual

/-- A value in pretty form, standing at a level of indent. -/
def writePretty (level : Nat) : Json → List Char
  | .array [] => ['[', ']']
  | .array items =>
    '[' :: (writePrettyItems (level + 1) items ++ newline level ++ [']'])
  | .object [] => ['\x7b', '\x7d']
  | .object members =>
    '\x7b' :: (writePrettyMembers (level + 1) members ++ newline level ++ ['\x7d'])
  | j => write j

/-- Items, each on a line of its own. -/
def writePrettyItems (level : Nat) : List Json → List Char
  | [] => []
  | [j] => newline level ++ writePretty level j
  | j :: k :: js => newline level ++ writePretty level j ++ ',' :: writePrettyItems level (k :: js)

/-- Members, each on a line of its own. -/
def writePrettyMembers (level : Nat) : List (Key × Json) → List Char
  | [] => []
  | [(key, j)] => newline level ++ writeString key.text ++ ':' :: ' ' :: writePretty level j
  | (key, j) :: m :: ms =>
    newline level ++ writeString key.text ++ ':' :: ' ' ::
      (writePretty level j ++ ',' :: writePrettyMembers level (m :: ms))

end

/-- The pretty text of a value. -/
def pretty (j : Json) : String := String.ofList (writePretty 0 j)

end ContentGate.Json
