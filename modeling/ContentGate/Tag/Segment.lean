/-
  ContentGate.Tag.Segment — a page as text and tags.

  A tag `[name attributes]` counts if its name is registered.  It
  encloses what stands before the first `[/name]` behind it; without one,
  or when its attributes end in `/`, it stands alone.  A tag in a second
  pair of brackets, `[[name …]]`, is text without the outer pair.
-/
import ContentGate.Tag.AttributeText

namespace ContentGate

open Text

/-- A tag of a page. -/
structure Tag where
  name : String
  attributes : Attributes
  /-- What the tag encloses, if it encloses anything. -/
  body? : Option String

/-- What the tag encloses; a tag that stands alone encloses nothing. -/
def Tag.body (t : Tag) : String := t.body?.getD ""

/-- A piece of a page. -/
inductive Segment where
  | text (s : String)
  | tag (t : Tag)

namespace Segment

/-- The characters of tag names. -/
def isNameChar (c : Char) : Bool := isAlphanumeric c || c == '_' || c == '-'

/-- The closing tag of a name. -/
def closingTag (name : List Char) : List Char := ['[', '/'] ++ name ++ [']']

/-- The attribute text of a tag, and whether the tag closes itself: then
the blanks and slashes at its end are dropped. -/
def attributePart (cs : List Char) : List Char × Bool :=
  let trimmed := trimEnd cs
  if trimmed.getLast? = some '/' then (dropEndWhile (· == '/') trimmed, true) else (cs, false)

/-- A tag without its opening bracket, and what follows it. -/
def tagAt? (names : List String) (cs : List Char) : Option (Tag × List Char) := do
  let name := cs.takeWhile isNameChar
  if name.isEmpty || !names.contains (String.ofList name) then none
  else
    let (inner, rest) ← splitAtWord? [']'] (cs.drop name.length)
    let (attributes, closed) := attributePart inner
    let tagWith (body? : Option String) : Tag :=
      ⟨String.ofList name, Attributes.ofText attributes, body?⟩
    if closed then some (tagWith none, rest)
    else
      match splitAtWord? (closingTag name) rest with
      | some (body, rest) => some (tagWith (some (String.ofList body)), rest)
      | none => some (tagWith none, rest)

/-- The segments at an opening bracket, which is not part of `cs`, and
what follows them. -/
def atBracket? (names : List String) (cs : List Char) : Option (List Segment × List Char) :=
  match cs with
  | '[' :: inner => do
    let (t, rest) ← tagAt? names inner
    match rest with
    | ']' :: behind => some ([.text (String.ofList (cs.take (cs.length - rest.length)))], behind)
    | _ => some ([.text "[", .tag t], rest)
  | _ => (tagAt? names cs).map fun (t, rest) => ([.tag t], rest)

/-- A text segment, if there is any text. -/
def ofText (reversed : List Char) : List Segment :=
  if reversed.isEmpty then [] else [.text (String.ofList reversed.reverse)]

/-- The segments of the rest of a page.  The first `taken` characters
belong to segments already found; `reversed` is the text since the last
of them, backwards. -/
def scanFrom (names : List String) :
    (taken : Nat) → (reversed : List Char) → List Char → List Segment
  | _, reversed, [] => ofText reversed
  | taken + 1, reversed, _ :: cs => scanFrom names taken reversed cs
  | 0, reversed, c :: cs =>
    match if c = '[' then atBracket? names cs else none with
    | some (found, rest) =>
      ofText reversed ++ found ++ scanFrom names (cs.length - rest.length) [] cs
    | none => scanFrom names 0 (c :: reversed) cs

/-- The segments of a page. -/
def scan (names : List String) (page : String) : List Segment :=
  scanFrom names 0 [] page.toList

end Segment

end ContentGate
