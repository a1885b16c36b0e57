/-
  ContentGate.Markup.Entity — characters written as references.

  Editors put `&amp;`, `&#038;` or `&#x26;` into attribute values for
  characters that mean something in markup.  `unescape` replaces every
  reference by the text that it stands for, in one pass; what is no
  reference stays as it is.  `escape` makes a text safe in the content
  of an element and between the quotes of an attribute.
-/
import ContentGate.Decimal.Reading
import ContentGate.Json.Reader
import ContentGate.Markup.EntityTable

namespace ContentGate.Markup

/-! ## Reading references -/

/-- The value of a run of hexadecimal digits. -/
def hexNumber? (ds : List Char) : Option Nat :=
  if ds.isEmpty then none
  else (ds.mapM Json.hexValue?).map fun vs => vs.foldl (fun n v => 16 * n + v) 0

/-- The value of a run of decimal digits. -/
def decimalNumber? (ds : List Char) : Option Nat :=
  if ds.isEmpty || !ds.all Char.isDigit then none else some (Decimal.digitsValue ds)

/-- The character with a number, if a reference may name it: no
surrogate, and no control below the space except tab, line feed, form
feed and carriage return. -/
def referable? (n : Nat) : Option Char :=
  if n.isValidChar && (32 ≤ n || n == 9 || n == 10 || n == 12 || n == 13) then some (Char.ofNat n)
  else none

/-- What a reference stands for; `name` is the text between `&` and `;`. -/
def reference? (name : List Char) : Option (List Char) :=
  match name with
  | '#' :: 'x' :: ds | '#' :: 'X' :: ds => (hexNumber? ds >>= referable?).map ([·])
  | '#' :: ds => (decimalNumber? ds >>= referable?).map ([·])
  | name => (namedReferences.find? (·.1 == String.ofList name)).map (·.2.toList)

/-- The text of a reference whose `&` has been read, and how many of the
following characters belong to it.  A reference holds no second `&`. -/
def referenceAt? (cs : List Char) : Option (List Char × Nat) := do
  let name := cs.takeWhile fun c => c != ';' && c != '&'
  if cs[name.length]? = some ';' then
    let text ← reference? name
    some (text, name.length + 1)
  else none

/-- The rest of a text with its references replaced; the first `taken`
characters belong to a reference already replaced. -/
def unescapeFrom : (taken : Nat) → List Char → List Char
  | _, [] => []
  | taken + 1, _ :: cs => unescapeFrom taken cs
  | 0, c :: cs =>
    match if c = '&' then referenceAt? cs else none with
    | some (text, taken) => text ++ unescapeFrom taken cs
    | none => c :: unescapeFrom 0 cs

/-- A text with its references replaced by what they stand for. -/
def unescape (s : String) : String := String.ofList (unescapeFrom 0 s.toList)

/-! ## Writing references -/

/-- A character that is safe in markup, or the reference for it. -/
def escapeChar (c : Char) : List Char :=
  if c = '&' then "&amp;".toList
  else if c = '<' then "&lt;".toList
  else if c = '>' then "&gt;".toList
  else if c = '"' then "&quot;".toList
  else if c = '\'' then "&#x27;".toList
  else if c = '/' then "&#x2F;".toList
  else [c]

/-- A text that is safe in markup. -/
def escape (s : String) : String := String.ofList (s.toList.flatMap escapeChar)

/-! ## Code spans -/

/-- An escaped text in which what stands between two backticks is marked
as code; a backtick without a partner stays. -/
def codeSpansFrom : (inside : Bool) → List Char → List Char
  | _, [] => []
  | false, c :: cs =>
    if c = '\x60' ∧ cs.contains '\x60' then "<code>".toList ++ codeSpansFrom true cs
    else c :: codeSpansFrom false cs
  | true, c :: cs =>
    if c = '\x60' then "</code>".toList ++ codeSpansFrom false cs
    else c :: codeSpansFrom true cs

/-- A message as markup: escaped, with code spans. -/
def codeSpans (s : String) : String :=
  String.ofList (codeSpansFrom false (escape s).toList)

end ContentGate.Markup
