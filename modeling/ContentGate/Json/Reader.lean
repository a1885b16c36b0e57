/-
  ContentGate.Json.Reader — JSON values from text.

  The reader accepts exactly one value with blanks (space, tab, line
  feed, carriage return) around its tokens.  Every function takes the
  text that is left and gives back a value and the text behind it.  The
  recursion is bounded by the length of the text: each level consumes at
  least one character.
-/
import ContentGate.Json.Basic

namespace ContentGate.Json

/-! ## Blanks -/

/-- The blanks between tokens. -/
def isSpace (c : Char) : Bool := c == ' ' || c == '\t' || c == '\n' || c == '\r'

/-- The text without its leading blanks. -/
def skipSpace (cs : List Char) : List Char := cs.dropWhile isSpace

/-! ## Strings -/

/-- The value of a hexadecimal digit. -/
def hexValue? (c : Char) : Option Nat :=
  if c.isDigit then some (c.toNat - '0'.toNat)
  else if 'a' ≤ c ∧ c ≤ 'f' then some (c.toNat - 'a'.toNat + 10)
  else if 'A' ≤ c ∧ c ≤ 'F' then some (c.toNat - 'A'.toNat + 10)
  else none

/-- What a string is made of: characters, and halves of the pairs that
escapes write for characters beyond the basic plane. -/
inductive CodeUnit where
  | char (c : Char) (escaped : Bool)
  | highHalf (n : Nat)
  | lowHalf (n : Nat)
  deriving Repr, DecidableEq

namespace CodeUnit

/-- The unit with a number of sixteen bits. -/
def ofNumber (n : Nat) : CodeUnit :=
  if 0xD800 ≤ n ∧ n < 0xDC00 then .highHalf (n - 0xD800)
  else if 0xDC00 ≤ n ∧ n < 0xE000 then .lowHalf (n - 0xDC00)
  else .char (Char.ofNat n) true

/-- Was the unit written with an escape? -/
def isEscaped : CodeUnit → Bool
  | .char _ escaped => escaped
  | _ => true

/-- The text that units make up; a half has to find its other half. -/
def text? : List CodeUnit → Option (List Char)
  | [] => some []
  | .char c _ :: us => (text? us).map (c :: ·)
  | .highHalf high :: .lowHalf low :: us =>
    (text? us).map (Char.ofNat (0x10000 + high * 1024 + low) :: ·)
  | .highHalf _ :: _ | .lowHalf _ :: _ => none

end CodeUnit

/-- The character of a short escape. -/
def shortEscape? (c : Char) : Option Char :=
  if c = '"' ∨ c = '\\' ∨ c = '/' then some c
  else if c = 'b' then some '\x08'
  else if c = 'f' then some '\x0c'
  else if c = 'n' then some '\n'
  else if c = 'r' then some '\r'
  else if c = 't' then some '\t'
  else none

/-- The units of a string up to its closing quote. -/
def stringUnits? : List Char → Option (List CodeUnit × List Char)
  | [] => none
  | '"' :: rest => some ([], rest)
  | '\\' :: 'u' :: a :: b :: c :: d :: rest => do
    let a ← hexValue? a
    let b ← hexValue? b
    let c ← hexValue? c
    let d ← hexValue? d
    let (us, rest) ← stringUnits? rest
    some (.ofNumber (4096 * a + 256 * b + 16 * c + d) :: us, rest)
  | '\\' :: e :: rest => do
    let c ← shortEscape? e
    let (us, rest) ← stringUnits? rest
    some (.char c true :: us, rest)
  | c :: rest =>
    if c.toNat < 32 ∨ c = '\\' then none
    else (stringUnits? rest).map fun (us, rest) => (.char c false :: us, rest)

/-- The value of a string. -/
def ofUnits (us : List CodeUnit) : Json :=
  match CodeUnit.text? us with
  | some cs => .string (String.ofList cs)
  | none => .unreadable

/-- The key that a string is, if it has a text. -/
def Key.ofUnits? (us : List CodeUnit) : Option Key :=
  (CodeUnit.text? us).map fun cs => ⟨String.ofList cs, us.any CodeUnit.isEscaped⟩

/-- The object with members; each of its keys has to have a text. -/
def ofMembers (ms : List (Option Key × Json)) : Json :=
  match ms.mapM fun (m : Option Key × Json) => m.1.map (·, m.2) with
  | some ms => .object ms
  | none => .unreadable

/-! ## Numbers -/

/-- A run of at least one digit. -/
def digits? (cs : List Char) : Option (List Char × List Char) :=
  let ds := cs.takeWhile Char.isDigit
  if ds.isEmpty then none else some (ds, cs.dropWhile Char.isDigit)

/-- The digits before the decimal point: no zero in front of others. -/
def wholePart? : List Char → Option (List Char × List Char)
  | '0' :: rest => some (['0'], rest)
  | cs => digits? cs

/-- The digits behind a decimal point, if there is one. -/
def places? : List Char → Option (Option (List Char) × List Char)
  | '.' :: rest => (digits? rest).map fun (ds, rest) => (some ds, rest)
  | cs => some (none, cs)

/-- The exponent, if there is one. -/
def exponent? : List Char → Option (Option Int × List Char)
  | e :: rest =>
    if e = 'e' ∨ e = 'E' then
      let (negative, rest) := Decimal.sign rest
      (digits? rest).map fun (ds, rest) =>
        (some (if negative then -(Decimal.digitsValue ds : Int) else Decimal.digitsValue ds), rest)
    else some (none, e :: rest)
  | [] => some (none, [])

/-- A number. -/
def readNumber? (cs : List Char) : Option (JsonNumber × List Char) := do
  let (negative, cs) := match cs with
    | '-' :: rest => (true, rest)
    | cs => (false, cs)
  let (whole, cs) ← wholePart? cs
  let (places, cs) ← places? cs
  let (exponent, cs) ← exponent? cs
  let shift := (places.getD []).length
  some (⟨negative, Decimal.digitsValue (whole ++ places.getD []),
    exponent.getD 0 - shift, places.isNone && exponent.isNone⟩, cs)

/-! ## Values -/

mutual

/-- One value. -/
def readValue? : (fuel : Nat) → List Char → Option (Json × List Char)
  | 0, _ => none
  | fuel + 1, cs =>
    match skipSpace cs with
    | [] => none
    | '"' :: rest => (stringUnits? rest).map fun (us, rest) => (ofUnits us, rest)
    | '[' :: rest =>
      match skipSpace rest with
      | ']' :: rest => some (.array [], rest)
      | rest => (readItems? fuel rest).map fun (items, rest) => (.array items, rest)
    | '\x7b' :: rest =>
      match skipSpace rest with
      | '\x7d' :: rest => some (.object [], rest)
      | rest => (readMembers? fuel rest).map fun (ms, rest) => (ofMembers ms, rest)
    | 'n' :: 'u' :: 'l' :: 'l' :: rest => some (.null, rest)
    | 't' :: 'r' :: 'u' :: 'e' :: rest => some (.bool true, rest)
    | 'f' :: 'a' :: 'l' :: 's' :: 'e' :: rest => some (.bool false, rest)
    | rest => (readNumber? rest).map fun (n, rest) => (.number n, rest)

/-- Items up to the closing bracket; at least one. -/
def readItems? : (fuel : Nat) → List Char → Option (List Json × List Char)
  | 0, _ => none
  | fuel + 1, cs => do
    let (j, rest) ← readValue? fuel cs
    match skipSpace rest with
    | ',' :: rest =>
      let (js, rest) ← readItems? fuel rest
      some (j :: js, rest)
    | ']' :: rest => some ([j], rest)
    | _ => none

/-- Members up to the closing brace; at least one. -/
def readMembers? : (fuel : Nat) → List Char → Option (List (Option Key × Json) × List Char)
  | 0, _ => none
  | fuel + 1, cs => do
    let (units, rest) ← match skipSpace cs with
      | '"' :: rest => stringUnits? rest
      | _ => none
    match skipSpace rest with
    | ':' :: rest =>
      let (j, rest) ← readValue? fuel rest
      match skipSpace rest with
      | ',' :: rest =>
        let (ms, rest) ← readMembers? fuel rest
        some ((Key.ofUnits? units, j) :: ms, rest)
      | '\x7d' :: rest => some ([(Key.ofUnits? units, j)], rest)
      | _ => none
    | _ => none

end

/-- The value that a whole text holds. -/
def read? (text : String) : Option Json := do
  let cs := text.toList
  let (j, rest) ← readValue? (2 * cs.length + 1) cs
  if (skipSpace rest).isEmpty then some j else none

end ContentGate.Json
