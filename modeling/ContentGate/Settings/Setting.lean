/-
  ContentGate.Settings.Setting — settings from files and variables.

  A setting is a scalar, a list or a table.  Where a program asks for a
  kind of setting, related kinds are taken too: a truth value may be
  written as a number or a word, a text as any scalar, a size as a
  number in a text.
-/
import ContentGate.Condition.Value
import ContentGate.Json.Basic
import ContentGate.Settings.Path

namespace ContentGate

/-- A setting. -/
inductive Setting where
  | none
  | flag (b : Bool)
  | int (n : Int)
  | float (x : Float)
  | text (s : String)
  | list (items : List Setting)
  | table (entries : List (String × Setting))
  deriving Inhabited

namespace Setting

/-! ## Sources -/

/-- The whole number that a text consists of, with an optional sign, if it
has 64 bits. -/
def wholeNumber? (cs : List Char) : Option Int :=
  let (negative, ds) := Decimal.sign cs
  if ds.isEmpty || !ds.all Char.isDigit then .none
  else
    let n : Int := if negative then -Decimal.digitsValue ds else Decimal.digitsValue ds
    if Decimal.isInt64 n then some n else .none

/-- The setting that a variable holds: a truth value, a whole number, a
float, or else a text. -/
def ofVariable (s : String) : Setting :=
  let cs := s.toList
  if Text.isWordAnyCase "true".toList cs then .flag true
  else if Text.isWordAnyCase "false".toList cs then .flag false
  else
    match wholeNumber? cs, Decimal.float? cs with
    | some n, _ => .int n
    | _, some x => .float x
    | _, _ => .text s

/-- The setting that a JSON number holds. -/
def ofNumber (n : JsonNumber) : Setting :=
  match n.toInt? with
  | some k =>
    if Decimal.isInt64 k then .int k
    else .float (Decimal.signed n.negative (Decimal.nearest n.digits n.exponent))
  | _ => .float (Decimal.signed n.negative (Decimal.nearest n.digits n.exponent))

/-- Entries with a value under a key: in the place of the old one, or at the end. -/
def setEntry (key : String) (s : Setting) : List (String × Setting) → List (String × Setting)
  | [] => [(key, s)]
  | (k, t) :: es => if k = key then (key, s) :: es else (k, t) :: setEntry key s es

mutual

/-- The setting of a JSON value; of repeated members the last counts. -/
def ofJson : Json → Setting
  | .null => .none
  | .bool b => .flag b
  | .number n => ofNumber n
  | .string s => .text s
  | .array items => .list (listOfJson items)
  | .object fields => .table (tableOfJson [] fields)
  | .unreadable => .none

/-- The settings of a list of values. -/
def listOfJson : List Json → List Setting
  | [] => []
  | j :: js => ofJson j :: listOfJson js

/-- The settings of members, added to a table. -/
def tableOfJson (done : List (String × Setting)) : List (Json.Key × Json) → List (String × Setting)
  | [] => done
  | (key, j) :: fields => tableOfJson (setEntry key.text (ofJson j) done) fields

end

/-! ## Kinds -/

/-- A text without ASCII capitals. -/
def smallText (s : String) : String := String.ofList (Text.lower s.toList)

/-- A truth value. -/
def flag? : Setting → Option Bool
  | .flag b => some b
  | .int n => some (n != 0)
  | .float x => some !(x == Float.ofBits 0)
  | .text s =>
    if ["1", "true", "on", "yes"].contains (smallText s) then some true
    else if ["0", "false", "off", "no"].contains (smallText s) then some false
    else .none
  | _ => .none

/-- A text. -/
def text? : Setting → Option String
  | .text s => some s
  | .flag b => some (if b then "true" else "false")
  | .int n => some (toString n)
  | .float x => some (Value.numberLayout.text x)
  | _ => .none

/-- A float rounded to the nearest whole number, halves up; negative
ones and NaN are zero, and large ones are kept within 64 bits. -/
def roundedSize (x : Float) : Nat :=
  match Decimal.Binary.ofFloat x with
  | .finite false m q =>
    let (num, den) := Decimal.Binary.fraction m q
    min ((2 * num + den) / (2 * den)) 0xFFFFFFFFFFFFFFFF
  | .infinite false => 0xFFFFFFFFFFFFFFFF
  | _ => 0

/-- A size. -/
def size? : Setting → Option Nat
  | .flag b => some b.toNat
  | .int n => if 0 ≤ n then some n.toNat else .none
  | .float x => some (roundedSize x)
  | .text s =>
    if ["true", "on", "yes"].contains (smallText s) then some 1
    else if ["false", "off", "no"].contains (smallText s) then some 0
    else
      let ds := match s.toList with
        | '+' :: ds => ds
        | ds => ds
      if ds.isEmpty || !ds.all Char.isDigit then .none
      else
        let n := Decimal.digitsValue ds
        if n < UInt64.size then some n else .none
  | _ => .none

/-- The fields of a record, from a table, or from a list in order;
further items of the list do not count. -/
def record? (names : List String) : Setting → Option (List (Option Setting))
  | .table entries => some (names.map fun name => (entries.find? (·.1 == name)).map (·.2))
  | .list items =>
    some ((items.map some ++ List.replicate names.length Option.none).take names.length)
  | _ => .none

/-! ## Layers -/

/-- The entries of a table; anything else has none. -/
def entries : Setting → List (String × Setting)
  | .table es => es
  | _ => []

/-- The items of a list; anything else has none. -/
def items : Setting → List Setting
  | .list items => items
  | _ => []

/-- What a table holds under a name; an empty table where it holds nothing. -/
def entry (root : Setting) (name : String) : Setting :=
  ((root.entries.find? (·.1 == name)).map (·.2)).getD (.table [])

/-- A table with a value set; a table is merged into the one that is
there, entry by entry, at most `fuel` levels deep.  Names are in small
letters, whatever the key is. -/
def merge : (fuel : Nat) → (root : Setting) → (key : String) → (value : Setting) → Setting
  | fuel + 1, root, key, .table incoming =>
    let name := String.ofList (SettingPath.smallName key.toList)
    let merged := incoming.foldl (fun t (k, v) => merge fuel t k v) (root.entry name)
    .table (setEntry name merged root.entries)
  | _, root, key, value =>
    .table (setEntry (String.ofList (SettingPath.smallName key.toList)) value root.entries)

/-- A list with one of its items changed; it is filled up with missing
items where it is too short, behind its end or, for an index that counts
from the end, before its start. -/
def changeItem (index : Int) (change : Setting → Setting) (items : List Setting) : List Setting :=
  if 0 ≤ index then
    let items := items ++ List.replicate (index.toNat + 1 - items.length) Setting.none
    items.modify index.toNat change
  else
    let items := List.replicate (index.natAbs - items.length) Setting.none ++ items
    items.modify (items.length - index.natAbs) change

/-- A setting with a value set at the end of a path.  What stands on the
way and is no table, or no list, gives way to one. -/
def setPath (root : Setting) : (path : SettingPath) → (value : Setting) → Setting
  | [], value => value
  | [.entry name], value => root.merge 128 name value
  | .entry name :: more, value =>
    .table (setEntry name ((root.entry name).setPath more value) root.entries)
  | .item index :: more, value =>
    .list (changeItem index (fun s => s.setPath more value) root.items)

end Setting

end ContentGate
