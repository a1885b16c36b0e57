/-
  ContentGate.Yaml.Basic — the data of fixture files.

  A node is a scalar, a sequence or a mapping.  A scalar is a text;
  whoever reads it decides what it stands for.  Only a plain scalar, one
  without quotes, can stand for something other than its text: nothing,
  a truth value, an integer or a float.

  Integers may be written in base sixteen, eight and two (`0x1f`, `0o17`,
  `0b11`); a decimal with needless zeros in front is a text.
-/
import ContentGate.Condition.Value
import ContentGate.Json.Reader

namespace ContentGate

/-- A node of a fixture file. -/
inductive Yaml where
  | scalar (quoted : Bool) (text : String)
  | sequence (items : List Yaml)
  | mapping (entries : List (Yaml × Yaml))
  deriving Repr, Inhabited

namespace Yaml

/-- The plain scalar without a character. -/
def empty : Yaml := .scalar false ""

/-- How many sequences and mappings may stand inside one another. -/
def maxLevels : Nat := 128

/-! ## Plain scalars -/

/-- Does a plain scalar stand for nothing? -/
def isNothing (s : String) : Bool := ["", "~", "null", "Null", "NULL"].contains s

/-- The truth value that a plain scalar stands for. -/
def truth? (s : String) : Option Bool :=
  if ["true", "True", "TRUE"].contains s then some true
  else if ["false", "False", "FALSE"].contains s then some false
  else none

/-- The value of digits of a base. -/
def digitsIn? (base : Nat) (ds : List Char) : Option Nat :=
  if ds.isEmpty then none
  else
    (ds.mapM fun c => (Json.hexValue? c).filter (· < base)).map fun vs =>
      vs.foldl (fun n v => base * n + v) 0

/-- Digits with a needless zero in front. -/
def isPadded : List Char → Bool
  | '0' :: c :: ds => (c :: ds).all Char.isDigit
  | _ => false

/-- The value of an integer without its sign. -/
def magnitude? (cs : List Char) : Option Nat :=
  match cs with
  | '0' :: 'x' :: ds => digitsIn? 16 ds
  | '0' :: 'o' :: ds => digitsIn? 8 ds
  | '0' :: 'b' :: ds => digitsIn? 2 ds
  | ds => if isPadded ds then none else digitsIn? 10 ds

/-- The integer that a plain scalar stands for: is it written with a
minus, and its absolute value. -/
def integer? (s : String) : Option (Bool × Nat) :=
  let (negative, cs) := Decimal.sign s.toList
  (magnitude? cs).map (negative, ·)

/-- The float that a plain scalar stands for; one out of range is a text. -/
def float? (s : String) : Option Float :=
  let (negative, cs) := Decimal.sign s.toList
  let magnitude? :=
    if [".inf", ".Inf", ".INF"].contains (String.ofList cs) then
      some (Float.ofBits 0x7FF0000000000000)
    else if cs.head? = some '+' ∨ cs.head? = some '-' then none
    else (Decimal.float? cs).filter Float.isFinite
  if [".nan", ".NaN", ".NAN"].contains s then
    some (Float.ofBits 0x7FF8000000000000)
  else if isPadded cs then none
  else magnitude?.map (Decimal.signed negative)

/-! ## Values -/

/-- The value of a plain scalar.  An integer of more than 64 bits has
none, except that one of more than 128 bits is a float. -/
def plainValue? (s : String) : Option Value :=
  if isNothing s then some .null
  else
    match truth? s, integer? s with
    | some b, _ => some (.bool b)
    | none, some (negative, n) =>
      let wide (bits : Nat) : Bool := if negative then Nat.pow 2 (bits - 1) < n else Nat.pow 2 bits ≤ n
      if !wide 64 then some (.number (Decimal.signed (negative && n != 0) (Decimal.ofNat n)))
      else if !wide 128 then none
      else
        match float? s with
        | some x => some (.number x)
        | none => some (.string s)
    | none, none =>
      match float? s with
      | some x => some (.number x)
      | none => some (.string s)

/-- The value of a node, at most `levels` sequences deep; mappings are no values. -/
def value? : (levels : Nat) → Yaml → Option Value
  | _, .scalar true s => some (.string s)
  | _, .scalar false s => plainValue? s
  | levels + 1, .sequence items => (items.mapM (value? levels)).map .array
  | _, _ => none

/-! ## Parts of records -/

/-- The text of a scalar, as it is written. -/
def text? : Yaml → Option String
  | .scalar _ s => some s
  | _ => none

/-- Is the node a plain scalar that stands for nothing? -/
def isNull : Yaml → Bool
  | .scalar false s => isNothing s
  | _ => false

/-- An unsigned 64-bit integer; it has no minus, not even before zero. -/
def uint64? : Yaml → Option UInt64
  | .scalar false s =>
    match integer? s with
    | some (false, n) => if n < UInt64.size then some (UInt64.ofNat n) else none
    | _ => none
  | _ => none

/-- A signed 64-bit integer. -/
def int64? : Yaml → Option Int64
  | .scalar false s =>
    match integer? s with
    | some (negative, n) =>
      let k : Int := if negative then -n else n
      if Decimal.isInt64 k then some (Int64.ofInt k) else none
    | _ => none
  | _ => none

/-- The items of a sequence; an empty plain scalar has none. -/
def items? : Yaml → Option (List Yaml)
  | .sequence items => some items
  | .scalar false "" => some []
  | _ => none

/-- The entries of a mapping; an empty plain scalar has none. -/
def entries? : Yaml → Option (List (Yaml × Yaml))
  | .mapping es => some es
  | .scalar false "" => some []
  | _ => none

/-- The entries of a mapping with texts as keys. -/
def fields? (y : Yaml) : Option (List (String × Yaml)) := do
  (← y.entries?).mapM fun (e : Yaml × Yaml) => e.1.text?.map (·, e.2)

/-- The fields of a record, in the order of `names`; a missing field is
`none`, a repeated one is refused, other entries do not count. -/
def record? (names : List String) (y : Yaml) : Option (List (Option Yaml)) := do
  let fields ← y.fields?
  names.mapM fun name =>
    match fields.filter (·.1 == name) with
    | [] => some none
    | [field] => some (some field.2)
    | _ => none

end Yaml

end ContentGate
