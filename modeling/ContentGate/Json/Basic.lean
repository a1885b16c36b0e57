/-
  ContentGate.Json.Basic — JSON values.

  Settings, fixtures, cached SKU maps and stored conditions are JSON
  texts.  A value keeps what the texts can tell apart: the order and
  repetition of an object's members, whether a number was written as an
  integer, and whether a key was written with escapes.

  Not every string of JSON is a text: a `\u` escape may be half of a
  pair without the other half.  Such a string, or an object with such a
  key, is `unreadable`; it does no harm where nobody looks at it.
-/
import ContentGate.Decimal.Layout
import ContentGate.Decimal.Reading

namespace ContentGate

/-- A number as it is written: `± digits · 10^exponent`. -/
structure JsonNumber where
  negative : Bool
  digits : Nat
  exponent : Int
  /-- Written without decimal point and exponent. -/
  whole : Bool
  deriving Repr, DecidableEq

/-- The key of a member of an object. -/
structure Json.Key where
  text : String
  /-- Written with an escape. -/
  escaped : Bool := false
  deriving Repr, DecidableEq, Inhabited

instance : Coe String Json.Key := ⟨fun text => ⟨text, false⟩⟩

/-- A JSON value. -/
inductive Json where
  | null
  | bool (b : Bool)
  | number (n : JsonNumber)
  | string (s : String)
  | array (items : List Json)
  | object (members : List (Json.Key × Json))
  /-- A string without a text, or an object with a key without one. -/
  | unreadable
  deriving Repr, Inhabited

namespace JsonNumber

/-- An integer. -/
def ofInt (n : Int) : JsonNumber := ⟨n < 0, n.natAbs, 0, true⟩

/-- The integer that a whole number writes; `-0` is no integer but a float. -/
def toInt? (n : JsonNumber) : Option Int :=
  if n.whole && !(n.negative && n.digits == 0) then
    some (if n.negative then -(n.digits : Int) else n.digits)
  else none

/-- The nearest float, if it is finite. -/
def toFloat? (n : JsonNumber) : Option Float :=
  let x := Decimal.nearest n.digits n.exponent
  if x.isInf then none else some (Decimal.signed n.negative x)

end JsonNumber

namespace Json

/-- An integer. -/
def int (n : Int) : Json := .number (.ofInt n)

/-- A float; JSON has no text for infinities and NaN. -/
def float (x : Float) : Json :=
  match Decimal.Binary.ofFloat x with
  | .finite negative m q =>
    let d := if m = 0 then ⟨0, 0⟩ else Decimal.shortest .toEven m q
    .number ⟨negative, d.digits, d.exponent, false⟩
  | _ => .null

/-- The values of a member name, in order. -/
def members (name : String) (fields : List (Key × Json)) : List Json :=
  (fields.filter (·.1.text == name)).map (·.2)

/-- The integer of a value, if it is one between `lo` and `hi`. -/
def intBetween? (lo hi : Int) : Json → Option Int
  | .number n => do
    let k ← n.toInt?
    if lo ≤ k ∧ k ≤ hi then some k else none
  | _ => none

/-- An unsigned 64-bit integer. -/
def uint64? (j : Json) : Option UInt64 :=
  (j.intBetween? 0 0xFFFFFFFFFFFFFFFF).map fun k => UInt64.ofNat k.toNat

/-- A signed 64-bit integer. -/
def int64? (j : Json) : Option Int64 :=
  (j.intBetween? Decimal.int64Min Decimal.int64Max).map Int64.ofInt

/-- The text of a string. -/
def string? : Json → Option String
  | .string s => some s
  | _ => none

/-- A truth value. -/
def bool? : Json → Option Bool
  | .bool b => some b
  | _ => none

/-- The items of an array. -/
def array? : Json → Option (List Json)
  | .array items => some items
  | _ => none

end Json

end ContentGate
