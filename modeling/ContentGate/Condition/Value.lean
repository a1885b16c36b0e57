/-
  ContentGate.Condition.Value — the values that conditions work with.

  A literal, an option, a user's meta entry and the answer of a function
  are all a `Value`.  Truth is loose, the way content authors expect it:
  `""`, `"0"`, zero, NaN, `false`, `null` and `[]` are false, everything
  else is true.
-/
import ContentGate.Decimal.Layout
import ContentGate.Decimal.Reading
import ContentGate.Text.Blank

namespace ContentGate

/-- A value. -/
inductive Value where
  | null
  | bool (b : Bool)
  | number (x : Float)
  | string (s : String)
  | array (items : List Value)
  deriving Inhabited

namespace Value

/-! ## Equality of numbers and arrays, by value -/

mutual

/-- Same kind and same content; numbers compare as floats, so NaN
differs from itself and the two zeros are the same. -/
def same : Value → Value → Bool
  | .null, .null => true
  | .bool a, .bool b => a == b
  | .number a, .number b => a == b
  | .string a, .string b => a == b
  | .array as, .array bs => sameItems as bs
  | _, _ => false

/-- `same`, item by item. -/
def sameItems : List Value → List Value → Bool
  | [], [] => true
  | a :: as, b :: bs => same a b && sameItems as bs
  | _, _ => false

end

/-! ## Views -/

/-- Loose truth. -/
def truthy : Value → Bool
  | .null => false
  | .bool b => b
  | .number x => !(x == Float.ofBits 0) && !x.isNaN
  | .string s => !(s == "" || s == "0")
  | .array items => !items.isEmpty

/-- The kind of a value, in words. -/
def kind : Value → String
  | .null => "null"
  | .bool _ => "bool"
  | .number _ => "number"
  | .string _ => "string"
  | .array _ => "array"

/-- The float of a truth value. -/
def ofBool (b : Bool) : Float := if b then Float.ofBits 0x3FF0000000000000 else Float.ofBits 0

/-- The numeric content of a value, if it has one; blanks around a
number in a string do not matter. -/
def toFloat? : Value → Option Float
  | .number x => some x
  | .bool b => some (ofBool b)
  | .string s => Decimal.float? (Text.trim s.toList)
  | _ => none

/-- The text of a string. -/
def string? : Value → Option String
  | .string s => some s
  | _ => none

/-- The integer of a whole, finite number, kept within 64 bits. -/
def int64? (v : Value) : Option Int64 := do
  let x ← v.toFloat?
  let n ← (Decimal.Binary.ofFloat x).whole?
  some (Decimal.clampInt64 n)

/-! ## The written form -/

/-- Numbers in conditions are never written with an exponent, and whole
numbers without a point. -/
def numberLayout : Decimal.Layout where
  plainFrom := -400
  plainBelow := 400
  pointZero := false
  tie := .up
  nan := "NaN"
  infinity := "inf"

/-- The text of a number; a whole number below `10^15` in size has no
sign of zero. -/
def numberText (x : Float) : String :=
  let b := Decimal.Binary.ofFloat x
  match b.below 1000000000000000, b.whole? with
  | true, some n => toString n
  | _, _ => numberLayout.text x

mutual

/-- A value the way it stands in a condition. -/
def text : Value → String
  | .null => "null"
  | .bool b => if b then "true" else "false"
  | .number x => numberText x
  | .string s => Text.quoted s
  | .array items => "[" ++ textItems items ++ "]"

/-- Items with commas between them. -/
def textItems : List Value → String
  | [] => ""
  | [v] => text v
  | v :: w :: vs => text v ++ ", " ++ textItems (w :: vs)

end

/-- The text that a value is compared by when it is no number: strings
stand for themselves. -/
def comparedText : Value → String
  | .string s => s
  | v => v.text

end Value

end ContentGate
