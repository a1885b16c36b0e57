/-
  ContentGate.Decimal.Layout — the text of a float.

  The digits come from `Decimal.shortest`.  How they are laid out is a
  value of `Layout`: up to which exponent the decimal point is placed
  among the digits, whether a whole number keeps `.0`, and which of two
  equally near digit strings is taken.  A program that prints numbers in
  two places has two such values.
-/
import ContentGate.Decimal.Shortest

namespace ContentGate.Decimal

/-- The decisions of a number format. -/
structure Layout where
  /-- Leading-digit exponents from here … -/
  plainFrom : Int
  /-- … to below here are written without an exponent. -/
  plainBelow : Int
  /-- `12.0` rather than `12`. -/
  pointZero : Bool
  tie : Tie
  /-- The text of a value that is no number. -/
  nan : String
  infinity : String

namespace Layout

/-- The decimal digits of a natural number. -/
def digitsOf (n : Nat) : List Char := Nat.toDigits 10 n

/-- Digits with the decimal point placed; no exponent. -/
def positional (layout : Layout) (d : Scaled) : List Char :=
  let digits := digitsOf d.digits
  if 0 ≤ d.exponent then
    digits ++ List.replicate d.exponent.toNat '0' ++ (if layout.pointZero then ['.', '0'] else [])
  else
    let places := (-d.exponent).toNat
    if digits.length ≤ places then
      ['0', '.'] ++ List.replicate (places - digits.length) '0' ++ digits
    else
      digits.take (digits.length - places) ++ '.' :: digits.drop (digits.length - places)

/-- One digit, a point before any further ones, and a signed exponent. -/
def scientific (d : Scaled) : List Char :=
  let digits := digitsOf d.digits
  let e := d.exponent + (digits.length - 1 : Nat)
  digits.take 1 ++ (if digits.length = 1 then [] else '.' :: digits.drop 1)
    ++ ['e', if 0 ≤ e then '+' else '-'] ++ digitsOf e.natAbs

/-- The exponent of the leading digit. -/
def leading (d : Scaled) : Int := d.exponent + ((digitsOf d.digits).length - 1 : Nat)

/-- The text of a decimal without sign. -/
def unsigned (layout : Layout) (d : Scaled) : List Char :=
  let e := leading d
  if layout.plainFrom ≤ e ∧ e < layout.plainBelow then layout.positional d else scientific d

/-- The text of a float. -/
def text (layout : Layout) (x : Float) : String :=
  let sign (negative : Bool) : List Char := if negative then ['-'] else []
  match Binary.ofFloat x with
  | .nan => layout.nan
  | .infinite negative => String.ofList (sign negative) ++ layout.infinity
  | .finite negative m q =>
    let d := if m = 0 then ⟨0, 0⟩ else shortest layout.tie m q
    String.ofList (sign negative ++ layout.unsigned d)

end Layout

end ContentGate.Decimal
