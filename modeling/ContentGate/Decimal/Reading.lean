/-
  ContentGate.Decimal.Reading — floats from decimal text.

  `nearest` gives the float nearest to `digits · 10^exponent`, ties to
  even, infinity when it is out of range.  `float?` reads the whole of a
  text: an optional sign, then digits with at most one decimal point
  (on either side of which the digits may be missing, not on both), then
  an optional exponent; or a sign and one of the words `inf`,
  `infinity`, `nan` in any case.  No blanks, separators or other bases.
-/
import ContentGate.Text.Search

namespace ContentGate.Decimal

open ContentGate.Text

/-! ## The nearest float -/

/-- Beyond these magnitudes every value rounds to infinity or to zero. -/
def nearest (digits : Nat) (exponent : Int) : Float :=
  let magnitude : Int := exponent + (Nat.toDigits 10 digits).length
  if digits = 0 then Float.ofBits 0
  else if 400 < magnitude then Float.ofBits 0x7FF0000000000000
  else if magnitude < -400 then Float.ofBits 0
  else Float.ofScientific digits (exponent < 0) exponent.natAbs

/-- The float nearest to an integer. -/
def ofNat (n : Nat) : Float := nearest n 0

/-- A float with its sign turned if asked for. -/
def signed (negative : Bool) (x : Float) : Float := if negative then -x else x

/-! ## Digits -/

/-- The value of a run of decimal digits. -/
def digitsValue (ds : List Char) : Nat :=
  ds.foldl (fun n d => 10 * n + (d.toNat - '0'.toNat)) 0

/-- A number as it is written: the value is `digits · 10^exponent`. -/
structure Written where
  digits : Nat
  exponent : Int

/-- An optional sign at the head of a text: is it a minus, and what follows. -/
def sign : List Char → Bool × List Char
  | '-' :: cs => (true, cs)
  | '+' :: cs => (false, cs)
  | cs => (false, cs)

/-- The exponent that a text consists of, `0` for the empty text. -/
def exponentPart? : List Char → Option Int
  | [] => some 0
  | e :: cs =>
    if e = 'e' ∨ e = 'E' then
      let (negative, ds) := sign cs
      if ds.isEmpty || !ds.all Char.isDigit then none
      else some (if negative then -(digitsValue ds : Int) else digitsValue ds)
    else none

/-- Digits, decimal point and exponent; the whole text. -/
def written? (cs : List Char) : Option Written :=
  let whole := cs.takeWhile Char.isDigit
  let rest := cs.dropWhile Char.isDigit
  let (places, tail) := match rest with
    | '.' :: rest => (rest.takeWhile Char.isDigit, rest.dropWhile Char.isDigit)
    | rest => ([], rest)
  if whole.isEmpty && places.isEmpty then none
  else (exponentPart? tail).map fun e =>
    ⟨digitsValue (whole ++ places), e - places.length⟩

/-- The float that a text writes. -/
def float? (cs : List Char) : Option Float :=
  let (negative, cs) := sign cs
  if isWordAnyCase ['i', 'n', 'f'] cs || isWordAnyCase "infinity".toList cs then
    some (signed negative (Float.ofBits 0x7FF0000000000000))
  else if isWordAnyCase ['n', 'a', 'n'] cs then some (Float.ofBits 0x7FF8000000000000)
  else (written? cs).map fun w => signed negative (nearest w.digits w.exponent)

end ContentGate.Decimal
