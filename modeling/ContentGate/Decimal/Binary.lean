/-
  ContentGate.Decimal.Binary — what a float stands for, exactly.

  Numbers are 64-bit floats.  Whatever depends on their exact value
  (the text of a number, whether it is whole, its nearest integer
  within bounds) is computed on the pair `m · 2^q` read from the bits,
  in unbounded integers, so that no rounding can enter.
-/

namespace ContentGate.Decimal

/-- A float, read from its bits. -/
inductive Binary where
  /-- Not a number. -/
  | nan
  /-- An infinity. -/
  | infinite (negative : Bool)
  /-- The value `m · 2^q`, with its sign; zero has a sign too. -/
  | finite (negative : Bool) (m : Nat) (q : Int)
  deriving Repr, DecidableEq

namespace Binary

/-- Decode 64 bits: one of sign, eleven of exponent, 52 of fraction. -/
def ofBits (bits : UInt64) : Binary :=
  let negative := bits >>> 63 == 1
  let exponent := ((bits >>> 52) &&& 0x7FF).toNat
  let fraction := (bits &&& 0xFFFFFFFFFFFFF).toNat
  if exponent == 0x7FF then
    if fraction == 0 then .infinite negative else .nan
  else if exponent == 0 then .finite negative fraction (-1074)
  else .finite negative (0x10000000000000 + fraction) (exponent - 1075)

/-- The exact content of a float. -/
def ofFloat (x : Float) : Binary := ofBits x.toBits

/-- A fraction of naturals with the value `m · 2^q`; the denominator is positive. -/
def fraction (m : Nat) (q : Int) : Nat × Nat :=
  (m * Nat.pow 2 q.toNat, Nat.pow 2 (-q).toNat)

/-- The value, if it is a whole number. -/
def whole? : Binary → Option Int
  | .finite negative m q =>
    let (num, den) := fraction m q
    if num % den = 0 then
      some (if negative then -(num / den : Nat) else (num / den : Nat))
    else none
  | _ => none

/-- Is the value finite and smaller than `bound` in size? -/
def below (bound : Nat) : Binary → Bool
  | .finite _ m q =>
    let (num, den) := fraction m q
    num < bound * den
  | _ => false

end Binary

/-! ## Integers kept within 64 bits -/

/-- The least signed 64-bit integer. -/
def int64Min : Int := -0x8000000000000000

/-- The greatest signed 64-bit integer. -/
def int64Max : Int := 0x7FFFFFFFFFFFFFFF

/-- Is there a signed 64-bit integer with this value? -/
def isInt64 (n : Int) : Bool := int64Min ≤ n && n ≤ int64Max

/-- The nearest signed 64-bit integer. -/
def clampInt64 (n : Int) : Int64 := Int64.ofInt (max int64Min (min n int64Max))

theorem toInt_clampInt64 (n : Int) : (clampInt64 n).toInt = max int64Min (min n int64Max) := by
  unfold clampInt64 int64Min int64Max
  exact Int64.toInt_ofInt_of_le (by omega) (by omega)

end ContentGate.Decimal
