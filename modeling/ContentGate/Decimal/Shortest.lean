/-
  ContentGate.Decimal.Shortest — the fewest digits that identify a float.

  A text of a float has to read back to that float, and to be as short
  as possible.  The reals that round to `m · 2^q` form an interval: from
  halfway to the neighbour below to halfway to the neighbour above, with
  its ends if and only if `m` is even.  `shortest` looks at the decimal
  grids with 1, 2, …, 17 digits; on each grid only the two points next
  to the value can be nearest to it.  The first grid with a point in the
  interval gives the digits.  All arithmetic is exact, on naturals.
-/
import ContentGate.Decimal.Binary

namespace ContentGate.Decimal

/-- The decimal `digits · 10^exponent`. -/
structure Scaled where
  digits : Nat
  exponent : Int
  deriving Repr, DecidableEq

/-- Which of two equally near points is taken. -/
inductive Tie where
  | toEven
  | up
  deriving Repr, DecidableEq

/-! ## The rounding interval -/

/-- The reals that round to one float, in quarters of its unit `2^q`:
`low / 4` to `high / 4`. -/
structure Interval where
  low : Nat
  high : Nat
  closed : Bool

/-- The interval of `m · 2^q`.  Just above a power of two the neighbour
below is only half as far away as the neighbour above. -/
def Interval.around (m : Nat) (q : Int) : Interval where
  low := if m = 0x10000000000000 ∧ -1074 < q then 4 * m - 1 else 4 * m - 2
  high := 4 * m + 2
  closed := m % 2 = 0

/-- Is the point `d` of a grid in the interval, when one quarter unit
is `num / den` grid steps? -/
def Interval.holds (i : Interval) (num den d : Nat) : Bool :=
  if i.closed then i.low * num ≤ d * den && d * den ≤ i.high * num
  else i.low * num < d * den && d * den < i.high * num

/-! ## The search -/

/-- A quarter of `2^q` in steps of `10^g`, as a fraction of naturals. -/
def quarterSteps (q g : Int) : Nat × Nat :=
  (Nat.pow 2 (q - 2).toNat * Nat.pow 10 (-g).toNat, Nat.pow 2 (2 - q).toNat * Nat.pow 10 g.toNat)

/-- The point of the grid `10^g` that stands for `m · 2^q`, if one of
the two points next to the value lies in its interval. -/
def onGrid? (tie : Tie) (m : Nat) (q g : Int) : Option Scaled :=
  let (num, den) := quarterSteps q g
  let i := Interval.around m q
  let d := 4 * m * num / den
  match i.holds num den d, i.holds num den (d + 1) with
  | true, false => some ⟨d, g⟩
  | false, true => some ⟨d + 1, g⟩
  | false, false => none
  | true, true =>
    match compare (2 * (4 * m * num)) ((2 * d + 1) * den), tie with
    | .lt, _ => some ⟨d, g⟩
    | .gt, _ => some ⟨d + 1, g⟩
    | .eq, .up => some ⟨d + 1, g⟩
    | .eq, .toEven => some ⟨if d % 2 = 0 then d else d + 1, g⟩

/-- The least `k` with `m · 2^q < 10^k`, for `m ≠ 0`. -/
def scale (m : Nat) (q : Int) : Int :=
  let guess := (m.log2 + q) * 30103 / 100000
  let fits (k : Int) : Bool :=
    m * Nat.pow 2 q.toNat * Nat.pow 10 (-k).toNat < Nat.pow 10 k.toNat * Nat.pow 2 (-q).toNat
  ([guess - 1, guess, guess + 1].find? fits).getD (guess + 2)

/-- A number without its trailing zeros, and how many there were, at most `fuel`. -/
def stripZeros : (fuel : Nat) → (digits : Nat) → (exponent : Int) → Scaled
  | 0, d, e => ⟨d, e⟩
  | fuel + 1, d, e => if d % 10 = 0 ∧ d ≠ 0 then stripZeros fuel (d / 10) (e + 1) else ⟨d, e⟩

/-- The exact decimal value of `m · 2^q`. -/
def exact (m : Nat) (q : Int) : Scaled :=
  if 0 ≤ q then ⟨m * Nat.pow 2 q.toNat, 0⟩ else ⟨m * Nat.pow 5 (-q).toNat, q⟩

/-- The shortest decimal that rounds to `m · 2^q`, for `m ≠ 0`; no trailing zeros. -/
def shortest (tie : Tie) (m : Nat) (q : Int) : Scaled :=
  let k := scale m q
  let found := (List.range 17).findSome? fun n => onGrid? tie m q (k - (n + 1 : Nat))
  let chosen := found.getD (exact m q)
  stripZeros 800 chosen.digits chosen.exponent

end ContentGate.Decimal
