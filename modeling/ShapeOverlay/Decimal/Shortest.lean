/-!
# Shortest decimals

The shortest decimal of a binary floating point number is the one with the fewest digits among those
that are nearer to it than to any other floating point number; of several, it is the nearest.

A finite positive number is given as `m * 2 ^ e`. The reals that round to it form an interval
(`Interval.around`) that reaches half way to its two neighbours and includes its ends if `m` is
even. `Decimal.shortest` looks for multiples of ever lower powers of ten in the interval. On each
grid it is enough to test the two multiples next to the number. All of it is done in natural
numbers.
-/

namespace ShapeOverlay

/-- A natural number times a power of ten. -/
structure Decimal where
  coefficient : Nat
  exponent : Int
  deriving Repr, DecidableEq

/-- A positive rational number `mid / den` with the interval from `low / den` to `high / den` of the
reals that round to it; the ends belong to the interval if it is `closed`. -/
structure Interval where
  low : Nat
  mid : Nat
  high : Nat
  den : Nat
  closed : Bool
  deriving Repr, DecidableEq

namespace Interval

/-- The least significand of a normal number of binary64. -/
def leastNormal : Nat := 0x10000000000000

/-- The interval of the number `m * 2 ^ e`. The neighbour below a power of two is nearer than the
one above it. -/
def around (m : Nat) (e : Int) : Interval :=
  let below := if m = leastNormal then 1 else 2
  let up := if 0 ≤ e then Nat.pow 2 e.toNat else 1
  let down := if 0 ≤ e then 1 else Nat.pow 2 (-e).toNat
  { low := (4 * m - below) * up, mid := 4 * m * up, high := (4 * m + 2) * up, den := 4 * down
    closed := m % 2 = 0 }

/-- The interval divided by a power of ten. -/
def scaled (i : Interval) (k : Int) : Interval :=
  if 0 ≤ k then { i with den := i.den * Nat.pow 10 k.toNat }
  else
    let f := Nat.pow 10 (-k).toNat
    { i with low := i.low * f, mid := i.mid * f, high := i.high * f }

/-- The natural number lies in the interval. -/
def holds (i : Interval) (n : Nat) : Bool :=
  if i.closed then i.low ≤ n * i.den && n * i.den ≤ i.high
  else i.low < n * i.den && n * i.den < i.high

/-- A natural number in the interval next to its middle, the nearer of two, and of two equally near
ones the upper. -/
def nearest? (i : Interval) : Option Nat :=
  let n := i.mid / i.den
  match i.holds n, i.holds (n + 1) with
  | true, true => some (if 2 * (i.mid - n * i.den) < i.den then n else n + 1)
  | true, false => some n
  | false, true => some (n + 1)
  | false, false => none

end Interval

namespace Decimal

/-- The number of decimal digits. -/
def length (n : Nat) : Nat := (Nat.toDigits 10 n).length

/-- The decimal of an interval on the first grid that has one, from the given power of ten
downwards. -/
def search (i : Interval) (k : Int) : Nat → Decimal
  | 0 => ⟨0, 0⟩
  | fuel + 1 =>
    match (i.scaled k).nearest? with
    | some n => ⟨n, k⟩
    | none => search i (k - 1) fuel

/-- The most grids that are tried: one above the number and one for each of its digits, of which 17
always suffice, with some to spare. -/
def grids : Nat := 24

/-- **The shortest decimal of `m * 2 ^ e`.** -/
def shortest (m : Nat) (e : Int) : Decimal :=
  let i := Interval.around m e
  search i ((length i.mid : Int) - length i.den + 1) grids

end Decimal

end ShapeOverlay
