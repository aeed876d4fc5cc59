import Telemetry.Decimal.Dyadic

/-!
# Shortest decimals

The shortest decimal that reads back as a given double, and among those of that length the one
nearest to it. A decimal reads back when it lies in the interval of numbers that round to the
double; the ends belong to the interval when the significand is even.

For each count of digits only two points of the decimal grid can qualify: the two neighbours of
the number itself. The search takes the first count at which one of them lies in the interval.

## Main definitions

* `Decimal`: digits and the place of the last one.
* `Dyadic.shortest`: the search, with a parameter for exact ties.
-/

namespace Telemetry

/-- The number `coefficient * 10 ^ exponent`. -/
structure Decimal where
  coefficient : Nat
  exponent : Int
  deriving DecidableEq, Repr

/-- Which of two equally near neighbours to take. -/
inductive Tie
  | up
  | even
  deriving DecidableEq, Repr

/-- The open or closed interval of numbers that round to one double, as numerators over a common
denominator, together with the number itself. -/
structure Rounding where
  low : Nat
  value : Nat
  high : Nat
  denominator : Nat
  closed : Bool

namespace Rounding

/-- Whether `numerator / denominator` rounds to the double. -/
def holds (r : Rounding) (numerator denominator : Nat) : Bool :=
  let x := numerator * r.denominator
  if r.closed then r.low * denominator ≤ x && x ≤ r.high * denominator
  else r.low * denominator < x && x < r.high * denominator

/-- The double above is one step away; the one below is half a step away when the significand is
the least of its binade. -/
def ofDyadic (d : Dyadic) : Rounding :=
  let narrow := d.significand == Nat.pow 2 52 && d.exponent > -1074
  let closed := d.significand % 2 == 0
  let low := 4 * d.significand - (if narrow then 1 else 2)
  let high := 4 * d.significand + 2
  if 0 ≤ d.exponent then
    let p := Nat.pow 2 d.exponent.toNat
    ⟨low * p, 4 * d.significand * p, high * p, 4, closed⟩
  else
    ⟨low, 4 * d.significand, high, 4 * Nat.pow 2 (-d.exponent).toNat, closed⟩

/-- The neighbour on the grid of multiples of `10 ^ place` that rounds to the double, the nearer
one if both do. -/
def neighbour? (r : Rounding) (tie : Tie) (place : Int) : Option Decimal :=
  let up := Nat.pow 10 place.toNat
  let down := Nat.pow 10 (-place).toNat
  let below := r.value * down / (r.denominator * up)
  let above := below + 1
  let low := r.holds (below * up) down
  let high := r.holds (above * up) down
  let twice := 2 * r.value * down
  let middle := (below + above) * r.denominator * up
  let takeAbove :=
    twice > middle || (twice == middle && (tie == .up || below % 2 == 1))
  if low && (!high || !takeAbove) then some ⟨below, place⟩
  else if high then some ⟨above, place⟩
  else none

end Rounding

namespace Decimal

/-- The same number without trailing zeros. -/
def strip (d : Decimal) : Decimal :=
  go d.coefficient.log2 d
where
  go : Nat → Decimal → Decimal
    | 0, d => d
    | n + 1, d =>
      if d.coefficient != 0 && d.coefficient % 10 == 0 then
        go n ⟨d.coefficient / 10, d.exponent + 1⟩
      else d

def digits (d : Decimal) : List Char :=
  Nat.toDigits 10 d.coefficient

end Decimal

namespace Dyadic

/-- The place of the leading decimal digit, one too high at most. -/
def leadingPlace (d : Dyadic) : Int :=
  let (n, den) := d.ratio
  if den ≤ n then ((n / den).log2 * 30103 / 100000 + 1 : Nat)
  else -((den / n).log2 * 30102 / 100000 : Nat)

/-- Tries ever finer grids. Seventeen digits always suffice; the last resort is never reached. -/
def shortest (tie : Tie) (d : Dyadic) : Decimal :=
  let r := Rounding.ofDyadic d
  if d.significand = 0 then ⟨0, 0⟩
  else
    match (List.range 20).findSome? fun (n : Nat) => r.neighbour? tie (d.leadingPlace - n) with
    | some x => x.strip
    | none => ⟨d.significand, 0⟩

end Dyadic

end Telemetry
