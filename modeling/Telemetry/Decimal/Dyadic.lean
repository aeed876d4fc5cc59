/-!
# Dyadic numbers

A finite double is an integer times a power of two. This module takes doubles apart into that
form and rounds them to whole numbers; everything is exact arithmetic on `Nat` and `Int`.

## Main definitions

* `Dyadic`: sign, significand and exponent.
* `Dyadic.ofFloat?`: the number a double stands for, unless it is infinite or not a number.
* `roundHalfAway`: the nearest whole double, a half going away from zero.
-/

namespace Telemetry

/-- The number `± significand * 2 ^ exponent`. The sign is kept apart so that zero has one. -/
structure Dyadic where
  negative : Bool
  significand : Nat
  exponent : Int
  deriving DecidableEq, Repr

namespace Dyadic

/-- Eleven bits of biased exponent stand above fifty-two bits of fraction. -/
def ofBits? (bits : Nat) : Option Dyadic :=
  let negative := bits / Nat.pow 2 63 % 2 == 1
  let biased : Nat := bits / Nat.pow 2 52 % Nat.pow 2 11
  let fraction : Nat := bits % Nat.pow 2 52
  if biased = 2047 then none
  else if biased = 0 then some ⟨negative, fraction, -1074⟩
  else some ⟨negative, fraction + Nat.pow 2 52, (biased : Int) - 1075⟩

def ofFloat? (x : Float) : Option Dyadic :=
  ofBits? x.toBits.toNat

/-- Zero of either sign. -/
def isZero (d : Dyadic) : Bool :=
  d.significand == 0

/-- The magnitude as a quotient of natural numbers. -/
def ratio (d : Dyadic) : Nat × Nat :=
  if 0 ≤ d.exponent then (d.significand * Nat.pow 2 d.exponent.toNat, 1)
  else (d.significand, Nat.pow 2 (-d.exponent).toNat)

end Dyadic

/-- The nearest whole number to `x`, a half going away from zero. The sign survives rounding to
zero; infinities and undefined numbers stay what they are. -/
def roundHalfAway (x : Float) : Float :=
  match Dyadic.ofFloat? x with
  | none => x
  | some d =>
    if 0 ≤ d.exponent then x
    else
      let (n, den) := d.ratio
      let whole := Float.ofNat ((2 * n + den) / (2 * den))
      if d.negative then -whole else whole

end Telemetry
