import Telemetry.Decimal.Shortest

/-!
# Reading decimals

Two ways from decimal digits to a double. `Decimal.toFloat` gives the nearest double. `Scaled`
keeps as many leading digits as fit a 64-bit word and scales that word by one power of ten, which
is quick and may miss the nearest double by a little; it refuses numbers that are too large.

## Main definitions

* `Decimal.toFloat`: the nearest double.
* `readFloat?`: the text of a double, with words for infinities and undefined numbers.
* `Scaled.toFloat?`: the quick reading.
-/

namespace Telemetry

def infinity : Float := 1.0 / 0.0

def undefinedNumber : Float := 0.0 / 0.0

namespace Decimal

/-- The nearest double, ties to even. Far outside the range of doubles the exponent alone
decides. -/
def toFloat (d : Decimal) : Float :=
  if d.coefficient = 0 then 0.0
  else
    let place := d.exponent + (d.digits.length : Int)
    if place > 400 then infinity
    else if place < -400 then 0.0
    else Float.ofScientific d.coefficient (d.exponent < 0) d.exponent.natAbs

end Decimal

/-- The value of a run of decimal digits. -/
def digitsValue (ds : List Char) : Nat :=
  ds.foldl (fun n c => 10 * n + (c.toNat - '0'.toNat)) 0

/-- Splits off the leading decimal digits. -/
def spanDigits (cs : List Char) : List Char × List Char :=
  cs.span Char.isDigit

/-- An optional sign. -/
def readSign (cs : List Char) : Bool × List Char :=
  match cs with
  | '-' :: rest => (true, rest)
  | '+' :: rest => (false, rest)
  | _ => (false, cs)

/-- The exponent that ends a number, zero if there is none. -/
def readExponent? (cs : List Char) : Option Int :=
  match cs with
  | [] => some 0
  | c :: rest =>
    if c = 'e' || c = 'E' then
      let (negative, ds) := readSign rest
      if !ds.isEmpty && ds.all Char.isDigit then
        some (if negative then -(digitsValue ds : Int) else digitsValue ds)
      else none
    else none

/-- Digits with an optional point and exponent; a digit has to stand before or after the point. -/
def readDecimal? (cs : List Char) : Option Decimal :=
  let (whole, rest) := spanDigits cs
  let (fraction, rest) := match rest with
    | '.' :: more => spanDigits more
    | _ => ([], rest)
  if whole.isEmpty && fraction.isEmpty then none
  else
    (readExponent? rest).map fun e =>
      ⟨digitsValue (whole ++ fraction), e - (fraction.length : Int)⟩

/-- The text of a double. Words are read in either case. -/
def readFloat? (s : String) : Option Float :=
  let (negative, cs) := readSign s.toList
  let magnitude :=
    match String.ofList (cs.map Char.toLower) with
    | "inf" | "infinity" => some infinity
    | "nan" => some undefinedNumber
    | _ => (readDecimal? cs).map Decimal.toFloat
  magnitude.map fun x => if negative then -x else x

/-- Leading digits that fit a 64-bit word, with the power of ten they stand at. -/
structure Scaled where
  word : Nat := 0
  exponent : Int := 0
  full : Bool := false

namespace Scaled

/-- A digit fits while the word stays below `2 ^ 64`. -/
def fits (s : Scaled) (digit : Nat) : Bool :=
  10 * s.word + digit < Nat.pow 2 64

/-- Once a digit of the whole part does not fit, it and all after it count as zeros. -/
def pushWhole (s : Scaled) (c : Char) : Scaled :=
  let digit := c.toNat - '0'.toNat
  if s.full || !s.fits digit then { s with exponent := s.exponent + 1, full := true }
  else { s with word := 10 * s.word + digit }

/-- Once a digit of the fraction does not fit, it and all after it are left out. -/
def pushFraction (s : Scaled) (c : Char) : Scaled :=
  let digit := c.toNat - '0'.toNat
  if s.full || !s.fits digit then { s with full := true }
  else { s with word := 10 * s.word + digit, exponent := s.exponent - 1 }

def ofDigits (whole fraction : List Char) : Scaled :=
  let s := whole.foldl pushWhole {}
  fraction.foldl pushFraction { s with full := false }

/-- Exponents are 32-bit numbers and stop at their ends. -/
def clamp (e : Int) : Int :=
  max (-2147483648) (min 2147483647 e)

/-- Divides by `10 ^ 308` until the rest of the exponent is in reach of one division. -/
def divide (fuel : Nat) (x : Float) (exponent : Nat) : Float :=
  match fuel with
  | 0 => x
  | fuel + 1 =>
    if exponent ≤ 308 then x / Float.ofScientific 1 false exponent
    else if x == 0.0 then x
    else divide fuel (x / 1e308) (exponent - 308)

/-- The scaled word, unless it is too large for a double. -/
def toFloat? (s : Scaled) : Option Float :=
  let x := (UInt64.ofNat s.word).toFloat
  if 0 ≤ s.exponent then
    if s.exponent ≤ 308 then
      let y := x * Float.ofScientific 1 false s.exponent.toNat
      if y.isInf then none else some y
    else if x == 0.0 then some x
    else none
  else some (divide (s.exponent.natAbs / 308 + 1) x s.exponent.natAbs)

/-- Adds an exponent that was written out. One beyond 32 bits makes the number zero or too
large. -/
def withExponent (s : Scaled) (negative : Bool) (digits : List Char) : Option Float :=
  let e := digitsValue digits
  if e ≤ 2147483647 then
    ({ s with exponent := clamp (if negative then s.exponent - e else s.exponent + e) }).toFloat?
  else if s.word = 0 || negative then some 0.0
  else none

end Scaled

end Telemetry
