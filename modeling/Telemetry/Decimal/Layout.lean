import Telemetry.Decimal.Shortest

/-!
# Layouts of decimal numbers

How shortest digits are written down. A layout is a record of decisions; the library has two, one
for text meant for people and one for JSON.

## Main definitions

* `NumberLayout`: the decisions.
* `NumberLayout.plain`: never an exponent, whole numbers without a fraction.
* `NumberLayout.json`: a fraction always, an exponent for very large and very small numbers.
* `NumberLayout.write?`: the text of a finite double.
-/

namespace Telemetry

structure NumberLayout where
  /-- Which of two equally near shortest decimals is written. -/
  tie : Tie
  /-- Least and first excluded scientific exponent that is written without one; all if absent. -/
  positional : Option (Int × Int)
  /-- Whether a whole number ends in a point and a zero. -/
  wholeFraction : Bool

namespace NumberLayout

def plain : NumberLayout := ⟨.up, none, false⟩

def json : NumberLayout := ⟨.even, some (-5, 16), true⟩

private def zeros (n : Nat) : List Char :=
  List.replicate n '0'

/-- Digits and a point, no exponent. -/
def positionalText (layout : NumberLayout) (d : Decimal) : List Char :=
  let digits := d.digits
  if 0 ≤ d.exponent then
    digits ++ zeros d.exponent.toNat ++ (if layout.wholeFraction then ['.', '0'] else [])
  else
    let places := (-d.exponent).toNat
    let padded := zeros (places + 1 - digits.length) ++ digits
    padded.take (padded.length - places) ++ '.' :: padded.drop (padded.length - places)

/-- One digit, a point if more follow, and an exponent with its sign. -/
def scientificText (d : Decimal) (e : Int) : List Char :=
  let sign := if e < 0 then '-' else '+'
  let mantissa := match d.digits with
    | [] => []
    | [c] => [c]
    | c :: rest => c :: '.' :: rest
  mantissa ++ 'e' :: sign :: Nat.toDigits 10 e.natAbs

def magnitude (layout : NumberLayout) (d : Decimal) : List Char :=
  let e := d.exponent + (d.digits.length - 1 : Nat)
  match layout.positional with
  | some (least, bound) =>
    if least ≤ e && e < bound then layout.positionalText d else scientificText d e
  | none => layout.positionalText d

/-- The text of a finite double; nothing for the others. -/
def write? (layout : NumberLayout) (x : Float) : Option String :=
  (Dyadic.ofFloat? x).map fun d =>
    String.ofList ((if d.negative then ['-'] else []) ++ layout.magnitude (d.shortest layout.tie))

end NumberLayout

/-- The text of any double: undefined and infinite numbers have words of their own. -/
def plainText (x : Float) : String :=
  match NumberLayout.plain.write? x with
  | some text => text
  | none => if x.isNaN then "NaN" else if x < 0 then "-inf" else "inf"

end Telemetry
