import Telemetry.Document
import Telemetry.Toml.Text

/-!
# Numbers and dates in TOML

Integers in four bases, decimal fractions, and dates and times of day. Underscores may stand between
digits. An integer has to fit a 64-bit word with sign; a fraction is read as the nearest double, and
a positive one has to be in range.

## Main definitions

* `Toml.readNumber?`: an integer or a fraction.
* `Toml.readMoment?`: a date, a time of day, or both.
-/

namespace Telemetry.Toml

/-! ## Digits -/

/-- The digits after the first one: each may follow an underscore. Nothing if an underscore is not
followed by a digit. -/
def moreDigits? (isDigit : Char → Bool) : List Char → Option (List Char × List Char)
  | [] => some ([], [])
  | '_' :: c :: rest =>
    if isDigit c then (moreDigits? isDigit rest).map fun (ds, rest) => (c :: ds, rest) else none
  | c :: rest =>
    if isDigit c then (moreDigits? isDigit rest).map fun (ds, rest) => (c :: ds, rest)
    else if c = '_' then none
    else some ([], c :: rest)

/-- One digit or more. -/
def readDigits? (isDigit : Char → Bool) : List Char → Option (List Char × List Char)
  | [] => none
  | c :: rest =>
    if isDigit c then (moreDigits? isDigit rest).map fun (ds, rest) => (c :: ds, rest) else none

/-- Digits in base ten without a leading zero. A zero stands alone. -/
def readWhole? : List Char → Option (List Char × List Char)
  | '0' :: rest => some (['0'], rest)
  | cs => readDigits? Char.isDigit cs

/-! ## Numbers -/

def integerIn? (n : Int) : Option Document :=
  if -(Int.pow 2 63) ≤ n && n < Int.pow 2 63 then some (.integer n) else none

/-- An integer whose base was read. -/
def readBase? (base : Nat) (cs : List Char) : Option (Document × List Char) := do
  let isDigit (c : Char) := (hexDigit? c).any (· < base)
  let (ds, rest) ← readDigits? isDigit cs
  let n := ds.foldl (fun n c => base * n + (hexDigit? c).getD 0) 0
  return (← integerIn? n, rest)

/-- The digits after a point. -/
def readFraction? : List Char → Option (List Char × List Char)
  | '.' :: rest => readDigits? Char.isDigit rest
  | cs => some ([], cs)

/-- An exponent with its sign. -/
def readScale? : List Char → Option (Option Int × List Char)
  | [] => some (none, [])
  | c :: rest =>
    if c = 'e' || c = 'E' then do
      let (negative, rest) := readSign rest
      let (ds, rest) ← readDigits? Char.isDigit rest
      let e : Int := digitsValue ds
      return (some (if negative then -e else e), rest)
    else some (none, c :: rest)

def signed (negative : Bool) (x : Float) : Float :=
  if negative then -x else x

/-- A number in base ten whose sign was read. -/
def readDecimal? (negative : Bool) (cs : List Char) : Option (Document × List Char) := do
  let (whole, rest) ← readWhole? cs
  let (fraction, rest) ← readFraction? rest
  let (scale, rest) ← readScale? rest
  if fraction.isEmpty && scale.isNone then
    let n : Int := digitsValue whole
    return (← integerIn? (if negative then -n else n), rest)
  else
    let d : Decimal := ⟨digitsValue (whole ++ fraction), scale.getD 0 - fraction.length⟩
    let x := signed negative d.toFloat
    if x == infinity then none else return (.real (some x), rest)

/-- Infinity, an undefined number or a number in base ten, whose sign was read. -/
def readSigned? (negative : Bool) : List Char → Option (Document × List Char)
  | 'i' :: 'n' :: 'f' :: rest => some (.real (some (signed negative infinity)), rest)
  | 'n' :: 'a' :: 'n' :: rest => some (.real (some (signed negative undefinedNumber)), rest)
  | cs => readDecimal? negative cs

def readNumber? : List Char → Option (Document × List Char)
  | '0' :: 'x' :: rest => readBase? 16 rest
  | '0' :: 'o' :: rest => readBase? 8 rest
  | '0' :: 'b' :: rest => readBase? 2 rest
  | '+' :: rest => readSigned? false rest
  | '-' :: rest => readSigned? true rest
  | cs => readSigned? false cs

/-! ## Dates and times -/

/-- A number of exactly `count` digits. -/
def readField? (count : Nat) (cs : List Char) : Option (Nat × List Char) :=
  let ds := cs.take count
  if ds.length = count && ds.all Char.isDigit then some (digitsValue ds, cs.drop count) else none

def expect? (c : Char) : List Char → Option (List Char)
  | d :: rest => if c = d then some rest else none
  | [] => none

def isLeapYear (year : Nat) : Bool :=
  year % 4 == 0 && (year % 100 != 0 || year % 400 == 0)

def daysIn (year month : Nat) : Nat :=
  match month with
  | 2 => if isLeapYear year then 29 else 28
  | 4 | 6 | 9 | 11 => 30
  | _ => 31

/-- What follows a day of the calendar. -/
def readDate? (cs : List Char) : Option (List Char) := do
  let (year, rest) ← readField? 4 cs
  let (month, rest) ← readField? 2 (← expect? '-' rest)
  let (day, rest) ← readField? 2 (← expect? '-' rest)
  if 1 ≤ month && month ≤ 12 && 1 ≤ day && day ≤ daysIn year month then some rest else none

/-- What follows a time of day. The second may be the sixtieth, and may have a fraction. -/
def readTime? (cs : List Char) : Option (List Char) := do
  let (hour, rest) ← readField? 2 cs
  let (minute, rest) ← readField? 2 (← expect? ':' rest)
  let (second, rest) ← readField? 2 (← expect? ':' rest)
  if hour ≤ 23 && minute ≤ 59 && second ≤ 60 then
    match rest with
    | '.' :: more =>
      let (ds, more) := spanDigits more
      some (if ds.isEmpty then rest else more)
    | _ => some rest
  else none

/-- What follows an offset from universal time. -/
def readOffset? (cs : List Char) : Option (List Char) :=
  match cs with
  | 'Z' :: rest => some rest
  | 'z' :: rest => some rest
  | c :: rest =>
    if c = '+' || c = '-' then do
      let (hour, rest) ← readField? 2 rest
      let (minute, rest) ← readField? 2 (← expect? ':' rest)
      if hour ≤ 23 && minute ≤ 59 then some rest else none
    else none
  | [] => none

/-- The time of day and the offset that may follow a date. -/
def readTimePart (cs : List Char) : List Char :=
  match cs with
  | c :: rest =>
    if c = 'T' || c = 't' || c = ' ' then
      match readTime? rest with
      | some rest => (readOffset? rest).getD rest
      | none => cs
    else cs
  | [] => cs

/-- Dates and times are of no use to the library. They count as objects with an unknown member. -/
def moment : Document :=
  .ofMembers [("datetime", .null)]

def readMoment? (cs : List Char) : Option (Document × List Char) :=
  match readDate? cs with
  | some rest => some (moment, readTimePart rest)
  | none => (readTime? cs).map (moment, ·)

end Telemetry.Toml
