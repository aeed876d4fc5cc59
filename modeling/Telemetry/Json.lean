import Telemetry.Document
import Telemetry.Decimal.Layout

/-!
# JSON

The compact JSON text of a document, and the document of a JSON text. Blanks are allowed between
tokens and nowhere else; after the document nothing may follow.

## Main definitions

* `Json.text`: the text of a document.
* `Json.read?`: the document of a text.
-/

namespace Telemetry.Json

/-! ## Writing -/

/-- One character between quotes. Controls without a letter of their own are shown by number. -/
def escape (c : Char) : List Char :=
  match c.toNat with
  | 0x08 => ['\\', 'b']
  | 0x09 => ['\\', 't']
  | 0x0a => ['\\', 'n']
  | 0x0c => ['\\', 'f']
  | 0x0d => ['\\', 'r']
  | 0x22 => ['\\', '\x22']
  | 0x5c => ['\\', '\\']
  | n =>
    if n < 0x20 then ['\\', 'u', '0', '0', Nat.digitChar (n / 16), Nat.digitChar (n % 16)]
    else [c]

def quoted (s : String) : List Char :=
  '\x22' :: s.toList.flatMap escape ++ ['\x22']

def writeQuotation (q : Quotation) : List Char :=
  quoted (q.content.getD "")

/-- Numbers that are not finite have no JSON form and become null. -/
def writeReal (x : Option Float) : List Char :=
  match x.bind NumberLayout.json.write? with
  | some text => text.toList
  | none => ['n', 'u', 'l', 'l']

mutual

def write : Document → List Char
  | .null => ['n', 'u', 'l', 'l']
  | .boolean true => ['t', 'r', 'u', 'e']
  | .boolean false => ['f', 'a', 'l', 's', 'e']
  | .integer n => integerText n
  | .real x => writeReal x
  | .text s => writeQuotation s
  | .array [] => ['[', ']']
  | .array (item :: items) => '[' :: write item ++ writeItems items
  | .object [] => ['\x7b', '\x7d']
  | .object ((name, value) :: members) =>
    '\x7b' :: writeQuotation name ++ ':' :: write value ++ writeMembers members

/-- The items after the first, and the closing bracket. -/
def writeItems : List Document → List Char
  | [] => [']']
  | item :: items => ',' :: write item ++ writeItems items

/-- The members after the first, and the closing brace. -/
def writeMembers : List (Quotation × Document) → List Char
  | [] => ['\x7d']
  | (name, value) :: members =>
    ',' :: writeQuotation name ++ ':' :: write value ++ writeMembers members

end

def text (d : Document) : String :=
  String.ofList (write d)

/-! ## Reading -/

def isSpace (c : Char) : Bool :=
  c == ' ' || c == '\t' || c == '\n' || c == '\r'

def skip (cs : List Char) : List Char :=
  cs.dropWhile isSpace

def hexDigit? (c : Char) : Option Nat :=
  if '0' ≤ c && c ≤ '9' then some (c.toNat - '0'.toNat)
  else if 'a' ≤ c && c ≤ 'f' then some (c.toNat - 'a'.toNat + 10)
  else if 'A' ≤ c && c ≤ 'F' then some (c.toNat - 'A'.toNat + 10)
  else none

/-- What a letter after a backslash stands for. -/
def unescape? : Char → Option Nat
  | '\x22' => some 0x22
  | '\\' => some 0x5c
  | '/' => some 0x2f
  | 'b' => some 0x08
  | 'f' => some 0x0c
  | 'n' => some 0x0a
  | 'r' => some 0x0d
  | 't' => some 0x09
  | _ => none

/-- The numbers of characters and surrogates up to the closing quote, whether all of them stood for
themselves, and what follows the quote. -/
def readUnits? : List Char → Option (List Nat × Bool × List Char)
  | [] => none
  | '\x22' :: rest => some ([], true, rest)
  | '\\' :: 'u' :: a :: b :: c :: d :: rest => do
    let high := 16 * (← hexDigit? a) + (← hexDigit? b)
    let low := 16 * (← hexDigit? c) + (← hexDigit? d)
    let (units, _, rest) ← readUnits? rest
    return ((256 * high + low) :: units, false, rest)
  | '\\' :: c :: rest => do
    let unit ← unescape? c
    let (units, _, rest) ← readUnits? rest
    return (unit :: units, false, rest)
  | c :: rest =>
    if c.toNat < 0x20 || c = '\\' then none
    else do
      let (units, plain, rest) ← readUnits? rest
      return (c.toNat :: units, plain, rest)

def isHighSurrogate (n : Nat) : Bool :=
  0xd800 ≤ n && n < 0xdc00

def isLowSurrogate (n : Nat) : Bool :=
  0xdc00 ≤ n && n < 0xe000

def scalar? (n : Nat) : Option Char :=
  if isHighSurrogate n || isLowSurrogate n then none else some (Char.ofNat n)

/-- The characters of a run of units. A high and a low surrogate make one character; there is none
for a surrogate alone. -/
def joinUnits? : List Nat → Option (List Char)
  | [] => some []
  | [n] => (scalar? n).map ([·])
  | m :: n :: rest =>
    if isHighSurrogate m && isLowSurrogate n then
      (joinUnits? rest).map (Char.ofNat (0x10000 + (m - 0xd800) * 1024 + (n - 0xdc00)) :: ·)
    else do
      let c ← scalar? m
      return c :: (← joinUnits? (n :: rest))

/-- A text whose opening quote was read. -/
def readQuotation? (cs : List Char) : Option (Quotation × List Char) :=
  (readUnits? cs).map fun (units, plain, rest) =>
    (⟨(joinUnits? units).map String.ofList, plain⟩, rest)

/-- The digits after a point; none at all without a point. -/
def readFraction? : List Char → Option (Option (List Char) × List Char)
  | '.' :: rest =>
    let (digits, rest) := spanDigits rest
    if digits.isEmpty then none else some (some digits, rest)
  | cs => some (none, cs)

/-- Sign and digits of an exponent; none at all if the number has no exponent. -/
def readScale? : List Char → Option (Option (Bool × List Char) × List Char)
  | [] => some (none, [])
  | c :: rest =>
    if c = 'e' || c = 'E' then
      let (negative, rest) := readSign rest
      let (digits, rest) := spanDigits rest
      if digits.isEmpty then none else some (some (negative, digits), rest)
    else some (none, c :: rest)

/-- A number from its sign, its digits before and after the point, and its exponent. An integer
has neither point nor exponent and is not a negative zero. -/
def number (negative : Bool) (whole : List Char) (fraction : Option (List Char))
    (scale : Option (Bool × List Char)) : Document :=
  let scaled := Scaled.ofDigits whole (fraction.getD [])
  let signed (x : Float) := if negative then -x else x
  match fraction, scale with
  | none, none =>
    let n := digitsValue whole
    if !negative then .integer n
    else if n = 0 then .real (some (-0.0))
    else .integer (-n)
  | _, none => .real (scaled.toFloat?.map signed)
  | _, some (down, digits) => .real ((scaled.withExponent down digits).map signed)

/-- A number; the whole part has no leading zeros. -/
def readNumber? (cs : List Char) : Option (Document × List Char) := do
  let (negative, cs) := match cs with
    | '-' :: rest => (true, rest)
    | _ => (false, cs)
  let (whole, rest) := spanDigits cs
  if whole.isEmpty || (whole.head? == some '0' && 1 < whole.length) then none
  let (fraction, rest) ← readFraction? rest
  let (scale, rest) ← readScale? rest
  return (number negative whole fraction scale, rest)

mutual

/-- A value and what follows it. Every step into a part spends one unit of `fuel`. -/
def readValue? : Nat → List Char → Option (Document × List Char)
  | 0, _ => none
  | fuel + 1, cs =>
    match skip cs with
    | 'n' :: 'u' :: 'l' :: 'l' :: rest => some (.null, rest)
    | 't' :: 'r' :: 'u' :: 'e' :: rest => some (.boolean true, rest)
    | 'f' :: 'a' :: 'l' :: 's' :: 'e' :: rest => some (.boolean false, rest)
    | '\x22' :: rest => (readQuotation? rest).map fun (s, rest) => (.text s, rest)
    | '[' :: rest =>
      match skip rest with
      | ']' :: rest => some (.array [], rest)
      | rest => (readItems? fuel rest).map fun (items, rest) => (.array items, rest)
    | '\x7b' :: rest =>
      match skip rest with
      | '\x7d' :: rest => some (.object [], rest)
      | rest => (readMembers? fuel rest).map fun (members, rest) => (.object members, rest)
    | cs => readNumber? cs

/-- One item or more, and the closing bracket. -/
def readItems? : Nat → List Char → Option (List Document × List Char)
  | 0, _ => none
  | fuel + 1, cs => do
    let (item, rest) ← readValue? fuel cs
    match skip rest with
    | ']' :: rest => return ([item], rest)
    | ',' :: rest =>
      let (items, rest) ← readItems? fuel rest
      return (item :: items, rest)
    | _ => none

/-- One member or more, and the closing brace. -/
def readMembers? : Nat → List Char → Option (List (Quotation × Document) × List Char)
  | 0, _ => none
  | fuel + 1, cs =>
    match skip cs with
    | '\x22' :: rest => do
      let (name, rest) ← readQuotation? rest
      match skip rest with
      | ':' :: rest =>
        let (value, rest) ← readValue? fuel rest
        match skip rest with
        | '\x7d' :: rest => return ([(name, value)], rest)
        | ',' :: rest =>
          let (members, rest) ← readMembers? fuel rest
          return ((name, value) :: members, rest)
        | _ => none
      | _ => none
    | _ => none

end

/-- Each part of a text takes at least one character and two steps. -/
def readChars? (cs : List Char) : Option Document := do
  let (d, rest) ← readValue? (2 * cs.length + 2) cs
  if (skip rest).isEmpty then some d else none

def read? (s : String) : Option Document :=
  readChars? s.toList

end Telemetry.Json
