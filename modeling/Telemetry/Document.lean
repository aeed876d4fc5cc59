import Telemetry.Decimal.Reading

/-!
# Documents

Trees of data as text formats hold them: constants, numbers, texts, arrays and objects. Readers of
formats produce documents, writers print them, and the types of the library are taken from them
and put into them.

A document keeps what a later use may ask about its written form: whether a number was an integer,
whether it was too large, whether a text was written out plainly.

## Main definitions

* `Document`: the trees.
* `Quotation`: a text together with how it was written.
* `integerText`, `readInteger?`: the decimal form of an integer.
-/

namespace Telemetry

/-- A text as it was written. There is no content if an escape names half of a surrogate pair. -/
structure Quotation where
  content : Option String
  /-- Whether every character stood for itself. -/
  plain : Bool
  deriving DecidableEq

inductive Document
  | null
  | boolean (b : Bool)
  | integer (n : Int)
  /-- A number with a fraction or an exponent, or nothing if it is too large for a double. -/
  | real (x : Option Float)
  | text (s : Quotation)
  | array (items : List Document)
  | object (members : List (Quotation × Document))

namespace Quotation

/-- Characters that stand for themselves between quotes. -/
def isPlain (c : Char) : Bool :=
  0x20 ≤ c.toNat && c.toNat ≠ 0x22 && c.toNat ≠ 0x5c

def ofString (s : String) : Quotation :=
  ⟨some s, s.toList.all isPlain⟩

end Quotation

namespace Document

def ofString (s : String) : Document :=
  .text (.ofString s)

def ofStrings (l : List String) : Document :=
  .array (l.map ofString)

/-- An object with the given members. -/
def ofMembers (members : List (String × Document)) : Document :=
  .object (members.map fun m => (.ofString m.1, m.2))

instance : Inhabited Document :=
  ⟨.null⟩

end Document

/-- Decimal digits without leading zeros, and a minus sign in front of a negative number. -/
def integerText (n : Int) : List Char :=
  if n < 0 then '-' :: Nat.toDigits 10 n.natAbs else Nat.toDigits 10 n.natAbs

/-- The integer with this decimal form. -/
def readInteger? (cs : List Char) : Option Int :=
  let n : Int := match cs with
    | '-' :: digits => -(digitsValue digits : Int)
    | digits => digitsValue digits
  if integerText n = cs then some n else none

end Telemetry
