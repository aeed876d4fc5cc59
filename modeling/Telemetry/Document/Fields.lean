import Telemetry.Document
import Telemetry.Keyed

/-!
# Taking values from documents

Rules by which documents stand for values: which documents are a word, a number of limited size, a
constant, a list or a record. Formats differ in two of these rules, which `Format` records.

A record is an object, whose unknown members are passed over and whose known ones occur once, or an
array of the fields in their order. A field with a default may be missing.

## Main definitions

* `Format`: the rules in which formats differ.
* `Record`: the fields of a record by name.
-/

namespace Telemetry

structure Format where
  /-- Whether the array form of a record may have more items than the record has fields. -/
  allowsSurplus : Bool
  /-- What may stand behind the name of a constant that is written as an object. -/
  isUnit : Document → Bool

namespace Format

/-- An array has to fit the record, and null stands behind a constant. -/
def json : Format where
  allowsSurplus := false
  isUnit
    | .null => true
    | _ => false

/-- Surplus items are passed over, and an empty table or array stands behind a constant. -/
def toml : Format where
  allowsSurplus := true
  isUnit
    | .object members => members.isEmpty
    | .array items => items.isEmpty
    | _ => false

end Format

namespace Document

def string? : Document → Option String
  | .text s => s.content
  | _ => none

def boolean? : Document → Option Bool
  | .boolean b => some b
  | _ => none

def integer? : Document → Option Int
  | .integer n => some n
  | _ => none

def int32? (d : Document) : Option Int32 :=
  d.integer?.bind fun n =>
    if -2147483648 ≤ n && n ≤ 2147483647 then some (Int32.ofInt n) else none

/-- A natural number below `bound`. -/
def below? (bound : Nat) (d : Document) : Option Nat :=
  d.integer?.bind fun n => if 0 ≤ n && n.toNat < bound then some n.toNat else none

def word? (d : Document) : Option UInt64 :=
  (d.below? (Nat.pow 2 64)).map UInt64.ofNat

/-- An integer counts as the number that its digits are quickly read as. -/
def number? : Document → Option Float
  | .real x => x
  | .integer n =>
    (Scaled.ofDigits (Nat.toDigits 10 n.natAbs) []).toFloat?.map fun x => if n < 0 then -x else x
  | _ => none

/-- Null is no value; all else has to be one. -/
def optional? {α : Type} (read : Document → Option α) : Document → Option (Option α)
  | .null => some none
  | d => (read d).map some

def list? {α : Type} (read : Document → Option α) : Document → Option (List α)
  | .array items => items.mapM read
  | _ => none

def strings? : Document → Option (List String) :=
  list? string?

/-- The members of an object with readable names. -/
def members? : Document → Option (List (String × Document))
  | .object members => members.mapM fun m => m.1.content.map (·, m.2)
  | _ => none

/-- Members under 32-bit numbers, written as integers are and without escapes. -/
def numbered? {α : Type} (read : Document → Option α) : Document → Option (List (Int32 × α))
  | .object members => members.mapM fun m => do
    if !m.1.plain then none
    let n ← readInteger? ((← m.1.content).toList)
    return (← (Document.integer n).int32?, ← read m.2)
  | _ => none

/-- A constant from a list: its name, or an object with its name and nothing behind it. -/
def constant? {α : Type} (format : Format) (constants : List (String × α)) :
    Document → Option α
  | .text s => s.content.bind fun word => List.lookup word constants
  | .object [(name, unit)] =>
    if format.isUnit unit then name.content.bind fun word => List.lookup word constants
    else none
  | _ => none

end Document

/-- The fields of a record, by name. -/
structure Record where
  fields : List (String × Document)

namespace Record

/-- The record in a document, if `names` are its fields in their order. -/
def of? (format : Format) (names : List String) : Document → Option Record
  | .array items =>
    if items.length ≤ names.length || format.allowsSurplus then some ⟨names.zip items⟩ else none
  | d => do
    let members ← d.members?
    if names.all fun name => (members.filter fun m => m.1 == name).length ≤ 1 then
      some ⟨members⟩
    else none

/-- Like `of?`, but an object may have no other members. -/
def strict? (format : Format) (names : List String) (d : Document) : Option Record := do
  let record ← of? format names d
  if record.fields.all fun m => names.contains m.1 then some record else none

def field? (r : Record) (name : String) : Option Document :=
  List.lookup name r.fields

def required? {α : Type} (r : Record) (name : String) (read : Document → Option α) : Option α :=
  (r.field? name).bind read

/-- A field that may be missing. One that is there has to be readable. -/
def withDefault? {α : Type} (r : Record) (name : String) (read : Document → Option α)
    (default : α) : Option α :=
  match r.field? name with
  | none => some default
  | some d => read d

end Record

end Telemetry
