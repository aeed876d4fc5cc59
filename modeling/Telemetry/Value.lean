import Telemetry.Register
import Telemetry.Timestamp
import Telemetry.Decimal.Layout
import Telemetry.Text.Quoted

/-!
# Values

A value is a reading of one register of one device, or a command to it. The payload is a number,
a text, the index of an enumeration, or nothing; whether it suits the register is the producer's
affair, and `Value.fault?` tells.

Two values are the same reading when device, register and payload agree, whatever their times.
Numbers agree here as numbers do, except that an undefined number agrees with itself.

## Main definitions

* `Payload`, `Value`, `Key`: the types.
* `Value.same`: sameness of readings.
* `Value.text`: a value on one line.
-/

namespace Telemetry

inductive Payload
  | numeric (x : Float)
  | text (s : String)
  /-- An index into the labels of the register, which need not have one for it. -/
  | enumeration (index : Int32)
  /-- No reading yet, or a command that was carried out. -/
  | null

/-- Numbers are the same when they are the same double or both zero. All undefined numbers are
one. -/
def sameNumber (x y : Float) : Bool :=
  x.toBits == y.toBits || (x.isNaN && y.isNaN) || (isZero x && isZero y)
where
  isZero (x : Float) : Bool :=
    x.toBits == 0 || x.toBits == 0x8000000000000000

namespace Payload

def typeName : Payload → String
  | numeric _ => "numeric"
  | text _ => "text"
  | enumeration _ => "enum"
  | null => "null"

def isNull : Payload → Bool
  | null => true
  | _ => false

def same : Payload → Payload → Bool
  | numeric x, numeric y => sameNumber x y
  | text s, text t => s == t
  | enumeration i, enumeration j => i == j
  | null, null => true
  | _, _ => false

end Payload

/-- A place in a store: one for each register name of each device name. -/
structure Key where
  device : String
  register : String
  deriving DecidableEq, Repr

namespace Key

/-- By device name, then register name. -/
instance : Ord Key :=
  ⟨compareLex (compareOn Key.device) (compareOn Key.register)⟩

instance : Std.TransOrd Key :=
  inferInstanceAs (Std.TransCmp (compareLex (compareOn Key.device) (compareOn Key.register)))

def text (k : Key) : String :=
  k.device ++ ":" ++ k.register

end Key

structure Value where
  device : String
  register : Register
  payload : Payload
  time : Timestamp

/-- Why a payload does not suit its register. -/
inductive KindFault
  | unmapped (key : Key) (index : Int32)
  | mismatch (key : Key) (payload : String) (kind : RegisterKind)
  deriving DecidableEq

namespace Value

def key (v : Value) : Key :=
  ⟨v.device, v.register.name⟩

/-- Equal in device, register and payload. -/
def same (a b : Value) : Bool :=
  a.payload.same b.payload && a.device == b.device && a.register == b.register

def isNull (v : Value) : Bool :=
  v.payload.isNull

def number? (v : Value) : Option Float :=
  match v.payload with
  | .numeric x => some x
  | _ => none

def text? (v : Value) : Option String :=
  match v.payload with
  | .text s => some s
  | _ => none

def index? (v : Value) : Option Int32 :=
  match v.payload with
  | .enumeration i => some i
  | _ => none

/-- The label of an enumeration payload, if the register has one for it. -/
def label? (v : Value) : Option String :=
  v.index?.bind v.register.label?

/-- Nothing at the same key. -/
def toNull (v : Value) (now : Timestamp) : Value :=
  { v with payload := .null, time := now }

/-- Nothing suits every register; an index has to have a label. -/
def fault? (v : Value) : Option KindFault :=
  match v.payload, v.register.kind with
  | .null, _ => none
  | .numeric _, .number => none
  | .text _, .text => none
  | .enumeration i, .enumeration =>
    if (v.register.label? i).isSome then none else some (.unmapped v.key i)
  | payload, kind => some (.mismatch v.key payload.typeName kind)

/-- An index is shown by its label, or by its number if it has none. -/
def payloadText (v : Value) : String :=
  match v.payload with
  | .numeric x => plainText x
  | .text s => Text.quote s
  | .enumeration i =>
    match v.register.label? i with
    | some label => label
    | none => "#" ++ toString i.toInt
  | .null => "null"

/-- Device, register and payload on one line, with the unit if there is a reading. -/
def text (v : Value) : String :=
  let unit :=
    if v.isNull || v.register.unit.isEmpty then "" else " " ++ v.register.unit
  v.key.text ++ "=" ++ v.payloadText ++ unit

end Value

end Telemetry
