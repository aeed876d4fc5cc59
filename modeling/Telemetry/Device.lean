import Telemetry.Decimal.Reading
import Telemetry.Text.Blank
import Telemetry.Value

/-!
# Simulated devices

Meters, relays and batteries that exist in software only. A device announces the registers of its
kind, takes readings around its base values, and, if it is a relay, has a switch to command.
Readings are rounded to one decimal, so a device without fluctuation reads the same at every poll.

## Main definitions

* `DeviceKind`, `Device`: the devices.
* `Device.sample`: one poll's worth of readings.
* `Fleet`: many devices built in steps.
-/

namespace Telemetry

inductive DeviceKind
  /-- Voltage, current, power and a serial number. -/
  | meter
  /-- A switch and the load behind it. -/
  | relay
  /-- Voltage, current, state of charge and state. -/
  | battery
  deriving DecidableEq, Repr

namespace DeviceKind

def name : DeviceKind → String
  | meter => "meter"
  | relay => "relay"
  | battery => "battery"

def constants : List (String × DeviceKind) :=
  [meter, relay, battery].map fun kind => (kind.name, kind)

/-- The kind as a word of its own. -/
def title : DeviceKind → String
  | meter => "Meter"
  | relay => "Relay"
  | battery => "Battery"

end DeviceKind

/-- A word that names no kind. -/
structure UnknownKind where
  word : String
  deriving DecidableEq, Repr

namespace UnknownKind

def message (u : UnknownKind) : String :=
  "unknown device kind: " ++ u.word

end UnknownKind

namespace DeviceKind

/-- The kind with this name, in any case. -/
def read (s : String) : Except UnknownKind DeviceKind :=
  let word := Text.lower s
  match List.lookup word constants with
  | some kind => .ok kind
  | none => .error ⟨word⟩

end DeviceKind

/-- The name of the register that switches a relay. -/
def switchName : String := "switch"

def switchRegister : Register :=
  (((Register.enumeration "Control" switchName).withLabels [(0, "Off"), (1, "On")]).withDescription
    "Relay output").asWritable

namespace DeviceKind

/-- What a device announces, in this order. -/
def registers : DeviceKind → List Register
  | meter =>
    [((Register.number "Essential" "voltage").withUnit "V").withSort 0,
      ((Register.number "Essential" "current").withUnit "A").withSort 1,
      ((Register.number "Essential" "power").withUnit "W").withSort 2,
      (Register.text "Info" "serial").withSort 10]
  | relay =>
    [switchRegister, ((Register.number "Essential" "load").withUnit "W").withSort 1]
  | battery =>
    [((Register.number "Essential" "voltage").withUnit "V").withSort 0,
      ((Register.number "Essential" "current").withUnit "A").withSort 1,
      ((Register.number "Essential" "soc").withUnit "%").withSort 2,
      ((Register.enumeration "Essential" "state").withLabels
        [(0, "Idle"), (1, "Charging"), (2, "Discharging")]).withSort 3]

def baseValues : DeviceKind → List (String × Float)
  | meter => [("voltage", 230.0), ("current", 5.0)]
  | relay => [("load", 60.0)]
  | battery => [("voltage", 12.8), ("current", -2.0), ("soc", 80.0)]

def variance : DeviceKind → Float
  | meter => 2.0
  | relay => 5.0
  | battery => 0.5

end DeviceKind

/-- Numbers by register name. -/
abbrev BaseValues := Keyed (Prod.fst : String × Float → String)

structure Device where
  name : String
  kind : DeviceKind
  /-- Nanoseconds from one poll to the next. -/
  pollInterval : Nat
  /-- How far readings stray from the base values; not at all unless it is positive. -/
  variance : Float
  baseValues : BaseValues

namespace Device

def nanosecondsPerSecond : Nat := 1000000000

def nanosecondsPerMillisecond : Nat := 1000000

/-- A device with the base values and the variance of its kind, polled once a second. -/
def ofKind (name : String) (kind : DeviceKind) : Device where
  name := name
  kind := kind
  pollInterval := nanosecondsPerSecond
  variance := kind.variance
  baseValues := .ofList kind.baseValues

def withPollInterval (d : Device) (pollInterval : Nat) : Device :=
  { d with pollInterval }

def withVariance (d : Device) (variance : Float) : Device :=
  { d with variance }

def withBaseValue (d : Device) (register : String) (x : Float) : Device :=
  { d with baseValues := d.baseValues.insert (register, x) }

def registers (d : Device) : List Register :=
  d.kind.registers

/-- To one decimal, a half going away from zero. -/
def roundToTenth (x : Float) : Float :=
  roundHalfAway (x * 10.0) / 10.0

/-- A reading around a base value, zero if there is none. `noise` is what chance adds to the reading
of a register when the device fluctuates. -/
def reading (d : Device) (noise : String → Float) (register : String) : Float :=
  let base := match d.baseValues.find? register with
    | some entry => entry.2
    | none => 0.0
  if d.variance ≤ 0.0 then roundToTenth base else roundToTenth (base + noise register)

/-- At least zero; an undefined number becomes zero. -/
def atLeastZero (x : Float) : Float :=
  if x.isNaN || x < 0.0 then 0.0 else x

/-- Between zero and a hundred; an undefined number stays undefined. -/
def percentage (x : Float) : Float :=
  if x < 0.0 then 0.0 else if 100.0 < x then 100.0 else x

/-- Charging, discharging, or idle below a twentieth either way. -/
def chargeState (current : Float) : Int32 :=
  if 0.05 < current then 1 else if current < -0.05 then 2 else 0

/-- All readings of one poll by register name. A relay that is off has no load. -/
def readings (d : Device) (noise : String → Float) (switchOn : Bool) : List (String × Payload) :=
  match d.kind with
  | .meter =>
    let voltage := d.reading noise "voltage"
    let current := d.reading noise "current"
    [("voltage", .numeric voltage), ("current", .numeric current),
      ("power", .numeric (roundToTenth (voltage * current))), ("serial", .text ("SIM-" ++ d.name))]
  | .relay =>
    [("load", .numeric (if switchOn then atLeastZero (d.reading noise "load") else 0.0))]
  | .battery =>
    let current := d.reading noise "current"
    [("voltage", .numeric (d.reading noise "voltage")), ("current", .numeric current),
      ("soc", .numeric (percentage (d.reading noise "soc"))),
      ("state", .enumeration (chargeState current))]

/-- Hands each reading to the first register of its name. -/
def assign (device : String) (now : Timestamp) :
    List Register → List (String × Payload) → List Value
  | [], _ => []
  | r :: registers, readings =>
    match List.lookup r.name readings with
    | none => assign device now registers readings
    | some payload =>
      ⟨device, r, payload, now⟩ ::
        assign device now registers (readings.filter fun entry => entry.1 != r.name)

/-- One poll's worth of values over the given registers, in their order. -/
def sample (d : Device) (noise : String → Float) (now : Timestamp) (registers : List Register)
    (switchOn : Bool) : List Value :=
  assign d.name now registers (d.readings noise switchOn)

/-- The position a command asks for, if it names the switch and one of its two positions. -/
def switchPosition? (command : Value) : Option Bool :=
  if command.register.name = switchName then
    match command.payload with
    | .enumeration 0 => some false
    | .enumeration 1 => some true
    | _ => none
  else none

/-- The value that reports a switch position. -/
def switchValue (device : String) (register : Register) (on : Bool) (now : Timestamp) : Value :=
  ⟨device, register, .enumeration (if on then 1 else 0), now⟩

end Device

/-- Devices in the making, with the interval for those that come next. -/
structure Fleet where
  devices : List Device := []
  pollInterval : Nat := Device.nanosecondsPerSecond

namespace Fleet

def withPollInterval (f : Fleet) (pollInterval : Nat) : Fleet :=
  { f with pollInterval }

/-- The name of the device number `i` of a group. -/
def memberName (group : String) (kind : DeviceKind) (i : Nat) : String :=
  group ++ "-" ++ kind.name ++ "-" ++ String.ofList (Nat.toDigits 10 i)

/-- A group of `count` devices of one kind. -/
def add (f : Fleet) (kind : DeviceKind) (count : Nat) (group : String) : Fleet :=
  { f with
    devices := f.devices ++ (List.range count).map fun i =>
      (Device.ofKind (memberName group kind i) kind).withPollInterval f.pollInterval }

end Fleet

end Telemetry
