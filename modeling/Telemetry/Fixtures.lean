import Telemetry.Filter

/-!
# Fixtures

A small catalog over several categories, and values on it, for trying out stores and filters.
-/

namespace Telemetry.Fixtures

/-- A number without a unit. -/
def register (category name : String) : Register :=
  .number category name

def voltage : Register :=
  (Register.number "Essential" "Voltage").withUnit "V"

def current : Register :=
  (Register.number "Essential" "Current").withUnit "A"

def serial : Register :=
  Register.text "Info" "Serial"

/-- A switch, the usual target of a command. -/
def mode : Register :=
  ((Register.enumeration "Settings" "Mode").withLabels [(0, "Off"), (1, "On")]).asWritable

def catalog : List Register :=
  [voltage, current, register "Essential" "Power", register "Diagnostics" "Uptime", serial, mode]

/-- All categories but the diagnostic one. -/
def noDiagnostics : Selection :=
  Selection.includeAll.skipCategory "Diagnostics"

def numeric (device : String) (register : Register) (x : Float) (now : Timestamp) : Value :=
  ⟨device, register, .numeric x, now⟩

end Telemetry.Fixtures
