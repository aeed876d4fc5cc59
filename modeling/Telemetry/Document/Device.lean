import Telemetry.Device
import Telemetry.Document.Schema

/-!
# Documents of devices

A device with its interval in seconds and nanoseconds and its base values by name.

## Main definitions

* `Device.document`, `Device.ofDocument?`: the document form of a device.
-/

namespace Telemetry.Device

def intervalFields : List String :=
  ["secs", "nanos"]

def intervalDocument (nanoseconds : Nat) : Document :=
  .ofMembers [("secs", .integer (nanoseconds / nanosecondsPerSecond)),
    ("nanos", .integer (nanoseconds % nanosecondsPerSecond))]

/-- Nanoseconds beyond a second count as seconds, which have to fit a 64-bit word. Unlike other
records this one admits no unknown fields. -/
def interval? (format : Format) (d : Document) : Option Nat := do
  let record ← Record.strict? format intervalFields d
  let seconds ← record.required? "secs" (Document.below? (Nat.pow 2 64))
  let nanoseconds ← record.required? "nanos" (Document.below? (Nat.pow 2 32))
  if seconds + nanoseconds / nanosecondsPerSecond < Nat.pow 2 64 then
    some (seconds * nanosecondsPerSecond + nanoseconds)
  else none

def baseValues? (d : Document) : Option BaseValues := do
  let members ← d.members?
  let entries ← members.mapM fun m => m.2.number?.map (m.1, ·)
  return .ofList entries

def fieldNames : List String :=
  ["name", "kind", "poll_interval", "variance", "base_values"]

def document (d : Device) : Document :=
  .ofMembers [("name", .ofString d.name), ("kind", .ofString d.kind.name),
    ("poll_interval", intervalDocument d.pollInterval), ("variance", .real (some d.variance)),
    ("base_values", .ofMembers (d.baseValues.items.map fun e => (e.1, .real (some e.2))))]

/-- No field may be missing. -/
def ofDocument? (format : Format) (d : Document) : Option Device := do
  let record ← Record.of? format fieldNames d
  let name ← record.required? "name" Document.string?
  let kind ← record.required? "kind" (Document.constant? format DeviceKind.constants)
  let pollInterval ← record.required? "poll_interval" (interval? format)
  let variance ← record.required? "variance" Document.number?
  let baseValues ← record.required? "base_values" baseValues?
  return { name, kind, pollInterval, variance, baseValues }

end Telemetry.Device
