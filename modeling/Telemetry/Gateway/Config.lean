import Telemetry.Document.Device

/-!
# Gateway configurations

The stores, devices and consumers that a gateway runs, with the rules of a well-formed
configuration. The first rule that is broken decides the fault.

## Main definitions

* `DeviceConfig`, `ConsumerConfig`, `GatewayConfig`: the configurations.
* `GatewayConfig.validate`: the rules.
* `GatewayConfig.ofDocument?`: a configuration from its document.
-/

namespace Telemetry

/-- One simulated device. -/
structure DeviceConfig where
  name : String
  kind : DeviceKind
  /-- Milliseconds from one poll to the next. -/
  pollInterval : UInt64 := 1000
  /-- That of the kind if there is none. -/
  variance : Option Float := none

/-- One consumer of values. -/
structure ConsumerConfig where
  name : String
  /-- Devices to follow; all of them if there are none. -/
  devices : List String := []
  registers : Selection := {}
  /-- Whether the current state comes before live updates. -/
  sendInitial : Bool := false

structure GatewayConfig where
  state : StoreConfig := {}
  commands : StoreConfig := .named "commands"
  /-- For the catalog of every device, which bears the name of the device. -/
  catalog : CatalogConfig := {}
  devices : List DeviceConfig := []
  consumers : List ConsumerConfig := []

namespace DeviceConfig

def device (c : DeviceConfig) : Device :=
  let d := (Device.ofKind c.name c.kind).withPollInterval
    (c.pollInterval.toNat * Device.nanosecondsPerMillisecond)
  match c.variance with
  | some variance => d.withVariance variance
  | none => d

end DeviceConfig

/-- What is wrong with a configuration. -/
inductive ConfigFault
  | settings (cause : Error)
  | blankDevice
  | repeatedDevice (name : String)
  | noInterval (device : String)
  | badVariance (device : String)
  | repeatedConsumer (name : String)
  | unknownDevice (consumer device : String)
  deriving DecidableEq

namespace ConfigFault

def message : ConfigFault → String
  | settings cause => cause.message
  | blankDevice => "device name must not be empty"
  | repeatedDevice name => "duplicate device name: " ++ name
  | noInterval device => "device " ++ device ++ ": poll_interval_ms must be at least 1"
  | badVariance device => "device " ++ device ++ ": variance must be a non-negative number"
  | repeatedConsumer name => "duplicate consumer name: " ++ name
  | unknownDevice consumer device => "consumer " ++ consumer ++ ": unknown device " ++ device

end ConfigFault

namespace DeviceConfig

def isVariance (x : Float) : Bool :=
  (Dyadic.ofFloat? x).isSome && !(x < 0.0)

/-- The rules for a device that comes after those named in `seen`. -/
def validate (c : DeviceConfig) (seen : List String) : Except ConfigFault Unit :=
  if (Text.trim c.name).isEmpty then .error .blankDevice
  else if seen.contains c.name then .error (.repeatedDevice c.name)
  else if c.pollInterval = 0 then .error (.noInterval c.name)
  else if c.variance.any fun x => !isVariance x then .error (.badVariance c.name)
  else .ok ()

def validateAll : List DeviceConfig → List String → Except ConfigFault Unit
  | [], _ => .ok ()
  | c :: rest, seen => do
    c.validate seen
    validateAll rest (c.name :: seen)

end DeviceConfig

namespace ConsumerConfig

/-- The rules for a consumer that comes after those named in `seen`. -/
def validate (c : ConsumerConfig) (devices seen : List String) : Except ConfigFault Unit :=
  if seen.contains c.name then .error (.repeatedConsumer c.name)
  else
    match c.devices.find? fun d => !devices.contains d with
    | some device => .error (.unknownDevice c.name device)
    | none => .ok ()

def validateAll (devices : List String) :
    List ConsumerConfig → List String → Except ConfigFault Unit
  | [], _ => .ok ()
  | c :: rest, seen => do
    c.validate devices seen
    validateAll devices rest (c.name :: seen)

/-- The values a consumer asks for. -/
def filter (c : ConsumerConfig) : ValueFilter :=
  let registers := ValueFilter.selection c.registers
  if c.devices.isEmpty then registers
  else .and (.test fun v => c.devices.contains v.device) registers

end ConsumerConfig

namespace GatewayConfig

/-- Stores and catalog first, then devices, then consumers. -/
def validate (c : GatewayConfig) : Except ConfigFault Unit := do
  c.state.validate.mapError .settings
  c.commands.validate.mapError .settings
  c.catalog.validate.mapError .settings
  DeviceConfig.validateAll c.devices []
  ConsumerConfig.validateAll (c.devices.map DeviceConfig.name) c.consumers []

/-- The configuration under an environment, which governs the state store only. -/
def override (c : GatewayConfig) (lookup : String → Option String) : Except Error GatewayConfig :=
  (c.state.override lookup).map fun state => { c with state }

end GatewayConfig

/-! ## Documents -/

namespace DeviceConfig

def fieldNames : List String :=
  ["name", "kind", "poll_interval_ms", "variance"]

def ofDocument? (format : Format) (d : Document) : Option DeviceConfig := do
  let record ← Record.of? format fieldNames d
  let name ← record.required? "name" Document.string?
  let kind ← record.required? "kind" (Document.constant? format DeviceKind.constants)
  let pollInterval ← record.withDefault? "poll_interval_ms" Document.word? 1000
  let variance ← record.withDefault? "variance" (Document.optional? Document.number?) none
  return { name, kind, pollInterval, variance }

end DeviceConfig

namespace ConsumerConfig

def fieldNames : List String :=
  ["name", "devices", "registers", "send_initial"]

def ofDocument? (format : Format) (d : Document) : Option ConsumerConfig := do
  let record ← Record.of? format fieldNames d
  let name ← record.required? "name" Document.string?
  let devices ← record.withDefault? "devices" Document.strings? []
  let registers ← record.withDefault? "registers" (Selection.ofDocument? format) {}
  let sendInitial ← record.withDefault? "send_initial" Document.boolean? false
  return { name, devices, registers, sendInitial }

end ConsumerConfig

namespace GatewayConfig

def fieldNames : List String :=
  ["state_storage", "command_storage", "register_db", "devices", "consumers"]

/-- Every field may be missing. A command store that is there without a name has the name that
every store has by default. -/
def ofDocument? (format : Format) (d : Document) : Option GatewayConfig := do
  let base : GatewayConfig := {}
  let record ← Record.of? format fieldNames d
  let state ← record.withDefault? "state_storage" (StoreConfig.ofDocument? format) base.state
  let commands ←
    record.withDefault? "command_storage" (StoreConfig.ofDocument? format) base.commands
  let catalog ← record.withDefault? "register_db" (CatalogConfig.ofDocument? format) base.catalog
  let devices ←
    record.withDefault? "devices" (Document.list? (DeviceConfig.ofDocument? format)) []
  let consumers ←
    record.withDefault? "consumers" (Document.list? (ConsumerConfig.ofDocument? format)) []
  return { state, commands, catalog, devices, consumers }

end GatewayConfig

end Telemetry
