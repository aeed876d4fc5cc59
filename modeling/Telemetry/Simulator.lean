import Telemetry.Keyed
import Telemetry.Site

/-!
# Simulators

A simulator runs a number of devices on a site. All of them report into one store and take their
commands from another; each announces its registers in the catalog that bears its name, so devices
of one name share a catalog.

## Main definitions

* `Simulator`: devices, catalogs and stores.
* `Simulator.addDevice`, `Simulator.addDeviceWithCatalog`: more devices.
* `Simulator.start`: one task for each device.
* `Fleet.simulator`: a simulator of a whole fleet.
-/

namespace Telemetry

structure Simulator where
  /-- The number of the store for readings. -/
  state : Nat
  /-- The number of the store for commands. -/
  commands : Nat
  devices : List Device := []
  /-- The numbers of the catalogs, by device name. -/
  catalogs : Keyed (Prod.fst : String × Nat → String) := .empty

namespace Simulator

/-- A simulator without devices. It holds both stores. -/
def create (state commands : Nat) (x : Site) : Simulator × Site :=
  ({ state, commands }, (x.storeAct state .retain).storeAct commands .retain)

def catalog? (m : Simulator) (device : String) : Option Nat :=
  (m.catalogs.find? device).map Prod.snd

/-- Adds a device, with a catalog unless there is one for its name. -/
def addDevice (m : Simulator) (d : Device) (x : Site) : Simulator × Site :=
  let m := { m with devices := m.devices ++ [d] }
  match m.catalog? d.name with
  | some _ => (m, x)
  | none =>
    let (n, x) := x.addCatalog (.ofConfig { name := d.name })
    ({ m with catalogs := m.catalogs.insert (d.name, n) }, x)

/-- Adds devices one after the other. -/
def addDevices (m : Simulator) (devices : List Device) (x : Site) : Simulator × Site :=
  devices.foldl (fun (m, x) d => m.addDevice d x) (m, x)

/-- Adds a device and the catalog for its name, which takes the place of an earlier one. -/
def addDeviceWithCatalog (m : Simulator) (d : Device) (config : CatalogConfig) (x : Site) :
    Simulator × Site :=
  let x := match m.catalog? d.name with
    | some n => x.catalogAct n .release
    | none => x
  let (n, x) := x.addCatalog (.ofConfig config)
  ({ m with
    devices := m.devices ++ [d]
    catalogs := m.catalogs.insert (d.name, n) }, x)

/-- Starts every device, in order. All of them end with the token. -/
def start (m : Simulator) (token : Token) (x : Site) : List Nat × Site :=
  m.devices.foldl (fun (tasks, x) d =>
    match m.catalog? d.name with
    | none => (tasks, x)
    | some catalog =>
      let (role, call) := Site.Role.ofDevice d ⟨m.state, m.commands, catalog, token⟩ Site.stamp
      let (n, x) := x.spawn role call
      (tasks ++ [n], x)) ([], x)

end Simulator

/-- A simulator of the devices that were built. -/
def Fleet.simulator (f : Fleet) (state commands : Nat) (x : Site) : Simulator × Site :=
  let (m, x) := Simulator.create state commands x
  m.addDevices f.devices x

end Telemetry
