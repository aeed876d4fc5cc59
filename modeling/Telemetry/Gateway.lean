import Telemetry.Gateway.Config
import Telemetry.Simulator

/-!
# Gateways

A gateway runs the devices of a configuration and forwards their values to consumers. Each consumer
follows the state store and the catalogs of its devices. When its time is over the gateway ends
everything and reports what went through.

## Main definitions

* `Gateway`, `Gateway.ofConfig?`: the parts of a configuration, set up on a site.
* `Gateway.start`, `Gateway.Running.stop`: a run.
* `Gateway.Report`: what is reported at the end.
-/

namespace Telemetry

structure Gateway where
  site : Site
  simulator : Simulator
  consumers : List ConsumerConfig

namespace Gateway

structure Report where
  state : Stats
  commands : Stats
  /-- For each consumer how many values it got. -/
  forwarded : List (String × Nat)

inductive Failure
  | config (fault : ConfigFault)
  | store (e : Error)
  /-- A queue that was asked for is too large. -/
  | tooLarge
  deriving DecidableEq

/-- Stores, catalogs and devices of a configuration; none if an input queue is too large. -/
def ofConfig? (c : GatewayConfig) : Option Gateway := do
  let state ← Store.ofConfig? c.state
  let commands ← Store.ofConfig? c.commands
  let (state, x) := Site.addStore state {}
  let (commands, x) := x.addStore commands
  let (simulator, x) := Simulator.create state commands x
  let (simulator, x) := c.devices.foldl (fun (m, x) d =>
    m.addDeviceWithCatalog d.device { c.catalog with name := d.name } x) (simulator, x)
  return { site := x, simulator, consumers := c.consumers }

/-- One call, as soon as it is answered; none if it never is. -/
def request? (call : Site.Call) (x : Site) : Option (Site.Response × Site) :=
  let (n, x) := x.spawn (.script [] []) call
  let x := x.settle
  match x.result? n with
  | some (.responses [r]) => some (r, x)
  | _ => none

/-- The subscription that a call opens. -/
def open? (call : Site.Call) (x : Site) : Except Failure (Subscription × Site) :=
  match request? call x with
  | some (.subscribed s, x) => .ok (s, x)
  | some (.stored (.error e), _) => .error (.store e)
  | _ => .error .tooLarge

/-- The catalogs that a consumer follows, in the order of device names. -/
def followed (m : Simulator) (c : ConsumerConfig) : List Nat :=
  (m.catalogs.items.filter fun e => c.devices.isEmpty || c.devices.contains e.1).map Prod.snd

/-- Opens the subscriptions of a consumer and starts to forward. The result is the task. -/
def forward (m : Simulator) (token : Token) (c : ConsumerConfig) (x : Site) :
    Except Failure (Nat × Site) := do
  let (values, x) ← open? (.subscribe m.state c.filter c.sendInitial token) x
  let (registers, x) ← (followed m c).foldlM (fun (subscriptions, x) catalog => do
    let (s, x) ← open? (.follow catalog (.selection c.registers) token) x
    return (subscriptions ++ [s], x)) (([] : List Subscription), x)
  return x.spawn (.forwarder values registers 0) (.receiveAny values registers)

def forwardAll (m : Simulator) (token : Token) (cs : List ConsumerConfig) (x : Site) :
    Except Failure (List (String × Nat) × Site) :=
  cs.foldlM (fun (tasks, x) c => do
    let (n, x) ← forward m token c x
    return (tasks ++ [(c.name, n)], x)) ([], x)

def statsOf (store : Nat) (x : Site) : Except Failure (Stats × Site) :=
  match request? (.ask store .stats) x with
  | some (.stored (.ok (.stats stats)), x) => .ok (stats, x)
  | some (.stored (.error e), _) => .error (.store e)
  | _ => .error .tooLarge

/-- How many values a task forwarded until it ended. -/
def countOf (x : Site) (n : Nat) : Nat :=
  match x.result? n with
  | some (.count count) => count
  | _ => 0

/-- A gateway from its start to the end of its token. -/
structure Running where
  site : Site
  simulator : Simulator
  token : Token
  /-- The task that forwards to each consumer. -/
  forwarders : List (String × Nat)

/-- Consumers come first, so that they miss nothing. -/
def start (g : Gateway) : Except Failure Running := do
  let (token, x) := g.site.newToken
  let (forwarders, x) ← forwardAll g.simulator token g.consumers x
  let (_, x) := g.simulator.start token x
  return { site := x, simulator := g.simulator, token, forwarders }

/-- Ends a gateway that ran for a number of nanoseconds. -/
def Running.stop (g : Running) (nanoseconds : Nat) : Except Failure Report := do
  let x := ((g.site.advance nanoseconds).fire g.token).settle
  let (state, x) ← statsOf g.simulator.state x
  let (commands, x) ← statsOf g.simulator.commands x
  return { state, commands, forwarded := g.forwarders.map fun f => (f.1, countOf x f.2) }

/-- Starts a configuration, if it is well-formed. -/
def startConfig (c : GatewayConfig) : Except Failure Running := do
  c.validate.mapError .config
  match ofConfig? c with
  | some g => g.start
  | none => .error .tooLarge

end Gateway

end Telemetry
