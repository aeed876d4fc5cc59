import Telemetry.Catalog
import Telemetry.Device.Loop

/-!
# Tasks

A task does one thing after another and waits for each to be done. What it waits for is a call; what
it is told is a response; what it does next depends on its role.

## Main definitions

* `Subscription`, `Call`, `Response`: what tasks hold, ask and get.
* `Role`, `Role.resume`: what tasks do.
-/

namespace Telemetry

/-- Where the items of a subscription come from: a store or a catalog, by number. -/
inductive Feed
  | store (n : Nat)
  | catalog (n : Nat)
  deriving DecidableEq, Repr

/-- The reading end of a subscription. -/
structure Subscription where
  feed : Feed
  id : Nat
  token : Token
  /-- A subscription that was cancelled before it was made has no queue. -/
  isOpen : Bool := true
  deriving DecidableEq, Repr

inductive Item
  | value (v : Value)
  | register (r : Register)

namespace Site

/-- What a task waits for. Stores and catalogs are given by number. -/
inductive Call
  | fill (store : Nat) (v : Value)
  | ask (store : Nat) (request : Request)
  /-- A subscription below a token. -/
  | subscribe (store : Nat) (filter : ValueFilter) (replay : Bool) (parent : Token)
  | look (catalog : Nat) (query : Catalog.Query)
  | add (catalog : Nat) (registers : List Register)
  | follow (catalog : Nat) (filter : RegisterFilter) (parent : Token)
  | receive (s : Subscription)
  /-- The end of a token, a time, or an item. -/
  | await (token : Token) (due : Nat) (s : Subscription)
  /-- An item from any of several subscriptions; the first one ends them all. -/
  | receiveAny (first : Subscription) (others : List Subscription)

/-- The stores that a call goes to. -/
def Call.stores : Call → List Nat
  | fill n _ | ask n _ | subscribe n _ _ _ => [n]
  | _ => []

/-- The catalogs that a call goes to. -/
def Call.catalogs : Call → List Nat
  | look n _ | add n _ | follow n _ _ => [n]
  | _ => []

inductive Response
  | stored (r : Except Error Reply)
  | catalog (r : Catalog.Reply)
  | subscribed (s : Subscription)
  | item (i : Item)
  | ended
  | tick
  | cancelled

/-- The stores and catalogs of a device, and the token that ends it. -/
structure Wiring where
  state : Nat
  commands : Nat
  catalog : Nat
  token : Token

inductive Role
  /-- Makes calls one after the other, up to the first that fails. -/
  | script (left : List Call) (responses : List Response)
  /-- Reads items until there are enough or no more. -/
  | collector (s : Subscription) (left : Option Nat) (items : List Item)
  | device (wiring : Wiring) (commands : Option Subscription) (loop : Device.Loop)
  /-- Counts values, and takes registers off their queues. -/
  | forwarder (values : Subscription) (registers : List Subscription) (count : Nat)

/-- What a task leaves behind. -/
inductive Result
  | responses (responses : List Response)
  | items (items : List Item) (ended : Bool)
  | device (e : Device.Ending)
  | count (n : Nat)

namespace Role

/-- The call by which a running device gets what it asks for. -/
def deviceCall (w : Wiring) (commands : Option Subscription) (d : Device) (stamp : Timestamp) :
    Device.Call → Call
  | .announce registers => .add w.catalog registers
  | .report v => .fill w.state v
  | .listen => .subscribe w.commands (.commandsFor d.name) true w.token
  | .consume command => .fill w.commands (command.toNull stamp)
  | .await due => .await w.token due
      (commands.getD ⟨.store w.commands, 0, w.token, false⟩)

/-- What a response means to a running device. -/
def deviceEvent : Response → Device.Event
  | .stored (.error e) => .failed e
  | .item (.value v) => .command v
  | .tick => .tick
  | .cancelled => .cancelled
  | _ => .done

/-- The next call after a response, or the result. Chance adds `noise` to readings. -/
def resume (noise : String → Float) (stamp : Timestamp) (now : Nat) (role : Role) (r : Response) :
    Role × Except Result Call :=
  match role with
  | script left responses =>
    let responses := responses ++ [r]
    match r, left with
    | .stored (.error _), _ | _, [] => (script left responses, .error (.responses responses))
    | _, call :: left => (script left responses, .ok call)
  | collector s left items =>
    match r with
    | .item i =>
      let items := items ++ [i]
      let left := left.map (· - 1)
      if left = some 0 then (collector s left items, .error (.items items false))
      else (collector s left items, .ok (.receive s))
    | _ => (role, .error (.items items true))
  | device w commands loop =>
    let commands := match r with
      | .subscribed s => some s
      | _ => commands
    match loop.resume noise stamp now (deviceEvent r) with
    | (loop, .ok call) =>
      (device w commands loop, .ok (deviceCall w commands loop.device stamp call))
    | (loop, .error ending) => (device w commands loop, .error (.device ending))
  | forwarder values registers count =>
    match r with
    | .item (.value _) =>
      (forwarder values registers (count + 1), .ok (.receiveAny values registers))
    | .item (.register _) => (role, .ok (.receiveAny values registers))
    | _ => (role, .error (.count count))

/-- What a running device does first. -/
def ofDevice (d : Device) (w : Wiring) (stamp : Timestamp) : Role × Call :=
  let (loop, call) := Device.Loop.start d
  (device w none loop, deviceCall w none d stamp call)

/-- The subscriptions that end with the task. -/
def owned : Role → List Subscription
  | device _ commands _ => commands.toList
  | forwarder values registers _ => values :: registers
  | _ => []

/-- The stores that a task holds while it runs. -/
def stores : Role → Call → List Nat
  | device w _ _, _ => [w.state, w.commands]
  | script left _, call => (call :: left).flatMap Call.stores
  | _, call => call.stores

/-- The catalogs that a task holds while it runs. -/
def catalogs : Role → Call → List Nat
  | device w _ _, _ => [w.catalog]
  | script left _, call => (call :: left).flatMap Call.catalogs
  | _, call => call.catalogs

end Role

end Site

end Telemetry
