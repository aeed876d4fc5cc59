import Telemetry.Config
import Telemetry.Signal

/-!
# Subscribers and deliveries

A store and a catalog keep a roster of subscribers, in the order in which they came. Each has a
bounded queue of its own between the deliverer and the reader. An item is delivered to one
subscriber after the other; those that turn out to be gone are struck off afterwards.

A queue outlives its entry in the roster: what is in it can be read, unless the subscription is
cancelled.

## Main definitions

* `Subscriber`, `Outbox`, `Roster`: who gets what.
* `Delivery`, `Roster.serve?`, `Delivery.giveUp?`: one item on its way to all.
-/

namespace Telemetry

structure Subscriber (α : Type) where
  id : Nat
  accepts : α → Bool
  token : Token

/-- The queue between the deliverer and one reader. -/
structure Outbox (α : Type) where
  capacity : Nat
  items : List α
  /-- The reader is gone. -/
  closed : Bool := false
  /-- Nothing will be added. -/
  finished : Bool := false

namespace Outbox

variable {α : Type}

def hasRoom (b : Outbox α) : Bool :=
  b.items.length < b.capacity

def push (b : Outbox α) (a : α) : Outbox α :=
  { b with items := b.items ++ [a] }

end Outbox

structure Roster (α : Type) where
  subscribers : List (Subscriber α) := []
  /-- Queues by the identifier of the subscriber. -/
  outboxes : List (Nat × Outbox α) := []
  nextId : Nat
  /-- Deliveries left out because a queue was full. -/
  dropped : Nat := 0

namespace Roster

variable {α : Type}

def outbox? (r : Roster α) (id : Nat) : Option (Outbox α) :=
  List.lookup id r.outboxes

def updateOutbox (r : Roster α) (id : Nat) (f : Outbox α → Outbox α) : Roster α :=
  { r with outboxes := r.outboxes.map fun e => if e.1 = id then (id, f e.2) else e }

def push (r : Roster α) (id : Nat) (a : α) : Roster α :=
  r.updateOutbox id (·.push a)

def isClosed (r : Roster α) (id : Nat) : Bool :=
  (r.outbox? id).any Outbox.closed

def hasRoom (r : Roster α) (id : Nat) : Bool :=
  (r.outbox? id).any Outbox.hasRoom

/-- The reader goes away; what is in its queue is lost. -/
def close (r : Roster α) (id : Nat) : Roster α :=
  r.updateOutbox id fun b => { b with items := [], closed := true }

/-- Strikes off subscribers. -/
def remove (r : Roster α) (ids : List Nat) : Roster α :=
  { r with
    subscribers := r.subscribers.filter fun s => !ids.contains s.id
    outboxes := r.outboxes.map fun e =>
      if ids.contains e.1 then (e.1, { e.2 with finished := true }) else e }

/-- Strikes off everybody. -/
def clear (r : Roster α) : Roster α :=
  { r with
    subscribers := []
    outboxes := r.outboxes.map fun e => (e.1, { e.2 with finished := true }) }

/-- A new subscriber, whose queue holds the replay and has room for `extra` items more. -/
def enroll (r : Roster α) (accepts : α → Bool) (token : Token) (replay : List α) (extra : Nat) :
    Roster α :=
  { r with
    subscribers := r.subscribers ++ [⟨r.nextId, accepts, token⟩]
    outboxes := r.outboxes ++ [(r.nextId, { capacity := replay.length + extra, items := replay })]
    nextId := r.nextId + 1 }

/-- An identifier is used up without a subscriber. -/
def skipId (r : Roster α) : Roster α :=
  { r with nextId := r.nextId + 1 }

/-- The next item for a reader, and the roster without it. -/
def read? (r : Roster α) (id : Nat) : Option (α × Roster α) :=
  match r.outbox? id with
  | some { items := a :: rest, .. } =>
    some (a, r.updateOutbox id fun b => { b with items := rest })
  | _ => none

/-- Nothing is left to read and nothing will come. -/
def isExhausted (r : Roster α) (id : Nat) : Bool :=
  (r.outbox? id).all fun b => b.items.isEmpty && b.finished

end Roster

/-- One item on its way to the subscribers. -/
structure Delivery (α : Type) where
  item : α
  /-- Subscribers still to be served. -/
  rest : List (Subscriber α)
  /-- The first of them was found alive and interested, and its queue was full. -/
  blocked : Bool := false
  /-- Subscribers found to be gone. -/
  gone : List Nat := []

namespace Delivery

variable {α : Type}

def next (d : Delivery α) : Delivery α :=
  { d with rest := d.rest.tail, blocked := false }

def strike (d : Delivery α) (id : Nat) : Delivery α :=
  { d.next with gone := d.gone ++ [id] }

/-- A blocked delivery passes over a subscriber that is cancelled meanwhile. -/
def giveUp? (signals : Signals) (d : Delivery α) : Option (Delivery α) :=
  match d.rest with
  | [] => none
  | s :: _ =>
    if d.blocked && signals.isCancelled s.token then some (d.strike s.id) else none

end Delivery

namespace Roster

variable {α : Type}

/-- Starts a delivery to everybody on the roster. -/
def deliver (r : Roster α) (a : α) : Delivery α :=
  { item := a, rest := r.subscribers }

def isGone (signals : Signals) (r : Roster α) (s : Subscriber α) : Bool :=
  signals.isCancelled s.token || r.isClosed s.id

/-- Serves the first subscriber of a delivery: strikes it if it is gone, passes over it if it is not
interested, or puts the item into its queue. If the queue is full the item is dropped for this
subscriber or the delivery is blocked. A blocked delivery goes on when there is room or the
reader is gone. -/
def serve? (signals : Signals) (overflow : Overflow) (d : Delivery α) (r : Roster α) :
    Option (Delivery α × Roster α) :=
  match d.rest with
  | [] => none
  | s :: _ =>
    if d.blocked then
      if r.isClosed s.id then some (d.strike s.id, r)
      else if r.hasRoom s.id then some (d.next, r.push s.id d.item)
      else none
    else if r.isGone signals s then some (d.strike s.id, r)
    else if !s.accepts d.item then some (d.next, r)
    else if r.hasRoom s.id then some (d.next, r.push s.id d.item)
    else
      match overflow with
      | .dropNewest => some (d.next, { r with dropped := r.dropped + 1 })
      | .block => some ({ d with blocked := true }, r)

/-- A delivery is over when everybody was served; those that are gone are struck off. -/
def finish? (d : Delivery α) (r : Roster α) : Option (Roster α) :=
  if d.rest.isEmpty then some (r.remove d.gone) else none

end Roster

end Telemetry
