import Telemetry.Filter
import Telemetry.Queue
import Telemetry.Roster

/-!
# Stores

A store keeps the latest value of each key. One owner holds the state and the roster of subscribers;
clients reach it through two bounded queues, one for values and one for requests. The owner takes
from either queue as it likes. Before it serves a request it applies the values that wait at that
moment, at most as many as the input queue can hold, so every value that was accepted before the
request was sent counts in the answer. A value that is the same as the stored one changes
nothing; any other takes its place and is delivered to all subscribers in turn.

Each function below is one indivisible step of one party. Which party goes next, and which of its
steps it takes, is left open here.

## Main definitions

* `Store`: queues, state, roster and owner.
* `Store.Action`, `Store.act?`: the steps.
* `Store.advance?`: the owner under a fixed choice of steps.
-/

namespace Telemetry

/-- What a client asks the owner. -/
inductive Request
  /-- The accepted part of the state. -/
  | snapshot (filter : ValueFilter)
  /-- Accepted updates from now on, with or without the accepted part of the state before them. -/
  | subscribe (filter : ValueFilter) (replay : Bool) (token : Token)
  /-- Nothing but an answer. -/
  | wait
  | stats

structure Stats where
  received : Nat
  applied : Nat
  suppressed : Nat
  dropped : Nat
  keys : Nat
  subscriptions : Nat
  deriving DecidableEq, Repr

inductive Reply
  | values (values : List Value)
  | subscribed (id : Nat) (token : Token)
  | done
  | stats (stats : Stats)

/-- Those who send requests: clients, and for each subscription one who waits for its end. -/
inductive Party
  | client (n : Nat)
  | watcher (id : Nat)
  deriving DecidableEq, Repr

inductive Message
  | ask (client : Nat) (request : Request)
  /-- Strikes a subscriber off the roster. -/
  | unsubscribe (id : Nat)

/-- What the owner is doing. -/
inductive Activity
  | idle
  /-- Applies at most `left` more values before it serves the message. -/
  | draining (message : Message) (left : Nat)
  /-- Delivers an update, then goes back to draining or is idle. -/
  | delivering (d : Delivery Value) (after : Option (Message × Nat))
  /-- Nobody holds the store any longer. -/
  | stopped
  /-- A queue that was asked for is too large. -/
  | dead

structure Store where
  config : StoreConfig
  /-- How many clients hold the store. -/
  handles : Nat := 1
  input : Queue Nat Value
  control : Queue Party Message := { capacity := controlCapacity }
  activity : Activity := .idle
  state : Keyed Value.key := .empty
  /-- Subscribers are numbered from one. -/
  roster : Roster Value := { nextId := 1 }
  received : Nat := 0
  applied : Nat := 0
  suppressed : Nat := 0
  /-- Clients whose request is in the queue or being served. -/
  awaiting : List Nat := []
  /-- Answers that were given and not yet taken. -/
  replies : List (Nat × Reply) := []
  /-- Subscriptions whose end somebody waits for. -/
  watchers : List (Nat × Token) := []

namespace Store

/-- A store without values; none if its input queue is too large. -/
def ofConfig? (config : StoreConfig) : Option Store :=
  if config.inputCapacity.toNat ≤ queueLimit then
    some { config, input := { capacity := config.inputCapacity.toNat } }
  else none

/-- The owner is gone, and both queues with it. -/
def isOver (s : Store) : Bool :=
  match s.activity with
  | .stopped | .dead => true
  | _ => false

/-- How a store presents itself. -/
def description (s : Store) : String :=
  "ValueStorage \x7b name: " ++ Text.quote s.config.name ++ " \x7d"

def closed (s : Store) : Error :=
  .closed s.config.name

def stats (s : Store) : Stats where
  received := s.received
  applied := s.applied
  suppressed := s.suppressed
  dropped := s.roster.dropped
  keys := s.state.size
  subscriptions := s.roster.subscribers.length

/-- The accepted part of the state, in ascending order of keys. -/
def snapshot (s : Store) (filter : ValueFilter) : List Value :=
  s.state.items.filter filter.accepts

/-! ## Clients -/

def fill (client : Nat) (v : Value) (s : Store) : Store :=
  { s with input := s.input.join client v }

def ask (client : Nat) (request : Request) (s : Store) : Store :=
  { s with control := s.control.join (.client client) (.ask client request) }

/-- From the line into the queue of requests. -/
def enter? (party : Party) (s : Store) : Option Store :=
  if s.isOver then none
  else
    (s.control.enter? party).map fun control =>
      match party with
      | .client n => { s with control, awaiting := s.awaiting ++ [n] }
      | .watcher _ => { s with control }

/-- Takes back whatever a client has under way. The reader of a subscription that was granted and
not handed over is gone. -/
def abandon (client : Nat) (s : Store) : Store :=
  let roster := match List.lookup client s.replies with
    | some (.subscribed id _) => s.roster.close id
    | _ => s.roster
  { s with
    input := s.input.leave client
    control := s.control.leave (.client client)
    awaiting := s.awaiting.filter (· != client)
    replies := s.replies.filter (·.1 != client)
    roster }

/-- Takes the answer for a client. Somebody waits for the end of a subscription from then on. -/
def collect? (client : Nat) (s : Store) : Option (Reply × Store) :=
  (List.lookup client s.replies).map fun reply =>
    let s := { s with replies := s.replies.filter (·.1 != client) }
    match reply with
    | .subscribed id token => (reply, { s with watchers := s.watchers ++ [(id, token)] })
    | _ => (reply, s)

/-- Whether a client has something under way. -/
def isPending (client : Nat) (s : Store) : Bool :=
  s.input.waits client || s.control.waits (.client client) || s.awaiting.contains client

/-- The result with which an operation of a client ends now: its value enters the queue, its answer
is there, or the owner is gone. -/
def resolve? (client : Nat) (s : Store) : Option (Except Error Reply × Store) :=
  match s.collect? client with
  | some (reply, s) => some (.ok reply, s)
  | none =>
    if s.isOver then
      if s.isPending client then some (.error s.closed, s.abandon client) else none
    else (s.input.enter? client).map fun input => (.ok .done, { s with input })

/-! ## Watchers -/

/-- Somebody holds the store, be it only to have a subscriber struck off. -/
def isHeld (s : Store) : Bool :=
  0 < s.handles || !s.control.waiting.isEmpty

/-- A cancelled subscription is to be struck off, if somebody holds the store. -/
def wake? (signals : Signals) (id : Nat) (s : Store) : Option Store :=
  match s.watchers.find? fun w => w.1 == id with
  | none => none
  | some (_, token) =>
    if signals.isCancelled token then
      let s := { s with watchers := s.watchers.filter (·.1 != id) }
      if s.isHeld && !s.isOver then
        some { s with control := s.control.join (.watcher id) (.unsubscribe id) }
      else some s
    else none

/-- Nobody is there to strike a subscriber off. -/
def disperse? (id : Nat) (s : Store) : Option Store :=
  if s.isOver && s.control.waits (.watcher id) then
    some { s with control := s.control.leave (.watcher id) }
  else none

/-! ## Owner -/

/-- Steps of the owner. -/
inductive Move
  | takeValue
  | takeRequest
  | drain
  | deliver
  | giveUp
  | stop
  deriving DecidableEq, Repr

def resume (after : Option (Message × Nat)) : Activity :=
  match after with
  | none => .idle
  | some (message, left) => .draining message left

/-- Applies a value. One that is the same as the stored value is suppressed. -/
def apply (v : Value) (after : Option (Message × Nat)) (s : Store) : Store :=
  let s := { s with received := s.received + 1 }
  if (s.state.find? v.key).any fun stored => stored.same v then
    { s with suppressed := s.suppressed + 1, activity := resume after }
  else
    { s with
      applied := s.applied + 1
      state := s.state.insert v
      activity := .delivering (s.roster.deliver v) after }

/-- An answer for a client, unless the client is gone. -/
def answer (client : Nat) (reply : Reply) (s : Store) : Store :=
  if s.awaiting.contains client then
    { s with
      awaiting := s.awaiting.filter (· != client)
      replies := s.replies ++ [(client, reply)] }
  else s

/-- The owner breaks down. What is in the queues is lost; what was delivered can still be read. -/
def die (s : Store) : Store :=
  { s with
    activity := .dead
    input := { s.input with items := [] }
    control := { s.control with items := [] }
    roster := s.roster.clear }

/-- A new subscriber, unless the client is gone; then only a number is used up. The room for the
replay and for live updates is added without wrapping around, so a sum beyond the range of a machine
word counts as too large. -/
def subscribe (client : Nat) (filter : ValueFilter) (replay : Bool) (token : Token) (s : Store) :
    Store :=
  let initial := if replay then s.snapshot filter else []
  let extra := s.config.subscriberCapacity.toNat
  if queueLimit < initial.length + extra then s.die
  else if s.awaiting.contains client then
    let id := s.roster.nextId
    { s with roster := s.roster.enroll filter.accepts token initial extra }.answer client
      (.subscribed id token)
  else { s with roster := s.roster.skipId }

def serve (message : Message) (s : Store) : Store :=
  match message with
  | .ask client (.snapshot filter) => s.answer client (.values (s.snapshot filter))
  | .ask client (.subscribe filter replay token) => s.subscribe client filter replay token
  | .ask client .wait => s.answer client .done
  | .ask client .stats => s.answer client (.stats s.stats)
  | .unsubscribe id => { s with roster := s.roster.remove [id] }

def takeValue? (s : Store) : Option Store :=
  match s.activity with
  | .idle => s.input.pop?.map fun (v, input) => { s with input }.apply v none
  | _ => none

def takeRequest? (s : Store) : Option Store :=
  match s.activity with
  | .idle => s.control.pop?.map fun (message, control) =>
    { s with control, activity := .draining message s.config.inputCapacity.toNat }
  | _ => none

/-- Applies one more value, or serves the message when none waits or enough were applied. -/
def drain? (s : Store) : Option Store :=
  match s.activity with
  | .draining message left =>
    match left, s.input.pop? with
    | left + 1, some (v, input) => some ({ s with input }.apply v (some (message, left)))
    | _, _ => some ({ s with activity := .idle }.serve message)
  | _ => none

/-- Serves one more subscriber, or ends the delivery. -/
def deliver? (signals : Signals) (s : Store) : Option Store :=
  match s.activity with
  | .delivering d after =>
    match s.roster.finish? d with
    | some roster => some { s with roster, activity := resume after }
    | none =>
      (s.roster.serve? signals s.config.overflow d).map fun (d, roster) =>
        { s with roster, activity := .delivering d after }
  | _ => none

def giveUp? (signals : Signals) (s : Store) : Option Store :=
  match s.activity with
  | .delivering d after =>
    (d.giveUp? signals).map fun d => { s with activity := .delivering d after }
  | _ => none

/-- Nothing is queued, and nobody is left who could queue anything. -/
def mayStop (s : Store) : Bool :=
  s.handles == 0 && s.input.items.isEmpty && s.input.waiting.isEmpty && s.control.items.isEmpty &&
    s.control.waiting.isEmpty

/-- Once nobody holds the store and all is done, the owner ends every subscription. -/
def stop? (signals : Signals) (s : Store) : Option (Signals × Store) :=
  match s.activity with
  | .idle =>
    if s.mayStop then
      some (signals.fireAll (s.roster.subscribers.map Subscriber.token),
        { s with activity := .stopped, roster := s.roster.clear })
    else none
  | _ => none

def move? (signals : Signals) (m : Move) (s : Store) : Option (Signals × Store) :=
  match m with
  | .takeValue => s.takeValue?.map (signals, ·)
  | .takeRequest => s.takeRequest?.map (signals, ·)
  | .drain => s.drain?.map (signals, ·)
  | .deliver => (s.deliver? signals).map (signals, ·)
  | .giveUp => (s.giveUp? signals).map (signals, ·)
  | .stop => s.stop? signals

/-- Values come before requests, and room in a queue before the end of a subscription. -/
def preference : List Move :=
  [.takeValue, .takeRequest, .drain, .deliver, .giveUp, .stop]

/-- The owner's next step, if it can take one. -/
def advance? (signals : Signals) (s : Store) : Option (Signals × Store) :=
  preference.findSome? fun m => s.move? signals m

/-! ## Readers -/

/-- What a reader gets. -/
inductive Delivered (α : Type)
  | item (a : α)
  /-- Nothing will come any more. -/
  | ended

/-- The next item of a subscription. One that is cancelled has ended, whatever is in its queue. -/
def read? (signals : Signals) (id : Nat) (token : Token) (s : Store) :
    Option (Delivered Value × Store) :=
  if signals.isCancelled token then some (.ended, s)
  else
    match s.roster.read? id with
    | some (v, roster) => some (.item v, { s with roster })
    | none => if s.roster.isExhausted id then some (.ended, s) else none

def close (id : Nat) (s : Store) : Store :=
  { s with roster := s.roster.close id }

/-! ## All steps -/

inductive Action
  | fill (client : Nat) (v : Value)
  | ask (client : Nat) (request : Request)
  | enter (party : Party)
  | resolve (client : Nat)
  | abandon (client : Nat)
  | wake (id : Nat)
  | disperse (id : Nat)
  | owner (m : Move)
  | read (id : Nat) (token : Token)
  | close (id : Nat)
  | retain
  | release

/-- What a step shows to the one who takes it. -/
inductive Output
  | nothing
  | result (r : Except Error Reply)
  | delivered (d : Delivered Value)

/-- The effect of a step, if it can be taken. -/
def act? (signals : Signals) (a : Action) (s : Store) : Option (Signals × Store × Output) :=
  match a with
  | .fill client v => some (signals, s.fill client v, .nothing)
  | .ask client request => some (signals, s.ask client request, .nothing)
  | .enter party => (s.enter? party).map fun s => (signals, s, .nothing)
  | .resolve client => (s.resolve? client).map fun (r, s) => (signals, s, .result r)
  | .abandon client => some (signals, s.abandon client, .nothing)
  | .wake id => (s.wake? signals id).map fun s => (signals, s, .nothing)
  | .disperse id => (s.disperse? id).map fun s => (signals, s, .nothing)
  | .owner m => (s.move? signals m).map fun (signals, s) => (signals, s, .nothing)
  | .read id token => (s.read? signals id token).map fun (d, s) => (signals, s, .delivered d)
  | .close id => some (signals, s.close id, .nothing)
  | .retain => some (signals, { s with handles := s.handles + 1 }, .nothing)
  | .release => some (signals, { s with handles := s.handles - 1 }, .nothing)

end Store

end Telemetry
