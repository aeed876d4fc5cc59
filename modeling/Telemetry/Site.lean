import Telemetry.Site.Task

/-!
# Sites

A site is a number of stores and catalogs with the tasks that use them, under one clock. One party
acts at a time: the owner of a store, a task, or somebody who waits for the end of a subscription. A
party that acts goes on until it has to wait; parties that can act stand in line and take turns in
the order in which they became able to.

Time passes only when nobody can act.

## Main definitions

* `Site`, `Site.Actor`: the whole and the parties.
* `Site.act?`: one step of a party.
* `Site.settle`: everybody acts until nobody can.
* `Site.advance`: time passes.
-/

namespace Telemetry

namespace Site

inductive Status
  /-- Its call has not been made. -/
  | ready (call : Call)
  /-- Its call is under way. -/
  | waiting (call : Call)
  | finished (result : Result)
  | aborted

structure Task where
  role : Role
  status : Status
  /-- The stores and catalogs it holds while it runs. -/
  stores : List Nat
  catalogs : List Nat

inductive Actor
  | owner (store : Nat)
  | valueWatcher (store id : Nat)
  | registerWatcher (catalog id : Nat)
  | task (n : Nat)
  deriving DecidableEq, Repr

end Site

structure Site where
  signals : Signals := {}
  stores : Array Store := #[]
  catalogs : Array Catalog := #[]
  tasks : Array Site.Task := #[]
  /-- Nanoseconds since the site was set up. -/
  clock : Nat := 0
  /-- Those who can act, in the order of their turns. -/
  turns : List Site.Actor := []

namespace Site

/-- Readings and switch reports on a site bear this time. -/
def stamp : Timestamp := ⟨0, 0⟩

/-- Chance adds nothing to readings on a site. -/
def noNoise : String → Float := fun _ => 0.0

/-! ## Parts -/

def addStore (s : Store) (x : Site) : Nat × Site :=
  (x.stores.size, { x with stores := x.stores.push s })

def addCatalog (c : Catalog) (x : Site) : Nat × Site :=
  (x.catalogs.size, { x with catalogs := x.catalogs.push c })

def newToken (x : Site) : Token × Site :=
  let (token, signals) := x.signals.root
  (token, { x with signals })

/-- A step at one of the stores. -/
def storeAct? (n : Nat) (a : Store.Action) (x : Site) : Option (Store.Output × Site) := do
  let s ← x.stores[n]?
  let (signals, s, output) ← s.act? x.signals a
  return (output, { x with signals, stores := x.stores.setIfInBounds n s })

/-- A step at one of the catalogs. -/
def catalogAct? (n : Nat) (a : Catalog.Action) (x : Site) : Option (Catalog.Output × Site) := do
  let c ← x.catalogs[n]?
  let (c, output) ← c.act? x.signals a
  return (output, { x with catalogs := x.catalogs.setIfInBounds n c })

def storeAct (n : Nat) (a : Store.Action) (x : Site) : Site :=
  ((x.storeAct? n a).map Prod.snd).getD x

def catalogAct (n : Nat) (a : Catalog.Action) (x : Site) : Site :=
  ((x.catalogAct? n a).map Prod.snd).getD x

/-! ## Subscriptions -/

/-- The next item of a subscription, or its end, if either is there. -/
def read? (s : Subscription) (x : Site) : Option (Response × Site) :=
  match s.feed with
  | .store n =>
    match x.storeAct? n (.read s.id s.token) with
    | some (.delivered (.item v), x) => some (.item (.value v), x)
    | some (_, x) => some (.ended, x)
    | none => none
  | .catalog n =>
    match x.catalogAct? n (.read s.id s.token) with
    | some (.delivered (.item r), x) => some (.item (.register r), x)
    | some (_, x) => some (.ended, x)
    | none => none

/-- The next item of a subscription, if it is there. -/
def tryRead (s : Subscription) (x : Site) : Option Item × Site :=
  match x.read? s with
  | some (.item i, x) => (some i, x)
  | _ => (none, x)

def fire (token : Token) (x : Site) : Site :=
  { x with signals := x.signals.fire token }

/-- Cancels a subscription and throws away what is in its queue. -/
def drop (s : Subscription) (x : Site) : Site :=
  let x := x.fire s.token
  if s.isOpen then
    match s.feed with
    | .store n => x.storeAct n (.close s.id)
    | .catalog n => x.catalogAct n (.close s.id)
  else x

/-! ## Tasks -/

def holdAll (t : Task) (x : Site) : Site :=
  let x := t.stores.foldl (fun x n => x.storeAct n .retain) x
  t.catalogs.foldl (fun x n => x.catalogAct n .retain) x

def releaseAll (t : Task) (x : Site) : Site :=
  let x := t.stores.foldl (fun x n => x.storeAct n .release) x
  t.catalogs.foldl (fun x n => x.catalogAct n .release) x

/-- A new task. It gets its turn after those who can act already. -/
def spawn (role : Role) (call : Call) (x : Site) : Nat × Site :=
  let t : Task := ⟨role, .ready call, role.stores call, role.catalogs call⟩
  let n := x.tasks.size
  (n, { x.holdAll t with tasks := x.tasks.push t, turns := x.turns ++ [.task n] })

def setTask (n : Nat) (t : Task) (x : Site) : Site :=
  { x with tasks := x.tasks.setIfInBounds n t }

/-- The task has its response: it makes its next call or ends. Readings that it takes now have some
noise and bear some time. -/
def respondWith (noise : String → Float) (time : Timestamp) (n : Nat) (t : Task) (r : Response)
    (x : Site) : Site :=
  match t.role.resume noise time x.clock r with
  | (role, .ok call) => x.setTask n { t with role, status := .ready call }
  | (role, .error result) =>
    let x := role.owned.foldl (fun x s => x.drop s) x
    (x.setTask n { t with role, status := .finished result }).releaseAll t

def respond (n : Nat) (t : Task) (r : Response) (x : Site) : Site :=
  x.respondWith noNoise stamp n t r

/-- A token for a new subscription, unless its parent is cancelled; then the subscription is over
before it begins. -/
def openBelow (feed : Feed) (parent : Token) (x : Site) : Except Subscription Token × Site :=
  let (token, signals) := x.signals.child parent
  let x := { x with signals }
  if x.signals.isCancelled token then (.error ⟨feed, 0, token, false⟩, x) else (.ok token, x)

/-- Makes a call. -/
def make (n : Nat) (t : Task) (call : Call) (x : Site) : Site :=
  let x := x.setTask n { t with status := .waiting call }
  match call with
  | .fill store v => x.storeAct store (.fill n v)
  | .ask store request => x.storeAct store (.ask n request)
  | .subscribe store filter replay parent =>
    match x.openBelow (.store store) parent with
    | (.error s, x) => x.respond n t (.subscribed s)
    | (.ok token, x) => x.storeAct store (.ask n (.subscribe filter replay token))
  | .look catalog query => x.catalogAct catalog (.ask n (.look query))
  | .add catalog registers => x.catalogAct catalog (.ask n (.add registers))
  | .follow catalog filter parent =>
    match x.openBelow (.catalog catalog) parent with
    | (.error s, x) => x.respond n t (.subscribed s)
    | (.ok token, x) => x.catalogAct catalog (.ask n (.subscribe filter token))
  | .receive _ => x
  | .await _ _ _ => x
  | .receiveAny _ _ => x

/-- A step of a task towards the answer of a store. -/
def storeStep? (n : Nat) (t : Task) (store : Nat) (x : Site) : Option Site :=
  match x.storeAct? store (.resolve n) with
  | some (.result (.ok (.subscribed id token)), x) =>
    some (x.respond n t (.subscribed ⟨.store store, id, token, true⟩))
  | some (.result r, x) => some (x.respond n t (.stored r))
  | _ => (x.storeAct? store (.enter (.client n))).map Prod.snd

/-- A step of a task towards the answer of a catalog. -/
def catalogStep? (n : Nat) (t : Task) (catalog : Nat) (x : Site) : Option Site :=
  match x.catalogAct? catalog (.resolve n) with
  | some (.reply (.subscribed id token), x) =>
    some (x.respond n t (.subscribed ⟨.catalog catalog, id, token, true⟩))
  | some (.reply r, x) => some (x.respond n t (.catalog r))
  | _ =>
    let steps : List Catalog.Action := [.begin n, .proceed n, .giveUp n]
    steps.findSome? fun a => (x.catalogAct? catalog a).map Prod.snd

/-- The first of several subscriptions that has an item; only the first one's end counts. -/
def readAny? (first : Subscription) (others : List Subscription) (x : Site) :
    Option (Response × Site) :=
  match x.read? first with
  | some result => some result
  | none => others.findSome? fun s =>
    match x.read? s with
    | some (.item i, x) => some (.item i, x)
    | _ => none

/-- What a device waits for. Its end comes before the next poll, and the poll before commands. -/
def awaited? (token : Token) (due : Nat) (s : Subscription) (x : Site) :
    Option (Response × Site) :=
  if x.signals.isCancelled token then some (.cancelled, x)
  else if due ≤ x.clock then some (.tick, x)
  else
    match x.read? s with
    | some (.item i, x) => some (.item i, x)
    | _ => none

def taskStep? (n : Nat) (x : Site) : Option Site :=
  match x.tasks[n]? with
  | none => none
  | some t =>
    match t.status with
    | .ready call => some (x.make n t call)
    | .waiting call =>
      match call with
      | .fill store _ | .ask store _ | .subscribe store _ _ _ => x.storeStep? n t store
      | .look catalog _ | .add catalog _ | .follow catalog _ _ => x.catalogStep? n t catalog
      | .receive s => (x.read? s).map fun (r, x) => x.respond n t r
      | .await token due s => (x.awaited? token due s).map fun (r, x) => x.respond n t r
      | .receiveAny first others =>
        (x.readAny? first others).map fun (r, x) => x.respond n t r
    | _ => none

/-- Takes back whatever a task has under way; the task is no more. -/
def abort (n : Nat) (x : Site) : Site :=
  match x.tasks[n]? with
  | none => x
  | some t =>
    match t.status with
    | .finished _ | .aborted => x
    | _ =>
      let x := t.stores.foldl (fun x store => x.storeAct store (.abandon n)) x
      let x := t.catalogs.foldl (fun x catalog => x.catalogAct catalog (.abandon n)) x
      let x := t.role.owned.foldl (fun x s => x.drop s) x
      (x.setTask n { t with status := .aborted }).releaseAll t

def result? (n : Nat) (x : Site) : Option Result :=
  match x.tasks[n]? with
  | some { status := .finished result, .. } => some result
  | _ => none

/-! ## Turns -/

def ownerStep? (n : Nat) (x : Site) : Option Site := do
  let s ← x.stores[n]?
  let (signals, s) ← s.advance? x.signals
  return { x with signals, stores := x.stores.setIfInBounds n s }

/-- One step of a party, if it can take one. -/
def act? (a : Actor) (x : Site) : Option Site :=
  match a with
  | .owner n => x.ownerStep? n
  | .valueWatcher n id =>
    let steps : List Store.Action := [.wake id, .enter (.watcher id), .disperse id]
    steps.findSome? fun a => (x.storeAct? n a).map Prod.snd
  | .registerWatcher n id =>
    let steps : List Catalog.Action := [.wake id, .strike id]
    steps.findSome? fun a => (x.catalogAct? n a).map Prod.snd
  | .task n => x.taskStep? n

def watcherIds (line : List Party) : List Nat :=
  line.filterMap fun p =>
    match p with
    | .watcher id => some id
    | _ => none

/-- Everybody who may ever act. -/
def actors (x : Site) : List Actor :=
  let stores := (List.range x.stores.size).zip x.stores.toList
  let catalogs := (List.range x.catalogs.size).zip x.catalogs.toList
  stores.map (fun (n, _) => .owner n) ++
    stores.flatMap (fun (n, s) =>
      (s.watchers.map Prod.fst ++ watcherIds (s.control.waiting.map Prod.fst)).map
        (.valueWatcher n)) ++
    catalogs.flatMap (fun (n, c) =>
      (c.watchers.map Prod.fst ++ watcherIds (c.line.map Prod.fst)).map (.registerWatcher n)) ++
    (List.range x.tasks.size).map .task

/-- Those who can act and have no turn yet get one. The party that acts now needs none. -/
def enqueue (current : Option Actor) (x : Site) : Site :=
  let fresh := x.actors.filter fun a =>
    some a != current && !x.turns.contains a && (x.act? a).isSome
  { x with turns := x.turns ++ fresh }

/-- A party acts until it has to wait. -/
def run (a : Actor) : Nat → Site → Site
  | 0, x => x
  | fuel + 1, x =>
    match x.act? a with
    | none => x
    | some x => run a fuel (x.enqueue (some a))

/-- Everybody takes turns until nobody can act. -/
def settleTurns (fuel : Nat) : Nat → Site → Site
  | 0, x => x
  | turns + 1, x =>
    match x.turns with
    | [] => x
    | a :: rest => settleTurns fuel turns (run a fuel { x with turns := rest })

/-- More steps than any run takes. -/
def limit : Nat := Nat.pow 2 60

def settle (x : Site) : Site :=
  settleTurns limit limit (x.enqueue none)

/-! ## Time -/

/-- The times that tasks wait for. -/
def deadlines (x : Site) : List Nat :=
  x.tasks.toList.filterMap fun t =>
    match t.status with
    | .waiting (.await _ due _) => some due
    | _ => none

/-- Time passes up to `target`, with a stop at every time that a task waits for. -/
def advanceTo (target : Nat) : Nat → Site → Site
  | 0, x => x
  | fuel + 1, x =>
    match (x.deadlines.filter (· ≤ target)).min? with
    | some due => advanceTo target fuel { x with clock := max x.clock due }.settle
    | none => { x with clock := max x.clock target }

/-- Time passes, and everybody acts as soon as possible. -/
def advance (nanoseconds : Nat) (x : Site) : Site :=
  advanceTo (x.clock + nanoseconds) limit x.settle

end Site

end Telemetry
