import Telemetry.Site

/-!
# Reading with an end in sight

A subscription need not end, so a reader that wants an answer must not wait for ever. Each function
below lets everybody act until nobody can, and gives up on what has not come by then.

## Main definitions

* `Site.receive`, `Site.collect`, `Site.readOut`: one item, a number of them, all of them.
* `Site.isSilent`: whether nothing comes.
* `Site.takeQueued`: what is queued already.
-/

namespace Telemetry.Site

/-- What comes of waiting for one item. -/
inductive Received
  | item (i : Item)
  | ended
  /-- Nothing comes. -/
  | nothing

/-- What a collecting task has got so far. -/
def collected (n : Nat) (x : Site) : List Item :=
  match x.tasks[n]? with
  | some { role := .collector _ _ items, .. } => items
  | _ => []

/-- Collects items until there are enough, the subscription ends, or nothing comes. The flag tells
whether it ended. -/
def collectUpTo (limit : Option Nat) (s : Subscription) (x : Site) : List Item × Bool × Site :=
  let (n, x) := x.spawn (.collector s limit []) (.receive s)
  let x := x.settle
  match x.result? n with
  | some (.items items ended) => (items, ended, x)
  | _ => (x.collected n, false, (x.abort n).settle)

def receive (s : Subscription) (x : Site) : Received × Site :=
  match x.collectUpTo (some 1) s with
  | (i :: _, _, x) => (.item i, x)
  | ([], true, x) => (.ended, x)
  | ([], false, x) => (.nothing, x)

/-- At most `n` items. -/
def collect (n : Nat) (s : Subscription) (x : Site) : List Item × Site :=
  if n = 0 then ([], x)
  else
    match x.collectUpTo (some n) s with
    | (items, _, x) => (items, x)

/-- All items up to the end or until nothing comes, and whether it ended. The subscription is then
given up. -/
def readOut (s : Subscription) (x : Site) : List Item × Bool × Site :=
  match x.collectUpTo none s with
  | (items, ended, x) => (items, ended, (x.drop s).settle)

/-- Nothing comes. An item that does come is lost. -/
def isSilent (s : Subscription) (x : Site) : Bool × Site :=
  match x.receive s with
  | (.item _, x) => (false, x)
  | (_, x) => (true, x)

/-- Takes queued items without letting anybody act in between. -/
def takeQueuedUpTo (s : Subscription) : Nat → Site → List Item × Site
  | 0, x => ([], x)
  | limit + 1, x =>
    match x.tryRead s with
    | (some i, x) =>
      match takeQueuedUpTo s limit x with
      | (items, x) => (i :: items, x)
    | (none, x) => ([], x)

/-- How many items are queued for a subscription. -/
def queued (s : Subscription) (x : Site) : Nat :=
  match s.feed with
  | .store n => ((x.stores[n]?.bind fun p => p.roster.outbox? s.id).map (·.items.length)).getD 0
  | .catalog n => ((x.catalogs[n]?.bind fun c => c.roster.outbox? s.id).map (·.items.length)).getD 0

def takeQueued (s : Subscription) (x : Site) : List Item × Site :=
  let (items, x) := takeQueuedUpTo s (x.queued s) x
  (items, x.settle)

end Telemetry.Site
