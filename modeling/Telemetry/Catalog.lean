import Std.Data.HashMap
import Telemetry.Filter
import Telemetry.Store

/-!
# Catalogs

A catalog holds the registers known for one device, in the order of their discovery, and announces
new and changed ones to its subscribers. A fair lock guards it: those who want to change the
catalog go alone, those who only look go together, and nobody overtakes. Whoever adds registers
keeps the lock until all of them are announced, which under the blocking policy may take as long as
a subscriber does not read.

## Main definitions

* `Catalog`: registers, roster and lock.
* `Catalog.Action`, `Catalog.act?`: the steps of its users.
-/

namespace Telemetry

namespace Catalog

/-- Questions that change nothing. -/
inductive Query
  | all
  | named (name : String)
  | filtered (filter : RegisterFilter)
  | size
  | subscribers

/-- What somebody wants from a catalog. -/
inductive Access
  | look (query : Query)
  | add (registers : List Register)
  | subscribe (filter : RegisterFilter) (token : Token)
  | unsubscribe (id : Nat)

def Access.isLook : Access → Bool
  | look _ => true
  | _ => false

inductive Reply
  | registers (registers : List Register)
  | register (register : Option Register)
  | count (n : Nat)
  | subscribed (id : Nat) (token : Token)
  | done
  /-- The queue for the subscription would be too large. -/
  | tooLarge

/-- Registers being added, under the lock. -/
structure Addition where
  client : Nat
  left : List Register
  /-- The announcement under way. -/
  delivery : Option (Delivery Register) := none

end Catalog

structure Catalog where
  config : CatalogConfig
  /-- How many clients hold the catalog. -/
  handles : Nat := 1
  /-- In the order of discovery. -/
  registers : List Register := []
  /-- The place of each name among the registers. -/
  index : Std.HashMap String Nat := ∅
  /-- Subscribers are numbered from zero. -/
  roster : Roster Register := { nextId := 0 }
  /-- Those who wait for the lock. -/
  line : List (Party × Catalog.Access) := []
  /-- The addition that holds the lock. All other holders are done in one step. -/
  holder : Option Catalog.Addition := none
  /-- Subscriptions whose end somebody waits for. -/
  watchers : List (Nat × Token) := []

namespace Catalog

def ofConfig (config : CatalogConfig) : Catalog :=
  { config }

/-- How a catalog presents itself. -/
def description (c : Catalog) : String :=
  "RegisterDb \x7b name: " ++ Text.quote c.config.name ++ " \x7d"

def named? (name : String) (c : Catalog) : Option Register :=
  c.index[name]?.bind fun place => c.registers[place]?

def look (query : Query) (c : Catalog) : Reply :=
  match query with
  | .all => .registers c.registers
  | .named name => .register (c.named? name)
  | .filtered filter => .registers (filter.filter c.registers)
  | .size => .count c.registers.length
  | .subscribers => .count c.roster.subscribers.length

/-! ## Lock -/

def join (party : Party) (access : Access) (c : Catalog) : Catalog :=
  { c with line := c.line ++ [(party, access)] }

/-- Out of the line. -/
def leave (party : Party) (c : Catalog) : Catalog :=
  { c with line := c.line.filter (·.1 != party) }

/-- What a party may do now: nobody holds the lock, and it is the first in line or only looks, like
everybody ahead. -/
def granted? (party : Party) (c : Catalog) : Option Access :=
  if c.holder.isSome then none
  else
    match c.line.span (·.1 != party) with
    | (ahead, (_, access) :: _) =>
      if ahead.isEmpty || (access.isLook && ahead.all (·.2.isLook)) then some access else none
    | (_, []) => none

/-! ## Holding -/

/-- Nobody holds the catalog, not even to strike a subscriber off. -/
def isForgotten (c : Catalog) : Bool :=
  c.handles == 0 && c.line.isEmpty

/-- Subscribers learn that nothing will come once nobody holds the catalog. -/
def forget (c : Catalog) : Catalog :=
  if c.isForgotten then { c with roster := c.roster.clear } else c

/-! ## Additions -/

/-- Puts a register into the catalog. The result tells whether it is new or changed. -/
def put (r : Register) (c : Catalog) : Bool × Catalog :=
  match c.index[r.name]? with
  | some place =>
    if c.registers[place]? = some r then (false, c)
    else (true, { c with registers := c.registers.set place r })
  | none =>
    (true, { c with
      registers := c.registers ++ [r]
      index := c.index.insert r.name c.registers.length })

/-- Takes the next register of an addition, or goes on with its announcement. -/
def proceed? (signals : Signals) (client : Nat) (c : Catalog) : Option Catalog :=
  match c.holder with
  | none => none
  | some a =>
    if a.client != client then none
    else
      match a.delivery with
      | some d =>
        match c.roster.finish? d with
        | some roster => some { c with roster, holder := some { a with delivery := none } }
        | none =>
          (c.roster.serve? signals c.config.overflow d).map fun (d, roster) =>
            { c with roster, holder := some { a with delivery := some d } }
      | none =>
        match a.left with
        | [] => none
        | r :: left =>
          let (changed, c) := c.put r
          let delivery := if changed then some (c.roster.deliver r) else none
          some { c with holder := some { a with left, delivery } }

/-- A blocked announcement passes over a subscriber that is cancelled meanwhile. -/
def giveUp? (signals : Signals) (client : Nat) (c : Catalog) : Option Catalog :=
  match c.holder with
  | some { client := holder, left, delivery := some d } =>
    if holder != client then none
    else (d.giveUp? signals).map fun d => { c with holder := some ⟨holder, left, some d⟩ }
  | _ => none

/-! ## Clients -/

/-- A new subscriber after a replay of all it accepts. The room for the replay and for what is new
is added without wrapping around, so a sum beyond the range of a machine word counts as too
large. -/
def subscribe (filter : RegisterFilter) (token : Token) (c : Catalog) : Reply × Catalog :=
  let replay := filter.filter c.registers
  let extra := c.config.subscriberCapacity.toNat
  if queueLimit < replay.length + extra then (.tooLarge, c)
  else
    let id := c.roster.nextId
    (.subscribed id token, { c with
      roster := c.roster.enroll filter.accepts token replay extra
      watchers := c.watchers ++ [(id, token)] })

/-- Takes the lock to add registers. -/
def begin? (client : Nat) (c : Catalog) : Option Catalog :=
  match c.granted? (.client client) with
  | some (.add registers) =>
    some { c.leave (.client client) with holder := some ⟨client, registers, none⟩ }
  | _ => none

/-- The result with which an operation of a client ends now. -/
def resolve? (client : Nat) (c : Catalog) : Option (Reply × Catalog) :=
  match c.granted? (.client client) with
  | some (.look query) => some (c.look query, c.leave (.client client))
  | some (.subscribe filter token) => some ((c.leave (.client client)).subscribe filter token)
  | _ =>
    match c.holder with
    | some { client := holder, left := [], delivery := none } =>
      if holder = client then some (.done, { c with holder := none }) else none
    | _ => none

/-- Takes back whatever a client has under way. Registers that were added stay; the rest of an
addition is given up, with the rest of the announcement. -/
def abandon (client : Nat) (c : Catalog) : Catalog :=
  { c.leave (.client client) with
    holder := c.holder.filter fun a => a.client != client }

/-! ## Watchers -/

/-- A cancelled subscription is to be struck off, if somebody holds the catalog. -/
def wake? (signals : Signals) (id : Nat) (c : Catalog) : Option Catalog :=
  match c.watchers.find? fun w => w.1 == id with
  | none => none
  | some (_, token) =>
    if signals.isCancelled token then
      let forgotten := c.isForgotten
      let c := { c with watchers := c.watchers.filter (·.1 != id) }
      if forgotten then some c else some (c.join (.watcher id) (.unsubscribe id))
    else none

/-- Strikes a subscriber off as soon as the lock is granted. -/
def strike? (id : Nat) (c : Catalog) : Option Catalog :=
  match c.granted? (.watcher id) with
  | some (.unsubscribe id) =>
    let c := c.leave (.watcher id)
    some { c with roster := c.roster.remove [id] }.forget
  | _ => none

/-! ## Readers -/

/-- The next register of a subscription. One that is cancelled has ended, whatever is in its
queue. -/
def read? (signals : Signals) (id : Nat) (token : Token) (c : Catalog) :
    Option (Store.Delivered Register × Catalog) :=
  if signals.isCancelled token then some (.ended, c)
  else
    match c.roster.read? id with
    | some (r, roster) => some (.item r, { c with roster })
    | none => if c.roster.isExhausted id then some (.ended, c) else none

def close (id : Nat) (c : Catalog) : Catalog :=
  { c with roster := c.roster.close id }

/-! ## All steps -/

inductive Action
  | ask (client : Nat) (access : Access)
  | begin (client : Nat)
  | proceed (client : Nat)
  | giveUp (client : Nat)
  | resolve (client : Nat)
  | abandon (client : Nat)
  | wake (id : Nat)
  | strike (id : Nat)
  | read (id : Nat) (token : Token)
  | close (id : Nat)
  | retain
  | release

/-- What a step shows to the one who takes it. -/
inductive Output
  | nothing
  | reply (r : Reply)
  | delivered (d : Store.Delivered Register)

/-- The effect of a step, if it can be taken. -/
def act? (signals : Signals) (a : Action) (c : Catalog) : Option (Catalog × Output) :=
  match a with
  | .ask client access => some (c.join (.client client) access, .nothing)
  | .begin client => (c.begin? client).map (·, .nothing)
  | .proceed client => (c.proceed? signals client).map (·, .nothing)
  | .giveUp client => (c.giveUp? signals client).map (·, .nothing)
  | .resolve client => (c.resolve? client).map fun (r, c) => (c, .reply r)
  | .abandon client => some (c.abandon client, .nothing)
  | .wake id => (c.wake? signals id).map (·, .nothing)
  | .strike id => (c.strike? id).map (·, .nothing)
  | .read id token => (c.read? signals id token).map fun (d, c) => (c, .delivered d)
  | .close id => some (c.close id, .nothing)
  | .retain => some ({ c with handles := c.handles + 1 }, .nothing)
  | .release => some ({ c with handles := c.handles - 1 }.forget, .nothing)

end Catalog

end Telemetry
