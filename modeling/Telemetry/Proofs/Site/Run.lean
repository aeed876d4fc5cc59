import Telemetry.Proofs.Catalog.Index
import Telemetry.Proofs.Site
import Telemetry.Proofs.Store.Ledger

/-!
# Runs of a site

A run is a sequence of events at a site, in any order that the parties allow: the owner of a store
takes any of its moves, a task makes its call, the call gets on its way, a task hears one of the
things that it waits for, whichever comes first, somebody sees to the end of a subscription, time
passes, and a signal is fired from outside. What the parties of a site do when they take turns is
one such run.

## Main definitions

* `Site.Hears`: what a task may be told.
* `Site.Event`, `Site.Happens`, `Site.Run`: what happens, and what happened.
* `Site.actListed?`, `Site.playListed?`: what parties do, without the indices of catalogs.
* `Trace.updates`, `Trace.counted`: what was applied at a store, and the values that a task got.

## Main results

* `Site.reaches_settle`: to take turns until nobody can act is a run.
* `Site.reaches_advance`: so is to let time pass.
* `Site.moves_of_actListed?`: so is what parties do, if names are looked for among the registers.
-/

namespace Telemetry

/-- A step of somebody who waits for the end of a subscription. -/
def Store.Action.isWatch : Store.Action → Bool
  | .wake _ | .enter (.watcher _) | .disperse _ => true
  | _ => false

/-- A step of somebody who waits for the end of a subscription. -/
def Catalog.Action.isWatch : Catalog.Action → Bool
  | .wake _ | .strike _ => true
  | _ => false

/-- A step by which a client gets on with what it adds. -/
def Catalog.Action.drives (client : Nat) : Catalog.Action → Bool
  | .begin n | .proceed n | .giveUp n => n == client
  | _ => false

namespace Site

/-- What a task is told when a store answers. -/
def storeResponse (store : Nat) : Except Error Reply → Response
  | .ok (.subscribed id token) => .subscribed ⟨.store store, id, token, true⟩
  | r => .stored r

/-- What a task is told when a catalog answers. -/
def catalogResponse (catalog : Nat) : Catalog.Reply → Response
  | .subscribed id token => .subscribed ⟨.catalog catalog, id, token, true⟩
  | r => .catalog r

/-- What a task may be told that waits on a call, whichever comes first. -/
inductive Hears (n : Nat) (x : Site) : Call → Response → Site → Prop
  | store {call : Call} {store : Nat} {r : Except Error Reply} {x' : Site}
      (goes : store ∈ call.stores)
      (answered : x.storeAct? store (.resolve n) = some (.result r, x')) :
      Hears n x call (storeResponse store r) x'
  | catalog {call : Call} {catalog : Nat} {r : Catalog.Reply} {x' : Site}
      (goes : catalog ∈ call.catalogs)
      (answered : x.catalogAct? catalog (.resolve n) = some (.reply r, x')) :
      Hears n x call (catalogResponse catalog r) x'
  | receive {s : Subscription} {r : Response} {x' : Site} (read : x.read? s = some (r, x')) :
      Hears n x (.receive s) r x'
  | command (token : Token) (due : Nat) {s : Subscription} {i : Item} {x' : Site}
      (read : x.read? s = some (.item i, x')) : Hears n x (.await token due s) (.item i) x'
  | tick (token : Token) {due : Nat} (s : Subscription) (late : due ≤ x.clock) :
      Hears n x (.await token due s) .tick x
  | cancelled {token : Token} (due : Nat) (s : Subscription)
      (ended : x.signals.isCancelled token = true) : Hears n x (.await token due s) .cancelled x
  | first {s : Subscription} (others : List Subscription) {r : Response} {x' : Site}
      (read : x.read? s = some (r, x')) : Hears n x (.receiveAny s others) r x'
  | other (first : Subscription) {s : Subscription} {others : List Subscription} {i : Item}
      {x' : Site} (one : s ∈ others) (read : x.read? s = some (.item i, x')) :
      Hears n x (.receiveAny first others) (.item i) x'

inductive Event
  /-- The owner of a store takes a move. -/
  | own (store : Nat) (m : Store.Move)
  /-- Somebody sees to the end of a subscription. -/
  | watch
  | call (n : Nat)
  /-- The call of a task gets on its way. -/
  | proceed (n : Nat)
  | hear (n : Nat) (r : Response)
  /-- Time passes, or the order of turns changes. -/
  | pass
  /-- A signal is fired from outside. -/
  | cancel (t : Token)

/-- All that can happen at a site. -/
inductive Happens (x : Site) : Event → Site → Prop
  | own {store : Nat} {m : Store.Move} {o : Store.Output} {x' : Site}
      (moved : x.storeAct? store (.owner m) = some (o, x')) : Happens x (.own store m) x'
  | watchStore {store : Nat} {a : Store.Action} {o : Store.Output} {x' : Site}
      (waits : a.isWatch = true) (acted : x.storeAct? store a = some (o, x')) : Happens x .watch x'
  | watchCatalog {catalog : Nat} {a : Catalog.Action} {o : Catalog.Output} {x' : Site}
      (waits : a.isWatch = true) (acted : x.catalogAct? catalog a = some (o, x')) :
      Happens x .watch x'
  | call {n : Nat} {t : Task} {c : Call} (there : x.tasks[n]? = some t)
      (ready : t.status = .ready c) : Happens x (.call n) (x.make n t c)
  | enter {n : Nat} {t : Task} {c : Call} {store : Nat} {o : Store.Output} {x' : Site}
      (there : x.tasks[n]? = some t) (waits : t.status = .waiting c) (goes : store ∈ c.stores)
      (entered : x.storeAct? store (.enter (.client n)) = some (o, x')) : Happens x (.proceed n) x'
  | drive {n : Nat} {t : Task} {c : Call} {catalog : Nat} {a : Catalog.Action} {o : Catalog.Output}
      {x' : Site} (there : x.tasks[n]? = some t) (waits : t.status = .waiting c)
      (goes : catalog ∈ c.catalogs) (drives : a.drives n = true)
      (acted : x.catalogAct? catalog a = some (o, x')) : Happens x (.proceed n) x'
  | hear {n : Nat} {t : Task} {c : Call} {r : Response} {x' : Site} (noise : String → Float)
      (time : Timestamp) (there : x.tasks[n]? = some t) (waits : t.status = .waiting c)
      (hears : x.Hears n c r x') : Happens x (.hear n r) (x'.respondWith noise time n t r)
  | pass {clock : Nat} (turns : List Actor) (later : x.clock ≤ clock) :
      Happens x .pass { x with clock, turns }
  | cancel (t : Token) : Happens x (.cancel t) (x.fire t)

/-- The value in a response. -/
def Response.values : Response → List Value
  | .item (.value v) => [v]
  | _ => []

/-- An event and the site at which it happened. -/
structure Step where
  site : Site
  event : Event

abbrev Trace := List Step

/-- The runs that begin with a site, with the site as it is at the end. -/
inductive Run (x₀ : Site) : Trace → Site → Prop
  | start : Run x₀ [] x₀
  | step {tr : Trace} {x x' : Site} {e : Event} (run : Run x₀ tr x) (happened : x.Happens e x') :
      Run x₀ (tr ++ [⟨x, e⟩]) x'

namespace Step

/-- The value that changes the state of a store. -/
def updates (store : Nat) (st : Step) : List Value :=
  match st.event, st.site.stores[store]? with
  | .own n m, some s =>
    if n = store then (⟨st.site.signals, s, .act (.owner m), .nothing, s⟩ : Store.Step).updates
    else []
  | _, _ => []

/-- The value that a task gets. -/
def counted (n : Nat) (st : Step) : List Value :=
  match st.event with
  | .hear k r => if k = n then r.values else []
  | _ => []

end Step

namespace Trace

/-- All values that changed the state of a store, in order. -/
def updates (store : Nat) (tr : Trace) : List Value :=
  tr.flatMap (Step.updates store)

/-- All values that a task got, in order. -/
def counted (n : Nat) (tr : Trace) : List Value :=
  tr.flatMap (Step.counted n)

/-- Nobody outside fires a signal. -/
def Uncancelled (tr : Trace) : Prop :=
  ∀ st ∈ tr, ∀ t, st.event ≠ .cancel t

variable {tr more : Trace}

theorem updates_append (store : Nat) (tr more : Trace) :
    updates store (tr ++ more) = updates store tr ++ updates store more :=
  List.flatMap_append

theorem counted_append (n : Nat) (tr more : Trace) :
    counted n (tr ++ more) = counted n tr ++ counted n more :=
  List.flatMap_append

theorem Uncancelled.append (calm : tr.Uncancelled) (calm' : Uncancelled more) :
    Uncancelled (tr ++ more) := by
  intro st member
  rcases List.mem_append.1 member with before | after
  · exact calm st before
  · exact calm' st after

theorem Uncancelled.of_append (calm : Uncancelled (tr ++ more)) :
    tr.Uncancelled ∧ Uncancelled more :=
  ⟨fun st member => calm st (List.mem_append_left _ member),
    fun st member => calm st (List.mem_append_right _ member)⟩

end Trace

section Runs

variable {x₀ x x' : Site} {tr more : Trace}

theorem Run.append (run : Run x₀ tr x) (run' : Run x more x') : Run x₀ (tr ++ more) x' := by
  induction run' with
  | start => simpa using run
  | step run' happened ih =>
    rw [← List.append_assoc]
    exact ih.step happened

/-- What holds at the beginning holds at the end if every event keeps it. -/
theorem Run.induct {P : Trace → Site → Prop} (run : Run x₀ tr x) (calm : tr.Uncancelled)
    (first : P [] x₀)
    (next : ∀ tr x x' e, P tr x → (∀ t, e ≠ .cancel t) → x.Happens e x' → P (tr ++ [⟨x, e⟩]) x') :
    P tr x := by
  induction run with
  | start => exact first
  | @step tr x x' e run happened ih =>
    obtain ⟨before, last⟩ := calm.of_append
    exact next tr x x' e (ih before) (last _ List.mem_cons_self) happened

end Runs

/-! ## Turns -/

section Turns

variable {x x' : Site} {n : Nat} {a : Actor}

/-- Somebody takes a step. -/
def Moves (x x' : Site) : Prop :=
  ∃ e, x.Happens e x' ∧ ∀ t, e ≠ .cancel t

theorem moves_of_ownerStep? (stepped : x.ownerStep? n = some x') : x.Moves x' := by
  obtain ⟨s, there, stepped⟩ := Option.bind_eq_some_iff.1 stepped
  obtain ⟨⟨σ, s'⟩, advances, same⟩ := Option.bind_eq_some_iff.1 stepped
  cases same
  obtain ⟨m, -, moves⟩ := List.exists_of_findSome?_eq_some advances
  refine ⟨.own n m, .own (o := .nothing) (storeAct?_eq_some.2 ⟨s, σ, s', there, ?_, rfl⟩), nofun⟩
  simp [Store.act?, moves]

theorem exists_of_findSome?_map {α β : Type} {f : α → Option (β × Site)} {l : List α}
    (found : (l.findSome? fun a => (f a).map Prod.snd) = some x') :
    ∃ a ∈ l, ∃ b, f a = some (b, x') := by
  obtain ⟨a, member, found⟩ := List.exists_of_findSome?_eq_some found
  obtain ⟨⟨b, x''⟩, acted, rfl⟩ := Option.map_eq_some_iff.1 found
  exact ⟨a, member, b, acted⟩

section Waiting

variable {t : Task} {c : Call} (there : x.tasks[n]? = some t) (waits : t.status = .waiting c)

include there waits

theorem moves_of_storeStep? {store : Nat} (goes : store ∈ c.stores)
    (stepped : x.storeStep? n t store = some x') : x.Moves x' := by
  unfold storeStep? at stepped
  split at stepped
  next id token y answered =>
    cases stepped
    exact ⟨_, .hear noNoise stamp there waits (.store goes answered), nofun⟩
  next r y other answered =>
    cases stepped
    -- Subscriptions were dealt with above, and anything else is passed on as it is.
    have told : storeResponse store r = .stored r := by
      unfold storeResponse
      split
      · exact absurd rfl (other _ _)
      · rfl
    have heard := Happens.hear noNoise stamp there waits (.store goes answered)
    rw [told] at heard
    exact ⟨_, heard, nofun⟩
  · obtain ⟨⟨o, y⟩, entered, rfl⟩ := Option.map_eq_some_iff.1 stepped
    exact ⟨_, .enter there waits goes entered, nofun⟩

theorem moves_of_catalogStep? {catalog : Nat} (goes : catalog ∈ c.catalogs)
    (stepped : x.catalogStep? n t catalog = some x') : x.Moves x' := by
  unfold catalogStep? at stepped
  split at stepped
  next id token y answered =>
    cases stepped
    exact ⟨_, .hear noNoise stamp there waits (.catalog goes answered), nofun⟩
  next r y other answered =>
    cases stepped
    have told : catalogResponse catalog r = .catalog r := by
      unfold catalogResponse
      split
      · exact absurd rfl (other _ _)
      · rfl
    have heard := Happens.hear noNoise stamp there waits (.catalog goes answered)
    rw [told] at heard
    exact ⟨_, heard, nofun⟩
  · obtain ⟨a, member, o, acted⟩ := exists_of_findSome?_map stepped
    have drives : a.drives n = true := by
      simp only [List.mem_cons, List.not_mem_nil, or_false] at member
      rcases member with rfl | rfl | rfl <;> exact beq_self_eq_true n
    exact ⟨_, .drive there waits goes drives acted, nofun⟩

theorem moves_of_hears {f : Option (Response × Site)}
    (hears : ∀ r y, f = some (r, y) → x.Hears n c r y)
    (stepped : f.map (fun (r, x) => x.respond n t r) = some x') : x.Moves x' := by
  obtain ⟨⟨r, y⟩, got, rfl⟩ := Option.map_eq_some_iff.1 stepped
  exact ⟨_, .hear noNoise stamp there waits (hears r y got), nofun⟩

end Waiting

theorem hears_of_awaited? {token : Token} {due : Nat} {s : Subscription} {r : Response}
    (got : x.awaited? token due s = some (r, x')) : x.Hears n (.await token due s) r x' := by
  unfold awaited? at got
  split at got
  next ended =>
    cases got
    exact .cancelled due s ended
  · split at got
    next late =>
      cases got
      exact .tick token s late
    · split at got <;> cases got
      next read => exact .command token due read

theorem hears_of_readAny? {first : Subscription} {others : List Subscription} {r : Response}
    (got : x.readAny? first others = some (r, x')) : x.Hears n (.receiveAny first others) r x' := by
  unfold readAny? at got
  split at got
  next read =>
    cases got
    exact .first others read
  · obtain ⟨s, one, picked⟩ := List.exists_of_findSome?_eq_some got
    split at picked <;> cases picked
    next read => exact .other first one read

theorem moves_of_taskStep? (stepped : x.taskStep? n = some x') : x.Moves x' := by
  unfold taskStep? at stepped
  split at stepped
  · cases stepped
  next t there =>
    split at stepped
    next c ready =>
      cases stepped
      exact ⟨_, .call there ready, nofun⟩
    next c waits =>
      split at stepped
      · exact moves_of_storeStep? there waits List.mem_cons_self stepped
      · exact moves_of_storeStep? there waits List.mem_cons_self stepped
      · exact moves_of_storeStep? there waits List.mem_cons_self stepped
      · exact moves_of_catalogStep? there waits List.mem_cons_self stepped
      · exact moves_of_catalogStep? there waits List.mem_cons_self stepped
      · exact moves_of_catalogStep? there waits List.mem_cons_self stepped
      · exact moves_of_hears there waits (fun r y read => .receive read) stepped
      · exact moves_of_hears there waits (fun r y got => hears_of_awaited? got) stepped
      · exact moves_of_hears there waits (fun r y got => hears_of_readAny? got) stepped
    · cases stepped

/-- Whoever takes a turn does what can happen. -/
theorem moves_of_act? (acted : x.act? a = some x') : x.Moves x' := by
  cases a with
  | owner n => exact moves_of_ownerStep? acted
  | valueWatcher n id =>
    obtain ⟨a, member, o, acted⟩ := exists_of_findSome?_map acted
    have waits : a.isWatch = true := by
      simp only [List.mem_cons, List.not_mem_nil, or_false] at member
      rcases member with rfl | rfl | rfl <;> rfl
    exact ⟨_, .watchStore waits acted, nofun⟩
  | registerWatcher n id =>
    obtain ⟨a, member, o, acted⟩ := exists_of_findSome?_map acted
    have waits : a.isWatch = true := by
      simp only [List.mem_cons, List.not_mem_nil, or_false] at member
      rcases member with rfl | rfl <;> rfl
    exact ⟨_, .watchCatalog waits acted, nofun⟩
  | task n => exact moves_of_taskStep? acted

/-- A site comes to be another without anything fired from outside. -/
def Reaches (x x' : Site) : Prop :=
  ∃ tr, Run x tr x' ∧ tr.Uncancelled

theorem reaches_refl (x : Site) : x.Reaches x :=
  ⟨[], .start, nofun⟩

theorem Reaches.trans {x'' : Site} (reaches : x.Reaches x') (more : x'.Reaches x'') :
    x.Reaches x'' := by
  obtain ⟨tr, run, calm⟩ := reaches
  obtain ⟨later, run', calm'⟩ := more
  exact ⟨_, run.append run', calm.append calm'⟩

theorem Moves.reaches (moves : x.Moves x') : x.Reaches x' := by
  obtain ⟨e, happened, calm⟩ := moves
  exact ⟨_, Run.start.step happened, by simpa [Trace.Uncancelled] using calm⟩

theorem reaches_turns (x : Site) (turns : List Actor) : x.Reaches { x with turns } :=
  Moves.reaches ⟨_, .pass turns (Nat.le_refl _), nofun⟩

theorem reaches_run (a : Actor) (fuel : Nat) (x : Site) : x.Reaches (run a fuel x) := by
  induction fuel generalizing x with
  | zero => exact x.reaches_refl
  | succ fuel ih =>
    rw [run]
    split
    · exact x.reaches_refl
    next y acted =>
      exact (moves_of_act? acted).reaches.trans ((y.reaches_turns _).trans (ih _))

theorem reaches_settleTurns (fuel turns : Nat) (x : Site) :
    x.Reaches (settleTurns fuel turns x) := by
  induction turns generalizing x with
  | zero => exact x.reaches_refl
  | succ turns ih =>
    rw [settleTurns]
    split
    · exact x.reaches_refl
    · exact (x.reaches_turns _).trans ((reaches_run ..).trans (ih _))

/-- To take turns until nobody can act is a run. -/
theorem reaches_settle (x : Site) : x.Reaches x.settle :=
  (x.reaches_turns _).trans (reaches_settleTurns ..)

theorem reaches_advanceTo (target fuel : Nat) (x : Site) : x.Reaches (advanceTo target fuel x) := by
  have waits (x : Site) (time : Nat) : x.Reaches { x with clock := max x.clock time } :=
    Moves.reaches ⟨_, .pass x.turns (Nat.le_max_left _ _), nofun⟩
  induction fuel generalizing x with
  | zero => exact x.reaches_refl
  | succ fuel ih =>
    rw [advanceTo]
    split
    · exact (waits x _).trans ((reaches_settle _).trans (ih _))
    · exact waits x target

/-- To let time pass is a run. -/
theorem reaches_advance (nanoseconds : Nat) (x : Site) : x.Reaches (x.advance nanoseconds) :=
  (reaches_settle x).trans (reaches_advanceTo ..)

/-! ## Steps without the index of a catalog -/

/-- A task goes on with what it adds to a catalog, without the index. -/
def addListed? (n : Nat) (x : Site) : Option Site :=
  match x.tasks[n]? with
  | some ⟨_, .waiting (.add k _), _, _⟩ => do
    let c ← x.catalogs[k]?
    let (c, _) ← c.actListed? x.signals (.proceed n)
    return { x with catalogs := x.catalogs.setIfInBounds k c }
  | _ => none

/-- One step of a party, without the indices of catalogs. -/
def actListed? (a : Actor) (x : Site) : Option Site :=
  match a with
  | .task n => (x.addListed? n).or (x.act? a)
  | a => x.act? a

/-- Parties take one step after the other, without the indices of catalogs. -/
def playListed? : List Actor → Site → Option Site
  | [], x => some x
  | a :: actors, x => do
    let x ← x.actListed? a
    playListed? actors x

theorem moves_of_addListed? (indexed : ∀ (k : Nat) c, x.catalogs[k]? = some c → c.Indexed)
    (stepped : x.addListed? n = some x') : x.Moves x' := by
  unfold addListed? at stepped
  split at stepped
  next role k registers stores catalogs there =>
    obtain ⟨c, known, stepped⟩ := Option.bind_eq_some_iff.1 stepped
    obtain ⟨⟨c', o⟩, acted, same⟩ := Option.bind_eq_some_iff.1 stepped
    cases same
    rw [← (indexed k c known).act?_eq] at acted
    have drives : Catalog.Action.drives n (.proceed n) = true := beq_self_eq_true n
    exact ⟨_, .drive there rfl List.mem_cons_self drives
      (catalogAct?_eq_some.2 ⟨c, c', known, acted, rfl⟩), nofun⟩
  · cases stepped

/-- While the indices of catalogs tell where registers stand, they make no difference. -/
theorem moves_of_actListed? (indexed : ∀ (k : Nat) c, x.catalogs[k]? = some c → c.Indexed)
    (acted : x.actListed? a = some x') : x.Moves x' := by
  cases a with
  | task n =>
    rcases Option.or_eq_some_iff.1 acted with adds | ⟨-, acts⟩
    · exact moves_of_addListed? indexed adds
    · exact moves_of_act? acts
  | owner k => exact moves_of_act? (a := .owner k) acted
  | valueWatcher k id => exact moves_of_act? (a := .valueWatcher k id) acted
  | registerWatcher k id => exact moves_of_act? (a := .registerWatcher k id) acted

end Turns

end Site

end Telemetry
