import Telemetry.Proofs.Gateway.Setup

/-!
# What a gateway forwards

The task that forwards to a consumer was subscribed before any device started. So under the blocking
policy it misses nothing: what it counted and what waits for it are the updates that the consumer
asks for, in order. It hears of the registers of a device if and only if it gets their values.

## Main definitions

* `ConsumerConfig.wants`: the values a consumer asks for.
* `Site.Announces`: a subscription hears of a register.
* `Gateway.Forwarder.IsComplete`: a forwarder misses nothing.
* `Site.forwarded?`: how much it counted, and how much waits for it.

## Main results

* `Gateway.Course.forwards_all`: nothing that a consumer asks for is missed.
-/

namespace Telemetry

/-- A consumer asks for a value of one of its devices, or of any device if it names none, whose
register it takes. -/
def ConsumerConfig.wants (c : ConsumerConfig) (v : Value) : Bool :=
  (c.devices.isEmpty || c.devices.contains v.device) && c.registers.accepts v.register

theorem ConsumerConfig.accepts_filter (c : ConsumerConfig) : c.filter.accepts = c.wants := by
  funext v
  unfold filter wants
  dsimp only
  split
  next none_named => rw [none_named, Bool.true_or, Bool.true_and]; rfl
  next named => rw [Bool.eq_false_of_not_eq_true named, Bool.false_or]; rfl

/-- A subscription goes on and hears of a register that is new in a catalog. -/
def Site.Announces (x : Site) (catalog : Nat) (s : Subscription) (r : Register) : Prop :=
  s.feed = .catalog catalog ∧ x.signals.isCancelled s.token = false ∧
    ∃ c sub, x.catalogs[catalog]? = some c ∧ c.roster.Lists sub ∧ sub.id = s.id ∧
      sub.accepts r = true

/-- How many values a task that forwards counted, and how many wait for it, unless its store is
delivering something. -/
def Site.forwarded? (store n : Nat) (x : Site) : Option (Nat × Nat) :=
  x.tasks[n]?.bind fun t => x.stores[store]?.bind fun s =>
    match t.role with
    | .forwarder values _ counted =>
      if (Store.delivery? s.activity).isNone then some (counted, (s.roster.queued values.id).length)
      else none
    | _ => none

namespace Gateway

/-- What a forwarder counted are the values that it got. They and those that wait for it are, in
order, the updates that its consumer asks for, unless one of them is being delivered. And it follows
the registers of the devices whose values it gets. -/
structure Forwarder.IsComplete (f : Forwarder) (g : Gateway) (devices : List DeviceConfig)
    (tr : Site.Trace) (x : Site) : Prop where
  counts : ∃ t, x.tasks[f.task]? = some t ∧
    t.role = .forwarder f.values f.registers (tr.counted f.task).length
  values : ∃ s, x.stores[g.simulator.state]? = some s ∧ (Store.delivery? s.activity = none →
    tr.counted f.task ++ s.roster.queued f.values.id =
      (tr.updates g.simulator.state).filter f.consumer.wants)
  registers : ∀ d ∈ devices, ∃ catalog, g.simulator.catalog? d.name = some catalog ∧
    ∀ v : Value, v.device = d.name → (f.consumer.filter.accepts v = true ↔
      ∃ s ∈ f.registers, x.Announces catalog s v.register)

section Facts

variable {g : Gateway} {config : StoreConfig} {tr : Site.Trace} {p : Progress} {x : Site}
  {crew : Crew} {f : Forwarder}

/-- Whoever forwards counts the values it got. -/
theorem Underway.counts (underway : g.Underway config tr p x crew) (member : f ∈ p.forwarders) :
    ∃ t, x.tasks[f.task]? = some t ∧
      t.role = .forwarder f.values f.registers (tr.counted f.task).length := by
  obtain ⟨post, -⟩ := underway.manned f member
  obtain ⟨less, -⟩ := List.getElem?_eq_some_iff.1 post
  rw [← underway.runs.mans.size] at less
  have there : x.tasks[f.task]? = some x.tasks[f.task] := Array.getElem?_eq_getElem less
  refine ⟨_, there, ?_⟩
  cases underway.runs.mans.duty _ _ _ there post with
  | forwards role => exact role

/-- What a forwarder got and what waits for it are the values that its consumer asks for. -/
theorem Underway.conveys (underway : g.Underway config tr p x crew) (state : g.simulator.state = 0)
    (policy : config.overflow = .block) (member : f ∈ p.forwarders) :
    ∃ s, x.stores[0]? = some s ∧ (Store.delivery? s.activity = none →
      tr.counted f.task ++ s.roster.queued f.values.id =
        (tr.updates 0).filter f.consumer.wants) := by
  obtain ⟨post, opened, -⟩ := underway.manned f member
  obtain ⟨n, posted, result⟩ := opened.sources.1
  have obtains := underway.runs.parts.opened n _ _ posted result
  rw [state] at obtains
  cases obtains.enlists with
  | @store _ _ _ _ _ s feed there lists =>
  refine ⟨s, there, fun idle => ?_⟩
  have has := underway.runs.parts.stores 0 s there
  obtain ⟨h, recorded, accounts⟩ := has.recorded
  have block : s.config.overflow = .block := by
    rw [(has.state rfl).config, underway.state, policy]
  have desk := recorded.desk
  rw [block] at desk
  have all := desk.forwards recorded.uncut lists
    (underway.runs.parts.calm.isCancelled obtains.keeps) idle (accounts rfl).grants
  rw [(accounts rfl).published, (accounts rfl).received f.task f.values ⟨f.registers, post⟩,
    ConsumerConfig.accepts_filter] at all
  exact all

/-- A forwarder follows the catalogs of the devices of its consumer, and no others. -/
theorem Underway.follows (underway : g.Underway config tr p x crew) (member : f ∈ p.forwarders)
    (catalog : Nat) (r : Register) :
    (∃ s ∈ f.registers, x.Announces catalog s r) ↔
      catalog ∈ followed g.simulator f.consumer ∧ f.consumer.registers.accepts r = true := by
  obtain ⟨-, opened, length⟩ := underway.manned f member
  have pairs (i : Nat) (s : Subscription) (there : f.registers[i]? = some s) :
      ∃ k, (followed g.simulator f.consumer)[i]? = some k ∧
        ∃ n, crew.Obtains x n (.follow k (.selection f.consumer.registers) g.root) s := by
    obtain ⟨k, found, n, posted, result⟩ := opened.sources.2 i s there
    exact ⟨k, found, n, underway.runs.parts.opened n _ _ posted result⟩
  have same : f.registers.length = (followed g.simulator f.consumer).length := by
    simpa [subscribing] using length
  constructor
  · rintro ⟨s, one, feed, -, c, sub, there, lists, number, accepts⟩
    obtain ⟨i, at_i⟩ := List.mem_iff_getElem?.1 one
    obtain ⟨k, found, n, obtains⟩ := pairs i s at_i
    cases obtains.enlists with
    | catalog feed' there' lists' =>
    cases feed.symm.trans feed'
    cases there.symm.trans there'
    obtain ⟨h, desk⟩ := (underway.runs.parts.catalogs catalog c there).recorded.desk
    obtain ⟨grant, granted, is⟩ := desk.registered.exists_grant lists'.on
    -- Subscribers on the roster are told apart by number, so this one has the filter asked for.
    have own : sub = grant.1.subscriber :=
      desk.registered.eq_subscriber granted lists.on (number.trans (congrArg Subscriber.id is).symm)
    rw [own, is] at accepts
    exact ⟨List.mem_of_getElem? found, accepts⟩
  · rintro ⟨follows, accepts⟩
    obtain ⟨i, found⟩ := List.mem_iff_getElem?.1 follows
    obtain ⟨less, -⟩ := List.getElem?_eq_some_iff.1 found
    rw [← same] at less
    have at_i : f.registers[i]? = some f.registers[i] := List.getElem?_eq_getElem less
    obtain ⟨k, found', n, obtains⟩ := pairs i _ at_i
    cases found.symm.trans found'
    have live := underway.runs.parts.calm.isCancelled obtains.keeps
    cases obtains.enlists with
    | catalog feed there lists =>
    exact ⟨_, List.mem_of_getElem? at_i, feed, live, _, _, there, lists, rfl, accepts⟩

end Facts

/-- What a forwarder counted and what waits for it are as many as its consumer asks for. -/
theorem Forwarder.IsComplete.lengths {g : Gateway} {devices : List DeviceConfig} {tr : Site.Trace}
    {x : Site} {f : Forwarder} {counted waiting : Nat} (complete : f.IsComplete g devices tr x)
    (seen : x.forwarded? g.simulator.state f.task = some (counted, waiting)) :
    (tr.counted f.task).length = counted ∧
      ((tr.updates g.simulator.state).filter f.consumer.wants).length = counted + waiting := by
  obtain ⟨t, there, role⟩ := complete.counts
  obtain ⟨s, stands, all⟩ := complete.values
  unfold Site.forwarded? at seen
  rw [there, stands, Option.bind_some, Option.bind_some, role] at seen
  dsimp only at seen
  split at seen
  next idle =>
    cases seen
    rw [← all (Option.isNone_iff_eq_none.1 idle), List.length_append]
    exact ⟨rfl, rfl⟩
  · cases seen

/-- A consumer follows the catalog of a device if it names the device or none at all. -/
theorem Furnished.mem_followed {stores : Array Store} {m : Simulator} {x : Site}
    (furnished : Furnished stores m x) {name : String} {catalog : Nat}
    (found : m.catalog? name = some catalog) (c : ConsumerConfig) :
    catalog ∈ followed m c ↔ (c.devices.isEmpty || c.devices.contains name) = true := by
  obtain ⟨⟨_, _⟩, finds, rfl⟩ := Option.map_eq_some_iff.1 found
  obtain ⟨member, rfl⟩ := Keyed.find?_eq_some.1 finds
  unfold followed
  rw [List.mem_map]
  constructor
  · rintro ⟨e, other, same⟩
    obtain ⟨member', wanted⟩ := List.mem_filter.1 other
    rw [furnished.apart e member' _ member same] at wanted
    exact wanted
  · intro wanted
    exact ⟨_, List.mem_filter.2 ⟨member, wanted⟩, rfl⟩

/-- Nothing that a consumer asks for is missed. Whatever the order in which all act, and whether
the consumer wants the current state first or not, a gateway under the blocking policy that nobody
stops has a forwarder for each consumer before anything is applied, and no forwarder misses
anything. -/
theorem Course.forwards_all {c : GatewayConfig} {g : Gateway} {tr : Site.Trace} {p : Progress}
    {x : Site} (valid : c.validate = .ok ()) (policy : c.state.overflow = .block)
    (room : c.state.subscriberCapacity.toNat ≤ queueLimit) (made : ofConfig? c = some g)
    (course : g.Course tr p x) (calm : tr.Uncancelled) :
    p.forwarders.map Forwarder.consumer <+: c.consumers ∧
      (tr.updates g.simulator.state ≠ [] → p.forwarders.map Forwarder.consumer = c.consumers) ∧
      ∀ f ∈ p.forwarders, f.IsComplete g c.devices tr x := by
  obtain ⟨consumers, furnished, known⟩ := furnished_of_ofConfig? valid made
  obtain ⟨crew, underway⟩ :=
    course.underway furnished.state furnished.commands calm (furnished.underway room)
  rw [furnished.state, ← consumers]
  refine ⟨underway.served, fun updated => ?_, fun f member => ⟨underway.counts member, ?_,
    fun d one => ?_⟩⟩
  · have marked : crew.mark ≠ none := fun unmarked =>
      updated (underway.runs.parts.early unmarked)
    refine underway.served.eq_of_length ?_
    rw [List.length_map, underway.late marked]
  · rw [furnished.state]
    exact underway.conveys furnished.state policy member
  · obtain ⟨catalog, found⟩ := Option.ne_none_iff_exists'.1 (known d one)
    refine ⟨catalog, found, fun v device => ?_⟩
    rw [underway.follows member, furnished.mem_followed found, ConsumerConfig.accepts_filter,
      ConsumerConfig.wants, device, Bool.and_eq_true]

/-- One consumer of all that one device reports, and one of all but its switch. -/
def oneRelay : GatewayConfig where
  devices := [{ name := "relay", kind := .relay }]
  consumers := [{ name := "log", devices := ["relay"] },
    { name := "loads", registers := Selection.includeAll.skipRegister "switch",
      sendInitial := true }]

/-- The relay reports its switch, which is logged, and then its load, which only the second consumer
has got so far. -/
def relayTurns : List Site.Actor :=
  List.replicate 15 (.task 6) ++ List.replicate 4 (.owner 0) ++ [.task 2, .owner 1, .owner 1] ++
    List.replicate 6 (.task 6) ++ List.replicate 4 (.owner 0) ++ [.task 5, .task 5]

theorem oneRelay_forwards :
    oneRelay.validate = .ok () ∧ oneRelay.state.overflow = .block ∧
      oneRelay.state.subscriberCapacity.toNat ≤ queueLimit ∧
      ∃ g tr p x, ofConfig? oneRelay = some g ∧ g.Course tr p x ∧ tr.Uncancelled ∧
        p.forwarders.map Forwarder.consumer = oneRelay.consumers ∧ p.started = 1 ∧
        p.forwarders.map (fun f => ((tr.counted f.task).length,
          ((tr.updates g.simulator.state).filter f.consumer.wants).length)) = [(1, 2), (1, 1)] ∧
        ∀ f ∈ p.forwarders, f.IsComplete g oneRelay.devices tr x := by
  have plays : ((ofConfig? oneRelay).bind fun g => g.start.toOption.bind fun r =>
      (r.site.playListed? relayTurns).map fun x =>
        (g.simulator.devices.length, r.forwarders.map fun f => x.forwarded? 0 f.2)) =
      some (1, [some (1, 1), some (1, 0)]) := by
    decide +kernel
  obtain ⟨g, made, plays⟩ := Option.bind_eq_some_iff.1 plays
  cases started : g.start with
  | error =>
    rw [started] at plays
    cases plays
  | ok r =>
    rw [started] at plays
    obtain ⟨x, played, plays⟩ := Option.map_eq_some_iff.1 plays
    obtain ⟨devices, seen⟩ := Prod.mk.inj plays
    have valid : oneRelay.validate = .ok () := rfl
    have room : oneRelay.state.subscriberCapacity.toNat ≤ queueLimit := by decide
    obtain ⟨consumers, furnished, -⟩ := furnished_of_ofConfig? valid made
    obtain ⟨fs, all, tasks, reaches⟩ := reaches_start started
    obtain ⟨tr, course, calm⟩ := reaches.playListed? valid room made played
    have complete := (Course.forwards_all valid rfl room made course calm).2.2
    refine ⟨valid, rfl, room, g, tr, _, x, made, course, calm, all.trans consumers, devices, ?_,
      complete⟩
    rw [tasks, List.map_map] at seen
    obtain ⟨f₁, rest, rfl, first, seen⟩ := List.map_eq_cons_iff.1 seen
    obtain ⟨f₂, none_left, rfl, second, seen⟩ := List.map_eq_cons_iff.1 seen
    obtain rfl := List.map_eq_nil_iff.1 seen
    have sees (f : Forwarder) (member : f ∈ [f₁, f₂]) {counted waiting : Nat}
        (seen : x.forwarded? 0 f.task = some (counted, waiting)) :
        (tr.counted f.task).length = counted ∧
          ((tr.updates g.simulator.state).filter f.consumer.wants).length = counted + waiting := by
      refine (complete f member).lengths ?_
      rw [furnished.state]
      exact seen
    obtain ⟨counted₁, asked₁⟩ := sees f₁ List.mem_cons_self first
    obtain ⟨counted₂, asked₂⟩ := sees f₂ (List.mem_cons_of_mem _ List.mem_cons_self) second
    rw [List.map_cons, List.map_singleton, counted₁, asked₁, counted₂, asked₂]

end Gateway

end Telemetry
