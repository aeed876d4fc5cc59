import Telemetry.Proofs.Gateway.Catalog
import Telemetry.Proofs.Gateway.Store
import Telemetry.Proofs.Site.Holding

/-!
# The parts of a gateway

Stores and catalogs act one at a time, and what is known of each of them is kept by every act. In
particular whatever the consumers opened stays on its roster.

## Main definitions

* `Site.Enlists`: the subscriber of a subscription is on the roster.
* `Crew.Has`: what the openers of a crew obtained.
* `Crew.Parts`: all that is known of the parts of a site.

## Main results

* `Crew.Parts.storeAct`, `Crew.Parts.catalogAct`: what each act keeps.
-/

namespace Telemetry

namespace Site

/-- The subscriber of a subscription is on the roster, and its reader is there. -/
inductive Enlists (x : Site) : Call → Subscription → Prop
  | store {k : Nat} {filter : ValueFilter} {replay : Bool} {parent : Token} {s : Subscription}
      {p : Store} (feed : s.feed = .store k) (there : x.stores[k]? = some p)
      (lists : p.roster.Lists ⟨s.id, filter.accepts, s.token⟩) :
      Enlists x (.subscribe k filter replay parent) s
  | catalog {k : Nat} {filter : RegisterFilter} {parent : Token} {s : Subscription} {c : Catalog}
      (feed : s.feed = .catalog k) (there : x.catalogs[k]? = some c)
      (lists : c.roster.Lists ⟨s.id, filter.accepts, s.token⟩) :
      Enlists x (.follow k filter parent) s

theorem Enlists.congr {x x' : Site} {call : Call} {s : Subscription} (enlists : x.Enlists call s)
    (stores : x'.stores = x.stores) (catalogs : x'.catalogs = x.catalogs) : x'.Enlists call s := by
  cases enlists with
  | store feed there lists => exact .store feed (stores ▸ there) lists
  | catalog feed there lists => exact .catalog feed (catalogs ▸ there) lists

/-- A store that changes may keep whoever is on its roster. -/
theorem Enlists.setStore {x : Site} {call : Call} {s : Subscription} {k : Nat} {p p' : Store}
    {σ : Signals} (enlists : x.Enlists call s) (there : x.stores[k]? = some p)
    (keeps : ∀ filter replay parent, call = .subscribe k filter replay parent →
      p.roster.Lists ⟨s.id, filter.accepts, s.token⟩ →
      p'.roster.Lists ⟨s.id, filter.accepts, s.token⟩) :
    { x with signals := σ, stores := x.stores.setIfInBounds k p' }.Enlists call s := by
  cases enlists with
  | catalog feed found lists => exact .catalog feed found lists
  | @store i filter replay parent _ q feed found lists =>
    by_cases same : i = k
    · subst same
      cases there.symm.trans found
      exact .store feed (getElem?_setIfInBounds_of_getElem? there)
        (keeps filter replay parent rfl lists)
    · refine .store feed ?_ lists
      rw [Array.getElem?_setIfInBounds, if_neg (Ne.symm same)]
      exact found

/-- A catalog that changes may keep whoever is on its roster. -/
theorem Enlists.setCatalog {x : Site} {call : Call} {s : Subscription} {k : Nat} {c c' : Catalog}
    (enlists : x.Enlists call s) (there : x.catalogs[k]? = some c)
    (keeps : ∀ filter : RegisterFilter, c.roster.Lists ⟨s.id, filter.accepts, s.token⟩ →
      c'.roster.Lists ⟨s.id, filter.accepts, s.token⟩) :
    { x with catalogs := x.catalogs.setIfInBounds k c' }.Enlists call s := by
  cases enlists with
  | store feed found lists => exact .store feed found lists
  | @catalog i filter _ _ q feed found lists =>
    by_cases same : i = k
    · subst same
      cases there.symm.trans found
      exact .catalog feed (getElem?_setIfInBounds_of_getElem? there) (keeps filter lists)
    · refine .catalog feed ?_ lists
      rw [Array.getElem?_setIfInBounds, if_neg (Ne.symm same)]
      exact found

/-- Nothing is held for a task. -/
structure Free (x : Site) (n : Nat) : Prop where
  stores : ∀ (k : Nat) s, x.stores[k]? = some s → s.view n = .none
  catalogs : ∀ (k : Nat) c, x.catalogs[k]? = some c → c.Free n

section Tasks

variable {x : Site} {n m : Nat} {t : Task}

theorem waits_setTask {c : Call} (other : m ≠ n) :
    Waits (x.setTask n t).tasks m c ↔ Waits x.tasks m c := by
  simp [Waits, setTask, Ne.symm other]

theorem result?_setTask_of_ne (other : m ≠ n) : (x.setTask n t).result? m = x.result? m := by
  simp [result?, setTask, Ne.symm other]

/-- A task that has a result is there. -/
theorem exists_of_result? {result : Result} (is : x.result? n = some result) :
    ∃ t, x.tasks[n]? = some t := by
  unfold result? at is
  split at is
  next there => exact ⟨_, there⟩
  · cases is

/-- A new task has no result. -/
theorem result?_push (turns : List Actor) {c : Call} (ready : t.status = .ready c) :
    { x with tasks := x.tasks.push t, turns }.result? n = x.result? n := by
  unfold result?
  dsimp only
  rw [Array.getElem?_push]
  by_cases last : n = x.tasks.size
  · rw [if_pos last, last, Array.getElem?_eq_none (Nat.le_refl _)]
    cases t
    cases ready
    rfl
  · rw [if_neg last]

/-- The result of a task that was set is that of its new status. -/
theorem status_of_result?_setTask {result : Result}
    (is : (x.setTask n t).result? n = some result) : t.status = .finished result := by
  unfold result? setTask at is
  dsimp only at is
  rw [Array.getElem?_setIfInBounds, if_pos rfl] at is
  split at is
  next u there =>
    split at there <;> cases there
    cases is
    rfl
  · cases is

end Tasks

end Site

namespace Gateway

open Site (Call Task Waits Holding Free)

namespace Crew

/-- The calls by which consumers subscribe. -/
inductive Opens (root : Token) : Call → Prop
  | values (filter : ValueFilter) (replay : Bool) : Opens root (.subscribe 0 filter replay root)
  | registers (catalog : Nat) (filter : RegisterFilter) : Opens root (.follow catalog filter root)

/-- A subscription was opened by a call. -/
def Has (g : Crew) (x : Site) (call : Call) (s : Subscription) : Prop :=
  ∃ n, g.posts[n]? = some (.opener call) ∧ x.result? n = some (.responses [.subscribed s])

/-- What a task obtained that opened a subscription. -/
structure Obtains (g : Crew) (x : Site) (n : Nat) (call : Call) (s : Subscription) : Prop where
  enlists : x.Enlists call s
  keeps : g.Keeps x.signals s.token
  new : call.stores ≠ [] → g.IsNew n s.id

/-- All that is known of the parts of a site. -/
structure Parts (g : Crew) (updates : List Value) (got : Nat → List Value) (x : Site) : Prop where
  calm : g.Calm x.signals
  stores : ∀ k s, x.stores[k]? = some s → g.HasStore updates got x.signals x.tasks k s
  catalogs : ∀ k c, x.catalogs[k]? = some c → g.HasCatalog x.signals x.tasks k c
  openers : ∀ (n : Nat) call, g.posts[n]? = some (.opener call) → Opens g.root call
  opened : ∀ (n : Nat) call s, g.posts[n]? = some (.opener call) →
    x.result? n = some (.responses [.subscribed s]) → g.Obtains x n call s
  sources : ∀ (n : Nat) values registers, g.posts[n]? = some (.forwarder values registers) →
    (∃ filter replay, g.Has x (.subscribe 0 filter replay g.root) values) ∧
      ∀ s ∈ registers, ∃ k filter, g.Has x (.follow k filter g.root) s
  /-- Nothing is applied before devices start. -/
  early : g.mark = none → updates = []

variable {g : Crew} {updates updates' : List Value} {got got' : Nat → List Value} {x x' : Site}
  {stores catalogs : List Nat} {k n : Nat}

theorem Has.post {call : Call} {s : Subscription} (has : g.Has x call s) {p : Post} {t : Task}
    (turns : List Site.Actor) {c : Call} (ready : t.status = .ready c) :
    (g.post p).Has { x with tasks := x.tasks.push t, turns } call s := by
  obtain ⟨m, post, result⟩ := has
  exact ⟨m, getElem?_post post, by rw [Site.result?_push turns ready, result]⟩

theorem HasStore.congr {σ : Signals} {tasks : Array Task} {s : Store}
    (has : g.HasStore updates got σ tasks k s)
    (same : k = 0 → updates' = updates ∧ ∀ n values, g.Forwards n values → got' n = got n) :
    g.HasStore updates' got' σ tasks k s where
  recorded := by
    obtain ⟨h, recorded, accounts⟩ := has.recorded
    refine ⟨h, recorded, fun zero => ⟨?_, fun n values forwards => ?_, (accounts zero).grants⟩⟩
    · rw [(same zero).1, (accounts zero).published]
    · rw [(same zero).2 n values forwards, (accounts zero).received n values forwards]
  hosts := has.hosts
  state zero := by
    rw [(same zero).1]
    exact has.state zero

theorem Obtains.congr {call : Call} {s : Subscription} (obtains : g.Obtains x n call s)
    (stores : x'.stores = x.stores) (catalogs : x'.catalogs = x.catalogs)
    (more : x.signals.next ≤ x'.signals.next) : g.Obtains x' n call s where
  enlists := obtains.enlists.congr stores catalogs
  keeps := obtains.keeps.mono more
  new := obtains.new

/-- Whoever forwards is on the roster of the state store. -/
theorem Parts.listed (parts : g.Parts updates got x) {s : Store} (there : x.stores[0]? = some s)
    {values : Subscription} (forwards : g.Forwards n values) :
    ∃ sub ∈ s.roster.subscribers, sub.id = values.id := by
  obtain ⟨registers, post⟩ := forwards
  obtain ⟨⟨filter, replay, m, post, result⟩, -⟩ := parts.sources n values registers post
  cases (parts.opened m _ _ post result).enlists with
  | store _ there' lists =>
    cases there.symm.trans there'
    exact ⟨_, lists.on, rfl⟩

/-- What an act of a store keeps. -/
theorem Parts.storeAct (parts : g.Parts updates got x) (holding : Holding stores catalogs x)
    {a : Store.Action} {o : Store.Output} (acted : x.storeAct? k a = some (o, x'))
    (permits : ∀ s, x.stores[k]? = some s → g.Permits x.signals x.tasks k s a)
    (tells : k = 0 → ∀ s s', x.stores[k]? = some s →
      updates' = updates ++ Store.Step.updates ⟨x.signals, s, .act a, o, s'⟩ ∧
      ∀ n values, g.Forwards n values →
        got' n = got n ++ Store.Step.received values.id ⟨x.signals, s, .act a, o, s'⟩)
    (elsewhere : k ≠ 0 →
      updates' = updates ∧ ∀ n values, g.Forwards n values → got' n = got n) :
    g.Parts updates' got' x' := by
  obtain ⟨s, σ, s', there, acts, rfl⟩ := Site.storeAct?_eq_some.1 acted
  have change := Store.change_of_effect (e := .act a) acts
  have held : 0 < s.handles := Nat.lt_of_le_of_lt (Nat.zero_le _) (holding.lt_store there)
  obtain rfl : σ = x.signals := change.signals_eq held
  have has := parts.stores k s there
  refine ⟨parts.calm, fun i p found => ?_, parts.catalogs, parts.openers,
    fun m call sub post result => ?_, parts.sources, fun unmarked => ?_⟩
  · rcases Site.of_getElem?_setIfInBounds found with ⟨rfl, rfl⟩ | ⟨differ, found⟩
    · refine has.act parts.calm change (permits s there) held ?_ ?_ ?_
      · rintro rfl n values forwards
        exact parts.listed there forwards
      · exact fun zero => (tells zero s _ there).1
      · exact fun zero => (tells zero s _ there).2
    · exact (parts.stores i p found).congr fun zero =>
        elsewhere fun same => differ (zero.trans same.symm)
  · obtain ⟨enlists, keeps, new⟩ := parts.opened m call sub post result
    refine ⟨enlists.setStore there fun filter replay parent is lists => ?_, keeps, new⟩
    subst is
    have zero : k = 0 := by
      cases parts.openers m _ post
      rfl
    exact has.lists zero parts.calm change (permits s there) held lists keeps
  · by_cases zero : k = 0
    · have state := has.isState zero change (permits s there) held (tells zero s s' there).1
      exact (state.first unmarked).2
    · rw [(elsewhere zero).1, parts.early unmarked]

/-- What an act of a catalog keeps. -/
theorem Parts.catalogAct (parts : g.Parts updates got x) (holding : Holding stores catalogs x)
    {a : Catalog.Action} {o : Catalog.Output} (acted : x.catalogAct? k a = some (o, x'))
    (release : a = .release → k ∈ catalogs) (stays : ∀ id, a ≠ .close id)
    (asks : ∀ c n access, x.catalogs[k]? = some c → a = .ask n access →
      c.Free n ∧ g.Wants x.signals x.tasks k n access) :
    g.Parts updates got x' := by
  obtain ⟨c, c', there, acts, rfl⟩ := Site.catalogAct?_eq_some.1 acted
  have change : Catalog.Change x.signals c (.act a) x.signals c' o :=
    Catalog.change_of_effect (by rw [Catalog.Event.effect?, acts]; rfl)
  have more := holding.lt_catalog there
  have held : 0 < c.handles := Nat.lt_of_le_of_lt (Nat.zero_le _) more
  have spare (same : a = .release) : 1 < c.handles :=
    Nat.lt_of_le_of_lt (List.count_pos_iff.2 (release same)) more
  have has := parts.catalogs k c there
  refine ⟨parts.calm, parts.stores, fun i p found => ?_, parts.openers,
    fun m call sub post result => ?_, parts.sources, parts.early⟩
  · rcases Site.of_getElem?_setIfInBounds found with ⟨rfl, rfl⟩ | ⟨-, found⟩
    · exact has.act change held spare fun n access same => asks c n access there same
    · exact parts.catalogs i p found
  · obtain ⟨enlists, keeps, new⟩ := parts.opened m call sub post result
    exact ⟨enlists.setCatalog there fun filter lists =>
      has.lists parts.calm change held spare stays lists keeps, keeps, new⟩

/-- Signals come and fire. -/
theorem Parts.signals (parts : g.Parts updates got x) {σ : Signals} (calm : g.Calm σ)
    (grows : x.signals.Grows σ) (more : x.signals.next ≤ σ.next) :
    g.Parts updates got { x with signals := σ } where
  calm := calm
  stores k s there := (parts.stores k s there).wait grows more
  catalogs k c there := (parts.catalogs k c there).wait grows more
  openers := parts.openers
  opened n call s post result := (parts.opened n call s post result).congr rfl rfl more
  sources := parts.sources
  early := parts.early

/-! ## Tasks -/

/-- A task for which nothing is held goes on. If it opened a subscription, that is known. -/
theorem Parts.setTask (parts : g.Parts updates got x) (free : x.Free n) (t : Task)
    (unsettled : x.result? n = none)
    (obtains : ∀ call s, g.posts[n]? = some (.opener call) →
      t.status = .finished (.responses [.subscribed s]) → g.Obtains x n call s) :
    g.Parts updates got (x.setTask n t) := by
  have keeps {call : Call} {s : Subscription} (has : g.Has x call s) :
      g.Has (x.setTask n t) call s := by
    obtain ⟨m, post, result⟩ := has
    refine ⟨m, post, ?_⟩
    rwa [Site.result?_setTask_of_ne]
    rintro rfl
    cases unsettled.symm.trans result
  refine ⟨parts.calm, fun k s there => ?_, fun k c there => ?_, parts.openers,
    fun m call s post result => ?_, fun m values registers post => ?_, parts.early⟩
  · exact (parts.stores k s there).alter (free.stores k s there)
      fun m c other => (Site.waits_setTask other).2
  · exact (parts.catalogs k c there).alter (free.catalogs k c there)
      fun m c other => (Site.waits_setTask other).2
  · refine Obtains.congr (x := x) ?_ rfl rfl (Nat.le_refl _)
    by_cases same : m = n
    · subst same
      exact obtains call s post (Site.status_of_result?_setTask result)
    · rw [Site.result?_setTask_of_ne same] at result
      exact parts.opened m call s post result
  · obtain ⟨⟨filter, replay, has⟩, others⟩ := parts.sources m values registers post
    refine ⟨⟨filter, replay, keeps has⟩, fun s member => ?_⟩
    obtain ⟨k, filter, has⟩ := others s member
    exact ⟨k, filter, keeps has⟩

/-- Nothing is held for a task that waits on no store and no catalog. -/
theorem Parts.free (parts : g.Parts updates got x)
    (idle : ∀ c, Waits x.tasks n c → c.stores = [] ∧ c.catalogs = []) : x.Free n where
  stores k s there := by
    refine (parts.stores k s there).hosts.idle n ?_
    rintro ⟨c, waits, goes⟩
    rw [(idle c waits).1] at goes
    cases goes
  catalogs k c there := by
    refine (parts.catalogs k c there).hosts.free fun access wants => ?_
    obtain ⟨call, waits, goes⟩ := wants.waits
    rw [(idle call waits).2] at goes
    cases goes

/-- Neither the time nor the order of turns matters. -/
theorem Parts.pass (parts : g.Parts updates got x) (clock : Nat) (turns : List Site.Actor) :
    g.Parts updates got { x with clock, turns } where
  calm := parts.calm
  stores := parts.stores
  catalogs := parts.catalogs
  openers := parts.openers
  opened n call s post result :=
    (parts.opened n call s post result).congr rfl rfl (Nat.le_refl _)
  sources := parts.sources
  early := parts.early

/-- A task that has the result of a store is done there. -/
theorem Parts.resolveStore (parts : g.Parts updates got x) (holding : Holding stores catalogs x)
    {c : Call} (waits : Waits x.tasks n c) (goes : k ∈ c.stores) {r : Except Error Reply}
    (acted : x.storeAct? k (.resolve n) = some (.result r, x')) :
    g.Parts updates got x' ∧ x'.Free n ∧ ∀ reply, r = .ok reply →
      reply = .done ∨ ∃ s, x'.stores[k]? = some s ∧ g.Told x.signals x.tasks k s n reply := by
  -- A task waits on one part at a time, so nothing is held for it anywhere else.
  have only : c.stores = [k] ∧ c.catalogs = [] := by
    cases c <;> simp_all [Call.stores, Call.catalogs]
  have parts' : g.Parts updates got x' := by
    refine parts.storeAct holding acted (fun _ _ => trivial) (fun _ s s' _ => ?_)
      fun _ => ⟨rfl, fun _ _ _ => rfl⟩
    exact ⟨(List.append_nil _).symm, fun _ _ _ => (List.append_nil _).symm⟩
  obtain ⟨s, σ, s', there, acts, rfl⟩ := Site.storeAct?_eq_some.1 acted
  have change := Store.change_of_effect (e := .act (.resolve n)) acts
  have held : 0 < s.handles := Nat.lt_of_le_of_lt (Nat.zero_le _) (holding.lt_store there)
  obtain rfl : σ = x.signals := change.signals_eq held
  have has := parts.stores k s there
  have found := Site.getElem?_setIfInBounds_of_getElem? (b := s') there
  obtain ⟨nothing, r', same, told⟩ := change.resolves has.hosts
  cases same
  refine ⟨parts', ⟨fun i p other => ?_, fun i p other => ?_⟩, fun reply is => ?_⟩
  · by_cases same : i = k
    · subst same
      cases found.symm.trans other
      exact nothing
    · refine (parts'.stores i p other).hosts.idle n ?_
      rintro ⟨c', waits', goes'⟩
      rw [← waits.eq waits', only.1] at goes'
      exact same (List.mem_singleton.1 goes')
  · refine (parts'.catalogs i p other).hosts.free fun access wants => ?_
    obtain ⟨c', waits', goes'⟩ := wants.waits
    rw [← waits.eq waits', only.2] at goes'
    cases goes'
  · exact (told reply is).imp_right fun told =>
      ⟨s', found, has.told parts.calm change trivial held told⟩

/-- A task that has the answer of a catalog is done there. -/
theorem Parts.resolveCatalog (parts : g.Parts updates got x)
    (holding : Holding stores catalogs x) {call : Call} (waits : Waits x.tasks n call)
    (goes : k ∈ call.catalogs) {r : Catalog.Reply}
    (acted : x.catalogAct? k (.resolve n) = some (.reply r, x')) :
    g.Parts updates got x' ∧ x'.Free n ∧ ∀ id token, r = .subscribed id token →
      ∃ filter, call = .follow k filter g.root ∧ g.Issues x.signals token ∧
        ∃ c, x'.catalogs[k]? = some c ∧ c.roster.Lists ⟨id, filter.accepts, token⟩ := by
  have only : call.stores = [] ∧ call.catalogs = [k] := by
    cases call <;> simp_all [Call.stores, Call.catalogs]
  have parts' : g.Parts updates got x' :=
    parts.catalogAct holding acted nofun nofun nofun
  obtain ⟨c, c', there, acts, rfl⟩ := Site.catalogAct?_eq_some.1 acted
  have change : Catalog.Change x.signals c (.act (.resolve n)) x.signals c' (.reply r) :=
    Catalog.change_of_effect (by rw [Catalog.Event.effect?, acts]; rfl)
  have has := parts.catalogs k c there
  have found := Site.getElem?_setIfInBounds_of_getElem? (b := c') there
  obtain ⟨nothing, r', same, given⟩ := change.resolves has.hosts
  cases same
  refine ⟨parts', ⟨fun i p other => ?_, fun i p other => ?_⟩, fun id token is => ?_⟩
  · refine (parts'.stores i p other).hosts.idle n ?_
    rintro ⟨c', waits', goes'⟩
    rw [← waits.eq waits', only.1] at goes'
    cases goes'
  · by_cases same : i = k
    · subst same
      cases found.symm.trans other
      exact nothing
    · refine (parts'.catalogs i p other).hosts.free fun access wants => ?_
      obtain ⟨c', waits', goes'⟩ := wants.waits
      rw [← waits.eq waits', only.2] at goes'
      exact same (List.mem_singleton.1 goes')
  · obtain ⟨filter, wants, rfl, initial, extra, enrolled⟩ := given id token is
    rcases wants with ⟨_, is, -⟩ | ⟨_, _, is, waits', issues⟩
    · cases is
    · cases is
      refine ⟨filter, waits.eq waits', issues, c', found, ?_, ?_⟩
      · rw [enrolled]
        exact List.mem_append_right _ (List.mem_singleton.2 rfl)
      · obtain ⟨h, desk⟩ := has.recorded.desk
        have fresh : c.roster.outbox? c.roster.nextId = none := desk.registered.fresh
        rw [enrolled, Roster.isClosed_enroll]
        simp [Roster.isClosed, fresh]

/-- Devices start when nobody waits for a subscription any more. -/
theorem Parts.launch (parts : g.Parts updates got x) (unmarked : g.mark = none)
    (idle : ∀ m c, Waits x.tasks m c → c.stores = [] ∧ c.catalogs = []) :
    (g.launch x.signals).Parts updates got x := by
  -- Until now all tokens were for consumers. From here on those that exist already are.
  have same : (g.launch x.signals).bound x.signals = g.bound x.signals := by
    simp [Crew.bound, Crew.launch, unmarked]
  have keeps {t : Token} (keeps : g.Keeps x.signals t) :
      (g.launch x.signals).Keeps x.signals t := by
    intro i member
    rw [same]
    exact keeps i member
  refine ⟨⟨same ▸ parts.calm.bound, keeps parts.calm.root, fun i member => ?_⟩,
    fun k s there => (parts.stores k s there).launch fun m c waits => (idle m c waits).1,
    fun k c there => (parts.catalogs k c there).launch fun m c waits => (idle m c waits).2,
    parts.openers, fun n call s post result => ?_, parts.sources, fun unmarked => by cases unmarked⟩
  · obtain ⟨-, m, mark, -⟩ := parts.calm.fired i member
    cases unmarked.symm.trans mark
  · obtain ⟨enlists, kept, new⟩ := parts.opened n call s post result
    exact ⟨enlists, keeps kept, new⟩

/-- A new task has nothing under way. -/
theorem Parts.post (parts : g.Parts updates got x) {p : Post} {t : Task} (turns : List Site.Actor)
    (size : x.tasks.size = g.posts.length) {c : Call} (ready : t.status = .ready c)
    (none_got : got g.posts.length = []) (opens : ∀ call, p = .opener call → Opens g.root call)
    (forwards : ∀ values registers, p = .forwarder values registers → g.mark = none ∧
      (∃ filter replay, g.Has x (.subscribe 0 filter replay g.root) values) ∧
        ∀ s ∈ registers, ∃ k filter, g.Has x (.follow k filter g.root) s) :
    (g.post p).Parts updates got { x with tasks := x.tasks.push t, turns } := by
  have waits (m : Nat) (c : Call) (wait : Waits x.tasks m c) : Waits (x.tasks.push t) m c := by
    obtain ⟨u, there, status⟩ := wait
    obtain ⟨less, -⟩ := Array.getElem?_eq_some_iff.1 there
    exact ⟨u, by rw [Array.getElem?_push_lt less, ← there, Array.getElem?_eq_getElem less], status⟩
  refine ⟨⟨parts.calm.bound, parts.calm.root, parts.calm.fired⟩, fun k s there => ?_,
    fun k c there => (parts.catalogs k c there).post p waits, fun n call post => ?_,
    fun m call s post got => ?_, fun n values registers post => ?_, parts.early⟩
  · refine (parts.stores k s there).post size none_got
      fun values registers is => ?_
    obtain ⟨unmarked, ⟨filter, replay, m, post, result⟩, -⟩ := forwards values registers is
    refine ⟨unmarked, ?_⟩
    rintro rfl
    cases (parts.opened m _ _ post result).enlists with
    | store _ there' lists =>
      cases there.symm.trans there'
      exact ⟨_, lists.on, rfl⟩
  · rcases of_getElem?_post post with before | ⟨-, is⟩
    · exact parts.openers n call before
    · exact opens call is.symm
  · rw [Site.result?_push turns ready] at got
    obtain ⟨less, -⟩ := Array.getElem?_eq_some_iff.1 (Site.exists_of_result? got).choose_spec
    have post : g.posts[m]? = some (.opener call) :=
      (of_getElem?_post post).resolve_right fun last => Nat.ne_of_lt (size ▸ less) last.1
    obtain ⟨enlists, keeps, isNew⟩ := parts.opened m call s post got
    exact ⟨enlists.congr rfl rfl, keeps, fun goes => (isNew goes).post (size ▸ Nat.le_of_lt less)⟩
  · have from_openers : (∃ filter replay, g.Has x (.subscribe 0 filter replay g.root) values) ∧
        ∀ s ∈ registers, ∃ k filter, g.Has x (.follow k filter g.root) s := by
      rcases of_getElem?_post post with before | ⟨-, is⟩
      · exact parts.sources n values registers before
      · exact (forwards values registers is.symm).2
    obtain ⟨⟨filter, replay, obtained⟩, others⟩ := from_openers
    refine ⟨⟨filter, replay, obtained.post turns ready⟩, fun s member => ?_⟩
    obtain ⟨k, filter, obtained⟩ := others s member
    exact ⟨k, filter, obtained.post turns ready⟩

end Crew

end Gateway

end Telemetry
