import Telemetry.Proofs.Gateway.Course

/-!
# The progress of a gateway

Each step of a gateway leaves a crew that does what the gateway has come to: one task for each
subscription that was opened, one that forwards to each consumer, and one for each device.

## Main definitions

* `Underway`: what is known of a gateway that has come some way.

## Main results

* `Course.underway`: whatever the course, all of that is known.
-/

namespace Telemetry.Gateway

open Site (Call Task Waits)

namespace Crew

section Spawn

variable {g : Crew} {updates : List Value} {got : Nat → List Value} {x x' : Site}

theorem Has.congr {call : Call} {s : Subscription} (has : g.Has x call s)
    (tasks : x'.tasks = x.tasks) : g.Has x' call s := by
  obtain ⟨n, post, result⟩ := has
  exact ⟨n, post, by rwa [Site.result?, tasks]⟩

theorem Has.happens {call : Call} {s : Subscription} (has : g.Has x call s) {e : Site.Event}
    (happened : x.Happens e x') : g.Has x' call s := by
  obtain ⟨n, post, result⟩ := has
  exact ⟨n, post, happened.result? result⟩

theorem result?_spawn (n : Nat) (x : Site) (role : Site.Role) (call : Call) :
    (x.spawn role call).2.result? n = x.result? n :=
  Site.result?_push (t := ⟨role, .ready call, role.stores call, role.catalogs call⟩)
    (x.turns ++ [.task x.tasks.size]) rfl

theorem Has.spawn {call : Call} {s : Subscription} (has : g.Has x call s) (p : Post)
    (role : Site.Role) (first : Call) : (g.post p).Has (x.spawn role first).2 call s := by
  have pushed := Has.post (p := p) has (x.turns ++ [.task x.tasks.size])
    (t := ⟨role, .ready first, role.stores first, role.catalogs first⟩) rfl
  exact pushed.congr rfl

/-- A task comes. -/
theorem Runs.spawn (runs : g.Runs updates got [] [] x) {role : Site.Role} {call : Call} {p : Post}
    (duty : ∀ σ, g.Duty σ [] ⟨role, .ready call, role.stores call, role.catalogs call⟩ p)
    (opens : ∀ call, p = .opener call → Opens g.root call)
    (forwards : ∀ values registers, p = .forwarder values registers → g.mark = none ∧
      (∃ filter replay, g.Has x (.subscribe 0 filter replay g.root) values) ∧
        ∀ s ∈ registers, ∃ k filter, g.Has x (.follow k filter g.root) s)
    (new : ∀ values registers, p = .forwarder values registers →
      ∀ n values', g.Forwards n values' → values'.id ≠ values.id) :
    (g.post p).Runs updates got [] [] (x.spawn role call).2 := by
  have held := runs.holdAll ⟨role, .ready call, role.stores call, role.catalogs call⟩
  have same := Site.tasks_holdAll ⟨role, .ready call, role.stores call, role.catalogs call⟩ x
  unfold Site.spawn
  dsimp only
  rw [← same]
  refine ⟨held.parts.post _ held.mans.size rfl (held.mans.later _ (Nat.le_refl _)) opens
    fun values registers is => ?_, held.mans.post _ (duty _) fun values registers is n values' _ =>
      new values registers is n values', held.holding.push _ (List.reverse_perm _).symm
        (List.reverse_perm _).symm⟩
  obtain ⟨unmarked, ⟨filter, replay, has⟩, others⟩ := forwards values registers is
  refine ⟨unmarked, ⟨filter, replay, has.congr same⟩, fun s one => ?_⟩
  obtain ⟨k, filter, has⟩ := others s one
  exact ⟨k, filter, has.congr same⟩

end Spawn

/-- Subscriptions that were opened by the first of some calls, one by one. -/
structure Opened (g : Crew) (x : Site) (calls : List Call) (subs : List Subscription) : Prop where
  fewer : subs.length ≤ calls.length
  has : ∀ (i : Nat) s, subs[i]? = some s → ∃ call, calls[i]? = some call ∧ g.Has x call s

section Opened

variable {g g' : Crew} {x x' : Site} {calls : List Call} {subs : List Subscription}

theorem Opened.mono (opened : g.Opened x calls subs)
    (keeps : ∀ call s, g.Has x call s → g'.Has x' call s) : g'.Opened x' calls subs where
  fewer := opened.fewer
  has i s there := by
    obtain ⟨call, found, has⟩ := opened.has i s there
    exact ⟨call, found, keeps call s has⟩

theorem Opened.snoc (opened : g.Opened x calls subs) {call : Call} {s : Subscription}
    (next : calls[subs.length]? = some call) (has : g.Has x call s) :
    g.Opened x calls (subs ++ [s]) where
  fewer := by
    obtain ⟨less, -⟩ := List.getElem?_eq_some_iff.1 next
    rw [List.length_append]
    exact less
  has i s' there := by
    rcases Nat.lt_or_ge i subs.length with less | more
    · exact opened.has i s' (List.getElem?_append_left less ▸ there)
    · obtain ⟨below, -⟩ := List.getElem?_eq_some_iff.1 there
      obtain rfl : i = subs.length := by
        rw [List.length_append, List.length_singleton] at below
        omega
      rw [List.getElem?_concat_length] at there
      cases there
      exact ⟨call, next, has⟩

end Opened

end Crew

/-- What is known of a gateway that has come some way, given what its tasks are there for. -/
structure Underway (g : Gateway) (config : StoreConfig) (tr : Site.Trace) (p : Progress) (x : Site)
    (crew : Crew) : Prop where
  runs : crew.Runs (tr.updates 0) (fun n => tr.counted n) [] [] x
  state : crew.state = config
  root : crew.root = g.root
  /-- Only the task that opens a subscription right now has no result. -/
  settled : ∀ (n : Nat) call, crew.posts[n]? = some (.opener call) →
    p.opening = some n ∨ ∃ r, x.result? n = some r
  asked : ∀ n, p.opening = some n → ∃ c call, g.consumers[p.forwarders.length]? = some c ∧
    (subscribing g.simulator g.root c)[p.opened.length]? = some call ∧
    crew.posts[n]? = some (.opener call) ∧ crew.posts.length = n + 1
  opened : ∀ c, g.consumers[p.forwarders.length]? = some c →
    crew.Opened x (subscribing g.simulator g.root c) p.opened
  /-- Nobody forwards yet what the next consumer will get. -/
  new : ∀ s, p.opened.head? = some s → ∀ n values, crew.Forwards n values → values.id ≠ s.id
  served : p.forwarders.map Forwarder.consumer <+: g.consumers
  manned : ∀ f ∈ p.forwarders, crew.posts[f.task]? = some (.forwarder f.values f.registers) ∧
    crew.Opened x (subscribing g.simulator g.root f.consumer) (f.values :: f.registers) ∧
    (f.values :: f.registers).length = (subscribing g.simulator g.root f.consumer).length
  /-- Devices start when all consumers are served. -/
  late : crew.mark ≠ none → p.forwarders.length = g.consumers.length

section Steps

variable {g : Gateway} {config : StoreConfig} {tr : Site.Trace} {p : Progress} {x x' : Site}
  {crew : Crew} {c : ConsumerConfig}

theorem Underway.happen (underway : g.Underway config tr p x crew) {e : Site.Event}
    (happened : x.Happens e x') (calm : ∀ t, e ≠ .cancel t) :
    g.Underway config (tr ++ [⟨x, e⟩]) p x' crew where
  runs := by
    have runs := underway.runs.run (.step .start happened) (by simpa [Site.Trace.Uncancelled])
    simp only [Site.Trace.updates_append, Site.Trace.counted_append]
    exact runs
  state := underway.state
  root := underway.root
  settled n call post := by
    refine (underway.settled n call post).imp_right ?_
    rintro ⟨r, result⟩
    exact ⟨r, happened.result? result⟩
  asked := underway.asked
  opened c next := (underway.opened c next).mono fun _ _ has => has.happens happened
  new := underway.new
  served := underway.served
  manned f member := by
    obtain ⟨post, opened, all⟩ := underway.manned f member
    exact ⟨post, opened.mono fun _ _ has => has.happens happened, all⟩
  late := underway.late

/-- As long as a consumer is not served, no device has started. -/
theorem Underway.unmarked (underway : g.Underway config tr p x crew)
    (next : g.consumers[p.forwarders.length]? = some c) : crew.mark = none := by
  by_contra marked
  obtain ⟨less, -⟩ := List.getElem?_eq_some_iff.1 next
  exact Nat.ne_of_lt less (underway.late marked)

/-- Every subscription that was asked for is there, unless a task opens one right now. -/
theorem Underway.answered (underway : g.Underway config tr p x crew) (idle : p.opening = none)
    {n : Nat} {call : Call} (post : crew.posts[n]? = some (.opener call)) :
    ∃ r, x.result? n = some r :=
  (underway.settled n call post).resolve_left (by simp [idle])

/-- Forwarders stay what they are when one more task comes. -/
theorem Underway.manned_spawn (underway : g.Underway config tr p x crew) (q : Post)
    (role : Site.Role) (call : Call) {f : Forwarder} (member : f ∈ p.forwarders) :
    (crew.post q).posts[f.task]? = some (.forwarder f.values f.registers) ∧
      (crew.post q).Opened (x.spawn role call).2 (subscribing g.simulator g.root f.consumer)
        (f.values :: f.registers) ∧
      (f.values :: f.registers).length = (subscribing g.simulator g.root f.consumer).length := by
  obtain ⟨post, opened, all⟩ := underway.manned f member
  exact ⟨Crew.getElem?_post post, opened.mono fun _ _ has => has.spawn q role call, all⟩

/-- A task that comes for something else does not forward what the next consumer will get. -/
theorem Underway.new_post (underway : g.Underway config tr p x crew) {q : Post}
    (other : ∀ values registers, q ≠ .forwarder values registers) {s : Subscription}
    (first : p.opened.head? = some s) {n : Nat} {values : Subscription}
    (forwards : (crew.post q).Forwards n values) : values.id ≠ s.id := by
  rcases Crew.of_forwards_post forwards with old | ⟨-, registers, is⟩
  · exact underway.new s first n values old
  · exact absurd is (other values registers)

variable (state : g.simulator.state = 0) (commands : g.simulator.commands = 1)

include state in
theorem opens_of_subscribing {call : Call} (member : call ∈ subscribing g.simulator g.root c) :
    Crew.Opens g.root call := by
  rcases List.mem_cons.1 member with rfl | follows
  · rw [state]
    exact .values _ _
  · obtain ⟨catalog, -, rfl⟩ := List.mem_map.1 follows
    exact .registers _ _

include state in
theorem Underway.ask (underway : g.Underway config tr p x crew) {call : Call}
    (idle : p.opening = none) (next : g.consumers[p.forwarders.length]? = some c)
    (calls : (subscribing g.simulator g.root c)[p.opened.length]? = some call) :
    g.Underway config tr { p with opening := some x.tasks.size } (x.spawn (.script [] []) call).2
      (crew.post (.opener call)) := by
  have unmarked := underway.unmarked next
  have opens := opens_of_subscribing state (List.mem_of_getElem? calls)
  have size := underway.runs.mans.size
  refine
    { runs := underway.runs.spawn (fun _ => .opens rfl (.inl rfl) unmarked) ?_ nofun nofun
      state := underway.state
      root := underway.root
      settled := fun n call' post => ?_
      asked := ?_
      opened := fun c next => (underway.opened c next).mono fun _ _ has => has.spawn _ _ _
      new := fun s first n values forwards => underway.new_post (by simp) first forwards
      served := underway.served
      manned := fun f member => underway.manned_spawn _ _ _ member
      late := fun marked => absurd unmarked marked }
  · rintro _ ⟨⟩
    rwa [underway.root]
  · rcases Crew.of_getElem?_post post with old | ⟨rfl, -⟩
    · obtain ⟨r, result⟩ := underway.answered idle old
      exact .inr ⟨r, by rw [Crew.result?_spawn, result]⟩
    · exact .inl (congrArg some size)
  · rintro _ ⟨⟩
    refine ⟨c, call, next, calls, ?_, ?_⟩
    · rw [size]
      exact List.getElem?_concat_length
    · rw [size]
      exact List.length_append

theorem Underway.obtain (underway : g.Underway config tr p x crew) {n : Nat} {s : Subscription}
    (opening : p.opening = some n) (result : x.result? n = some (.responses [.subscribed s])) :
    g.Underway config tr { p with opened := p.opened ++ [s], opening := none } x crew := by
  obtain ⟨c, call, next, calls, post, last⟩ := underway.asked n opening
  refine ⟨underway.runs, underway.state, underway.root, fun m call' post' => ?_, nofun,
    fun c' next' => ?_, fun s' first m values forwards => ?_, underway.served, underway.manned,
    underway.late⟩
  · rcases underway.settled m call' post' with same | settled
    · cases opening.symm.trans same
      exact .inr ⟨_, result⟩
    · exact .inr settled
  · cases next.symm.trans next'
    exact (underway.opened c next).snoc calls ⟨n, post, result⟩
  -- Only the first subscription of a consumer brings values, and it is newer than all forwarders.
  · cases already : p.opened with
    | cons _ rest =>
      rw [already] at first
      exact underway.new s' (already ▸ first) m values forwards
    | nil =>
      rw [already] at first calls
      cases first
      cases calls
      have isNew := (underway.runs.parts.opened n _ s post result).new (by simp [Call.stores])
      obtain ⟨registers, post'⟩ := forwards
      obtain ⟨less, -⟩ := List.getElem?_eq_some_iff.1 post'
      have other : m ≠ n := by
        rintro rfl
        cases post.symm.trans post'
      exact isNew m values (by omega) ⟨registers, post'⟩

/-- What the calls of a consumer got it: values first, then registers. -/
theorem Crew.Opened.sources {values : Subscription} {registers : List Subscription}
    (opened : crew.Opened x (subscribing g.simulator g.root c) (values :: registers)) :
    crew.Has x (.subscribe g.simulator.state c.filter c.sendInitial g.root) values ∧
      ∀ (i : Nat) s, registers[i]? = some s → ∃ k, (followed g.simulator c)[i]? = some k ∧
        crew.Has x (.follow k (.selection c.registers) g.root) s := by
  constructor
  · obtain ⟨call, first, has⟩ := opened.has 0 values rfl
    cases first
    exact has
  · intro i s there
    obtain ⟨call, follows, has⟩ := opened.has (i + 1) s there
    rw [subscribing, List.getElem?_cons_succ, List.getElem?_map] at follows
    obtain ⟨k, found, rfl⟩ := Option.map_eq_some_iff.1 follows
    exact ⟨k, found, has⟩

include state in
theorem Underway.forward (underway : g.Underway config tr p x crew) {values : Subscription}
    {registers : List Subscription} (idle : p.opening = none)
    (next : g.consumers[p.forwarders.length]? = some c) (opened : p.opened = values :: registers)
    (all : p.opened.length = (subscribing g.simulator g.root c).length) :
    g.Underway config tr
      { p with forwarders := p.forwarders ++ [⟨c, x.tasks.size, values, registers⟩], opened := [] }
      (x.spawn (.forwarder values registers 0) (.receiveAny values registers)).2
      (crew.post (.forwarder values registers)) := by
  have unmarked := underway.unmarked next
  have has := underway.opened c next
  rw [opened] at has all
  obtain ⟨first, others⟩ := has.sources
  rw [state] at first
  refine
    { runs := underway.runs.spawn (fun _ => .forwards rfl (.inl rfl)) nofun ?_ ?_
      state := underway.state
      root := underway.root
      settled := fun n call post => ?_
      asked := fun n opening => by cases idle.symm.trans opening
      opened := fun c next => ⟨Nat.zero_le _, nofun⟩
      new := nofun
      served := ?_
      manned := fun f member => ?_
      late := fun marked => absurd unmarked marked }
  · rintro _ _ ⟨⟩
    rw [underway.root]
    refine ⟨unmarked, ⟨_, _, first⟩, fun s one => ?_⟩
    obtain ⟨i, there⟩ := List.mem_iff_getElem?.1 one
    obtain ⟨k, -, has⟩ := others i s there
    exact ⟨k, _, has⟩
  · rintro _ _ ⟨⟩
    exact underway.new values (by rw [opened]; rfl)
  · rcases Crew.of_getElem?_post post with old | ⟨-, is⟩
    · obtain ⟨r, result⟩ := underway.answered idle old
      exact .inr ⟨r, by rw [Crew.result?_spawn, result]⟩
    · cases is
  · obtain ⟨rest, whole⟩ := underway.served
    rw [← whole, List.getElem?_append_right (by rw [List.length_map]), List.length_map,
      Nat.sub_self] at next
    cases rest with
    | nil => cases next
    | cons _ rest =>
      cases next
      exact ⟨rest, by simpa using whole⟩
  · rcases List.mem_append.1 member with old | last
    · exact underway.manned_spawn _ _ _ old
    · obtain rfl := List.mem_singleton.1 last
      refine ⟨?_, has.mono fun _ _ has => has.spawn _ _ _, all⟩
      rw [underway.runs.mans.size]
      exact List.getElem?_concat_length

/-- Devices may start when all consumers are served. -/
theorem Underway.mark (underway : g.Underway config tr p x crew) (idle : p.opening = none)
    (all : p.forwarders.length = g.consumers.length) :
    ∃ crew', g.Underway config tr p x crew' ∧ crew'.mark ≠ none := by
  by_cases marked : crew.mark ≠ none
  · exact ⟨crew, underway, marked⟩
  have unmarked : crew.mark = none := by simpa using marked
  have runs := underway.runs
  -- All subscriptions are there and no device has started, so only forwarders wait.
  have waitless (m : Nat) (c : Call) (waits : Waits x.tasks m c) :
      c.stores = [] ∧ c.catalogs = [] := by
    obtain ⟨t, there, status⟩ := waits
    obtain ⟨q, post⟩ := runs.mans.exists_post there
    cases runs.mans.duty m t q there post with
    | opened finished | rests _ finished =>
      exact absurd finished (Task.Calls.not_finished (.inr status))
    | opens =>
      obtain ⟨r, result⟩ := underway.answered idle post
      cases (Site.result?_of_calls there (.inr status)).symm.trans result
    | forwards _ calls =>
      cases calls.eq_of_waiting status
      exact ⟨rfl, rfl⟩
    | drives marked => exact absurd unmarked marked
  have finished (n : Nat) (call : Call) (t : Task) (post : crew.posts[n]? = some (.opener call))
      (there : x.tasks[n]? = some t) : t.IsFinished := by
    obtain ⟨r, result⟩ := underway.answered idle post
    exact Site.isFinished_of_result? there result
  refine ⟨crew.launch x.signals,
    { runs := ⟨runs.parts.launch unmarked waitless, runs.mans.launch unmarked finished,
        runs.holding⟩
      state := underway.state
      root := underway.root
      settled := underway.settled
      asked := underway.asked
      opened := fun c next => (underway.opened c next).mono fun _ _ has => has
      new := underway.new
      served := underway.served
      manned := fun f member => ?_
      late := fun _ => all }, nofun⟩
  obtain ⟨post, opened, all⟩ := underway.manned f member
  exact ⟨post, opened.mono fun _ _ has => has, all⟩

include state commands in
theorem Underway.launch (underway : g.Underway config tr p x crew) (marked : crew.mark ≠ none)
    (idle : p.opening = none) (d : Device) (catalog : Nat) :
    g.Underway config tr { p with started := p.started + 1 }
      (x.spawn (Site.Role.ofDevice d ⟨g.simulator.state, g.simulator.commands, catalog, g.root⟩
          Site.stamp).1
        (Site.Role.ofDevice d ⟨g.simulator.state, g.simulator.commands, catalog, g.root⟩
          Site.stamp).2).2
      (crew.post (.device catalog)) := by
  rw [state, commands, ← underway.root]
  generalize spawned : Site.Role.ofDevice d ⟨0, 1, catalog, crew.root⟩ Site.stamp = task
  obtain ⟨role, call⟩ := task
  refine
    { runs := underway.runs.spawn (fun σ => ?_) nofun nofun nofun
      state := underway.state
      root := underway.root
      settled := fun n call' post => ?_
      asked := fun n opening => by cases idle.symm.trans opening
      opened := fun c next => (underway.opened c next).mono fun _ _ has => has.spawn _ _ _
      new := fun s first n values forwards => underway.new_post (by simp) first forwards
      served := underway.served
      manned := fun f member => underway.manned_spawn _ _ _ member
      late := underway.late }
  · cases spawned
    have drives : Crew.Drives crew.root catalog (Site.Role.deviceCall ⟨0, 1, catalog, crew.root⟩
        none d Site.stamp (.announce d.registers)) :=
      Crew.drives_deviceCall (fun _ is => by cases is) _ _ _
    exact .drives marked rfl (.inl rfl) drives nofun
  · rcases Crew.of_getElem?_post post with old | ⟨-, is⟩
    · obtain ⟨r, result⟩ := underway.answered idle old
      exact .inr ⟨r, by rw [Crew.result?_spawn, result]⟩
    · cases is

include state commands in
/-- Whatever the course of a gateway that nobody stops, its tasks do what they are there for. -/
theorem Course.underway (course : g.Course tr p x) (calm : tr.Uncancelled)
    (first : g.Underway config [] {} g.site.newToken.2 crew) :
    ∃ crew, g.Underway config tr p x crew := by
  -- What tasks are there for becomes known as they come, so each step names a crew of its own.
  induction course with
  | start => exact ⟨crew, first⟩
  | happen course happened ih =>
    obtain ⟨before, last⟩ := calm.of_append
    obtain ⟨crew, underway⟩ := ih before
    exact ⟨crew, underway.happen happened (last _ List.mem_cons_self)⟩
  | ask course idle next calls ih =>
    obtain ⟨crew, underway⟩ := ih calm
    exact ⟨_, underway.ask state idle next calls⟩
  | obtain course opening result ih =>
    obtain ⟨crew, underway⟩ := ih calm
    exact ⟨crew, underway.obtain opening result⟩
  | forward course idle next opened all ih =>
    obtain ⟨crew, underway⟩ := ih calm
    exact ⟨_, underway.forward state idle next opened all⟩
  | @launch tr p x d catalog course idle all next known ih =>
    obtain ⟨crew, underway⟩ := ih calm
    obtain ⟨crew, underway, marked⟩ := underway.mark idle all
    exact ⟨_, underway.launch state commands marked idle d catalog⟩
  | @skip tr p x d course idle all next unknown ih =>
    obtain ⟨crew, underway⟩ := ih calm
    exact ⟨crew, { underway with }⟩

end Steps

end Telemetry.Gateway
