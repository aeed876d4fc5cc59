import Telemetry.Proofs.Gateway.Crew

/-!
# The stores of a gateway

The state store hears of subscriptions only before devices start, and then it is empty: everybody
who subscribes to it gets no replay and is there for the first update. From then on values come in
and the list of subscribers stays as it is.

## Main definitions

* `Crew.Asks`, `Crew.Told`: what tasks ask of a store and may be told.
* `Crew.Accounts`: what the history of the state store tells.
* `Crew.HasStore`: all that is known of a store.

## Main results

* `Crew.HasStore.act`: what each step keeps.
-/

namespace Telemetry

/-- No value was ever given to a store. -/
structure Store.Blank (s : Store) : Prop where
  items : s.input.items = []
  waiting : s.input.waiting = []
  state : s.state = .empty

/-- A store stays blank unless a client has a value for it. -/
theorem Store.Change.blank {σ σ' : Signals} {s s' : Store} {a : Store.Action} {o : Store.Output}
    (change : Change σ s (.act a) σ' s' o) (blank : s.Blank) (fills : ∀ n v, a ≠ .fill n v) :
    s'.Blank := by
  cases change with
  | fill n v => exact absurd rfl (fills n v)
  | accept n _ _ entered =>
    obtain ⟨v, entry⟩ := Queue.entry_of_enter? entered
    have waits := entry.waits
    rw [blank.waiting] at waits
    cases waits
  | suppress _ first | update _ first => cases blank.items.symm.trans first
  | refuse | abandon =>
    refine ⟨blank.items, ?_, blank.state⟩
    simp [Store.abandon, Queue.leave, blank.waiting]
  | die => exact ⟨rfl, blank.waiting, blank.state⟩
  | _ => exact ⟨blank.items, blank.waiting, blank.state⟩

/-- A store without values has no updates. -/
theorem Store.Blank.updates {σ : Signals} {s s' : Store} {e : Store.Event} {o : Store.Output}
    (blank : s.Blank) : Store.Step.updates ⟨σ, s, e, o, s'⟩ = [] := by
  have none_taken : Store.Step.taken ⟨σ, s, e, o, s'⟩ = [] := by
    unfold Store.Step.taken
    split <;> simp [blank.items]
  rw [Store.Step.updates, none_taken]
  rfl

/-- There is nothing to replay. -/
theorem Store.Blank.replayOf {s : Store} (blank : s.Blank) (filter : ValueFilter) (replay : Bool) :
    s.replayOf filter replay = [] := by
  cases replay with
  | false => rfl
  | true => simp [Store.replayOf, snapshot, blank.state, Keyed.empty]

section Owner

variable {σ σ' : Signals} {s s' : Store} {a : Store.Action} {o : Store.Output}

theorem Store.mayStop_of_held (held : 0 < s.handles) : s.mayStop = false := by
  have some_handle : (s.handles == 0) = false := by simpa using Nat.ne_of_gt held
  simp [mayStop, some_handle]

/-- As long as somebody holds a store it fires no signals. -/
theorem Store.Change.signals_eq (change : Change σ s (.act a) σ' s' o) (held : 0 < s.handles) :
    σ' = σ := by
  cases change with
  | stop _ done => exact absurd (done.symm.trans (mayStop_of_held held)) (by simp)
  | _ => rfl

/-- As long as somebody holds a store its owner goes on, unless somebody asks for too much room. -/
theorem Store.Change.goes_on (change : Change σ s (.act a) σ' s' o) (held : 0 < s.handles)
    (room : ∀ n filter replay token, s.Serves (.ask n (.subscribe filter replay token)) →
      s.roomFor (s.replayOf filter replay) ≤ queueLimit)
    (going : s.isOver = false) : s'.isOver = false := by
  cases change with
  | @suppress _ after => cases after <;> rfl
  | @finish _ after => cases after <;> rfl
  | die serves large => exact absurd (room _ _ _ _ serves) (Nat.not_le_of_gt large)
  | stop _ done => exact absurd (done.symm.trans (mayStop_of_held held)) (by simp)
  | update | takeRequest | deliver | giveUp | answer | ignore | grant | skip | strike => rfl
  | _ => exact going

end Owner

namespace Gateway

open Site (Call Task Waits)

namespace Crew

/-- The values of earlier consumers come from other subscriptions. -/
def IsNew (g : Crew) (n id : Nat) : Prop :=
  ∀ m values, m < n → g.Forwards m values → values.id ≠ id

theorem IsNew.post {g : Crew} {n id : Nat} {p : Post} (new : g.IsNew n id)
    (old : n ≤ g.posts.length) : (g.post p).IsNew n id := by
  intro m values before forwards
  rcases of_forwards_post forwards with earlier | ⟨rfl, -⟩
  · exact new m values before earlier
  · omega

/-- What a task may ask of a store. -/
def Asks (g : Crew) (σ : Signals) (tasks : Array Task) (k n : Nat) (request : Request) : Prop :=
  ∃ filter replay token, request = .subscribe filter replay token ∧
    Waits tasks n (.subscribe k filter replay g.root) ∧ g.Issues σ token ∧
    (k = 0 ↔ g.mark = none)

/-- What a store may tell a task. -/
def Told (g : Crew) (σ : Signals) (tasks : Array Task) (k : Nat) (s : Store) (n : Nat)
    (reply : Reply) : Prop :=
  ∃ filter replay id token, reply = .subscribed id token ∧
    Waits tasks n (.subscribe k filter replay g.root) ∧ g.Issues σ token ∧
    (k = 0 ↔ g.mark = none) ∧
    (k = 0 → s.roster.Lists ⟨id, filter.accepts, token⟩ ∧ g.IsNew n id)

/-- A task waits on a store. -/
def Busy (tasks : Array Task) (k n : Nat) : Prop :=
  ∃ c, Waits tasks n c ∧ k ∈ c.stores

/-- The history of the state store tells which values changed it and which of them each forwarder
got, and nobody who subscribed got anything else. -/
structure Accounts (g : Crew) (updates : List Value) (got : Nat → List Value)
    (h : Desk.History Value) : Prop where
  published : Desk.published h = updates
  received : ∀ n values, g.Forwards n values → Desk.received values.id h = got n
  grants : ∀ p ∈ Desk.grants h, p.1.initial = [] ∧ p.2 = 0

/-- The state store goes on, and it has nothing before devices start. -/
structure IsState (g : Crew) (updates : List Value) (s : Store) : Prop where
  config : s.config = g.state
  going : s.isOver = false
  first : g.mark = none → s.Blank ∧ updates = []

/-- All that is known of a store by its number. -/
structure HasStore (g : Crew) (updates : List Value) (got : Nat → List Value) (σ : Signals)
    (tasks : Array Task) (k : Nat) (s : Store) : Prop where
  recorded : ∃ h, s.Recorded h σ ∧ (k = 0 → g.Accounts updates got h)
  hosts : s.Hosts (Busy tasks k) (g.Asks σ tasks k) (g.Told σ tasks k s)
  state : k = 0 → g.IsState updates s

/-- What may happen to a store. -/
def Permits (g : Crew) (σ : Signals) (tasks : Array Task) (k : Nat) (s : Store) :
    Store.Action → Prop
  | .fill n v => s.view n = .none ∧ Waits tasks n (.fill k v) ∧ g.mark ≠ none
  | .ask n request => s.view n = .none ∧ g.Asks σ tasks k n request
  | .abandon _ => False
  | .close _ => k ≠ 0
  | _ => True

section Steps

variable {g : Crew} {updates updates' : List Value} {got got' : Nat → List Value} {σ : Signals}
  {tasks : Array Task} {k : Nat} {s s' : Store} {a : Store.Action} {o : Store.Output}

/-- The owner serves somebody who subscribes to the state store only before devices start. -/
theorem HasStore.unmarked (has : g.HasStore updates got σ tasks k s) (zero : k = 0) {n : Nat}
    {filter : ValueFilter} {replay : Bool} {token : Token}
    (serves : s.Serves (.ask n (.subscribe filter replay token))) :
    g.mark = none ∧ s.Blank ∧ updates = [] := by
  obtain ⟨⟨_, _, _, -, -, -, iff⟩, -⟩ := (has.hosts.errand n).of_flight (Store.sent_of_serves serves)
  have unmarked := iff.1 zero
  exact ⟨unmarked, (has.state zero).first unmarked⟩

theorem HasStore.accounts (has : g.HasStore updates got σ tasks k s) (zero : k = 0)
    (change : Store.Change σ s (.act a) σ s' o) {h : Desk.History Value}
    (accounts : g.Accounts updates got h)
    (updated : updates' = updates ++ Store.Step.updates ⟨σ, s, .act a, o, s'⟩)
    (read : ∀ n values, g.Forwards n values →
      got' n = got n ++ Store.Step.received values.id ⟨σ, s, .act a, o, s'⟩) :
    g.Accounts updates' got' (h ++ [Store.Step.act ⟨σ, s, .act a, o, s'⟩]) where
  published := by
    rw [Desk.published_snoc, accounts.published, change.published, updated]
  received n values forwards := by
    rw [Desk.received_snoc, accounts.received n values forwards, change.received,
      read n values forwards]
  grants p granted := by
    rw [Desk.grants_snoc] at granted
    rcases List.mem_append.1 granted with old | new
    · exact accounts.grants p old
    · generalize act : Store.Step.act ⟨σ, s, .act a, o, s'⟩ = acted at new
      cases acted with
      -- Nothing was stored yet when somebody subscribed, so there was nothing to replay.
      | enroll grant =>
        obtain rfl := List.mem_singleton.1 new
        obtain ⟨n, filter, replay, answers, is, -⟩ := change.answers_of_act act
        obtain ⟨-, blank, none_yet⟩ := has.unmarked zero answers.serves
        refine ⟨?_, ?_⟩
        · rw [is]
          exact blank.replayOf filter replay
        · simp [accounts.published, none_yet]
      | _ => cases new

/-- The owner of the state store goes on. -/
theorem HasStore.goes_on (has : g.HasStore updates got σ tasks k s) (zero : k = 0)
    (change : Store.Change σ s (.act a) σ s' o) (held : 0 < s.handles) : s'.isOver = false := by
  refine change.goes_on held (fun n filter replay token serves => ?_) (has.state zero).going
  obtain ⟨-, blank, -⟩ := has.unmarked zero serves
  rw [Store.roomFor, blank.replayOf, List.length_nil, Nat.zero_add, (has.state zero).config]
  exact g.small

theorem HasStore.isState (has : g.HasStore updates got σ tasks k s) (zero : k = 0)
    (change : Store.Change σ s (.act a) σ s' o) (permits : g.Permits σ tasks k s a)
    (held : 0 < s.handles)
    (updated : updates' = updates ++ Store.Step.updates ⟨σ, s, .act a, o, s'⟩) :
    g.IsState updates' s' where
  config := change.config_eq.trans (has.state zero).config
  going := has.goes_on zero change held
  first unmarked := by
    obtain ⟨blank, none_yet⟩ := (has.state zero).first unmarked
    refine ⟨change.blank blank ?_, by rw [updated, none_yet, blank.updates]; rfl⟩
    rintro n v rfl
    exact permits.2.2 unmarked

/-- Subscribers of the state store whose tokens are those of consumers stay. -/
theorem HasStore.lists (has : g.HasStore updates got σ tasks k s) (zero : k = 0)
    (calm : g.Calm σ) (change : Store.Change σ s (.act a) σ s' o)
    (permits : g.Permits σ tasks k s a) (held : 0 < s.handles) {sub : Subscriber Value}
    (lists : s.roster.Lists sub) (keeps : g.Keeps σ sub.token) : s'.roster.Lists sub := by
  obtain ⟨h, recorded, -⟩ := has.recorded
  refine recorded.lists change lists (has.goes_on zero change held) held ?_ ?_
    (calm.isCancelled keeps)
  · rintro id ⟨⟩
    exact permits zero
  · rintro n ⟨⟩
    exact permits

/-- What a store told somebody stays true. -/
theorem HasStore.told (has : g.HasStore updates got σ tasks k s) (calm : g.Calm σ)
    (change : Store.Change σ s (.act a) σ s' o) (permits : g.Permits σ tasks k s a)
    (held : 0 < s.handles) {n : Nat} {reply : Reply} (told : g.Told σ tasks k s n reply) :
    g.Told σ tasks k s' n reply := by
  obtain ⟨filter, replay, id, token, is, waits, issues, iff, listed⟩ := told
  refine ⟨filter, replay, id, token, is, waits, issues, iff, fun zero => ?_⟩
  have keeps := issues.keeps calm (iff.1 zero)
  exact ⟨has.lists zero calm change permits held (listed zero).1 keeps, (listed zero).2⟩

/-- Whoever asks for a subscription gets one with a number of its own. -/
theorem HasStore.answers (has : g.HasStore updates got σ tasks k s)
    (listed : k = 0 → ∀ n values, g.Forwards n values →
      ∃ sub ∈ s.roster.subscribers, sub.id = values.id)
    {n : Nat} {request : Request} {reply : Reply} (asks : g.Asks σ tasks k n request)
    (gives : s.Gives s' request reply) : g.Told σ tasks k s' n reply := by
  obtain ⟨filter, replay, token, rfl, waits, issues, iff⟩ := asks
  obtain ⟨rfl, enrolled⟩ := gives
  refine ⟨filter, replay, _, token, rfl, waits, issues, iff, fun zero => ⟨⟨?_, ?_⟩, ?_⟩⟩
  · rw [enrolled]
    exact List.mem_append_right _ (List.mem_singleton.2 rfl)
  · obtain ⟨h, recorded, -⟩ := has.recorded
    -- Numbers are not given out twice, so nobody has closed this one.
    have fresh : s.roster.outbox? s.roster.nextId = none := recorded.desk.registered.fresh
    rw [enrolled, Roster.isClosed_enroll]
    simp [Roster.isClosed, fresh]
  · intro m values _ forwards
    obtain ⟨h, recorded, -⟩ := has.recorded
    obtain ⟨sub, on, same⟩ := listed zero m values forwards
    rw [← same]
    exact Nat.ne_of_lt (recorded.desk.registered.subscriber_lt on)

/-- What each step of a store keeps. -/
theorem HasStore.act (has : g.HasStore updates got σ tasks k s) (calm : g.Calm σ)
    (change : Store.Change σ s (.act a) σ s' o) (permits : g.Permits σ tasks k s a)
    (held : 0 < s.handles)
    (listed : k = 0 → ∀ n values, g.Forwards n values →
      ∃ sub ∈ s.roster.subscribers, sub.id = values.id)
    (updated : k = 0 → updates' = updates ++ Store.Step.updates ⟨σ, s, .act a, o, s'⟩)
    (read : k = 0 → ∀ n values, g.Forwards n values →
      got' n = got n ++ Store.Step.received values.id ⟨σ, s, .act a, o, s'⟩) :
    g.HasStore updates' got' σ tasks k s' where
  recorded := by
    obtain ⟨h, recorded, accounts⟩ := has.recorded
    exact ⟨_, recorded.step change, fun zero =>
      has.accounts zero change (accounts zero) (updated zero) (read zero)⟩
  hosts := by
    -- Only fills, requests and results change what is held for a task.
    refine change.hosts has.hosts (fun n reply => has.told calm change permits held)
      (fun n request reply => has.answers listed) (fun n _ busy => busy) fun n acts => ?_
    cases a with
    | fill m v =>
      cases acts
      obtain ⟨nothing, waits, -⟩ := permits
      cases change
      rw [Store.view_fill, nothing, if_pos rfl]
      exact ⟨.filling v, fun idle => absurd ⟨_, waits, List.mem_singleton_self k⟩ idle⟩
    | ask m request =>
      cases acts
      obtain ⟨nothing, asks⟩ := permits
      cases change
      rw [Store.view_ask, nothing, if_pos rfl]
      refine ⟨.asking asks, fun idle => absurd ?_ idle⟩
      obtain ⟨filter, replay, token, -, waits, -⟩ := asks
      exact ⟨_, waits, List.mem_singleton_self k⟩
    | resolve m =>
      cases acts
      obtain ⟨nothing, -⟩ := change.resolves has.hosts
      rw [nothing]
      exact ⟨.none, fun _ => rfl⟩
    | abandon m => exact permits.elim
    | _ => cases acts
  state zero := has.isState zero change permits held (updated zero)

end Steps

/-! ## What happens elsewhere -/

section Elsewhere

variable {g : Crew} {updates : List Value} {got got' : Nat → List Value} {σ σ' : Signals}
  {tasks tasks' : Array Task} {k n : Nat} {s : Store}

theorem Asks.mono {m : Nat} {request : Request} (asks : g.Asks σ tasks k m request)
    (waits : ∀ c, Waits tasks m c → Waits tasks' m c) (more : σ.next ≤ σ'.next) :
    g.Asks σ' tasks' k m request := by
  obtain ⟨filter, replay, token, is, wait, issues, iff⟩ := asks
  exact ⟨filter, replay, token, is, waits _ wait, issues.mono more, iff⟩

theorem Told.mono {m : Nat} {reply : Reply} (told : g.Told σ tasks k s m reply)
    (waits : ∀ c, Waits tasks m c → Waits tasks' m c) (more : σ.next ≤ σ'.next) :
    g.Told σ' tasks' k s m reply := by
  obtain ⟨filter, replay, id, token, is, wait, issues, iff, listed⟩ := told
  exact ⟨filter, replay, id, token, is, waits _ wait, issues.mono more, iff, listed⟩

theorem Accounts.wait {h : Desk.History Value} (accounts : g.Accounts updates got h) :
    g.Accounts updates got (h ++ [.other]) where
  published := by
    rw [Desk.published_snoc, accounts.published]
    exact List.append_nil _
  received n values forwards := by
    rw [Desk.received_snoc, accounts.received n values forwards]
    exact List.append_nil _
  grants p granted := by
    rw [Desk.grants_snoc] at granted
    rcases List.mem_append.1 granted with old | new
    · exact accounts.grants p old
    · cases new

/-- Signals may fire elsewhere. -/
theorem HasStore.wait (has : g.HasStore updates got σ tasks k s) (grows : σ.Grows σ')
    (more : σ.next ≤ σ'.next) : g.HasStore updates got σ' tasks k s where
  recorded := by
    obtain ⟨h, recorded, accounts⟩ := has.recorded
    exact ⟨_, recorded.wait grows, fun zero => (accounts zero).wait⟩
  hosts := has.hosts.alter fun _ _ => ⟨id, fun _ asks => Asks.mono asks (fun _ => id) more,
    fun _ told => Told.mono told (fun _ => id) more⟩
  state := has.state

/-- A task for which nothing is held may do what it likes. -/
theorem HasStore.alter (has : g.HasStore updates got σ tasks k s) (free : s.view n = .none)
    (others : ∀ m c, m ≠ n → Waits tasks m c → Waits tasks' m c) :
    g.HasStore updates got σ tasks' k s where
  recorded := has.recorded
  hosts := by
    refine has.hosts.alter fun m held => ?_
    have waits (c : Call) : Waits tasks m c → Waits tasks' m c :=
      others m c fun same => held (same ▸ free)
    exact ⟨fun ⟨c, wait, goes⟩ => ⟨c, waits c wait, goes⟩,
      fun _ asks => Asks.mono asks waits (Nat.le_refl _),
      fun _ told => Told.mono told waits (Nat.le_refl _)⟩
  state := has.state

/-- Devices start when nobody waits for a subscription any more. -/
theorem HasStore.launch (has : g.HasStore updates got σ tasks k s)
    (idle : ∀ m c, Waits tasks m c → c.stores = []) :
    (g.launch σ).HasStore updates got σ tasks k s where
  recorded := by
    obtain ⟨h, recorded, accounts⟩ := has.recorded
    exact ⟨h, recorded, fun zero =>
      ⟨(accounts zero).published, (accounts zero).received, (accounts zero).grants⟩⟩
  hosts := has.hosts.alter fun m held =>
    absurd (has.hosts.idle m fun ⟨c, waits, goes⟩ => by simp [idle m c waits] at goes) held
  state zero := { has.state zero with first := nofun }

/-- Before anything is published nobody has received anything. -/
theorem received_of_unpublished {h : Desk.History Value} {overflow : Overflow}
    {x : Desk Value} (run : Desk.Run overflow h σ x) (none_yet : Desk.published h = [])
    {sub : Subscriber Value} (on : sub ∈ x.roster.subscribers)
    (first : ∀ p ∈ Desk.grants h, p.1.initial = [] ∧ p.2 = 0) :
    Desk.received sub.id h = [] := by
  obtain ⟨p, granted, rfl⟩ := run.registered.exists_grant on
  have conveyed := run.conveyed granted
  have none_accepted : Desk.accepted p h = [] := by simp [Desk.accepted, Desk.numbered, none_yet]
  have entries := conveyed.entries
  rw [none_accepted, List.sublist_nil, List.append_eq_nil_iff, List.map_eq_nil_iff] at entries
  have order := conveyed.order
  rw [entries.1, (first p granted).1] at order
  exact List.prefix_nil.1 order

/-- A new task has nothing under way. One that forwards has got nothing yet. -/
theorem HasStore.post (has : g.HasStore updates got σ tasks k s) {p : Post} {t : Task}
    (size : tasks.size = g.posts.length) (none_got : got g.posts.length = [])
    (starts : ∀ values registers, p = .forwarder values registers → g.mark = none ∧
      (k = 0 → ∃ sub ∈ s.roster.subscribers, sub.id = values.id)) :
    (g.post p).HasStore updates got σ (tasks.push t) k s where
  recorded := by
    obtain ⟨h, recorded, accounts⟩ := has.recorded
    refine ⟨h, recorded, fun zero => ⟨(accounts zero).published, ?_, (accounts zero).grants⟩⟩
    intro n values forwards
    rcases of_forwards_post forwards with old | ⟨rfl, registers, is⟩
    · exact (accounts zero).received n values old
    · obtain ⟨unmarked, listed⟩ := starts values registers is
      obtain ⟨sub, on, same⟩ := listed zero
      have none_yet : Desk.published h = [] :=
        (accounts zero).published.trans ((has.state zero).first unmarked).2
      rw [none_got, ← same]
      exact received_of_unpublished recorded.desk none_yet on (accounts zero).grants
  hosts := by
    have waits {m : Nat} {c : Call} (wait : Waits tasks m c) :
        m < tasks.size ∧ Waits (tasks.push t) m c := by
      obtain ⟨u, there, status⟩ := wait
      obtain ⟨less, -⟩ := Array.getElem?_eq_some_iff.1 there
      exact ⟨less, u, by rw [Array.getElem?_push_lt less, ← there, Array.getElem?_eq_getElem less],
        status⟩
    refine has.hosts.alter fun m _ => ⟨fun ⟨c, wait, goes⟩ => ⟨c, (waits wait).2, goes⟩,
      fun _ ⟨filter, replay, token, is, wait, more⟩ =>
        ⟨filter, replay, token, is, (waits wait).2, more⟩,
      fun _ ⟨filter, replay, id, token, is, wait, issues, iff, listed⟩ =>
        ⟨filter, replay, id, token, is, (waits wait).2, issues, iff, fun zero =>
          ⟨(listed zero).1, fun i values before forwards => ?_⟩⟩⟩
    exact (listed zero).2.post (size ▸ Nat.le_of_lt (waits wait).1) i values before forwards
  state zero := ⟨(has.state zero).config, (has.state zero).going, (has.state zero).first⟩

end Elsewhere

end Crew

end Gateway

end Telemetry
