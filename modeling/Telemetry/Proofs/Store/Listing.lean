import Telemetry.Proofs.Desk.Listing
import Telemetry.Proofs.Store.Progress

/-!
# Who is on the list of a store

Each subscriber on the list of a store is accounted for: somebody waits for the end of its
subscription, or has told the owner to strike it off, or nobody holds the store any longer, or its
client gave up between the answer and the hand-over. The last of them stays until an update is
delivered, the others do not when nothing goes on any more.

## Main definitions

* `Event.Orderly`: what is assumed of readers and of those who hold a store.
* `Trace.Deserted`: a client gave up a subscription that it was granted and did not take.
* `Accounted`: why a subscriber is on the list.
* `Lists`: the list of a store holds the subscriptions that go on.

## Main results

* `Run.lists`: so it does after every run.
-/

namespace Telemetry.Store

open scoped List

/-- A reader goes away with its subscription, whose signal fires first, and whoever takes hold of a
store got it from one who holds it. Of everything else nothing is assumed. -/
def Event.Orderly (σ : Signals) (s : Store) : Event → Prop
  | act (.close id) =>
    ∀ sub ∈ s.roster.subscribers, sub.id = id → σ.isCancelled sub.token = true
  | act .retain => 0 < s.handles
  | _ => True

instance (σ : Signals) (s : Store) (e : Event) : Decidable (e.Orderly σ s) :=
  match e with
  | .act (.close id) =>
    inferInstanceAs (Decidable (∀ sub ∈ s.roster.subscribers, sub.id = id → _))
  | .act .retain => inferInstanceAs (Decidable (0 < s.handles))
  | .act (.fill _ _) | .act (.ask _ _) | .act (.enter _) | .act (.resolve _) | .act (.abandon _)
  | .act (.wake _) | .act (.disperse _) | .act (.owner _) | .act (.read _ _) | .act .release
  | .fire _ => isTrue trivial

/-- All that happened was orderly, and each subscription has a signal of its own. -/
structure Trace.Orderly (tr : Trace) : Prop where
  events : ∀ st ∈ tr, st.event.Orderly st.signals st.store
  signals : ∀ p ∈ Desk.grants tr.history, p.1.token.lineage ≠ []

instance (tr : Trace) : Decidable tr.Orderly :=
  decidable_of_iff ((∀ st ∈ tr, st.event.Orderly st.signals st.store) ∧
    ∀ p ∈ Desk.grants tr.history, p.1.token.lineage ≠ [])
    ⟨fun h => ⟨h.1, h.2⟩, fun h => ⟨h.events, h.signals⟩⟩

/-- A client gives up when a subscription is granted to it and not handed over. -/
def Abandons (s : Store) (e : Event) (id : Nat) : Prop :=
  ∃ client token, e = .act (.abandon client) ∧
    List.lookup client s.replies = some (.subscribed id token)

/-- A subscription was granted and never handed over, and there was no update since. -/
def Trace.Deserted (id : Nat) (tr : Trace) : Prop :=
  ∃ before st later, tr = before ++ st :: later ∧ st.store.Abandons st.event id ∧
    Trace.updates later = []

/-- The owner was told to strike a subscriber off, or is about to be. -/
def Reported (s : Store) (id : Nat) : Prop :=
  .unsubscribe id ∈ s.inFlight ∨ (.watcher id, .unsubscribe id) ∈ s.control.waiting

/-- The delivery under way strikes a subscriber off if it has no reader. -/
def Dooms (s : Store) (sub : Subscriber Value) : Prop :=
  ∃ d, delivery? s.activity = some d ∧ d.Dooms sub

/-- Why a subscriber is on the list. -/
inductive Accounted (tr : Trace) (σ : Signals) (s : Store) (sub : Subscriber Value) : Prop
  | attended (watches : s.Watches sub.id sub.token)
      (reader : s.roster.isClosed sub.id = true → σ.isCancelled sub.token = true)
  | reported (reported : s.Reported sub.id)
  | unheld (handles : s.handles = 0)
  | deserted (deserted : tr.Deserted sub.id) (closed : s.roster.isClosed sub.id = true)
  | doomed (dooms : s.Dooms sub) (closed : s.roster.isClosed sub.id = true)

theorem Trace.Orderly.of_snoc {tr : Trace} {st : Step} (orderly : Trace.Orderly (tr ++ [st])) :
    tr.Orderly where
  events st' member := orderly.events st' (List.mem_append_left _ member)
  signals p granted := by
    refine orderly.signals p ?_
    rw [Trace.history, List.map_append, List.map_singleton, Desk.grants_snoc]
    exact List.mem_append_left _ granted

theorem Trace.Orderly.last {tr : Trace} {st : Step} (orderly : Trace.Orderly (tr ++ [st])) :
    st.event.Orderly st.signals st.store :=
  orderly.events st (by simp)

theorem Trace.Deserted.snoc {tr : Trace} {st : Step} {id : Nat} (deserted : tr.Deserted id)
    (quiet : st.updates = []) : Trace.Deserted id (tr ++ [st]) := by
  obtain ⟨before, first, later, rfl, gives_up, none_since⟩ := deserted
  refine ⟨before, first, later ++ [st], by simp, gives_up, ?_⟩
  rw [Trace.updates_append, Trace.updates_singleton, none_since, quiet, List.nil_append]

section Steps

variable {config : StoreConfig} {tr : Trace} {σ σ' : Signals} {s s' : Store} {e : Event}
  {o : Output} {sub : Subscriber Value} {id : Nat} {token : Token}

/-- Who is to be struck off stays so until it is. -/
theorem Change.reported (h : Change σ s e σ' s' o) (reports : s.Reports) (going : s'.isOver = false)
    (reported : s.Reported id) : s'.Reported id ∨ ∀ sub ∈ s'.roster.subscribers, sub.id ≠ id := by
  cases h with
  | send c open' entered =>
    obtain ⟨m, entry⟩ := Queue.entry_of_enter? entered
    refine .inl (reported.imp (fun sent => ?_) fun waits => entry.mem_waiting waits (by simp))
    rw [Store.inFlight, entry.items, ← List.append_assoc]
    exact List.mem_append_left _ sent
  | report other open' entered =>
    obtain ⟨m, entry⟩ := Queue.entry_of_enter? entered
    obtain rfl := reports other m entry.waits
    rw [Reported, Store.inFlight, entry.items, ← List.append_assoc]
    rcases reported with sent | waits
    · exact .inl (.inl (List.mem_append_left _ sent))
    · by_cases same : id = other
      · exact .inl (.inl (by simp [same]))
      · exact .inl (.inr (entry.mem_waiting waits (by simpa using same)))
  | refuse | abandon =>
    exact .inl (reported.imp_right fun waits => List.mem_filter.2 ⟨waits, by simp⟩)
  | wake => exact .inl (reported.imp_right (List.mem_append_left _))
  | disperse _ ended => exact absurd (ended.symm.trans going) (by simp)
  | ask => exact .inl (reported.imp_right (List.mem_append_left _))
  | suppress ready | update ready =>
    refine .inl (reported.imp_left fun sent => ?_)
    simpa [Store.inFlight, owed_of_ready ready] using sent
  | takeRequest idle first =>
    refine .inl (reported.imp_left fun sent => ?_)
    rw [inFlight_of_idle idle, first] at sent
    exact sent
  | answer serves | ignore serves | grant serves | skip serves =>
    refine .inl (reported.imp_left fun sent => ?_)
    rw [inFlight_of_serves serves] at sent
    exact List.mem_of_ne_of_mem (by simp) sent
  | @strike other serves =>
    rw [Reported, inFlight_of_serves serves] at reported
    by_cases same : id = other
    · exact .inr fun sub on => by simpa [same] using (Roster.mem_remove.1 on).2
    · exact .inl (reported.imp_left fun sent => List.mem_of_ne_of_mem (by simpa using same) sent)
  | finish delivering | deliver delivering | giveUp delivering =>
    exact .inl (reported.imp_left fun sent => by simpa [Store.inFlight, delivering] using sent)
  | die | stop => cases going
  | _ => exact .inl reported

/-- A delivery goes on until whoever has no reader is struck off. -/
theorem Change.dooms (h : Change σ s e σ' s' o) (closed : s.roster.isClosed sub.id = true)
    (dooms : s.Dooms sub) : s'.Dooms sub ∨ sub ∉ s'.roster.subscribers := by
  obtain ⟨d, delivering, dooms⟩ := dooms
  cases h with
  | suppress ready | update ready => cases (delivery?_of_ready ready).symm.trans delivering
  | answer serves | ignore serves | grant serves | skip serves | die serves | strike serves =>
    cases (delivery?_of_serves serves).symm.trans delivering
  | takeRequest idle | stop idle =>
    rw [idle] at delivering
    cases delivering
  | finish delivering' served =>
    rw [delivering'] at delivering
    cases delivering
    rcases dooms with due | gone
    · simp [served] at due
    · exact .inr fun on => (Roster.mem_remove.1 on).2 gone
  | deliver delivering' served =>
    rw [delivering'] at delivering
    cases delivering
    exact .inl ⟨_, rfl, Roster.dooms_of_serve? served closed dooms⟩
  | giveUp delivering' passed =>
    rw [delivering'] at delivering
    cases delivering
    exact .inl ⟨_, rfl, Roster.dooms_of_giveUp? passed dooms⟩
  | _ => exact .inl ⟨d, delivering, dooms⟩

/-- An update is delivered to everybody on the list. -/
theorem Change.dooms_of_updates (h : Change σ s e σ' s' o)
    (new : Step.updates ⟨σ, s, e, o, s'⟩ ≠ []) (on : sub ∈ s.roster.subscribers) :
    s'.Dooms sub := by
  cases h with
  | suppress ready first old => exact absurd (by simp [updates_of_ready ready first, old]) new
  | update ready first => exact ⟨_, rfl, .inl on⟩
  | answer serves | ignore serves | grant serves | skip serves | die serves | strike serves =>
    exact absurd (updates_of_serves serves) new
  | _ => exact absurd rfl new

/-- A client has one answer at a time. -/
theorem lookup_of_reply {c : Nat} {reply : Reply} (phase : Phase c tr (s.view c))
    (given : (c, reply) ∈ s.replies) : List.lookup c s.replies = some reply := by
  cases there : List.lookup c s.replies with
  | none => exact absurd (List.lookup_eq_none_iff.1 there _ given) (by simp)
  | some first =>
    have member : reply ∈ (s.view c).replies :=
      List.mem_map.2 ⟨_, List.mem_filter.2 ⟨given, by simp⟩, rfl⟩
    rw [(phase.of_reply there).2] at member
    rw [List.mem_singleton.1 member]

/-- A reader that is gone was gone before, or its subscription is cancelled, or its client gives
up. -/
theorem Change.opened (h : Change σ s e σ' s' o) (orderly : e.Orderly σ s)
    (going : s'.isOver = false) (on : sub ∈ s.roster.subscribers)
    (closed : s'.roster.isClosed sub.id = true) :
    s.roster.isClosed sub.id = true ∨ σ.isCancelled sub.token = true ∨ s.Abandons e sub.id := by
  cases h with
  | grant => exact .inl (by rwa [Roster.isClosed_enroll] at closed)
  | die | stop => cases going
  | strike | finish => exact .inl (by simpa using closed)
  | deliver delivering served =>
    obtain ⟨first, rest, due⟩ := Roster.first_of_serve? served
    exact .inl ((Roster.turn_of_serve? due served).isClosed ▸ closed)
  | read id token live item => exact .inl (Roster.isClosed_read item sub.id ▸ closed)
  | close id =>
    rcases Roster.isClosed_of_close closed with same | before
    · exact .inr (.inl (orderly sub on same))
    · exact .inl before
  | refuse _ _ ended => exact absurd (ended.symm.trans going) (by simp)
  | abandon c =>
    unfold Store.abandon at closed
    dsimp only at closed
    split at closed
    next id token there =>
      rcases Roster.isClosed_of_close closed with same | before
      · exact .inr (.inr ⟨c, token, rfl, same ▸ there⟩)
      · exact .inl before
    · exact .inl closed
  | _ => exact .inl closed

/-- The owner is not told of the end of a subscription only if nobody holds the store. -/
theorem handles_of_forget (happened : Event.effect? σ s (.act (.wake id)) =
    some (σ', s.unwatch id, o)) (going : s.isOver = false) : s.handles = 0 := by
  obtain ⟨t, woken, same⟩ := Option.map_eq_some_iff.1 happened
  obtain rfl : t = s.unwatch id := congrArg (fun p => p.2.1) same
  unfold wake? at woken
  split at woken
  · cases woken
  · split at woken
    · dsimp only at woken
      split at woken
      · have lines := congrArg (fun t : Store => t.control.waiting.length) (Option.some.inj woken)
        simp [Queue.join, unwatch] at lines
      next unheld =>
        have unheld : ¬ (s.isHeld && !s.isOver) = true := unheld
        simp only [isHeld, going] at unheld
        grind
    · cases woken

/-- A subscription is watched until it is reported, unless nobody holds the store, or its client
gives up. -/
theorem Change.watched (h : Change σ s e σ' s' o) (happened : e.effect? σ s = some (σ', s', o))
    (phases : ∀ c, Phase c tr (s.view c)) (going : s'.isOver = false)
    (watches : s.Watches id token) :
    s'.Watches id token ∨ s'.Reported id ∨ s'.handles = 0 ∨ s.Abandons e id := by
  cases h with
  | collect c there =>
    left
    rcases watches with watched | ⟨client, given⟩
    · exact .inl (List.mem_append_left _ watched)
    · by_cases same : client = c
      · subst same
        cases (lookup_of_reply (phases client) given).symm.trans there
        exact .inl (List.mem_append_right _ (by simp [Reply.watched]))
      · exact .inr ⟨client, List.mem_filter.2 ⟨given, by simpa using same⟩⟩
  | refuse _ _ ended => exact absurd (ended.symm.trans going) (by simp)
  | abandon c =>
    rcases watches with watched | ⟨client, given⟩
    · exact .inl (.inl watched)
    · by_cases same : client = c
      · subst same
        exact .inr (.inr (.inr ⟨client, token, rfl, lookup_of_reply (phases client) given⟩))
      · exact .inl (.inr ⟨client, List.mem_filter.2 ⟨given, by simpa using same⟩⟩)
  | @wake other =>
    rcases watches with watched | given
    · by_cases same : id = other
      · exact .inr (.inl (.inr (by simp [Queue.join, same])))
      · exact .inl (.inl (List.mem_filter.2 ⟨watched, by simpa using same⟩))
    · exact .inl (.inr given)
  | @forget other =>
    have none_held : s.handles = 0 := handles_of_forget happened going
    exact .inr (.inr (.inl none_held))
  | answer | grant =>
    exact .inl (watches.imp_right (Exists.imp fun client => List.mem_append_left _))
  | _ => exact .inl watches

/-- Whoever comes is watched, and its reader is there. -/
theorem Change.newcomer (h : Change σ s e σ' s' o) (fresh : s.roster.outbox? s.roster.nextId = none)
    (on : sub ∈ s'.roster.subscribers) (new : sub ∉ s.roster.subscribers) :
    s'.Watches sub.id sub.token ∧ s'.roster.isClosed sub.id = false := by
  cases h with
  | @grant client filter replay token =>
    rcases List.mem_append.1 on with old | last
    · exact absurd old new
    · obtain rfl := List.mem_singleton.1 last
      refine ⟨.inr ⟨client, List.mem_append_right _ (List.mem_singleton.2 rfl)⟩, ?_⟩
      rw [Roster.isClosed_enroll]
      simp [Roster.isClosed, fresh]
  | strike | finish => exact absurd (Roster.mem_remove.1 on).1 new
  | die | stop => cases on
  | deliver delivering served =>
    obtain ⟨first, rest, due⟩ := Roster.first_of_serve? served
    exact absurd ((Desk.Turn.rest (Roster.turn_of_serve? due served)).1 ▸ on) new
  | read id token live item =>
    obtain ⟨b, rest, -, -, rfl⟩ := Roster.read?_eq_some item
    exact absurd on new
  | refuse client | abandon client =>
    rcases roster_abandon s client with same | ⟨id, closed⟩
    · exact absurd (same ▸ on) new
    · rw [closed] at on
      exact absurd on new
  | _ => exact absurd on new

/-- When the owner is gone, nobody is on the list. -/
theorem Change.nobody_left (h : Change σ s e σ' s' o)
    (nobody : s.isOver = true → s.roster.subscribers = []) (ended : s'.isOver = true) :
    s'.roster.subscribers = [] := by
  cases h with
  | die | stop => rfl
  | @suppress _ after | @finish _ after => cases after <;> cases ended
  | update | takeRequest | answer | ignore | grant | skip | strike | deliver | giveUp => cases ended
  | refuse client | abandon client =>
    rcases roster_abandon s client with same | ⟨id, closed⟩
    · rw [same]
      exact nobody ended
    · rw [closed]
      exact nobody ended
  | read id token live item =>
    obtain ⟨b, rest, -, -, rfl⟩ := Roster.read?_eq_some item
    exact nobody ended
  | _ => exact nobody ended

/-- The owner stops once nobody holds the store and all is done. The signals of all on the list are
fired. -/
theorem Change.stops (h : Change σ s e σ' s' o) (stopped : s'.activity = .stopped) :
    s.activity = .stopped ∨
      e = .act (.owner .stop) ∧ s.activity = .idle ∧ s.mayStop = true ∧
        σ' = σ.fireAll (s.roster.subscribers.map Subscriber.token) := by
  cases h with
  | @suppress _ after | @finish _ after => cases after <;> cases stopped
  | update | takeRequest | answer | ignore | grant | skip | die | strike => cases stopped
  | deliver | giveUp => cases stopped
  | stop idle done => exact .inr ⟨rfl, idle, done, rfl⟩
  | _ => exact .inl stopped

/-- Nobody holds a store again that nobody holds. -/
theorem Change.unheld (h : Change σ s e σ' s' o) (orderly : e.Orderly σ s)
    (unheld : s.handles = 0) : s'.handles = 0 := by
  cases h with
  | retain => exact absurd unheld (Nat.ne_of_gt orderly)
  | release => exact Nat.sub_eq_zero_of_le (unheld ▸ Nat.zero_le 1)
  | _ => exact unheld

/-- A client that gives up a subscription leaves it without a reader. -/
theorem Change.closes (h : Change σ s e σ' s' o) {b : Outbox Value}
    (there : s.roster.outbox? id = some b) (gives_up : s.Abandons e id) :
    s'.roster.isClosed id = true := by
  obtain ⟨client, token, rfl, given⟩ := gives_up
  cases h with
  | abandon =>
    have roster : (s.abandon client).roster = s.roster.close id := by simp [Store.abandon, given]
    rw [roster]
    exact Roster.isClosed_close there

/-- Whoever is on the list is accounted for after each step. -/
theorem Change.accounted (h : Change σ s e σ' s' o)
    (happened : e.effect? σ s = some (σ', s', o)) (run : Run config tr σ s)
    (orderly : Trace.Orderly (tr ++ [⟨σ, s, e, o, s'⟩])) (going : s'.isOver = false)
    (accounted : ∀ sub ∈ s.roster.subscribers, Accounted tr σ s sub)
    (on : sub ∈ s'.roster.subscribers) : Accounted (tr ++ [⟨σ, s, e, o, s'⟩]) σ' s' sub := by
  have reg := run.desk.registered
  by_cases old : sub ∈ s.roster.subscribers
  · have stays_closed : s.roster.isClosed sub.id = true → s'.roster.isClosed sub.id = true :=
      (h.desk run.watching).isClosed
    cases accounted sub old with
    | attended watches reader =>
      by_cases gives_up : s.Abandons e sub.id
      · obtain ⟨p, granted, rfl⟩ := reg.exists_grant old
        obtain ⟨b, there, -⟩ := reg.exists_outbox granted
        exact .deserted ⟨tr, _, [], rfl, gives_up, rfl⟩ (h.closes there gives_up)
      · rcases h.watched happened run.coherent.phases going watches with
          watches | reported | unheld | now
        · refine .attended watches fun closed => h.grows _ ?_
          rcases h.opened orderly.last going old closed with before | cancelled | now
          · exact reader before
          · exact cancelled
          · exact absurd now gives_up
        · exact .reported reported
        · exact .unheld unheld
        · exact absurd now gives_up
    | reported reported =>
      rcases h.reported run.coherent.reports going reported with still | struck
      · exact .reported still
      · exact absurd rfl (struck sub on)
    | unheld handles => exact .unheld (h.unheld orderly.last handles)
    | deserted deserted closed =>
      by_cases quiet : Step.updates ⟨σ, s, e, o, s'⟩ = []
      · exact .deserted (deserted.snoc quiet) (stays_closed closed)
      · exact .doomed (h.dooms_of_updates quiet old) (stays_closed closed)
    | doomed dooms closed =>
      rcases h.dooms closed dooms with still | struck
      · exact .doomed still (stays_closed closed)
      · exact absurd on struck
  · obtain ⟨watches, reader⟩ := h.newcomer reg.fresh on old
    exact .attended watches fun closed => absurd (reader.symm.trans closed) (by simp)

end Steps

section Runs

variable {config : StoreConfig} {tr : Trace} {σ : Signals} {s : Store} {sub : Subscriber Value}

theorem Run.accounted (run : Run config tr σ s) (orderly : tr.Orderly) (going : s.isOver = false)
    (on : sub ∈ s.roster.subscribers) : Accounted tr σ s sub := by
  induction run generalizing sub with
  | start σ made =>
    rw [ofConfig?_eq_some made] at on
    cases on
  | @step tr σ σ' s s' o run e permitted happened ih =>
    have change := change_of_effect happened
    have before : s.isOver = false := by
      by_contra ended
      have stays := (change.stays_over (by simpa using ended)).1
      exact absurd (going.symm.trans stays) (by simp)
    exact change.accounted happened run orderly going (fun sub => ih orderly.of_snoc before) on

/-- When nobody can go on and no delivery is under way, nobody holds back the end of a
subscription. -/
theorem Run.live_of_stalled (run : Run config tr σ s) (valid : config.validate = .ok ())
    (orderly : tr.Orderly) (stalled : Stalled σ s) (idle : delivery? s.activity = none)
    (going : s.isOver = false) {p : Grant Value × Nat}
    (on : p.1.subscriber ∈ s.roster.subscribers) :
    Desk.Live σ s.desk p.1 ∨ tr.Deserted p.1.id := by
  cases activity : s.activity with
  | delivering d after =>
    rw [activity] at idle
    cases idle
  | draining message left => exact absurd activity (stalled.not_draining message left)
  | stopped | dead => simp [isOver, activity] at going
  | idle =>
    obtain ⟨values, messages⟩ := stalled.queues_of_idle activity
    obtain ⟨fills, requests⟩ := run.lines_of_idle valid stalled activity
    cases run.accounted orderly going on with
    | attended watches reader =>
      have watched : (p.1.id, p.1.token) ∈ s.watchers := by
        rcases watches with watched | ⟨client, given⟩
        · exact watched
        · simp [stalled.replies_eq_nil] at given
      have live := run.watched_live stalled watched
      refine .inl ⟨live, ?_⟩
      by_contra closed
      rw [Bool.not_eq_false] at closed
      exact absurd (live.symm.trans (reader closed)) (by simp)
    | reported reported =>
      rw [Reported, inFlight_of_idle activity, messages, requests] at reported
      simp at reported
    | unheld handles =>
      -- The owner would stop.
      have stays : s.stop? σ = none := stalled.move? .stop
      simp [stop?, activity, mayStop, handles, values, messages, fills, requests] at stays
    | deserted deserted => exact .inr deserted
    | doomed dooms =>
      obtain ⟨d, delivering, -⟩ := dooms
      exact absurd (idle.symm.trans delivering) (by simp)

theorem Run.subscribers_of_over (run : Run config tr σ s) :
    s.isOver = true → s.roster.subscribers = [] := by
  induction run with
  | start σ made =>
    rw [ofConfig?_eq_some made]
    exact fun _ => rfl
  | step run e permitted happened ih => exact (change_of_effect happened).nobody_left ih

/-- When the owner stops, every subscription ends. -/
theorem Run.not_live_of_stopped (run : Run config tr σ s) (orderly : tr.Orderly)
    (stopped : s.activity = .stopped) {p : Grant Value × Nat}
    (granted : p ∈ Desk.grants tr.history) : ¬ Desk.Live σ s.desk p.1 := by
  induction run with
  | start σ made => cases granted
  | @step tr σ σ' s s' o run e permitted happened ih =>
    intro live
    have change := change_of_effect happened
    have act := change.desk run.watching
    have before := act.live change.grows live
    have nobody : s'.roster.subscribers = [] :=
      (run.step e permitted happened).subscribers_of_over (by simp [isOver, stopped])
    rw [Trace.history, List.map_append, List.map_singleton, Desk.grants_snoc] at granted
    rcases List.mem_append.1 granted with old | new
    · rcases change.stops stopped with already | ⟨-, idle, -, rfl⟩
      · exact ih orderly.of_snoc already old before
      · have going : s.desk.ended = false := by simp [Store.desk, isOver, idle]
        have on := run.desk.attended.there going p old before
        have fired : p.1.token ∈ s.roster.subscribers.map Subscriber.token :=
          List.mem_map_of_mem on
        have cancelled := σ.isCancelled_fireAll fired (orderly.of_snoc.signals p old)
        exact absurd (live.token.symm.trans cancelled) (by simp)
    · rcases act.grants_eq (Desk.published (tr.map Step.act)).length with
        ⟨none, -⟩ | ⟨g, -, -, -, -, more⟩
      · rw [none] at new
        cases new
      · have more : s'.roster.subscribers = s.roster.subscribers ++ [g.subscriber] := more
        simp [nobody] at more

/-- The list of a store holds the subscriptions that go on. It is in order and changes only as it
may. When nobody can go on and no delivery is under way, nobody else is on it but whoever was
granted a subscription that was never taken, until the next update. An owner that is gone has no
list; unless it broke down, it has ended every subscription. -/
structure Lists (tr : Trace) (σ : Signals) (s : Store) : Prop where
  listed : Desk.Listed tr.history s.roster
  moves : ∀ (before : Trace) st later, tr = before ++ st :: later →
    Desk.Moves st.signals st.store.roster st.next.roster st.next.isOver
  there : s.isOver = false → ∀ p ∈ Desk.grants tr.history, Desk.Live σ s.desk p.1 →
    p.1.subscriber ∈ s.roster.subscribers
  settled : Stalled σ s → delivery? s.activity = none → s.activity ≠ .dead →
    ∀ p ∈ Desk.grants tr.history,
      (Desk.Live σ s.desk p.1 → p.1.subscriber ∈ s.roster.subscribers) ∧
      (p.1.subscriber ∈ s.roster.subscribers →
        Desk.Live σ s.desk p.1 ∨ tr.Deserted p.1.id)
  ended : s.isOver = true → s.roster.subscribers = []

theorem Run.moves {before later : Trace} {st : Step}
    (run : Run config (before ++ st :: later) σ s) :
    Desk.Moves st.signals st.store.roster st.next.roster st.next.isOver := by
  obtain ⟨σ', earlier, -, happened, -⟩ := run.at_step
  have act := (change_of_effect happened).desk earlier.watching
  rw [earlier.config_eq] at act
  exact act.moves earlier.desk.registered earlier.desk.attended

theorem Run.lists (run : Run config tr σ s) (valid : config.validate = .ok ())
    (orderly : tr.Orderly) : Lists tr σ s where
  listed := run.desk.registered.listed
  moves before st later same := (same ▸ run).moves
  there := run.desk.attended.there
  settled stalled idle alive p granted := by
    cases ended : s.isOver with
    | false =>
      exact ⟨run.desk.attended.there ended p granted,
        run.live_of_stalled valid orderly stalled idle ended⟩
    | true =>
      have stopped : s.activity = .stopped := by
        unfold isOver at ended
        split at ended
        · assumption
        · contradiction
        · cases ended
      refine ⟨fun live => absurd live (run.not_live_of_stopped orderly stopped granted), ?_⟩
      simp [run.subscribers_of_over ended]
  ended := run.subscribers_of_over

end Runs

end Telemetry.Store
