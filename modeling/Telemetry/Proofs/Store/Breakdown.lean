import Telemetry.Proofs.Cancellation
import Telemetry.Proofs.Capacity
import Telemetry.Proofs.Store.Isolation

/-!
# Breakdowns

When the owner of a store breaks down, whatever is queued is lost with it. A client may be in any of
four places by then: in the line for the input queue, in the line for the queue of requests, with a
request in that queue, or with one that is being served. Wherever it is, its operation ends at once
with an error, and so does every operation that is begun later. Only answers that were given before
are still handed out. Readers keep what is in their queues: they get it item by item and are told of
the end after the last one.

The owner of a store breaks down over nothing but a queue that is too large. None of what follows
depends on the reason, so it is said of a breakdown at any moment of a run.

## Main definitions

* `Aftermath`: what happens once the owner has broken down.
* `Breakdown`: what has become of everybody.

## Main results

* `Change.busy`: whoever has begun something remains busy until it ends or is given up.
* `Change.decays`: what a step does to a store without owner.
* `Run.hangs_nobody`: nobody waits for an owner that broke down.
-/

namespace Telemetry

/-! ## Queues that nothing is added to -/

namespace Roster

variable {α : Type} {r r' : Roster α}

/-- Nothing will be added to any queue. -/
def Finished (r : Roster α) : Prop :=
  ∀ id b, r.outbox? id = some b → b.finished = true

theorem finished_clear (r : Roster α) : r.clear.Finished := by
  intro id b there
  rw [r.retouches_clear.outbox?] at there
  obtain ⟨b, -, rfl⟩ := Option.map_eq_some_iff.1 there
  rfl

theorem Finished.updateOutbox (finished : r.Finished) {id : Nat} {f : Outbox α → Outbox α}
    (same : ∀ b, (f b).finished = b.finished) : (r.updateOutbox id f).Finished := by
  intro other b there
  rw [(retouches_updateOutbox r id f).outbox?] at there
  obtain ⟨c, present, rfl⟩ := Option.map_eq_some_iff.1 there
  have ended := finished other c present
  split
  · rw [same, ended]
  · exact ended

/-- Where nothing will be added, a reader gets what is queued or is told of the end. -/
theorem Finished.read?_or_exhausted (finished : r.Finished) (id : Nat) :
    (∃ a rest r', r.queued id = a :: rest ∧ r.read? id = some (a, r')) ∨
      r.queued id = [] ∧ r.read? id = none ∧ r.isExhausted id = true := by
  unfold queued read? isExhausted
  cases there : r.outbox? id with
  | none => exact .inr ⟨rfl, rfl, rfl⟩
  | some b =>
    have ended := finished id b there
    obtain ⟨capacity, items, closed, _⟩ := b
    cases items with
    | nil => exact .inr ⟨rfl, rfl, ended⟩
    | cons a rest => exact .inl ⟨a, rest, _, rfl, rfl⟩

/-- What readers do to queues that nothing is added to, and what they get. -/
structure Drains (got : Nat → List α) (r r' : Roster α) : Prop where
  opened : ∀ id, r'.isClosed id = false → r.isClosed id = false
  queued : ∀ id, r'.isClosed id = false → got id ++ r'.queued id = r.queued id
  finished : r.Finished → r'.Finished

theorem drains_refl (r : Roster α) : Drains (fun _ => []) r r :=
  ⟨fun _ => id, fun _ _ => rfl, id⟩

theorem drains_close (r : Roster α) (id : Nat) : Drains (fun _ => []) r (r.close id) where
  opened other there := by
    cases closed : r.isClosed other with
    | false => rfl
    | true => exact (isClosed_close_of_isClosed closed).symm.trans there
  queued _ there := queued_close_of_open there
  finished finished := finished.updateOutbox fun _ => rfl

theorem drains_read {id : Nat} {a : α} (item : r.read? id = some (a, r')) :
    Drains (fun reader => if id = reader then [a] else []) r r' where
  opened other there := (isClosed_read item other).symm.trans there
  queued other _ := by
    split
    next same =>
      subst same
      exact queued_read item
    next differ =>
      obtain ⟨_, _, -, -, rfl⟩ := read?_eq_some item
      exact queued_updateOutbox_of_ne _ (Ne.symm differ)
  finished finished := by
    obtain ⟨_, _, -, -, rfl⟩ := read?_eq_some item
    exact finished.updateOutbox fun _ => rfl

theorem Drains.trans {got got' : Nat → List α} {r'' : Roster α} (first : Drains got r r')
    (second : Drains got' r' r'') : Drains (fun id => got id ++ got' id) r r'' where
  opened id there := first.opened id (second.opened id there)
  queued id there := by
    rw [List.append_assoc, second.queued id there, first.queued id (second.opened id there)]
  finished finished := second.finished (first.finished finished)

end Roster

namespace Store

/-! ## Clients that are busy -/

/-- The client that begins something. -/
def Event.begins? : Event → Option Nat
  | act (.fill client _) | act (.ask client _) => some client
  | _ => none

/-- A client has something under way, or its answer is there. -/
def View.Busy (w : View) : Prop :=
  w.filling ≠ [] ∨ w.asking ≠ [] ∨ w.awaiting = true ∨ w.replies ≠ []

section Busy

variable {config : StoreConfig} {tr : Trace} {σ σ' : Signals} {s s' : Store} {e began : Event}
  {o : Output} {st : Step} {client : Nat}

/-- A client remains busy while others act. -/
theorem Change.busy (h : Change σ s e σ' s' o) (busy : (s.view client).Busy)
    (apart : e.by? ≠ some client) : (s'.view client).Busy := by
  have carry (input : s'.input.waiting = s.input.waiting)
      (control : s'.control.waiting = s.control.waiting) (awaiting : s'.awaiting = s.awaiting)
      (replies : s'.replies = s.replies) : (s'.view client).Busy := by
    simpa only [View.Busy, view, input, control, awaiting, replies] using busy
  cases h with
  | fill c v =>
    have other : c ≠ client := fun same => apart (congrArg some same)
    rwa [view_fill, if_neg other, List.append_nil]
  | ask c request =>
    have other : c ≠ client := fun same => apart (congrArg some same)
    rwa [view_ask, if_neg other, List.append_nil]
  | send c going entered =>
    obtain ⟨m, entry⟩ := Queue.entry_of_enter? entered
    by_cases same : c = client
    · exact .inr (.inr (.inl (by simp [view, same])))
    · simpa [View.Busy, view, entry.waiting, Queue.filter_leave, same, Ne.symm same] using busy
  | report id going entered =>
    obtain ⟨m, entry⟩ := Queue.entry_of_enter? entered
    simpa [View.Busy, view, entry.waiting, Queue.filter_leave] using busy
  | collect c =>
    have other : c ≠ client := fun same => apart (congrArg some same)
    rwa [view_handOver, if_neg other]
  | refuse c | abandon c =>
    have other : c ≠ client := fun same => apart (congrArg some same)
    rwa [view_abandon, if_neg other]
  | accept c _ _ entered =>
    obtain ⟨v, entry⟩ := Queue.entry_of_enter? entered
    have other : c ≠ client := fun same => apart (congrArg some same)
    rwa [view_accept c entry.waiting, if_neg other]
  | wake => rwa [view_wake]
  | disperse => rwa [view_disperse]
  | answer serves | grant serves =>
    rw [view_answered serves]
    split
    · exact .inr (.inr (.inr (by simp)))
    · exact busy
  | _ => exact carry rfl rfl rfl rfl

/-- Whoever is busy without an answer is in one of the four places. -/
theorem isPending_of_busy (busy : (s.view client).Busy)
    (none_there : List.lookup client s.replies = none) : s.isPending client = true := by
  rcases busy with fills | asks | awaits | answered
  · cases waits : s.input.waits client with
    | true => simp [isPending, waits]
    | false => exact absurd (filling_eq_nil waits) fills
  · cases waits : s.control.waits (.client client) with
    | true => simp [isPending, waits]
    | false => exact absurd (asking_eq_nil waits) asks
  · have awaits : s.awaiting.contains client = true := awaits
    rw [isPending, awaits, Bool.or_true]
  · exact absurd (replies_eq_nil none_there) answered

theorem Trace.quiet_concat :
    Trace.Quiet client (tr ++ [st]) ↔ Trace.Quiet client tr ∧ st.event.by? ≠ some client := by
  rw [Trace.quiet_append]
  simp [Trace.Quiet]

theorem Trace.Begun.of_concat (begun : Trace.Begun client began (tr ++ [st])) :
    st.event = began ∨ Trace.Begun client began tr ∧ st.event.by? ≠ some client := by
  obtain ⟨before, first, later, split, event, quiet⟩ := begun
  rcases List.eq_nil_or_concat' later with rfl | ⟨later, last, rfl⟩
  · obtain ⟨-, rfl⟩ := List.append_inj' split rfl |>.imp id List.singleton_inj.1
    exact .inl event
  · rw [← List.cons_append, ← List.append_assoc] at split
    obtain ⟨rfl, rfl⟩ := List.append_inj' split rfl |>.imp id List.singleton_inj.1
    obtain ⟨quiet, apart⟩ := Trace.quiet_concat.1 quiet
    exact .inr ⟨⟨before, first, later, rfl, event, quiet⟩, apart⟩

/-- Whoever has begun something and not ended it is busy. -/
theorem Change.busy_of_begun (h : Change σ s e σ' s' o) (begins : began.begins? = some client)
    (busy : Trace.Begun client began tr → (s.view client).Busy)
    (begun : Trace.Begun client began (tr ++ [⟨σ, s, e, o, s'⟩])) : (s'.view client).Busy := by
  rcases begun.of_concat with rfl | ⟨earlier, apart⟩
  · cases h with
    | fill c v =>
      cases begins
      exact .inl (by simp [view_fill])
    | ask c request =>
      cases begins
      exact .inr (.inl (by simp [view_ask]))
    | _ => cases begins
  · exact h.busy (busy earlier) apart

theorem Run.busy (run : Run config tr σ s) (begins : began.begins? = some client)
    (begun : tr.Begun client began) : (s.view client).Busy := by
  induction run with
  | start =>
    obtain ⟨before, st, later, split, -⟩ := begun
    simp at split
  | step run e permitted happened ih =>
    exact (change_of_effect happened).busy_of_begun begins ih begun

end Busy

/-! ## Without an owner -/

/-- What happens once the owner has broken down, whatever it broke down over. -/
inductive Aftermath (σ₀ : Signals) (s₀ : Store) : Trace → Signals → Store → Prop
  | breaks : Aftermath σ₀ s₀ [] σ₀ s₀.die
  | step {since : Trace} {σ σ' : Signals} {s s' : Store} {o : Output}
      (after : Aftermath σ₀ s₀ since σ s) (e : Event) (permitted : e.Permitted s)
      (happened : e.effect? σ s = some (σ', s', o)) :
      Aftermath σ₀ s₀ (since ++ [⟨σ, s, e, o, s'⟩]) σ' s'

/-- What a step does to a store without owner. -/
structure Decays (σ : Signals) (s : Store) (e : Event) (o : Output) (s' : Store) : Prop where
  gone : s'.activity = .dead
  /-- An answer that was given is there until its client does something. -/
  replies : ∀ client, List.lookup client s'.replies =
    if e.by? = some client then none else List.lookup client s.replies
  roster : s.roster.Drains (fun id => Step.received id ⟨σ, s, e, o, s'⟩) s'.roster

/-- A store whose owner broke down in the situation `s₀`, after some more steps. -/
structure Wreck (s₀ : Store) (since : Trace) (s : Store) : Prop where
  gone : s.activity = .dead
  config : s.config = s₀.config
  given : ∀ client, Trace.Quiet client since →
    List.lookup client s.replies = List.lookup client s₀.replies
  taken : ∀ client, ¬ Trace.Quiet client since → List.lookup client s.replies = none
  roster : s₀.roster.clear.Drains (fun id => Trace.received id since) s.roster

section Steps

variable {σ σ' : Signals} {s s' : Store} {e : Event} {o : Output}

theorem isOver_of_dead (dead : s.activity = .dead) : s.isOver = true := by
  simp [isOver, dead]

theorem lookup_filter_bne {β : Type} (l : List (Nat × β)) (n k : Nat) :
    List.lookup k (l.filter (·.1 != n)) = if n = k then none else List.lookup k l := by
  induction l with
  | nil => simp
  | cons entry l ih => grind

theorem drains_abandon (s : Store) (client : Nat) :
    s.roster.Drains (fun _ => []) (s.abandon client).roster := by
  rcases roster_abandon s client with same | ⟨id, closed⟩
  · rw [same]
    exact s.roster.drains_refl
  · rw [closed]
    exact s.roster.drains_close id

theorem Change.decays (h : Change σ s e σ' s' o) (permitted : e.Permitted s)
    (dead : s.activity = .dead) : Decays σ s e o s' := by
  have ended := isOver_of_dead dead
  have none_of_free {client : Nat} (free : s.isFree client = true) :
      List.lookup client s.replies = none := by
    simp only [isFree, Bool.and_eq_true, Option.isNone_iff_eq_none] at free
    exact free.2
  cases h with
  | suppress ready | update ready => simp [isOver_eq_false_of_ready ready] at ended
  | answer serves | ignore serves | grant serves | skip serves | strike serves | die serves =>
    simp [isOver_eq_false_of_serves serves] at ended
  | takeRequest idle | stop idle => cases idle.symm.trans dead
  | finish delivering | deliver delivering | giveUp delivering =>
    cases delivering.symm.trans dead
  | send _ going | report _ going | accept _ _ going => cases going.symm.trans ended
  | fill client v =>
    refine ⟨dead, fun c => ?_, s.roster.drains_refl⟩
    split
    next own =>
      cases own
      exact none_of_free permitted
    · rfl
  | ask client request =>
    refine ⟨dead, fun c => ?_, s.roster.drains_refl⟩
    split
    next own =>
      cases own
      exact none_of_free permitted.1
    · rfl
  | collect client there =>
    refine ⟨dead, fun c => ?_, s.roster.drains_refl⟩
    simpa [handOver, Event.by?] using lookup_filter_bne s.replies client c
  | refuse client | abandon client =>
    refine ⟨dead, fun c => ?_, drains_abandon s client⟩
    simpa [Store.abandon, Event.by?] using lookup_filter_bne s.replies client c
  | read id token live item => exact ⟨dead, fun _ => rfl, Roster.drains_read item⟩
  | close id => exact ⟨dead, fun _ => rfl, s.roster.drains_close id⟩
  | _ => exact ⟨dead, fun _ => rfl, s.roster.drains_refl⟩

/-- A step over which the owner breaks down. -/
theorem Change.breaks (h : Change σ s e σ' s' o) (alive : s.activity ≠ .dead)
    (dead : s'.activity = .dead) : ∃ message, s.Serves message ∧ σ' = σ ∧ s' = s.die := by
  cases h with
  | die serves => exact ⟨_, serves, rfl, rfl⟩
  | @suppress _ after | @finish _ after => cases after <;> cases dead
  | update | takeRequest | deliver | giveUp | stop => cases dead
  | answer | ignore | grant | skip | strike => cases dead
  | _ => exact absurd dead alive

end Steps

namespace Aftermath

variable {config : StoreConfig} {before since earlier later : Trace} {σ₀ σ : Signals}
  {s₀ s : Store} {st : Step} {began : Event} {client : Nat}

theorem busy (after : Aftermath σ₀ s₀ since σ s) (run : Run config before σ₀ s₀)
    (begins : began.begins? = some client) (begun : Trace.Begun client began (before ++ since)) :
    (s.view client).Busy := by
  induction after with
  | breaks =>
    rw [List.append_nil] at begun
    simpa only [View.Busy, view_die] using run.busy begins begun
  | step after e permitted happened ih =>
    rw [← List.append_assoc] at begun
    exact (change_of_effect happened).busy_of_begun begins ih begun

theorem wreck (after : Aftermath σ₀ s₀ since σ s) : Wreck s₀ since s := by
  induction after with
  | breaks =>
    exact ⟨rfl, rfl, fun _ _ => rfl, fun _ loud => absurd Trace.quiet_nil loud,
      s₀.roster.clear.drains_refl⟩
  | step after e permitted happened ih =>
    have change := change_of_effect happened
    have decays := change.decays permitted ih.gone
    refine ⟨decays.gone, change.config_eq.trans ih.config, ?_, ?_, ?_⟩
    · intro client quiet
      obtain ⟨earlier, apart⟩ := Trace.quiet_concat.1 quiet
      rw [decays.replies, if_neg apart, ih.given client earlier]
    · intro client loud
      rw [decays.replies]
      split
      · rfl
      next apart => exact ih.taken client fun quiet => loud (Trace.quiet_concat.2 ⟨quiet, apart⟩)
    · simpa only [Trace.received_append, Trace.received_singleton] using
        ih.roster.trans decays.roster

theorem last (after : Aftermath σ₀ s₀ (since ++ [st]) σ s) :
    Aftermath σ₀ s₀ since st.signals st.store ∧
      st.event.effect? st.signals st.store = some (σ, s, st.output) ∧ st.next = s := by
  generalize whole : since ++ [st] = tr at after
  cases after with
  | breaks => simp at whole
  | step after e permitted happened =>
    obtain ⟨rfl, rfl⟩ := List.append_inj' whole rfl |>.imp id List.singleton_inj.1
    exact ⟨after, happened, rfl⟩

theorem at_step (after : Aftermath σ₀ s₀ (earlier ++ st :: later) σ s) :
    ∃ σ', Aftermath σ₀ s₀ earlier st.signals st.store ∧
      st.event.effect? st.signals st.store = some (σ', st.next, st.output) := by
  induction later using List.reverseRecOn generalizing σ s with
  | nil =>
    obtain ⟨upto, happened, rfl⟩ := after.last
    exact ⟨σ, upto, happened⟩
  | append_singleton later st' ih =>
    rw [← List.cons_append, ← List.append_assoc] at after
    exact ih after.last.1

end Aftermath

/-- The item at some place of a queue that nothing is added to; after the last one comes the end. -/
def Delivered.nth {α : Type} (items : List α) (n : Nat) : Delivered α :=
  match items[n]? with
  | some a => .item a
  | none => .ended

section Wrecks

variable {config : StoreConfig} {before since : Trace} {σ₀ σ σ' : Signals} {s₀ s s' : Store}
  {o : Output} {id client : Nat} {token : Token}

theorem Wreck.closed_eq (wreck : Wreck s₀ since s) (run : Run config before σ₀ s₀) :
    s.closed = .closed config.name := by
  rw [closed, wreck.config, run.config_eq]

/-- Whoever gets anything but an error was answered before. -/
theorem Wreck.resolves (wreck : Wreck s₀ since s)
    (h : Change σ s (.act (.resolve client)) σ' s' o) :
    o = .result (.error s.closed) ∨
      ∃ reply, Trace.Quiet client since ∧ List.lookup client s₀.replies = some reply ∧
        o = .result (.ok reply) := by
  cases h with
  | @collect _ reply there =>
    by_cases quiet : Trace.Quiet client since
    · exact .inr ⟨reply, quiet, (wreck.given client quiet).symm.trans there, rfl⟩
    · cases (wreck.taken client quiet).symm.trans there
  | refuse => exact .inl rfl
  | accept _ _ going => cases going.symm.trans (isOver_of_dead wreck.gone)

theorem Wreck.received (wreck : Wreck s₀ since s) (there : s.roster.isClosed id = false) :
    Trace.received id since ++ s.roster.queued id = s₀.roster.queued id :=
  (wreck.roster.queued id there).trans (Roster.queued_clear _ id)

/-- Whoever reads gets what comes next in its queue. -/
theorem Wreck.reads (wreck : Wreck s₀ since s) (live : σ.isCancelled token = false)
    (there : s.roster.isClosed id = false) :
    ∃ s', s.read? σ id token =
      some (.nth (s₀.roster.queued id) (Trace.received id since).length, s') := by
  have finished := wreck.roster.finished s₀.roster.finished_clear
  have items := wreck.received there
  rcases finished.read?_or_exhausted id with ⟨v, rest, roster, queued, read⟩ | ⟨queued, read, ended⟩
  · refine ⟨{ s with roster }, ?_⟩
    simp [read?, live, read, ← items, queued, Delivered.nth]
  · refine ⟨s, ?_⟩
    simp [read?, live, read, ended, ← items, queued, Delivered.nth]

end Wrecks

/-! ## Everybody -/

/-- What has become of everybody since the owner of a store broke down in the situation `s₀`. -/
structure Breakdown (config : StoreConfig) (before : Trace) (s₀ : Store) (since : Trace)
    (σ : Signals) (s : Store) : Prop where
  gone : s.activity = .dead
  /-- Whatever a client has begun and not ended, be it before or since, ends at once with an error,
  unless its answer was given before. -/
  closes : ∀ client began, began.begins? = some client →
    Trace.Begun client began (before ++ since) →
    (Trace.Quiet client since → List.lookup client s₀.replies = none) →
    s.resolve? client = some (.error (.closed config.name), s.abandon client)
  answered : ∀ client reply, Trace.Quiet client since →
    List.lookup client s₀.replies = some reply →
    s.resolve? client = some (.ok reply, s.handOver client reply)
  /-- Nothing else was told to anybody. -/
  returned : ∀ earlier st later client, since = earlier ++ st :: later →
    st.event = .act (.resolve client) → st.output = .result (.error (.closed config.name)) ∨
      ∃ reply, Trace.Quiet client earlier ∧ List.lookup client s₀.replies = some reply ∧
        st.output = .result (.ok reply)
  /-- Whoever stands in line to have a subscriber struck off goes away. -/
  disperses : ∀ id message, (Party.watcher id, message) ∈ s.control.waiting →
    ∃ s', s.disperse? id = some s'
  /-- The reader of a subscription gets what was queued and nothing else ... -/
  received : ∀ id, s.roster.isClosed id = false →
    Trace.received id since ++ s.roster.queued id = s₀.roster.queued id
  /-- ... one item at each reading, and then the end, as long as nobody cancels it. -/
  reads : ∀ id token, σ.isCancelled token = false → s.roster.isClosed id = false →
    ∃ s', s.read? σ id token =
      some (.nth (s₀.roster.queued id) (Trace.received id since).length, s')

section Runs

variable {config : StoreConfig} {tr before since : Trace} {σ₀ σ : Signals} {s₀ s : Store}

theorem Aftermath.breakdown (after : Aftermath σ₀ s₀ since σ s) (run : Run config before σ₀ s₀) :
    Breakdown config before s₀ since σ s := by
  have wreck := after.wreck
  have ended := isOver_of_dead wreck.gone
  refine ⟨wreck.gone, ?_, ?_, ?_, ?_, fun _ => wreck.received, fun _ _ => wreck.reads⟩
  · intro client began begins begun unanswered
    have none_there : List.lookup client s.replies = none := by
      by_cases quiet : Trace.Quiet client since
      · rw [wreck.given client quiet, unanswered quiet]
      · exact wreck.taken client quiet
    have pending := isPending_of_busy (after.busy run begins begun) none_there
    rw [resolve?_of_lookup_eq_none none_there, if_pos ended, if_pos pending, wreck.closed_eq run]
  · intro client reply quiet given
    exact resolve?_of_lookup ((wreck.given client quiet).trans given)
  · rintro earlier ⟨σ₁, t, e, o, t'⟩ later client rfl rfl
    obtain ⟨σ', upto, happened⟩ := after.at_step
    rw [← upto.wreck.closed_eq run]
    exact upto.wreck.resolves (change_of_effect happened)
  · intro id message line
    have waits : s.control.waits (.watcher id) = true :=
      List.any_eq_true.2 ⟨_, line, beq_self_eq_true _⟩
    exact ⟨_, by rw [disperse?, ended, waits]; rfl⟩

/-- An owner that broke down did so over a message, and the rest is the aftermath. -/
theorem Run.exists_aftermath (run : Run config tr σ s) (dead : s.activity = .dead) :
    ∃ before st since message, tr = before ++ st :: since ∧
      Run config before st.signals st.store ∧ st.store.Serves message ∧
      st.next = st.store.die ∧ Aftermath st.signals st.store since σ s := by
  induction run with
  | start σ made =>
    rw [ofConfig?_eq_some made] at dead
    cases dead
  | @step tr σ σ' s s' o run e permitted happened ih =>
    by_cases already : s.activity = .dead
    · obtain ⟨before, st, since, message, rfl, earlier, serves, dies, after⟩ := ih already
      exact ⟨before, st, since ++ [⟨σ, s, e, o, s'⟩], message, by simp, earlier, serves, dies,
        after.step e permitted happened⟩
    · obtain ⟨message, serves, rfl, rfl⟩ := (change_of_effect happened).breaks already dead
      exact ⟨tr, _, [], message, rfl, run, serves, rfl, .breaks⟩

end Runs

end Store

namespace Site

/-- Whoever asks a store for a subscription below a token gets one that is over at once, and the
store hears nothing of it. -/
def Refuses (x : Site) (parent : Token) : Prop :=
  ∀ (n : Nat) (t : Task) (store : Nat) (filter : ValueFilter) (replay : Bool),
    let call := Call.subscribe store filter replay parent
    ∃ token σ, Signals.isCancelled σ token = true ∧
      x.make n t call =
        { x.setTask n { t with status := .waiting call } with signals := σ }.respond n t
          (.subscribed ⟨.store store, 0, token, false⟩)

theorem refuses_of_isCancelled {x : Site} {parent : Token}
    (cancelled : x.signals.isCancelled parent = true) : x.Refuses parent := by
  intro n t store filter replay call
  let y := x.setTask n { t with status := .waiting call }
  have cancelled : y.signals.isCancelled parent = true := cancelled
  obtain ⟨opens, below⟩ : y.openBelow (.store store) parent = _ ∧ _ :=
    openBelow_of_isCancelled cancelled
  refine ⟨_, _, below, ?_⟩
  unfold make
  dsimp only [call]
  rw [opens]

end Site

namespace Store

/-- An owner that breaks down hangs nobody. In a run it does so while it serves a message; the same
holds of a breakdown at any other moment. Of all operations, only a subscription below a token that
is cancelled already returns anything but the error, as it asks no store. -/
theorem Run.hangs_nobody {config : StoreConfig} {tr : Trace} {σ : Signals} {s : Store}
    (run : Run config tr σ s) :
    (s.activity = .dead → ∃ before st since message, tr = before ++ st :: since ∧
      st.store.Serves message ∧ st.next = st.store.die ∧
      Breakdown config before st.store since σ s) ∧
    (∀ since σ' s', Aftermath σ s since σ' s' → Breakdown config tr s since σ' s') ∧
    ∀ (x : Site) (parent : Token), x.signals.isCancelled parent = true → x.Refuses parent := by
  refine ⟨?_, fun since σ' s' after => after.breakdown run,
    fun x parent => Site.refuses_of_isCancelled⟩
  intro dead
  obtain ⟨before, st, since, message, split, earlier, serves, dies, after⟩ :=
    run.exists_aftermath dead
  exact ⟨before, st, since, message, split, serves, dies, after.breakdown earlier⟩

/-- Somebody subscribes, and an update is delivered. Then there is no room any more for a replay
that somebody else asks for, while others fill and ask. -/
def overfill : List Event :=
  .act (.ask 0 (.subscribe .all false ⟨[0]⟩)) :: granting ++ .act (.resolve 0) ::
    delivering (serial "A1") ++
    [.act (.ask 2 (.subscribe .all true ⟨[1]⟩)), .act (.enter (.client 2)), .act (.ask 3 .wait),
      .act (.enter (.client 3)), .act (.ask 4 .stats), .act (.owner .takeRequest),
      .act (.fill 5 (serial "A2")), .act (.owner .drain), .act (.fill 6 (serial "A3"))]

theorem oversized_replay_hangs_nobody :
    ∃ tr σ s, Run { subscriberCapacity := excessive - 1 } tr σ s ∧ s.activity = .dead ∧
      [2, 3, 4, 5, 6].all s.isPending = true ∧ (s.roster.queued 1).length = 1 ∧
      ∃ before st since message, tr = before ++ st :: since ∧ st.store.Serves message ∧
        st.next = st.store.die ∧
        Breakdown { subscriberCapacity := excessive - 1 } before st.store since σ s := by
  let config : StoreConfig := { subscriberCapacity := excessive - 1 }
  have ends : (play? overfill (fresh config)).map (fun now => (now.2.2.isDead,
      [2, 3, 4, 5, 6].all now.2.2.isPending, (now.2.2.roster.queued 1).length)) =
        some (true, true, 1) := by
    decide +kernel
  obtain ⟨⟨tr, σ, s⟩, played, ends⟩ := Option.map_eq_some_iff.1 ends
  simp only [Prod.mk.injEq] at ends
  obtain ⟨dead, pending, queued⟩ := ends
  have run : Run config tr σ s := .of_play? (by decide) played
  have dead := isDead_iff.1 dead
  exact ⟨tr, σ, s, run, dead, pending, queued, run.hangs_nobody.1 dead⟩

end Store

end Telemetry
