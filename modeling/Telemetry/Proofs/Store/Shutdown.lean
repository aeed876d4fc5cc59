import Telemetry.Proofs.Signal
import Telemetry.Proofs.Store.Listing

/-!
# Orderly shutdown

The owner of a store stops by itself only when nobody holds the store any longer and both queues are
empty. By then it has taken every value whose fill returned, and has served every message that got
into its queue. Stopping, it ends the subscriptions that are left: from then on nothing can be read,
whatever is queued. No other signal is fired, so the tokens that subscriptions were made below stay
as they are.

## Main definitions

* `Trace.sent`, `Trace.served`: the messages that got into their queue, and those that the owner
  served.
* `Stops`: the step at which the owner stops.
* `Shutdown`: what has become of a store whose owner stopped.

## Main results

* `Run.messages`: no message is lost as long as the owner is there.
* `Run.shutdown`: no owner stops otherwise.
-/

namespace Telemetry.Store

namespace Step

/-- The message that gets into its queue. -/
def sent (st : Step) : List Message :=
  match st.event with
  | .act (.enter party) =>
    if st.store.isOver then []
    else ((st.store.control.admitted.find? fun w => w.1 == party).map Prod.snd).toList
  | _ => []

/-- The message that the owner serves. -/
def served (st : Step) : List Message :=
  match st.event, st.store.activity with
  | .act (.owner .drain), .draining message left =>
    if left = 0 ∨ st.store.input.items = [] then [message] else []
  | _, _ => []

end Step

namespace Trace

/-- All messages that got into their queue, in order. -/
def sent (tr : Trace) : List Message :=
  tr.flatMap Step.sent

/-- All messages that the owner served, in order. -/
def served (tr : Trace) : List Message :=
  tr.flatMap Step.served

@[simp] theorem sent_append (tr more : Trace) : sent (tr ++ more) = sent tr ++ sent more :=
  List.flatMap_append

@[simp] theorem served_append (tr more : Trace) : served (tr ++ more) = served tr ++ served more :=
  List.flatMap_append

@[simp] theorem sent_singleton (st : Step) : sent [st] = st.sent := by simp [sent]

@[simp] theorem served_singleton (st : Step) : served [st] = st.served := by simp [served]

end Trace

/-! ## Messages -/

section Steps

variable {σ σ' : Signals} {s s' : Store} {e : Event} {o : Output}

theorem served_of_ready {m : Move} {after : Option (Message × Nat)} {v : Value} {rest : List Value}
    (ready : s.Ready m after) (first : s.input.items = v :: rest) :
    Step.served ⟨σ, s, .act (.owner m), o, s'⟩ = [] := by
  cases ready with
  | idle => rfl
  | draining h => simp [Step.served, h, first]

theorem served_of_serves {message : Message} (serves : s.Serves message) :
    Step.served ⟨σ, s, .act (.owner .drain), o, s'⟩ = [message] := by
  obtain ⟨left, draining, enough⟩ := serves
  simp [Step.served, draining, enough]

theorem sent_of_entry {party : Party} {control : Queue Party Message} {m : Message}
    (entry : s.control.Entry control party m) (going : s.isOver = false) :
    Step.sent ⟨σ, s, .act (.enter party), o, s'⟩ = [m] := by
  simp [Step.sent, going, entry.found]

/-- Nothing is lost between the queue of messages and the owner, unless the owner breaks down. -/
theorem Change.messages (h : Change σ s e σ' s' o) (going : s'.isOver = false) :
    Step.served ⟨σ, s, e, o, s'⟩ ++ s'.inFlight =
      s.inFlight ++ Step.sent ⟨σ, s, e, o, s'⟩ := by
  cases h with
  | send n open' entered | report n open' entered =>
    obtain ⟨m, entry⟩ := Queue.entry_of_enter? entered
    rw [sent_of_entry entry open']
    simp [Step.served, Store.inFlight, entry.items]
  | suppress ready first | update ready first =>
    rw [served_of_ready ready first]
    simp [Step.sent, Store.inFlight, owed_of_ready ready]
  | takeRequest idle first =>
    rw [inFlight_of_idle idle, first]
    exact (List.append_nil _).symm
  | answer serves | ignore serves | grant serves | skip serves | strike serves =>
    rw [served_of_serves serves, inFlight_of_serves serves]
    exact (List.append_nil _).symm
  | finish delivering | deliver delivering | giveUp delivering =>
    simp [Step.served, Step.sent, Store.inFlight, delivering]
  | die | stop => cases going
  | _ => exact (List.append_nil _).symm

/-- Once the owner is gone, no message gets into its queue or is served. -/
theorem messages_of_over {st : Step} (ended : st.store.isOver = true) :
    st.served = [] ∧ st.sent = [] := by
  constructor
  · unfold Step.served
    split
    next draining => simp [isOver, draining] at ended
    · rfl
  · unfold Step.sent
    split
    · exact if_pos ended
    · rfl

/-- A message that is served is dealt with as it should. -/
theorem next_of_served {message : Message} (happened : e.effect? σ s = some (σ', s', o))
    (served : message ∈ Step.served ⟨σ, s, e, o, s'⟩) :
    s' = { s with activity := .idle }.serve message := by
  unfold Step.served at served
  split at served
  next message' left event draining =>
    split at served
    next enough =>
      obtain rfl := List.mem_singleton.1 served
      obtain rfl : e = .act (.owner .drain) := event
      obtain ⟨⟨_, t⟩, moved, same⟩ := Option.map_eq_some_iff.1 happened
      cases same
      obtain ⟨t, drained, same⟩ := Option.map_eq_some_iff.1 moved
      cases same
      have draining : s.activity = .draining message left := draining
      have enough : left = 0 ∨ s.input.items = [] := enough
      unfold drain? at drained
      rw [draining] at drained
      cases left with
      | zero => exact (Option.some.inj drained).symm
      | succ left =>
        have empty : s.input.items = [] := enough.resolve_left left.succ_ne_zero
        rw [Queue.pop?_eq_none.2 empty] at drained
        exact (Option.some.inj drained).symm
    · cases served
  · cases served

/-- A step cancels what a signal that is fired cancels. When the owner stops, those are the signals
of all on the list. -/
theorem Change.cancels (h : Change σ s e σ' s' o) {t : Token} (cancelled : σ'.isCancelled t = true) :
    σ.isCancelled t = true ∨ (∃ above, e = .fire above ∧ t.Within above) ∨
      s.activity = .idle ∧ ∃ sub ∈ s.roster.subscribers, t.Within sub.token := by
  cases h with
  | fire above =>
    exact (Signals.isCancelled_fire_iff.1 cancelled).imp_right fun below => .inl ⟨above, rfl, below⟩
  | stop idle =>
    rcases Signals.isCancelled_fireAll_iff.1 cancelled with before | ⟨own, listed, below⟩
    · exact .inl before
    · obtain ⟨sub, on, rfl⟩ := List.mem_map.1 listed
      exact .inr (.inr ⟨idle, sub, on, below⟩)
  | _ => exact .inl cancelled

end Steps

/-! ## Runs -/

section Runs

variable {config : StoreConfig} {tr : Trace} {σ : Signals} {s : Store}

/-- As long as the owner is there, every message that got into its queue was served or is on its
way. -/
theorem Run.messages (run : Run config tr σ s) (going : s.isOver = false) :
    Trace.served tr ++ s.inFlight = Trace.sent tr := by
  induction run with
  | start σ made =>
    rw [ofConfig?_eq_some made]
    rfl
  | @step tr σ σ' s s' o run e permitted happened ih =>
    have change := change_of_effect happened
    have before : s.isOver = false := by
      by_contra ended
      have stays := (change.stays_over (by simpa using ended)).1
      exact absurd (going.symm.trans stays) (by simp)
    rw [Trace.served_append, Trace.served_singleton, List.append_assoc, change.messages going,
      ← List.append_assoc, ih before, Trace.sent_append, Trace.sent_singleton]

/-- The step at which the owner stops, with what happened before and since. -/
structure Stops (tr : Trace) (σ : Signals) (before : Trace) (st : Step) (since : Trace) :
    Prop where
  trace : tr = before ++ st :: since
  event : st.event = .act (.owner .stop)
  /-- Nobody holds the store, nothing is queued, and nobody waits for anything. -/
  idle : st.store.activity = .idle
  done : st.store.mayStop = true
  answered : st.store.awaiting = []
  /-- The owner stays away. -/
  stays : ∀ st' ∈ since, st'.store.activity = .stopped
  /-- All subscriptions that are left end, and nothing else does unless somebody ends it. -/
  remaining : ∀ sub ∈ st.store.roster.subscribers, σ.isCancelled sub.token = true
  spared : ∀ t, (∀ sub ∈ st.store.roster.subscribers, ¬ t.Within sub.token) →
    σ.isCancelled t = true → st.signals.isCancelled t = true ∨
      ∃ st' ∈ since, ∃ above, st'.event = .fire above ∧ t.Within above

/-- Nobody awaits an answer when the owner stops. -/
theorem Run.awaiting_of_mayStop (run : Run config tr σ s) (idle : s.activity = .idle)
    (done : s.mayStop = true) : s.awaiting = [] := by
  have nothing : s.inFlight = [] := by
    rw [inFlight_of_idle idle]
    simp_all [mayStop]
  refine List.eq_nil_iff_forall_not_mem.2 fun client awaits => ?_
  obtain ⟨request, sent⟩ := run.awaited (by simp [isOver, idle]) client awaits
  simp [nothing] at sent

/-- An owner that stopped did so at some step. -/
theorem Run.stops (run : Run config tr σ s) (orderly : tr.Orderly)
    (stopped : s.activity = .stopped) : ∃ before st since, Stops tr σ before st since := by
  induction run with
  | start σ made =>
    rw [ofConfig?_eq_some made] at stopped
    cases stopped
  | @step tr σ σ' s s' o run e permitted happened ih =>
    have change := change_of_effect happened
    rcases change.stops stopped with already | ⟨rfl, idle, done, rfl⟩
    · obtain ⟨before, st, since, stops⟩ := ih orderly.of_snoc already
      refine ⟨before, st, since ++ [⟨σ, s, e, o, s'⟩], {
        stops with
        trace := by simp [stops.trace]
        stays := ?_
        remaining := fun sub on => change.grows _ (stops.remaining sub on)
        spared := ?_ }⟩
      · intro st' member
        rcases List.mem_append.1 member with old | last
        · exact stops.stays st' old
        · obtain rfl := List.mem_singleton.1 last
          exact already
      · intro t apart cancelled
        rcases change.cancels cancelled with earlier | ⟨above, fired, below⟩ | ⟨idle, -⟩
        · refine (stops.spared t apart earlier).imp_right ?_
          rintro ⟨st', member, fired⟩
          exact ⟨st', List.mem_append_left _ member, fired⟩
        · exact .inr ⟨⟨σ, s, e, o, s'⟩, by simp, above, fired, below⟩
        · cases already.symm.trans idle
    · refine ⟨tr, _, [], rfl, rfl, idle, done, run.awaiting_of_mayStop idle done, ?_, ?_, ?_⟩
      · intro st' member
        cases member
      · intro sub on
        obtain ⟨p, granted, rfl⟩ := run.desk.registered.exists_grant on
        exact σ.isCancelled_fireAll (List.mem_map_of_mem on) (orderly.of_snoc.signals p granted)
      · intro t apart cancelled
        rcases Signals.isCancelled_fireAll_iff.1 cancelled with earlier | ⟨own, listed, below⟩
        · exact .inl earlier
        · obtain ⟨sub, on, rfl⟩ := List.mem_map.1 listed
          exact absurd below (apart sub on)

/-- Nobody holds a store whose owner stopped. -/
theorem Run.unheld_of_stopped (run : Run config tr σ s) (orderly : tr.Orderly)
    (stopped : s.activity = .stopped) : s.handles = 0 := by
  induction run with
  | start σ made =>
    rw [ofConfig?_eq_some made] at stopped
    cases stopped
  | step run e permitted happened ih =>
    have change := change_of_effect happened
    refine change.unheld orderly.last ?_
    rcases change.stops stopped with already | ⟨-, -, done, -⟩
    · exact ih orderly.of_snoc already
    · simp_all [mayStop]

theorem Trace.Orderly.of_append {more : Trace} (orderly : Trace.Orderly (tr ++ more)) :
    tr.Orderly where
  events st member := orderly.events st (List.mem_append_left _ member)
  signals p granted := by
    refine orderly.signals p ?_
    rw [Trace.history, List.map_append]
    exact Desk.grants_subset _ _ granted

/-- A subscription that has ended, or has no reader, has no item for anybody. -/
theorem Run.read?_ne_item (run : Run config tr σ s) {g : Grant Value}
    (dead : ¬ Desk.Live σ s.desk g) (v : Value) (s' : Store) :
    s.read? σ g.id g.token ≠ some (.item v, s') := by
  intro got
  cases change_of_read got with
  | read _ _ live item =>
    obtain ⟨b, rest, there, items, -⟩ := Roster.read?_eq_some item
    refine dead ⟨live, ?_⟩
    by_contra closed
    have shut : b.closed = true := by simpa [Store.desk, Roster.isClosed, there] using closed
    have empty := (run.desk.registered.fits g.id b there).2 shut
    cases items.symm.trans empty

/-- What has become of a store whose owner stopped. -/
structure Shutdown (tr : Trace) (σ : Signals) (s : Store) : Prop where
  stops : ∃ before st since, Stops tr σ before st since
  unheld : s.handles = 0
  /-- A fill that returned had put its value into the queue. -/
  filled : ∀ before done later client v reply, tr = before ++ done :: later →
    Trace.Begun client (.act (.fill client v)) before → done.event = .act (.resolve client) →
    done.output = .result (.ok reply) → done.entered = [(client, v)]
  /-- All values in the queue were taken, in the order in which they entered, and state and counters
  are what they come to. -/
  taken : Trace.taken tr = Trace.values tr
  keeps : s.Keeps (.ofValues (Trace.values tr))
  /-- All messages that got into their queue were served, in the same way. -/
  served : Trace.served tr = Trace.sent tr
  serves : ∀ st ∈ tr, ∀ message ∈ st.served,
    st.next = { st.store with activity := .idle }.serve message
  /-- Nobody reads anything from then on ... -/
  reads : ∀ before st later, tr = before ++ st :: later → st.store.activity = .stopped →
    ∀ p ∈ Desk.grants (Trace.history before), st.event = .act (.read p.1.id p.1.token) →
      st.output = .delivered .ended
  /-- ... or will: a subscription has ended, or has no reader. -/
  silent : ∀ p ∈ Desk.grants (Trace.history tr),
    (∀ v s', s.read? σ p.1.id p.1.token ≠ some (.item v, s')) ∧
      (s.roster.isClosed p.1.id = false → s.read? σ p.1.id p.1.token = some (.ended, s))

/-- Nothing is taken, enters, is served or is sent from the step on at which the owner stops. -/
theorem Stops.quiet {before since : Trace} {st : Step} (stops : Stops tr σ before st since) :
    ∀ st' ∈ st :: since, st'.taken = [] ∧ st'.entered = [] ∧ st'.served = [] ∧ st'.sent = [] := by
  intro st' member
  rcases List.mem_cons.1 member with rfl | later
  · simp [Step.taken, Step.entered, Step.served, Step.sent, stops.event]
  · have ended : st'.store.isOver = true := by simp [isOver, stops.stays st' later]
    refine ⟨?_, entered_of_over ended, messages_of_over ended⟩
    simp [Step.taken, stops.stays st' later]

/-- An owner that stops other than by breaking down leaves nothing undone. -/
theorem Run.shutdown (run : Run config tr σ s) (orderly : tr.Orderly)
    (stopped : s.activity = .stopped) : Shutdown tr σ s := by
  obtain ⟨before, st, since, stops⟩ := run.stops orderly stopped
  have quiet := stops.quiet
  obtain rfl := stops.trace
  obtain ⟨-, earlier, -⟩ := run.at_step
  have going : st.store.isOver = false := by simp [isOver, stops.idle]
  -- The owner stops only when both queues are drained, so all that entered was taken.
  have empty : st.store.input.items = [] ∧ st.store.inFlight = [] := by
    have done := stops.done
    rw [inFlight_of_idle stops.idle]
    simp_all [mayStop]
  have taken : Trace.taken (before ++ st :: since) = Trace.values (before ++ st :: since) := by
    have flow := earlier.flow going
    have later_taken : Trace.taken (st :: since) = [] :=
      List.flatMap_eq_nil_iff.2 fun st' member => (quiet st' member).1
    have later_entered : Trace.entered (st :: since) = [] :=
      List.flatMap_eq_nil_iff.2 fun st' member => (quiet st' member).2.1
    rw [empty.1, List.append_nil] at flow
    rw [Trace.taken_append, Trace.values_append, flow, later_taken, Trace.values, Trace.values,
      later_entered]
    rfl
  have served : Trace.served (before ++ st :: since) = Trace.sent (before ++ st :: since) := by
    have flow := earlier.messages going
    have later_served : Trace.served (st :: since) = [] :=
      List.flatMap_eq_nil_iff.2 fun st' member => (quiet st' member).2.2.1
    have later_sent : Trace.sent (st :: since) = [] :=
      List.flatMap_eq_nil_iff.2 fun st' member => (quiet st' member).2.2.2
    rw [empty.2, List.append_nil] at flow
    rw [Trace.served_append, Trace.sent_append, flow, later_served, later_sent]
  refine ⟨⟨before, st, since, stops⟩, run.unheld_of_stopped orderly stopped, ?_, taken,
    taken ▸ run.keeps.1, served, ?_, ?_, ?_⟩
  · intro a done b client v reply split begun ends returned
    exact (split ▸ run).fill_returns begun ends returned
  · intro st' member message dealt
    obtain ⟨a, b, split⟩ := List.append_of_mem member
    obtain ⟨_, -, -, happened, -⟩ := (split ▸ run).at_step
    exact next_of_served happened dealt
  · intro a st' b split stopped' p granted reads
    rw [split] at run orderly
    obtain ⟨_, earlier', -, happened, -⟩ := run.at_step
    have dead := earlier'.not_live_of_stopped orderly.of_append stopped' granted
    rw [reads] at happened
    obtain ⟨⟨d, t⟩, got, same⟩ := Option.map_eq_some_iff.1 happened
    cases d with
    | item v => exact absurd got (earlier'.read?_ne_item dead v t)
    | ended => exact (congrArg (fun q => q.2.2) same).symm
  · intro p granted
    have dead := run.not_live_of_stopped orderly stopped granted
    refine ⟨run.read?_ne_item dead, fun reader => ?_⟩
    have cancelled : σ.isCancelled p.1.token = true := by
      by_contra live
      exact dead ⟨by simpa using live, reader⟩
    rw [read?, if_pos cancelled]

/-- A subscriber is granted, an update is delivered and never read, and the store is let go. -/
def letGo : List Event :=
  .act (.ask 0 (.subscribe .all true ⟨[1, 0]⟩)) :: granting ++ .act (.resolve 0) ::
    (delivering (serial "A1") ++ [.act .release, .act (.owner .stop)])

theorem unread_update_cut_off :
    ∃ tr σ s, Run {} tr σ s ∧ s.roster.queued 1 = [serial "A1"] ∧ σ.isCancelled ⟨[0]⟩ = false ∧
      Shutdown tr σ s := by
  have ends : (play? letGo (fresh {})).map (fun now => (decide now.1.Orderly,
      now.2.2.roster.queued 1, now.2.1.isCancelled ⟨[0]⟩)) = some (true, [serial "A1"], false) := by
    rfl
  have stopped : (play? letGo (fresh {})).map (fun now => now.2.2.activity) = some .stopped := rfl
  obtain ⟨⟨tr, σ, s⟩, played, ends⟩ := Option.map_eq_some_iff.1 ends
  rw [played] at stopped
  simp only [Prod.mk.injEq, decide_eq_true_eq] at ends
  obtain ⟨orderly, unread, parent⟩ := ends
  have run : Run {} tr σ s := .of_play? (by decide) played
  exact ⟨tr, σ, s, run, unread, parent, run.shutdown orderly (Option.some.inj stopped)⟩

end Runs

end Telemetry.Store
