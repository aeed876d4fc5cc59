import Telemetry.Proofs.Queue
import Telemetry.Proofs.Roster
import Telemetry.Store

/-!
# Runs of a store

A run is a sequence of events at a store: steps of its owner, its clients, its readers and those who
wait for the end of a subscription, in any order, and signals that are fired. Each event is
recorded with the situation in which it happened, so that everything that anybody saw of the store
can be read off the record.

A client does one thing at a time. It may give up what it has under way; then a request of it may
still be on its way through the owner, and as long as it is, the client asks nothing else. Whoever
asks again at once does so as another client, of which there are as many as one likes.

## Main definitions

* `Store.Event`, `Store.Step`, `Store.Run`: what happens, and what happened.
* `Store.Change`: all that an event can do to a store, one case for each way in which it can go.
-/

namespace Telemetry

/-- Somebody waits for the end of a subscription from the moment it is handed over. -/
def Reply.watched : Reply → List (Nat × Token)
  | .subscribed id token => [(id, token)]
  | _ => []

/-- A message is a request of a client. -/
def Message.isFrom (client : Nat) : Message → Bool
  | .ask sender _ => sender == client
  | .unsubscribe _ => false

namespace Store

/-- What happens at a store: somebody takes a step, or a signal is fired. -/
inductive Event
  | act (a : Action)
  | fire (t : Token)

namespace Event

/-- The effect of an event, if it can happen. -/
def effect? (σ : Signals) (s : Store) : Event → Option (Signals × Store × Output)
  | act a => s.act? σ a
  | fire t => some (σ.fire t, s, .nothing)

end Event

/-- An event, the situation in which it happened, and what came of it. -/
structure Step where
  signals : Signals
  store : Store
  event : Event
  output : Output
  next : Store

/-- All that happened, in order. -/
abbrev Trace := List Step

/-- The message that the owner has taken and not yet served, and how many values it may apply
before. -/
def owed : Activity → Option (Message × Nat)
  | .draining message left => some (message, left)
  | .delivering _ after => after
  | _ => none

/-- Messages that were sent and are not yet served. -/
def inFlight (s : Store) : List Message :=
  ((owed s.activity).map Prod.fst).toList ++ s.control.items

/-- A client has nothing under way, and no answer is there for it. -/
def isFree (s : Store) (client : Nat) : Bool :=
  !s.isPending client && (List.lookup client s.replies).isNone

/-- A client does one thing at a time, and asks nothing while a request that it gave up is still on
its way. Of everybody else nothing is assumed. -/
def Event.Permitted (s : Store) : Event → Prop
  | act (.fill client _) => s.isFree client = true
  | act (.ask client _) => s.isFree client = true ∧ s.inFlight.filter (Message.isFrom client) = []
  | _ => True

instance (s : Store) (e : Event) : Decidable (e.Permitted s) :=
  match e with
  | .act (.fill client _) => inferInstanceAs (Decidable (s.isFree client = true))
  | .act (.ask client _) =>
    have : Decidable (s.inFlight.filter (Message.isFrom client) = []) :=
      decidable_of_iff _ List.isEmpty_iff
    inferInstanceAs (Decidable (_ ∧ _))
  | .act (.enter _) | .act (.resolve _) | .act (.abandon _) | .act (.wake _) | .act (.disperse _)
  | .act (.owner _) | .act (.read _ _) | .act (.close _) | .act .retain | .act .release
  | .fire _ => isTrue trivial

/-- The runs of a store under some settings, with the signals and the store as they are at the
end. -/
inductive Run (config : StoreConfig) : Trace → Signals → Store → Prop
  | start {s : Store} (σ : Signals) (made : ofConfig? config = some s) : Run config [] σ s
  | step {tr : Trace} {σ σ' : Signals} {s s' : Store} {o : Output} (run : Run config tr σ s)
      (e : Event) (permitted : e.Permitted s) (happened : e.effect? σ s = some (σ', s', o)) :
      Run config (tr ++ [⟨σ, s, e, o, s'⟩]) σ' s'

/-! ## Parts of a run -/

theorem Run.last {config : StoreConfig} {tr : Trace} {st : Step} {σ : Signals} {s : Store}
    (run : Run config (tr ++ [st]) σ s) :
    Run config tr st.signals st.store ∧ st.event.Permitted st.store ∧
      st.event.effect? st.signals st.store = some (σ, s, st.output) ∧ st.next = s := by
  generalize h : tr ++ [st] = l at run
  cases run with
  | start => simp at h
  | step run e permitted happened =>
    obtain ⟨rfl, rfl⟩ := List.append_inj' h rfl |>.imp id List.singleton_inj.1
    exact ⟨run, permitted, happened, rfl⟩

/-- What happened up to some moment is a run. -/
theorem Run.of_append {config : StoreConfig} {tr later : Trace} {σ : Signals} {s : Store}
    (run : Run config (tr ++ later) σ s) : ∃ σ' s', Run config tr σ' s' := by
  induction later using List.reverseRecOn generalizing σ s with
  | nil => exact ⟨σ, s, by simpa using run⟩
  | append_singleton later st ih =>
    rw [← List.append_assoc] at run
    exact ih run.last.1

/-- A run seen from one of its steps. -/
theorem Run.at_step {config : StoreConfig} {tr later : Trace} {st : Step} {σ : Signals} {s : Store}
    (run : Run config (tr ++ st :: later) σ s) :
    ∃ σ', Run config tr st.signals st.store ∧ st.event.Permitted st.store ∧
      st.event.effect? st.signals st.store = some (σ', st.next, st.output) ∧
      Run config (tr ++ [st]) σ' st.next := by
  rw [List.append_cons] at run
  obtain ⟨σ', s', run⟩ := run.of_append
  obtain ⟨before, permitted, happened, rfl⟩ := run.last
  exact ⟨σ', before, permitted, happened, run⟩

/-- The signals at the beginning, if they are `σ` at the end. -/
def Trace.opening (tr : Trace) (σ : Signals) : Signals :=
  (tr.head?.map Step.signals).getD σ

theorem Trace.opening_snoc (tr : Trace) (st : Step) (σ : Signals) :
    opening (tr ++ [st]) σ = opening tr st.signals := by
  cases tr <;> rfl

theorem Run.made {config : StoreConfig} {σ : Signals} {s : Store} (run : Run config [] σ s) :
    ofConfig? config = some s := by
  generalize none_yet : ([] : Trace) = tr at run
  cases run with
  | start σ made => exact made
  | step => simp at none_yet

/-- What happens in a run is settled by the events. -/
theorem Run.eq_of_events {config : StoreConfig} {tr tr' : Trace} {σ σ' : Signals} {s s' : Store}
    (run : Run config tr σ s) (run' : Run config tr' σ' s')
    (opens : tr.opening σ = tr'.opening σ')
    (events : tr.map Step.event = tr'.map Step.event) : tr = tr' ∧ σ = σ' ∧ s = s' := by
  induction run generalizing tr' σ' s' with
  | start σ made =>
    obtain rfl : tr' = [] := List.map_eq_nil_iff.1 events.symm
    exact ⟨rfl, opens, Option.some.inj (made.symm.trans run'.made)⟩
  | @step tr σ₀ σ s₀ s o run e permitted happened ih =>
    rcases List.eq_nil_or_concat' tr' with rfl | ⟨before, st, rfl⟩
    · simp at events
    · obtain ⟨earlier, -, happened', rfl⟩ := run'.last
      rw [List.map_append, List.map_append] at events
      obtain ⟨before_same, last⟩ := List.append_inj' events rfl
      obtain rfl : e = st.event := List.singleton_inj.1 last
      rw [Trace.opening_snoc, Trace.opening_snoc] at opens
      obtain ⟨rfl, rfl, rfl⟩ := ih earlier opens before_same
      rw [happened] at happened'
      simp only [Option.some.injEq, Prod.mk.injEq] at happened'
      obtain ⟨rfl, rfl, rfl⟩ := happened'
      exact ⟨rfl, rfl, rfl⟩

/-! ## Given events -/

/-- Lets events happen one after the other, if they can. -/
def play? : List Event → Trace × Signals × Store → Option (Trace × Signals × Store)
  | [], now => some now
  | e :: rest, (tr, σ, s) =>
    if e.Permitted s then
      (e.effect? σ s).bind fun (σ', s', o) => play? rest (tr ++ [⟨σ, s, e, o, s'⟩], σ', s')
    else none

theorem play?_append (events more : List Event) (now : Trace × Signals × Store) :
    play? (events ++ more) now = (play? events now).bind (play? more) := by
  induction events generalizing now with
  | nil => rfl
  | cons e rest ih =>
    obtain ⟨tr, σ, s⟩ := now
    simp only [List.cons_append, play?]
    split
    · cases e.effect? σ s with
      | none => rfl
      | some p => exact ih _
    · rfl

/-- A new store, to which nothing has happened. -/
def fresh (config : StoreConfig) : Trace × Signals × Store :=
  ([], {}, { config, input := { capacity := config.inputCapacity.toNat } })

theorem Run.play {config : StoreConfig} {tr tr' : Trace} {σ σ' : Signals} {s s' : Store}
    {events : List Event} (run : Run config tr σ s)
    (played : play? events (tr, σ, s) = some (tr', σ', s')) : Run config tr' σ' s' := by
  induction events generalizing tr σ s with
  | nil =>
    cases played
    exact run
  | cons e rest ih =>
    unfold play? at played
    split at played
    next permitted =>
      obtain ⟨⟨σ₁, s₁, o⟩, happened, played⟩ := Option.bind_eq_some_iff.1 played
      exact ih (run.step e permitted happened) played
    · cases played

theorem Run.of_play? {config : StoreConfig} {events : List Event} {now : Trace × Signals × Store}
    (small : config.inputCapacity.toNat ≤ queueLimit)
    (played : play? events (fresh config) = some now) : Run config now.1 now.2.1 now.2.2 :=
  (Run.start {} (by rw [ofConfig?, if_pos small])).play played

theorem events_of_play? {events : List Event} {now now' : Trace × Signals × Store}
    (played : play? events now = some now') :
    ∃ more, now'.1 = now.1 ++ more ∧ more.map Step.event = events := by
  induction events generalizing now with
  | nil =>
    cases played
    exact ⟨[], (List.append_nil _).symm, rfl⟩
  | cons e rest ih =>
    obtain ⟨tr, σ, s⟩ := now
    unfold play? at played
    split at played
    · obtain ⟨⟨σ₁, s₁, o⟩, -, played⟩ := Option.bind_eq_some_iff.1 played
      obtain ⟨more, trace, events⟩ := ih played
      exact ⟨⟨σ, s, e, o, s₁⟩ :: more, by simpa using trace, by simp [events]⟩
    · cases played

/-- The step at which one of some given events happens. -/
theorem exists_step_of_play? {events rest : List Event} {e : Event}
    {start now : Trace × Signals × Store} (played : play? (events ++ e :: rest) start = some now) :
    ∃ before st later, now.1 = before ++ st :: later ∧ st.event = e ∧
      play? events start = some (before, st.signals, st.store) := by
  rw [play?_append] at played
  obtain ⟨⟨before, σ, s⟩, begun, played⟩ := Option.bind_eq_some_iff.1 played
  unfold play? at played
  split at played
  · obtain ⟨⟨σ', s', o⟩, -, played⟩ := Option.bind_eq_some_iff.1 played
    obtain ⟨later, trace, -⟩ := events_of_play? played
    exact ⟨before, ⟨σ, s, e, o, s'⟩, later, by simpa using trace, rfl, begun⟩
  · cases played

/-! ## What an event can do -/

def handOver (client : Nat) (reply : Reply) (s : Store) : Store :=
  { s with
    replies := s.replies.filter (·.1 != client)
    watchers := s.watchers ++ reply.watched }

def unwatch (id : Nat) (s : Store) : Store :=
  { s with watchers := s.watchers.filter (·.1 != id) }

/-- A value that would change nothing. -/
def holds (s : Store) (v : Value) : Bool :=
  (s.state.find? v.key).any fun stored => stored.same v

/-- The owner may take a value in a move `m`, and it goes on with `after` when it has applied it. -/
inductive Ready (s : Store) : Move → Option (Message × Nat) → Prop
  | idle (h : s.activity = .idle) : Ready s .takeValue none
  | draining {message : Message} {left : Nat} (h : s.activity = .draining message (left + 1)) :
      Ready s .drain (some (message, left))

/-- The owner serves a message now: it has applied enough values, or none waits. -/
def Serves (s : Store) (message : Message) : Prop :=
  ∃ left, s.activity = .draining message left ∧ (left = 0 ∨ s.input.items = [])

section Owed

variable {s : Store}

@[simp] theorem owed_idle : owed .idle = none := rfl

@[simp] theorem owed_draining (message : Message) (left : Nat) :
    owed (.draining message left) = some (message, left) := rfl

@[simp] theorem owed_delivering (d : Delivery Value) (after : Option (Message × Nat)) :
    owed (.delivering d after) = after := rfl

@[simp] theorem owed_stopped : owed .stopped = none := rfl

@[simp] theorem owed_dead : owed .dead = none := rfl

@[simp] theorem owed_resume (after : Option (Message × Nat)) : owed (resume after) = after := by
  cases after <;> rfl

theorem owed_of_ready {m : Move} {after : Option (Message × Nat)} (ready : s.Ready m after) :
    (owed s.activity).map Prod.fst = after.map Prod.fst := by
  cases ready with
  | idle h | draining h => rw [h]; rfl

theorem inFlight_of_serves {message : Message} (serves : s.Serves message) :
    s.inFlight = message :: s.control.items := by
  obtain ⟨left, draining, -⟩ := serves
  simp [inFlight, draining]

theorem sent_of_serves {message : Message} (serves : s.Serves message) : message ∈ s.inFlight := by
  rw [inFlight_of_serves serves]
  exact List.mem_cons_self

theorem serves_unique {m m' : Message} (serves : s.Serves m) (serves' : s.Serves m') : m = m' := by
  have same := (inFlight_of_serves serves).symm.trans (inFlight_of_serves serves')
  exact (List.cons.inj same).1

theorem not_serves_of_ready {move : Move} {after : Option (Message × Nat)} {v : Value}
    {rest : List Value} (ready : s.Ready move after) (first : s.input.items = v :: rest)
    (m : Message) : ¬ s.Serves m := by
  rintro ⟨left, draining, enough⟩
  cases ready with
  | idle idle => cases idle.symm.trans draining
  | draining more =>
    cases more.symm.trans draining
    simp [first] at enough

theorem inFlight_of_idle (idle : s.activity = .idle) : s.inFlight = s.control.items := by
  simp [inFlight, idle]

end Owed

/-- The answer to a request that asks for no subscription. -/
def replyTo? (s : Store) : Request → Option Reply
  | .snapshot filter => some (.values (s.snapshot filter))
  | .subscribe _ _ _ => none
  | .wait => some .done
  | .stats => some (.stats s.stats)

/-- What a new subscriber gets at once. -/
def replayOf (s : Store) (filter : ValueFilter) (replay : Bool) : List Value :=
  if replay then s.snapshot filter else []

/-- The room that a queue would need for a replay and for live updates. -/
def roomFor (s : Store) (initial : List Value) : Nat :=
  initial.length + s.config.subscriberCapacity.toNat

/-- All that an event can do. -/
inductive Change (σ : Signals) (s : Store) : Event → Signals → Store → Output → Prop
  | fire (t : Token) : Change σ s (.fire t) (σ.fire t) s .nothing
  | fill (client : Nat) (v : Value) :
      Change σ s (.act (.fill client v)) σ (s.fill client v) .nothing
  | ask (client : Nat) (request : Request) :
      Change σ s (.act (.ask client request)) σ (s.ask client request) .nothing
  | send (client : Nat) {control : Queue Party Message} (going : s.isOver = false)
      (entered : s.control.enter? (.client client) = some control) :
      Change σ s (.act (.enter (.client client))) σ
        { s with control, awaiting := s.awaiting ++ [client] } .nothing
  | report (id : Nat) {control : Queue Party Message} (going : s.isOver = false)
      (entered : s.control.enter? (.watcher id) = some control) :
      Change σ s (.act (.enter (.watcher id))) σ { s with control } .nothing
  | collect (client : Nat) {reply : Reply} (there : List.lookup client s.replies = some reply) :
      Change σ s (.act (.resolve client)) σ (s.handOver client reply) (.result (.ok reply))
  | refuse (client : Nat) (none_there : List.lookup client s.replies = none)
      (ended : s.isOver = true) (pending : s.isPending client = true) :
      Change σ s (.act (.resolve client)) σ (s.abandon client) (.result (.error s.closed))
  | accept (client : Nat) {input : Queue Nat Value}
      (none_there : List.lookup client s.replies = none) (going : s.isOver = false)
      (entered : s.input.enter? client = some input) :
      Change σ s (.act (.resolve client)) σ { s with input } (.result (.ok .done))
  | abandon (client : Nat) : Change σ s (.act (.abandon client)) σ (s.abandon client) .nothing
  | wake {id : Nat} {token : Token} (watched : (id, token) ∈ s.watchers)
      (cancelled : σ.isCancelled token = true) :
      Change σ s (.act (.wake id)) σ
        { s.unwatch id with control := s.control.join (.watcher id) (.unsubscribe id) } .nothing
  | forget {id : Nat} {token : Token} (watched : (id, token) ∈ s.watchers)
      (cancelled : σ.isCancelled token = true) :
      Change σ s (.act (.wake id)) σ (s.unwatch id) .nothing
  | disperse (id : Nat) (ended : s.isOver = true) :
      Change σ s (.act (.disperse id)) σ { s with control := s.control.leave (.watcher id) }
        .nothing
  | suppress {m : Move} {after : Option (Message × Nat)} {v : Value} {rest : List Value}
      (ready : s.Ready m after) (first : s.input.items = v :: rest) (old : s.holds v = true) :
      Change σ s (.act (.owner m)) σ
        { s with
          input := s.input.dequeue rest
          received := s.received + 1
          suppressed := s.suppressed + 1
          activity := resume after } .nothing
  | update {m : Move} {after : Option (Message × Nat)} {v : Value} {rest : List Value}
      (ready : s.Ready m after) (first : s.input.items = v :: rest) (new : s.holds v = false) :
      Change σ s (.act (.owner m)) σ
        { s with
          input := s.input.dequeue rest
          received := s.received + 1
          applied := s.applied + 1
          state := s.state.insert v
          activity := .delivering (s.roster.deliver v) after } .nothing
  | takeRequest {message : Message} {rest : List Message} (idle : s.activity = .idle)
      (first : s.control.items = message :: rest) :
      Change σ s (.act (.owner .takeRequest)) σ
        { s with
          control := s.control.dequeue rest
          activity := .draining message s.config.inputCapacity.toNat } .nothing
  | answer {client : Nat} {request : Request} {reply : Reply}
      (serves : s.Serves (.ask client request)) (is : s.replyTo? request = some reply)
      (awaited : client ∈ s.awaiting) :
      Change σ s (.act (.owner .drain)) σ
        { s with
          activity := .idle
          awaiting := s.awaiting.filter (· != client)
          replies := s.replies ++ [(client, reply)] } .nothing
  | ignore {client : Nat} {request : Request} {reply : Reply}
      (serves : s.Serves (.ask client request)) (is : s.replyTo? request = some reply)
      (unawaited : client ∉ s.awaiting) :
      Change σ s (.act (.owner .drain)) σ { s with activity := .idle } .nothing
  | grant {client : Nat} {filter : ValueFilter} {replay : Bool} {token : Token}
      (serves : s.Serves (.ask client (.subscribe filter replay token)))
      (fits : s.roomFor (s.replayOf filter replay) ≤ queueLimit) (awaited : client ∈ s.awaiting) :
      Change σ s (.act (.owner .drain)) σ
        { s with
          activity := .idle
          roster := s.roster.enroll filter.accepts token (s.replayOf filter replay)
            s.config.subscriberCapacity.toNat
          awaiting := s.awaiting.filter (· != client)
          replies := s.replies ++ [(client, .subscribed s.roster.nextId token)] } .nothing
  | skip {client : Nat} {filter : ValueFilter} {replay : Bool} {token : Token}
      (serves : s.Serves (.ask client (.subscribe filter replay token)))
      (unawaited : client ∉ s.awaiting) :
      Change σ s (.act (.owner .drain)) σ
        { s with activity := .idle, roster := s.roster.skipId } .nothing
  | die {client : Nat} {filter : ValueFilter} {replay : Bool} {token : Token}
      (serves : s.Serves (.ask client (.subscribe filter replay token)))
      (large : queueLimit < s.roomFor (s.replayOf filter replay)) :
      Change σ s (.act (.owner .drain)) σ s.die .nothing
  | strike {id : Nat} (serves : s.Serves (.unsubscribe id)) :
      Change σ s (.act (.owner .drain)) σ
        { s with activity := .idle, roster := s.roster.remove [id] } .nothing
  | finish {d : Delivery Value} {after : Option (Message × Nat)}
      (delivering : s.activity = .delivering d after) (served : d.rest = []) :
      Change σ s (.act (.owner .deliver)) σ
        { s with roster := s.roster.remove d.gone, activity := resume after } .nothing
  | deliver {d d' : Delivery Value} {roster : Roster Value} {after : Option (Message × Nat)}
      (delivering : s.activity = .delivering d after)
      (served : s.roster.serve? σ s.config.overflow d = some (d', roster)) :
      Change σ s (.act (.owner .deliver)) σ { s with roster, activity := .delivering d' after }
        .nothing
  | giveUp {d d' : Delivery Value} {after : Option (Message × Nat)}
      (delivering : s.activity = .delivering d after) (passed : d.giveUp? σ = some d') :
      Change σ s (.act (.owner .giveUp)) σ { s with activity := .delivering d' after } .nothing
  | stop (idle : s.activity = .idle) (done : s.mayStop = true) :
      Change σ s (.act (.owner .stop)) (σ.fireAll (s.roster.subscribers.map Subscriber.token))
        { s with activity := .stopped, roster := s.roster.clear } .nothing
  | read (id : Nat) (token : Token) {v : Value} {roster : Roster Value}
      (live : σ.isCancelled token = false) (item : s.roster.read? id = some (v, roster)) :
      Change σ s (.act (.read id token)) σ { s with roster } (.delivered (.item v))
  | readEnd (id : Nat) (token : Token) :
      Change σ s (.act (.read id token)) σ s (.delivered .ended)
  | close (id : Nat) : Change σ s (.act (.close id)) σ (s.close id) .nothing
  | retain : Change σ s (.act .retain) σ { s with handles := s.handles + 1 } .nothing
  | release : Change σ s (.act .release) σ { s with handles := s.handles - 1 } .nothing

section Inversion

variable {σ σ' : Signals} {s s' : Store} {o : Output}

theorem collect?_eq_some {client : Nat} {reply : Reply} :
    s.collect? client = some (reply, s') ↔
      List.lookup client s.replies = some reply ∧ s' = s.handOver client reply := by
  unfold collect? handOver
  cases List.lookup client s.replies with
  | none => simp
  | some r => cases r <;> simp +contextual [Reply.watched, eq_comm]

theorem change_of_enter {party : Party} (h : s.enter? party = some s') :
    Change σ s (.act (.enter party)) σ s' .nothing := by
  unfold enter? at h
  split at h
  · cases h
  next going =>
    obtain ⟨control, entered, rfl⟩ := Option.map_eq_some_iff.1 h
    cases party with
    | client n => exact .send n (by simpa using going) entered
    | watcher id => exact .report id (by simpa using going) entered

theorem change_of_resolve {client : Nat} {r : Except Error Reply}
    (h : s.resolve? client = some (r, s')) :
    Change σ s (.act (.resolve client)) σ s' (.result r) := by
  unfold resolve? at h
  cases there : s.collect? client with
  | some p =>
    simp only [there, Option.some.injEq, Prod.mk.injEq] at h
    obtain ⟨rfl, rfl⟩ := h
    obtain ⟨there, same⟩ := collect?_eq_some.1 there
    exact same ▸ .collect client there
  | none =>
    have none_there : List.lookup client s.replies = none := by
      simpa [collect?] using there
    simp only [there] at h
    split at h
    next ended =>
      split at h
      next pending =>
        cases h
        exact .refuse client none_there ended pending
      · cases h
    next going =>
      obtain ⟨input, entered, same⟩ := Option.map_eq_some_iff.1 h
      cases same
      exact .accept client none_there (by simpa using going) entered

theorem change_of_wake {id : Nat} (h : s.wake? σ id = some s') :
    Change σ s (.act (.wake id)) σ s' .nothing := by
  unfold wake? at h
  split at h
  · cases h
  next w token found =>
    have watched := List.mem_of_find?_eq_some found
    obtain rfl : w = id := by simpa using List.find?_some found
    split at h
    next cancelled =>
      dsimp only at h
      split at h <;> cases h
      · exact .wake watched cancelled
      · exact .forget watched cancelled
    · cases h

theorem change_of_disperse {id : Nat} (h : s.disperse? id = some s') :
    Change σ s (.act (.disperse id)) σ s' .nothing := by
  unfold disperse? at h
  split at h
  next ended =>
    cases h
    exact .disperse id (by simp_all)
  · cases h

theorem change_of_read {id : Nat} {token : Token} {d : Delivered Value}
    (h : s.read? σ id token = some (d, s')) :
    Change σ s (.act (.read id token)) σ s' (.delivered d) := by
  unfold read? at h
  split at h
  · cases h
    exact .readEnd id token
  next live =>
    split at h
    next v roster item =>
      cases h
      exact .read id token (by simpa using live) item
    · split at h <;> cases h
      exact .readEnd id token

theorem change_of_apply {m : Move} {after : Option (Message × Nat)} {v : Value} {rest : List Value}
    (ready : s.Ready m after) (first : s.input.items = v :: rest) :
    Change σ s (.act (.owner m)) σ ({ s with input := s.input.dequeue rest }.apply v after)
      .nothing := by
  cases h : s.holds v with
  | true =>
    unfold apply
    dsimp only
    rw [show (s.state.find? v.key).any _ = true from h, if_pos rfl]
    exact .suppress ready first h
  | false =>
    unfold apply
    dsimp only
    rw [show (s.state.find? v.key).any _ = false from h, if_neg Bool.false_ne_true]
    exact .update ready first h

theorem subscribe_idle (client : Nat) (filter : ValueFilter) (replay : Bool) (token : Token) :
    { s with activity := .idle }.subscribe client filter replay token =
      if queueLimit < s.roomFor (s.replayOf filter replay) then s.die
      else if s.awaiting.contains client then
        { s with
          activity := .idle
          roster := s.roster.enroll filter.accepts token (s.replayOf filter replay)
            s.config.subscriberCapacity.toNat }.answer client (.subscribed s.roster.nextId token)
      else { s with activity := .idle, roster := s.roster.skipId } :=
  rfl

theorem change_of_serve {message : Message} (serves : s.Serves message) :
    Change σ s (.act (.owner .drain)) σ ({ s with activity := .idle }.serve message) .nothing := by
  cases message with
  | unsubscribe id => exact .strike serves
  | ask client request =>
    cases is : s.replyTo? request with
    | some reply =>
      have served : { s with activity := .idle }.serve (.ask client request) =
          { s with activity := .idle }.answer client reply := by
        cases request <;> cases is <;> rfl
      rw [served, answer]
      split
      next awaited => exact .answer serves is (by simpa using awaited)
      next unawaited => exact .ignore serves is (by simpa using unawaited)
    | none =>
      cases request with
      | snapshot | wait | stats => cases is
      | subscribe filter replay token =>
        change Change σ s _ σ ({ s with activity := .idle }.subscribe client filter replay token) _
        rw [subscribe_idle]
        by_cases large : queueLimit < s.roomFor (s.replayOf filter replay)
        · rw [if_pos large]
          exact .die serves large
        · rw [if_neg large]
          by_cases awaited : client ∈ s.awaiting
          · have contained : s.awaiting.contains client = true := by simpa using awaited
            rw [if_pos contained, answer, if_pos contained]
            exact .grant serves (Nat.le_of_not_lt large) awaited
          · have missing : ¬ s.awaiting.contains client = true := by simpa using awaited
            rw [if_neg missing]
            exact .skip serves awaited

theorem change_of_drain (h : s.drain? = some s') :
    Change σ s (.act (.owner .drain)) σ s' .nothing := by
  unfold drain? at h
  split at h
  next message left draining =>
    cases left with
    | zero =>
      cases h
      exact change_of_serve ⟨0, draining, .inl rfl⟩
    | succ left =>
      cases popped : s.input.pop? with
      | none =>
        rw [popped] at h
        cases h
        refine change_of_serve ⟨left + 1, draining, .inr ?_⟩
        cases items : s.input.items with
        | nil => rfl
        | cons v rest => simp [Queue.pop?, items] at popped
      | some p =>
        obtain ⟨v, input⟩ := p
        rw [popped] at h
        cases h
        obtain ⟨rest, first, rfl⟩ := Queue.pop?_eq_some.1 popped
        exact change_of_apply (.draining draining) first
  · cases h

theorem change_of_deliver (h : s.deliver? σ = some s') :
    Change σ s (.act (.owner .deliver)) σ s' .nothing := by
  unfold deliver? at h
  split at h
  next d after delivering =>
    split at h
    next roster finished =>
      cases h
      obtain ⟨served, rfl⟩ := Roster.remove_of_finish? finished
      exact .finish delivering served
    · obtain ⟨⟨d', roster⟩, served, rfl⟩ := Option.map_eq_some_iff.1 h
      exact .deliver delivering served
  · cases h

theorem change_of_move {m : Move} (h : s.move? σ m = some (σ', s')) :
    Change σ s (.act (.owner m)) σ' s' .nothing := by
  cases m with
  | takeValue =>
    obtain ⟨t, taken, same⟩ := Option.map_eq_some_iff.1 h
    cases same
    unfold takeValue? at taken
    split at taken
    next idle =>
      obtain ⟨⟨v, input⟩, popped, rfl⟩ := Option.map_eq_some_iff.1 taken
      obtain ⟨rest, first, rfl⟩ := Queue.pop?_eq_some.1 popped
      exact change_of_apply (.idle idle) first
    · cases taken
  | takeRequest =>
    obtain ⟨t, taken, same⟩ := Option.map_eq_some_iff.1 h
    cases same
    unfold takeRequest? at taken
    split at taken
    next idle =>
      obtain ⟨⟨message, control⟩, popped, rfl⟩ := Option.map_eq_some_iff.1 taken
      obtain ⟨rest, first, rfl⟩ := Queue.pop?_eq_some.1 popped
      exact .takeRequest idle first
    · cases taken
  | drain =>
    obtain ⟨t, taken, same⟩ := Option.map_eq_some_iff.1 h
    cases same
    exact change_of_drain taken
  | deliver =>
    obtain ⟨t, taken, same⟩ := Option.map_eq_some_iff.1 h
    cases same
    exact change_of_deliver taken
  | giveUp =>
    obtain ⟨t, taken, same⟩ := Option.map_eq_some_iff.1 h
    cases same
    unfold giveUp? at taken
    split at taken
    next d after delivering =>
      obtain ⟨d', passed, rfl⟩ := Option.map_eq_some_iff.1 taken
      exact .giveUp delivering passed
    · cases taken
  | stop =>
    change s.stop? σ = some (σ', s') at h
    unfold stop? at h
    split at h
    next idle =>
      split at h <;> cases h
      next done => exact .stop idle done
    · cases h

/-- Every event goes one of these ways. -/
theorem change_of_effect {e : Event} (h : e.effect? σ s = some (σ', s', o)) :
    Change σ s e σ' s' o := by
  cases e with
  | fire t =>
    cases h
    exact .fire t
  | act a =>
    cases a with
    | fill client v =>
      cases h
      exact .fill client v
    | ask client request =>
      cases h
      exact .ask client request
    | enter party =>
      obtain ⟨t, taken, same⟩ := Option.map_eq_some_iff.1 h
      cases same
      exact change_of_enter taken
    | resolve client =>
      obtain ⟨⟨r, t⟩, taken, same⟩ := Option.map_eq_some_iff.1 h
      cases same
      exact change_of_resolve taken
    | abandon client =>
      cases h
      exact .abandon client
    | wake id =>
      obtain ⟨t, taken, same⟩ := Option.map_eq_some_iff.1 h
      cases same
      exact change_of_wake taken
    | disperse id =>
      obtain ⟨t, taken, same⟩ := Option.map_eq_some_iff.1 h
      cases same
      exact change_of_disperse taken
    | owner m =>
      obtain ⟨⟨_, t⟩, taken, same⟩ := Option.map_eq_some_iff.1 h
      cases same
      exact change_of_move taken
    | read id token =>
      obtain ⟨⟨d, t⟩, taken, same⟩ := Option.map_eq_some_iff.1 h
      cases same
      exact change_of_read taken
    | close id =>
      cases h
      exact .close id
    | retain =>
      cases h
      exact .retain
    | release =>
      cases h
      exact .release

end Inversion

/-- What holds after a step of a run still holds at its end if all later steps keep it. -/
theorem Run.since {config : StoreConfig} {before later : Trace} {st : Step} {σ : Signals}
    {s : Store} {P : Trace → Signals → Store → Prop} (run : Run config (before ++ st :: later) σ s)
    (first : ∀ σ, Run config before st.signals st.store →
      Change st.signals st.store st.event σ st.next st.output → P [] σ st.next)
    (next : ∀ later σ σ' s s' e o, Run config (before ++ st :: later) σ s →
      Change σ s e σ' s' o → P later σ s → P (later ++ [⟨σ, s, e, o, s'⟩]) σ' s') :
    P later σ s := by
  induction later using List.reverseRecOn generalizing σ s with
  | nil =>
    obtain ⟨earlier, -, happened, rfl⟩ := run.last
    exact first σ earlier (change_of_effect happened)
  | append_singleton later last ih =>
    rw [← List.cons_append, ← List.append_assoc] at run
    obtain ⟨earlier, -, happened, rfl⟩ := run.last
    exact next later _ _ _ _ _ _ earlier (change_of_effect happened) (ih earlier)

end Store

end Telemetry
