import Telemetry.Proofs.Config
import Telemetry.Proofs.Store.Subscription

/-!
# What holds a store up

Clients stand in line for the input queue, clients and those who wait for the end of a subscription
for the queue of requests, and the owner may have to wait for a reader. Nobody else waits for
anybody: if nothing goes on although something is under way, then the owner delivers an update to a
subscriber that goes on, wants it, and has not read enough to have room for it. The owner goes on as
soon as that reader reads or leaves, or a signal above the subscription is fired.

## Main definitions

* `Action.isDue`, `Stalled`: nobody can go on who has begun something.
* `HasWork`: something is under way.
* `Obstructs`: the owner waits for one reader.

## Main results

* `Run.stalls_behind_reader`: whoever holds a store up is a live reader with a full queue.
-/

namespace Telemetry.Store

/-- Steps in which somebody goes on with what is under way. Others begin something or break it off,
or are steps of a reader. -/
def Action.isDue : Action → Bool
  | .enter _ | .resolve _ | .wake _ | .disperse _ | .owner _ => true
  | _ => false

/-- Nobody can go on. -/
def Stalled (σ : Signals) (s : Store) : Prop :=
  ∀ a : Action, a.isDue = true → s.act? σ a = none

/-- Something is under way. -/
inductive HasWork (σ : Signals) (s : Store) : Prop
  | fills (line : s.input.waiting ≠ [])
  | values (queued : s.input.items ≠ [])
  | requests (line : s.control.waiting ≠ [])
  | messages (queued : s.control.items ≠ [])
  | answers (awaited : s.awaiting ≠ [])
  | replies (given : s.replies ≠ [])
  | ends {id : Nat} {token : Token} (watched : (id, token) ∈ s.watchers)
      (cancelled : σ.isCancelled token = true)
  | owed {message : Message} {left : Nat} (draining : s.activity = .draining message left)
  | update {d : Delivery Value} {after : Option (Message × Nat)}
      (delivering : s.activity = .delivering d after)

/-- The owner waits until a subscriber has room for an update. The subscription is not cancelled,
its reader is there, and the update is for it. -/
structure Obstructs (σ : Signals) (s : Store) (sub : Subscriber Value) : Prop where
  waits : ∃ d after rest, s.activity = .delivering d after ∧ d.rest = sub :: rest ∧
    d.blocked = true ∧ sub.accepts d.item = true
  live : σ.isCancelled sub.token = false
  reader : s.roster.isClosed sub.id = false
  full : s.roster.hasRoom sub.id = false

/-! ## What is kept -/

section Steps

variable {σ σ' : Signals} {s s' : Store} {e : Event} {o : Output}

theorem Change.control_capacity (h : Change σ s e σ' s' o) :
    s'.control.capacity = s.control.capacity := by
  cases h with
  | send c going entered | report c going entered =>
    obtain ⟨m, entry⟩ := Queue.entry_of_enter? entered
    exact entry.capacity
  | _ => rfl

/-- When the owner is gone, nothing is queued. -/
theorem Change.nothing_queued (h : Change σ s e σ' s' o)
    (nothing : s.isOver = true → s.input.items = [] ∧ s.control.items = [])
    (ended : s'.isOver = true) : s'.input.items = [] ∧ s'.control.items = [] := by
  cases h with
  | die => exact ⟨rfl, rfl⟩
  | stop idle done =>
    simp only [mayStop, Bool.and_eq_true, List.isEmpty_iff] at done
    exact ⟨done.1.1.1.2, done.1.2⟩
  | @suppress _ after | @finish _ after => cases after <;> cases ended
  | update | takeRequest | answer | ignore | grant | skip | strike | deliver | giveUp => cases ended
  | send _ going | report _ going | accept _ _ going =>
    exact absurd (going.symm.trans ended) Bool.false_ne_true
  | _ => exact nothing ended

/-- Whoever awaits an answer has a request on its way. -/
theorem Change.awaited (h : Change σ s e σ' s' o) {tr : Trace}
    (phases : ∀ c, Phase c tr (s.view c))
    (awaited : s.isOver = false → ∀ c ∈ s.awaiting, ∃ request, .ask c request ∈ s.inFlight)
    (going : s'.isOver = false) :
    ∀ c ∈ s'.awaiting, ∃ request, .ask c request ∈ s'.inFlight := by
  intro c awaits
  cases h with
  | send n open' entered =>
    obtain ⟨m, entry⟩ := Queue.entry_of_enter? entered
    obtain ⟨request, rfl, -⟩ := (phases n).of_asking entry.waits
    have sent : s.inFlight ++ [.ask n request] =
        { s with control := _, awaiting := s.awaiting ++ [n] }.inFlight :=
      (List.append_assoc ..).trans (congrArg _ entry.items.symm)
    rw [← sent]
    rcases List.mem_append.1 awaits with before | now
    · obtain ⟨request, old⟩ := awaited going c before
      exact ⟨request, List.mem_append_left _ old⟩
    · obtain rfl := List.mem_singleton.1 now
      exact ⟨request, by simp⟩
  | report id open' entered =>
    obtain ⟨m, entry⟩ := Queue.entry_of_enter? entered
    obtain ⟨request, old⟩ := awaited going c awaits
    refine ⟨request, ?_⟩
    rw [Store.inFlight, entry.items, ← List.append_assoc]
    exact List.mem_append_left _ old
  | suppress ready | update ready =>
    obtain ⟨request, old⟩ := awaited (isOver_eq_false_of_ready ready) c awaits
    exact ⟨request, by simpa [Store.inFlight, owed_of_ready ready] using old⟩
  | takeRequest idle first =>
    obtain ⟨request, old⟩ := awaited (by simp [isOver, idle]) c awaits
    rw [inFlight_of_idle idle, first] at old
    exact ⟨request, old⟩
  | answer serves | grant serves =>
    obtain ⟨before, other⟩ := List.mem_filter.1 awaits
    obtain ⟨request, old⟩ := awaited (isOver_eq_false_of_serves serves) c before
    rw [inFlight_of_serves serves] at old
    rcases List.mem_cons.1 old with served | later
    · cases served
      simp at other
    · exact ⟨request, later⟩
  | ignore serves _ unawaited | skip serves unawaited =>
    obtain ⟨request, old⟩ := awaited (isOver_eq_false_of_serves serves) c awaits
    rw [inFlight_of_serves serves] at old
    rcases List.mem_cons.1 old with served | later
    · cases served
      exact absurd awaits unawaited
    · exact ⟨request, later⟩
  | strike serves =>
    obtain ⟨request, old⟩ := awaited (isOver_eq_false_of_serves serves) c awaits
    rw [inFlight_of_serves serves] at old
    exact ⟨request, List.mem_of_ne_of_mem (by simp) old⟩
  | finish delivering | deliver delivering | giveUp delivering =>
    obtain ⟨request, old⟩ := awaited (by simp [isOver, delivering]) c awaits
    exact ⟨request, by simpa [Store.inFlight, delivering] using old⟩
  | die | stop => cases going
  | refuse | abandon => exact awaited going c (List.mem_of_mem_filter awaits)
  | _ => exact awaited going c awaits

end Steps

section Runs

variable {config : StoreConfig} {tr : Trace} {σ : Signals} {s : Store}

theorem Run.control_capacity (run : Run config tr σ s) : s.control.capacity = controlCapacity := by
  induction run with
  | start σ made => rw [ofConfig?_eq_some made]
  | step run e permitted happened ih => exact (change_of_effect happened).control_capacity.trans ih

theorem Run.nothing_queued (run : Run config tr σ s) :
    s.isOver = true → s.input.items = [] ∧ s.control.items = [] := by
  induction run with
  | start σ made =>
    rw [ofConfig?_eq_some made]
    intro ended
    cases ended
  | step run e permitted happened ih => exact (change_of_effect happened).nothing_queued ih

theorem Run.awaited (run : Run config tr σ s) :
    s.isOver = false → ∀ c ∈ s.awaiting, ∃ request, .ask c request ∈ s.inFlight := by
  induction run with
  | start σ made =>
    rw [ofConfig?_eq_some made]
    intro _ c awaits
    cases awaits
  | step run e permitted happened ih =>
    exact (change_of_effect happened).awaited run.coherent.phases ih

/-- Whoever is watched was granted a subscription. -/
theorem Run.granted_of_watches (run : Run config tr σ s) {id : Nat} {token : Token}
    (watches : s.Watches id token) :
    ∃ p ∈ Desk.grants tr.history, p.1.id = id ∧ p.1.token = token := by
  induction run with
  | start σ made =>
    rw [ofConfig?_eq_some made] at watches
    rcases watches with watched | ⟨client, given⟩
    · cases watched
    · cases given
  | @step tr σ σ' s s' o run e permitted happened ih =>
    have change := change_of_effect happened
    rw [Trace.history, List.map_append, List.map_singleton, Desk.grants_snoc]
    rcases change.watches watches with before | ⟨rfl, next, accepts, more⟩
    · obtain ⟨p, granted, same⟩ := ih before
      exact ⟨p, List.mem_append_left _ granted, same⟩
    · obtain ⟨g, one, same⟩ :=
        (change.desk run.watching).granted_of_join (Desk.published tr.history).length more
      refine ⟨(g, _), List.mem_append_right _ (one ▸ List.mem_singleton.2 rfl), ?_⟩
      exact ⟨congrArg Subscriber.id same, congrArg Subscriber.token same⟩

end Runs

/-! ## Who can go on -/

section Stalling

variable {config : StoreConfig} {tr : Trace} {σ : Signals} {s : Store} {client id : Nat}

theorem resolve?_eq_none : s.resolve? client = none ↔
    List.lookup client s.replies = none ∧
      (s.isOver = true → s.isPending client = false) ∧
      (s.isOver = false → s.input.enter? client = none) := by
  cases there : List.lookup client s.replies with
  | some reply =>
    have collected := collect?_eq_some.2 ⟨there, rfl⟩
    simp [resolve?, collected]
  | none =>
    have nothing : s.collect? client = none := by simp [collect?, there]
    cases ended : s.isOver <;> simp [resolve?, nothing, ended]

namespace Stalled

theorem resolve? (stalled : Stalled σ s) (client : Nat) : s.resolve? client = none :=
  Option.map_eq_none_iff.1 (stalled (.resolve client) rfl)

theorem enter? (stalled : Stalled σ s) (going : s.isOver = false) (party : Party) :
    s.control.enter? party = none := by
  have entered : s.enter? party = none := Option.map_eq_none_iff.1 (stalled (.enter party) rfl)
  rw [Store.enter?, if_neg (by simp [going])] at entered
  exact Option.map_eq_none_iff.1 entered

theorem move? (stalled : Stalled σ s) (m : Move) : s.move? σ m = none :=
  Option.map_eq_none_iff.1 (stalled (.owner m) rfl)

theorem replies_eq_nil (stalled : Stalled σ s) : s.replies = [] := by
  cases given : s.replies with
  | nil => rfl
  | cons p rest =>
    have none_there := (resolve?_eq_none.1 (stalled.resolve? p.1)).1
    simp [given] at none_there

/-- As long as the owner is there, nobody stands in line where there is room. -/
theorem input_line (stalled : Stalled σ s) (going : s.isOver = false)
    (room : s.input.items.length < s.input.capacity) : s.input.waiting = [] :=
  Queue.waiting_eq_nil room fun c => (resolve?_eq_none.1 (stalled.resolve? c)).2.2 going

theorem control_line (stalled : Stalled σ s) (going : s.isOver = false)
    (room : s.control.items.length < s.control.capacity) : s.control.waiting = [] :=
  Queue.waiting_eq_nil room (stalled.enter? going)

/-- Once the owner is gone, nobody waits. -/
theorem lines_of_over (stalled : Stalled σ s) (ended : s.isOver = true) :
    s.input.waiting = [] ∧ s.control.waiting = [] ∧ s.awaiting = [] := by
  have nobody (c : Nat) : (s.input.waits c = false ∧ s.control.waits (.client c) = false) ∧
      c ∉ s.awaiting := by
    simpa [isPending] using (resolve?_eq_none.1 (stalled.resolve? c)).2.1 ended
  refine ⟨?_, ?_, List.eq_nil_iff_forall_not_mem.2 fun c => (nobody c).2⟩
  · refine List.eq_nil_iff_forall_not_mem.2 fun p member => ?_
    have absent := (nobody p.1).1.1
    grind [Queue.waits]
  · refine List.eq_nil_iff_forall_not_mem.2 fun p member => ?_
    obtain ⟨party, m⟩ := p
    cases party with
    | client c =>
      have absent := (nobody c).1.2
      grind [Queue.waits]
    | watcher id =>
      have stays : s.disperse? id = none :=
        Option.map_eq_none_iff.1 (stalled (.disperse id) rfl)
      grind [disperse?, Queue.waits]

theorem queues_of_idle (stalled : Stalled σ s) (idle : s.activity = .idle) :
    s.input.items = [] ∧ s.control.items = [] := by
  have values : s.takeValue? = none := Option.map_eq_none_iff.1 (stalled.move? .takeValue)
  have requests : s.takeRequest? = none := Option.map_eq_none_iff.1 (stalled.move? .takeRequest)
  rw [takeValue?, idle] at values
  rw [takeRequest?, idle] at requests
  exact ⟨Queue.pop?_eq_none.1 (Option.map_eq_none_iff.1 values),
    Queue.pop?_eq_none.1 (Option.map_eq_none_iff.1 requests)⟩

theorem not_draining (stalled : Stalled σ s) (message : Message) (left : Nat) :
    s.activity ≠ .draining message left := by
  intro draining
  have stuck : s.drain? = none := Option.map_eq_none_iff.1 (stalled.move? .drain)
  rw [drain?, draining] at stuck
  dsimp only at stuck
  split at stuck <;> cases stuck

/-- A delivery that does not go on is blocked by a live subscriber with a full queue. -/
theorem of_delivering (stalled : Stalled σ s) {d : Delivery Value} {after : Option (Message × Nat)}
    (delivering : s.activity = .delivering d after) :
    ∃ sub rest, d.rest = sub :: rest ∧ d.blocked = true ∧ σ.isCancelled sub.token = false ∧
      s.roster.isClosed sub.id = false ∧ s.roster.hasRoom sub.id = false := by
  have delivers : s.deliver? σ = none := Option.map_eq_none_iff.1 (stalled.move? .deliver)
  have gives_up : s.giveUp? σ = none := Option.map_eq_none_iff.1 (stalled.move? .giveUp)
  rw [deliver?, delivering] at delivers
  rw [giveUp?, delivering] at gives_up
  dsimp only at delivers gives_up
  cases first : d.rest with
  | nil => simp [Roster.finish?, first] at delivers
  | cons sub rest =>
    simp only [Roster.finish?, first, List.isEmpty_cons, Bool.false_eq_true, if_false,
      Option.map_eq_none_iff, Roster.serve?_eq_none first] at delivers
    obtain ⟨blocked, opened, full⟩ := delivers
    have live := (Roster.giveUp?_eq_none first blocked).1 (Option.map_eq_none_iff.1 gives_up)
    exact ⟨sub, rest, rfl, blocked, live, opened, full⟩

end Stalled

/-- Nobody waits for the end of a subscription that is cancelled. -/
theorem Run.watched_live (run : Run config tr σ s) (stalled : Stalled σ s) {token : Token}
    (watched : (id, token) ∈ s.watchers) : σ.isCancelled token = false := by
  have sleeps : s.wake? σ id = none := Option.map_eq_none_iff.1 (stalled (.wake id) rfl)
  cases found : s.watchers.find? fun w => w.1 == id with
  | none => grind
  | some w =>
    obtain ⟨id', token'⟩ := w
    obtain rfl : id' = id := by simpa using List.find?_some found
    -- Whoever is found has the token of the grant with this number, and there is one such grant.
    obtain ⟨p, granted, rfl, rfl⟩ := run.granted_of_watches (.inl watched)
    obtain ⟨q, granted', same, rfl⟩ :=
      run.granted_of_watches (.inl (List.mem_of_find?_eq_some found))
    rw [run.desk.registered.grant_eq granted' granted same] at found
    grind [wake?]

/-- What is under way is the delivery of an update if nobody stands in line and nothing is
queued. -/
theorem HasWork.delivering (work : HasWork σ s) (input : s.input.waiting = [] ∧ s.input.items = [])
    (control : s.control.waiting = [] ∧ s.control.items = [])
    (clients : s.awaiting = [] ∧ s.replies = [])
    (live : ∀ id token, (id, token) ∈ s.watchers → σ.isCancelled token = false)
    (undrained : ∀ message left, s.activity ≠ .draining message left) :
    ∃ d after, s.activity = .delivering d after := by
  cases work with
  | fills line => exact absurd input.1 line
  | values queued => exact absurd input.2 queued
  | requests line => exact absurd control.1 line
  | messages queued => exact absurd control.2 queued
  | answers awaited => exact absurd clients.1 awaited
  | replies given => exact absurd clients.2 given
  | ends watched cancelled =>
    exact absurd ((live _ _ watched).symm.trans cancelled) Bool.false_ne_true
  | owed draining => exact absurd draining (undrained _ _)
  | update delivering => exact ⟨_, _, delivering⟩

/-- Idle, the owner leaves nobody in line who could not go on. -/
theorem Run.lines_of_idle (run : Run config tr σ s) (valid : config.validate = .ok ())
    (stalled : Stalled σ s) (idle : s.activity = .idle) :
    s.input.waiting = [] ∧ s.control.waiting = [] := by
  obtain ⟨values, messages⟩ := stalled.queues_of_idle idle
  have going : s.isOver = false := by simp [isOver, idle]
  constructor
  · apply stalled.input_line going
    rw [values, run.input_capacity]
    exact (StoreConfig.validate_eq_ok.1 valid).1
  · apply stalled.control_line going
    rw [messages, run.control_capacity]
    decide

theorem Run.delivering_of_stalled (run : Run config tr σ s) (valid : config.validate = .ok ())
    (stalled : Stalled σ s) (work : HasWork σ s) :
    ∃ d after, s.activity = .delivering d after := by
  have live (id : Nat) (token : Token) (watched : (id, token) ∈ s.watchers) :
      σ.isCancelled token = false := run.watched_live stalled watched
  cases ended : s.isOver with
  | true =>
    obtain ⟨values, messages⟩ := run.nothing_queued ended
    obtain ⟨fills, requests, answers⟩ := stalled.lines_of_over ended
    exact work.delivering ⟨fills, values⟩ ⟨requests, messages⟩ ⟨answers, stalled.replies_eq_nil⟩
      live stalled.not_draining
  | false =>
    cases activity : s.activity with
    | delivering d after => exact ⟨d, after, rfl⟩
    | draining message left => exact absurd activity (stalled.not_draining message left)
    | stopped | dead => simp [isOver, activity] at ended
    | idle =>
      obtain ⟨values, messages⟩ := stalled.queues_of_idle activity
      obtain ⟨fills, requests⟩ := run.lines_of_idle valid stalled activity
      have answers : s.awaiting = [] := by
        refine List.eq_nil_iff_forall_not_mem.2 fun c awaits => ?_
        obtain ⟨request, sent⟩ := run.awaited ended c awaits
        rw [inFlight_of_idle activity, messages] at sent
        cases sent
      exact activity ▸ work.delivering ⟨fills, values⟩ ⟨requests, messages⟩
        ⟨answers, stalled.replies_eq_nil⟩ live stalled.not_draining

/-! ## What lets the owner go on -/

namespace Obstructs

variable {sub : Subscriber Value}

/-- The owner goes on when the reader is gone, or there is room. -/
theorem delivers (obstructs : Obstructs σ s sub) {roster : Roster Value}
    (free : roster.isClosed sub.id = true ∨ roster.hasRoom sub.id = true) :
    ({ s with roster }.act? σ (.owner .deliver)).isSome = true := by
  obtain ⟨d, after, rest, delivering, first, -⟩ := obstructs.waits
  have served : roster.serve? σ s.config.overflow d ≠ none := by
    rw [ne_eq, Roster.serve?_eq_none first]
    rintro ⟨-, opened, full⟩
    simp [opened, full] at free
  obtain ⟨⟨d', roster'⟩, served⟩ := Option.ne_none_iff_exists'.1 served
  simp [act?, Store.move?, deliver?, delivering, Roster.finish?, first, served]

theorem delivers_of_read (obstructs : Obstructs σ s sub) (fits : s.roster.Fits) {v : Value}
    {b : Outbox Value} {rest : List Value} (there : s.roster.outbox? sub.id = some b)
    (items : b.items = v :: rest) :
    ∃ s', s.act? σ (.read sub.id sub.token) = some (σ, s', .delivered (.item v)) ∧
      (s'.act? σ (.owner .deliver)).isSome = true := by
  obtain ⟨roster, item⟩ := Roster.exists_read? there items
  refine ⟨{ s with roster }, ?_, obstructs.delivers (.inr (Roster.hasRoom_read item fits))⟩
  simp [act?, Store.read?, obstructs.live, item]

theorem gives_up (obstructs : Obstructs σ s sub) {t : Token} (signal : t.lineage ≠ [])
    (above : t.lineage.IsSuffix sub.token.lineage) :
    (s.act? (σ.fire t) (.owner .giveUp)).isSome = true := by
  obtain ⟨d, after, rest, delivering, first, blocked, -⟩ := obstructs.waits
  simp [act?, Store.move?, Store.giveUp?, Delivery.giveUp?, delivering, first, blocked,
    σ.isCancelled_fire signal above]

end Obstructs

/-- A store that does not go on although something is under way has the blocking policy, and the
owner waits for one subscriber that is not cancelled, whose reader is there, that wants the update,
and whose queue is full: it holds as many items as were replayed and may be added. The owner can go
on as soon as one of them is read, the reader leaves, or the signal of the subscription or one above
it is fired. -/
theorem Run.stalls_behind_reader (run : Run config tr σ s) (valid : config.validate = .ok ())
    (stalled : Stalled σ s) (work : HasWork σ s) :
    config.overflow = .block ∧ ∃ sub, Obstructs σ s sub ∧
      (∃ (before : Trace) (st : Step) (later : Trace) (client : Nat) (filter : ValueFilter)
        (replay : Bool), tr = before ++ st :: later ∧
        st.Answers client (.subscribe filter replay sub.token) (.subscribed sub.id sub.token) ∧
        sub.accepts = filter.accepts ∧
        (s.roster.queued sub.id).length =
          (st.store.replayOf filter replay).length + config.subscriberCapacity.toNat) ∧
      (∃ v s', s.act? σ (.read sub.id sub.token) = some (σ, s', .delivered (.item v)) ∧
        (s'.act? σ (.owner .deliver)).isSome = true) ∧
      (∃ s', s.act? σ (.close sub.id) = some (σ, s', .nothing) ∧
        (s'.act? σ (.owner .deliver)).isSome = true) ∧
      ∀ t : Token, t.lineage ≠ [] → t.lineage.IsSuffix sub.token.lineage →
        (s.act? (σ.fire t) (.owner .giveUp)).isSome = true := by
  obtain ⟨d, after, delivering⟩ := run.delivering_of_stalled valid stalled work
  obtain ⟨sub, rest, first, blocked, live, opened, full⟩ := stalled.of_delivering delivering
  have reg := run.desk.registered
  have under_way : s.desk.delivery = some d := by rw [desk_of_delivering delivering]
  have obstructs : Obstructs σ s sub := {
    waits := ⟨d, after, rest, delivering, first, blocked, reg.wanted _ _ _ under_way first blocked⟩
    live := live
    reader := opened
    full := full }
  have on := reg.mem_of_rest under_way (first ▸ List.mem_cons_self : sub ∈ d.rest)
  obtain ⟨p, granted, rfl, b, there, length⟩ := reg.full on full
  obtain ⟨before, st, later, client, filter, replay, rfl, answers, same, -⟩ :=
    run.answered_of_granted granted
  obtain ⟨_, earlier, -⟩ := run.at_step
  rw [congrArg Grant.capacity same, earlier.capacity_grantOf] at length
  have policy := run.desk.policy under_way blocked
  refine ⟨policy, p.1.subscriber, obstructs, ?_, ?_, ?_, ?_⟩
  · refine ⟨before, st, later, client, filter, replay, rfl, answers, ?_, ?_⟩
    · rw [same]
      rfl
    · rw [show s.roster.queued _ = b.items from Roster.queued_of_outbox? there, length]
  · cases items : b.items with
    | nil =>
      have room := (StoreConfig.validate_eq_ok.1 valid).2
      rw [items, List.length_nil] at length
      omega
    | cons v rest => exact ⟨v, obstructs.delivers_of_read reg.fits there items⟩
  · exact ⟨_, rfl, obstructs.delivers (.inl (Roster.isClosed_close there))⟩
  · intro t signal above
    exact obstructs.gives_up signal above

/-- Nobody stands in line, nothing was given, nobody ends, and the owner has no step. -/
def isStuck (σ : Signals) (s : Store) : Bool :=
  !s.isOver && s.input.waiting.isEmpty && s.control.waiting.isEmpty && s.replies.isEmpty &&
    (s.watchers.all fun w => !σ.isCancelled w.2) && preference.all fun m => (s.move? σ m).isNone

theorem stalled_of_isStuck (stuck : isStuck σ s = true) : Stalled σ s := by
  simp only [isStuck, Bool.and_eq_true, Bool.not_eq_true', List.isEmpty_iff, List.all_eq_true,
    Option.isNone_iff_eq_none] at stuck
  obtain ⟨⟨⟨⟨⟨going, input⟩, control⟩, replies⟩, live⟩, moves⟩ := stuck
  intro a due
  cases a with
  | enter party => simp [act?, Store.enter?, Queue.enter?, Queue.admitted, control]
  | resolve client =>
    have stuck : s.resolve? client = none := by
      rw [resolve?_eq_none]
      simp [replies, going, Queue.enter?, Queue.admitted, input]
    simp [act?, stuck]
  | wake id =>
    have sleeps : s.wake? σ id = none := by
      unfold wake?
      split
      · rfl
      next w token found =>
        rw [if_neg]
        simpa using live _ (List.mem_of_find?_eq_some found)
    simp [act?, sleeps]
  | disperse id => simp [act?, disperse?, going]
  | owner m =>
    have none_left : s.move? σ m = none := moves m (by cases m <;> simp [preference])
    simp [act?, none_left]
  | _ => cases due

/-- Somebody subscribes and reads nothing while two values are filled, and somebody else asks for an
answer. -/
def fillUnread (v w : Value) : List Event :=
  .act (.ask 0 (.subscribe .all true ⟨[0]⟩)) :: granting ++ .act (.resolve 0) :: delivering v ++
    applying w ++ [.act (.ask 2 .wait), .act (.enter (.client 2))]

theorem reader_stalls_wait :
    ∃ tr σ s, Run { subscriberCapacity := 1 } tr σ s ∧ Stalled σ s ∧ HasWork σ s ∧
      ∃ sub, Obstructs σ s sub := by
  let config : StoreConfig := { subscriberCapacity := 1 }
  have ends : (play? (fillUnread (serial "A1") (serial "A2")) (fresh config)).map (fun now =>
      (isStuck now.2.1 now.2.2, now.2.2.awaiting)) = some (true, [2]) := by decide +kernel
  obtain ⟨⟨tr, σ, s⟩, played, ends⟩ := Option.map_eq_some_iff.1 ends
  obtain ⟨stuck, awaiting⟩ : isStuck σ s = true ∧ s.awaiting = [2] := Prod.mk.inj ends
  have run : Run config tr σ s := .of_play? (by decide) played
  have stalled : Stalled σ s := stalled_of_isStuck stuck
  have work : HasWork σ s := .answers (by simp [awaiting])
  obtain ⟨-, sub, obstructs, -⟩ := run.stalls_behind_reader rfl stalled work
  exact ⟨tr, σ, s, run, stalled, work, sub, obstructs⟩

end Stalling

end Telemetry.Store
