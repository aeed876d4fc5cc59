import Telemetry.Proofs.Store.Listing

/-!
# Clients that give up

A client may give up whatever it has under way, at any moment. A value that still stands in line is
gone, and the line closes up. A request that still stands in line is gone as well; one that is on
its way is served for nobody, and nothing comes of that but a number that nobody has. An answer that
was not taken is lost, and if it was a subscription, then nobody reads its queue: the owner never
waits for room in it, puts nothing into it and loses nothing at it, and the next update strikes the
subscriber off.

## Main definitions

* `Forgets`: a store holds nothing for a client but what is on its way.
* `Passes`: a request is served that nobody waits for.
* `Spares`: state, counters and queues stay as they are.

## Main results

* `Run.leaves_no_trace`: what a client gives up leaves no trace.
-/

namespace Telemetry.Store

open scoped List

/-- No request of a client is in line, none is awaited, and no answer is there. -/
structure Forgets (s : Store) (client : Nat) : Prop where
  asking : ∀ m, (.client client, m) ∉ s.control.waiting
  awaiting : client ∉ s.awaiting
  replies : ∀ reply, (client, reply) ∉ s.replies

/-- What a store becomes when a request is served that nobody waits for. A subscription uses up a
number, unless the owner breaks down because its queue would be too large. -/
inductive Passes (s : Store) : Request → Store → Prop
  | ignore {request : Request} {reply : Reply} (is : s.replyTo? request = some reply) :
      Passes s request { s with activity := .idle }
  | skip (filter : ValueFilter) (replay : Bool) (token : Token) :
      Passes s (.subscribe filter replay token)
        { s with activity := .idle, roster := s.roster.skipId }
  | die {filter : ValueFilter} {replay : Bool} (token : Token)
      (large : queueLimit < s.roomFor (s.replayOf filter replay)) :
      Passes s (.subscribe filter replay token) s.die

/-- State and counters stay, and so do the queues of all subscribers, except for some. -/
structure Spares (but : Nat → Prop) (s s' : Store) : Prop where
  state : s'.state = s.state
  received : s'.received = s.received
  applied : s'.applied = s.applied
  suppressed : s'.suppressed = s.suppressed
  dropped : s'.roster.dropped = s.roster.dropped
  queued : ∀ id, ¬ but id → s'.roster.queued id = s.roster.queued id
  closed : ∀ id, ¬ but id → s'.roster.isClosed id = s.roster.isClosed id

/-- A client asks nothing. -/
def Trace.Unasked (client : Nat) (tr : Trace) : Prop :=
  ∀ st ∈ tr, ∀ request, st.event ≠ .act (.ask client request)

section Steps

variable {σ σ' : Signals} {s s' : Store} {e : Event} {o : Output} {client id : Nat}
  {request : Request}

theorem Change.eq_abandon (h : Change σ s (.act (.abandon client)) σ' s' o) :
    s' = s.abandon client := by
  cases h
  rfl

theorem forgets_abandon (s : Store) (client : Nat) : (s.abandon client).Forgets client := by
  constructor <;> simp [Store.abandon, Queue.leave]

/-- Nothing is held for a client until it asks again. -/
theorem Change.forgets (h : Change σ s e σ' s' o) (forgets : s.Forgets client)
    (unasked : ∀ request, e ≠ .act (.ask client request)) : s'.Forgets client := by
  obtain ⟨asking, awaiting, replies⟩ := forgets
  cases h with
  | ask c request =>
    refine ⟨fun m waits => ?_, awaiting, replies⟩
    rcases List.mem_append.1 waits with before | last
    · exact asking m before
    · cases List.mem_singleton.1 last
      exact unasked request rfl
  | send c going entered =>
    obtain ⟨m, entry⟩ := Queue.entry_of_enter? entered
    refine ⟨fun m' waits => ?_, fun awaits => ?_, replies⟩
    · rw [entry.waiting] at waits
      exact asking m' (List.mem_of_mem_filter waits)
    · rcases List.mem_append.1 awaits with before | last
      · exact awaiting before
      · obtain rfl := List.mem_singleton.1 last
        exact asking m entry.waits
  | report id going entered =>
    obtain ⟨m, entry⟩ := Queue.entry_of_enter? entered
    refine ⟨fun m' waits => ?_, awaiting, replies⟩
    rw [entry.waiting] at waits
    exact asking m' (List.mem_of_mem_filter waits)
  | collect c there =>
    exact ⟨asking, awaiting, fun r given => replies r (List.mem_of_mem_filter given)⟩
  | refuse c | abandon c =>
    exact ⟨fun m waits => asking m (List.mem_of_mem_filter waits),
      fun awaits => awaiting (List.mem_of_mem_filter awaits),
      fun r given => replies r (List.mem_of_mem_filter given)⟩
  | wake =>
    refine ⟨fun m waits => ?_, awaiting, replies⟩
    rcases List.mem_append.1 waits with before | last
    · exact asking m before
    · cases List.mem_singleton.1 last
  | disperse => exact ⟨fun m waits => asking m (List.mem_of_mem_filter waits), awaiting, replies⟩
  | answer serves is awaited | grant serves fits awaited =>
    refine ⟨asking, fun awaits => awaiting (List.mem_of_mem_filter awaits), fun r given => ?_⟩
    rcases List.mem_append.1 given with before | last
    · exact replies r before
    · cases List.mem_singleton.1 last
      exact awaiting awaited
  | _ => exact ⟨asking, awaiting, replies⟩

/-- A request that nobody waits for is served for nobody. -/
theorem Change.passes (h : Change σ s (.act (.owner .drain)) σ' s' o)
    (serves : s.Serves (.ask client request)) (unawaited : client ∉ s.awaiting) :
    s.Passes request s' := by
  cases h with
  | suppress ready first | update ready first =>
    exact absurd serves (not_serves_of_ready ready first _)
  | answer serves' is awaited | grant serves' fits awaited =>
    cases serves_unique serves serves'
    exact absurd awaited unawaited
  | ignore serves' is =>
    cases serves_unique serves serves'
    exact .ignore is
  | skip serves' =>
    cases serves_unique serves serves'
    exact .skip _ _ _
  | die serves' large =>
    cases serves_unique serves serves'
    exact .die _ large
  | strike serves' => cases serves_unique serves serves'

theorem Passes.spares (passes : s.Passes request s') : s.Spares (fun _ => False) s' := by
  cases passes with
  | ignore => constructor <;> simp
  | skip => constructor <;> simp [Roster.skipId, Roster.queued, Roster.isClosed, Roster.outbox?]
  | die =>
    constructor <;> try rfl
    · exact fun id _ => Roster.queued_clear _ id
    · exact fun id _ => Roster.isClosed_clear _ id

/-- A client that gives up a subscription leaves the queues of all others as they are. -/
theorem spares_abandon (s : Store) (client : Nat) :
    s.Spares (s.Abandons (.act (.abandon client))) (s.abandon client) := by
  have roster : (s.abandon client).roster = s.roster ∨
      ∃ id, s.Abandons (.act (.abandon client)) id ∧
        (s.abandon client).roster = s.roster.close id := by
    unfold Store.abandon
    dsimp only
    split
    next id token there => exact .inr ⟨id, ⟨client, token, rfl, there⟩, rfl⟩
    · exact .inl rfl
  refine ⟨rfl, rfl, rfl, rfl, ?_, fun id kept => ?_, fun id kept => ?_⟩
  · rcases roster with same | ⟨_, -, closed⟩
    · rw [same]
    · rw [closed]
      rfl
  · rcases roster with same | ⟨given, gives_up, closed⟩
    · rw [same]
    · rw [closed]
      exact Roster.queued_updateOutbox_of_ne _ fun same => kept (same ▸ gives_up)
  · rcases roster with same | ⟨given, gives_up, closed⟩
    · rw [same]
    · rw [closed]
      exact Roster.isClosed_close_of_ne fun same => kept (same ▸ gives_up)

/-- A value enters in a step of its client. -/
theorem valuesOf_entered_of_quiet {st : Step} (quiet : st.event.by? ≠ some client) :
    valuesOf client st.entered = [] := by
  unfold Step.entered
  split
  next c event =>
    have other : c ≠ client := by simpa [event, Event.by?] using quiet
    split
    · cases found : st.store.input.admitted.find? fun w => w.1 == c with
      | none => rfl
      | some w =>
        obtain ⟨c', v⟩ := w
        obtain rfl : c' = c := by simpa using List.find?_some found
        exact (valuesOf_singleton client c' v).trans (if_neg other)
    · rfl
  · rfl

theorem valuesOf_entered_eq_nil {tr : Trace} (quiet : tr.Quiet client) :
    valuesOf client tr.entered = [] := by
  induction tr with
  | nil => rfl
  | cons st rest ih =>
    have later : Trace.Quiet client rest :=
      fun st' member => quiet st' (List.mem_cons_of_mem _ member)
    rw [← List.singleton_append, Trace.entered_append, Trace.entered_singleton, valuesOf_append,
      valuesOf_entered_of_quiet (quiet st List.mem_cons_self), ih later]
    rfl

/-- A subscriber without a reader is struck off at its turn. -/
theorem deliver?_of_isClosed {d : Delivery Value} {after : Option (Message × Nat)}
    {sub : Subscriber Value} {rest : List (Subscriber Value)}
    (delivering : s.activity = .delivering d after) (first : d.rest = sub :: rest)
    (closed : s.roster.isClosed sub.id = true) :
    s.deliver? σ = some { s with activity := .delivering (d.strike sub.id) after } := by
  simp [deliver?, delivering, Roster.finish?, first, Roster.serve?_of_isClosed first closed]

/-- No value is taken while an update is delivered. -/
theorem updates_of_delivering {d : Delivery Value} (delivering : delivery? s.activity = some d) :
    Step.updates ⟨σ, s, e, o, s'⟩ = [] := by
  unfold delivery? at delivering
  split at delivering
  next activity => simp [Step.updates, Step.taken, activity]
  · cases delivering

end Steps

section Runs

variable {config : StoreConfig} {before later : Trace} {drop : Step} {σ : Signals} {s : Store}
  {client id : Nat}

theorem Run.forgets (run : Run config (before ++ drop :: later) σ s)
    (drops : drop.event = .act (.abandon client)) :
    Trace.Unasked client later → s.Forgets client := by
  refine run.since (P := fun later _ s => Trace.Unasked client later → s.Forgets client) ?_ ?_
  · intro σ _ change _
    rw [drops] at change
    exact change.eq_abandon ▸ forgets_abandon drop.store client
  · intro later σ σ' s s' e o _ change ih unasked
    have silent : Trace.Unasked client later :=
      fun st member => unasked st (List.mem_append_left _ member)
    exact change.forgets (ih silent) (unasked ⟨σ, s, e, o, s'⟩ (by simp))

/-- What a client fills after some moment enters after it, but for what stood in line. -/
theorem Run.filling_since (run : Run config (before ++ drop :: later) σ s) (client : Nat) :
    valuesOf client later.entered ++ (s.view client).filling <+
      (drop.next.view client).filling ++ valuesOf client later.filled := by
  refine run.since (P := fun later _ s =>
      valuesOf client later.entered ++ (s.view client).filling <+
        (drop.next.view client).filling ++ valuesOf client later.filled) ?_ ?_
  · intro σ _ _
    simp [Trace.entered, Trace.filled]
  · intro later σ σ' s s' e o run change ih
    have step := change.filling client run.coherent.phases
    simp only [Trace.entered_append, Trace.entered_singleton, Trace.filled_append,
      Trace.filled_singleton, valuesOf_append, List.append_assoc]
    refine (step.append_left _).trans ?_
    rw [← List.append_assoc, ← List.append_assoc]
    exact ih.append_right _

/-- Whoever gives up a subscription was granted it. -/
theorem Run.granted_of_abandons {tr : Trace} {e : Event} (run : Run config tr σ s)
    (gives_up : s.Abandons e id) : ∃ p ∈ Desk.grants tr.history, p.1.id = id := by
  obtain ⟨client, token, -, there⟩ := gives_up
  obtain ⟨l, l', split, -⟩ := List.lookup_eq_some_iff.1 there
  have given : (client, .subscribed id token) ∈ s.replies := by simp [split]
  obtain ⟨p, granted, same, -⟩ := run.granted_of_watches (.inr ⟨client, given⟩)
  exact ⟨p, granted, same⟩

/-- A subscription that was given up has no reader from then on. -/
theorem Run.closed_since (run : Run config (before ++ drop :: later) σ s)
    (gives_up : drop.store.Abandons drop.event id) : s.roster.isClosed id = true := by
  refine run.since (P := fun _ _ s => s.roster.isClosed id = true) ?_ ?_
  · intro σ earlier change
    obtain ⟨p, granted, rfl⟩ := earlier.granted_of_abandons gives_up
    obtain ⟨b, there, -⟩ := earlier.desk.registered.exists_outbox granted
    exact change.closes there gives_up
  · intro later σ σ' s s' e o run change closed
    exact (change.desk run.watching).isClosed closed

/-- Nothing is put into the queue of a subscription that was given up, and nothing is lost there. -/
theorem Run.entries_since (run : Run config (before ++ drop :: later) σ s)
    (gives_up : drop.store.Abandons drop.event id) :
    Trace.entries id (before ++ drop :: later) = before.entries id := by
  refine run.since
    (P := fun later _ _ => Trace.entries id (before ++ drop :: later) = before.entries id) ?_ ?_
  · intro σ earlier change
    obtain ⟨σ₀, s₀, e, o, s₁⟩ := drop
    obtain ⟨client, token, event, -⟩ := gives_up
    obtain rfl : e = .act (.abandon client) := event
    have act : Step.act ⟨σ₀, s₀, .act (.abandon client), o, s₁⟩ = .other := by
      obtain rfl : s₁ = s₀.abandon client := change.eq_abandon
      exact act_abandon s₀ client
    rw [Trace.entries_snoc, act]
    exact List.append_nil _
  · intro later σ σ' s s' e o run change ih
    have closed : s.desk.roster.isClosed id = true := run.closed_since gives_up
    have whole := Trace.uncut [⟨σ, s, e, o, s'⟩] _ (List.mem_singleton.2 rfl)
    rw [← List.cons_append, ← List.append_assoc, Trace.entries_snoc, ih,
      (change.desk run.watching).logged_of_closed closed whole, List.append_nil]

/-- A subscription that was given up is struck off by the next update. -/
theorem Run.gone_since (run : Run config (before ++ drop :: later) σ s)
    (gives_up : drop.store.Abandons drop.event id) :
    ∀ sub ∈ s.roster.subscribers, sub.id = id →
      later.updates = [] ∨ later.updates.length = 1 ∧ s.Dooms sub := by
  refine run.since (P := fun later _ s => ∀ sub ∈ s.roster.subscribers, sub.id = id →
      later.updates = [] ∨ later.updates.length = 1 ∧ s.Dooms sub) ?_ ?_
  · intro σ _ _ sub _ _
    exact .inl rfl
  · intro later σ σ' s s' e o run change ih sub on same
    have closed : s.roster.isClosed sub.id = true := same ▸ run.closed_since gives_up
    have old : sub ∈ s.roster.subscribers := by
      rcases (change.desk run.watching).mem_subscribers on with old | ⟨next, -⟩
      · exact old
      · -- The number was given before, so it is not the next one.
        obtain ⟨_, earlier, -⟩ := run.at_step
        obtain ⟨p, granted, given⟩ := earlier.granted_of_abandons gives_up
        have still : p ∈ Desk.grants (Trace.history (before ++ drop :: later)) := by
          rw [Trace.history, List.map_append]
          exact Desk.grants_subset _ _ granted
        have known := (run.desk.registered.known p still).1
        omega
    rw [Trace.updates_append, Trace.updates_singleton]
    rcases ih sub old same with none_yet | ⟨one, dooms⟩
    · rw [none_yet, List.nil_append]
      by_cases quiet : Step.updates ⟨σ, s, e, o, s'⟩ = []
      · exact .inl quiet
      · have short : (Step.updates ⟨σ, s, e, o, s'⟩).length ≤ 1 :=
          (List.length_filter_le _ _).trans (length_taken_le _)
        have some_new := List.length_pos_of_ne_nil quiet
        exact .inr ⟨by omega, change.dooms_of_updates quiet old⟩
    · have still := (change.dooms closed dooms).resolve_right (not_not.2 on)
      obtain ⟨d, delivering, -⟩ := dooms
      right
      rw [updates_of_delivering delivering, List.append_nil]
      exact ⟨one, still⟩

/-- What a client gives up leaves no trace. The value of a fill that is given up does not enter, and
the line closes up behind it; the state and the counts are those of the values that were taken,
which are the first that entered, and each subscription gets what it should. Giving up touches no
queue but that of a subscription that was granted and not handed over. Until the client asks again
nothing is held for it, and a request of it that is served all the same is served for nobody. The
owner never waits for a subscription given up: nothing is put into its queue or lost there any more,
and it is off the list once an update that came later has been delivered. -/
theorem Run.leaves_no_trace (run : Run config (before ++ drop :: later) σ s)
    (drops : drop.event = .act (.abandon client)) :
    let tr : Trace := before ++ drop :: later
    (∀ (earlier : Trace) begun between v, before = earlier ++ begun :: between →
      begun.event = .act (.fill client v) → Trace.Quiet client between →
      tr.entered = earlier.entered ++ Trace.entered (begun :: between) ++ later.entered ∧
      valuesOf client earlier.entered <+ valuesOf client earlier.filled ∧
      valuesOf client (Trace.entered (begun :: between)) = [] ∧
      valuesOf client later.entered <+ valuesOf client later.filled) ∧
    drop.next.input = drop.store.input.leave client ∧
    tr.taken <+: tr.values ∧ s.Keeps (.ofValues tr.taken) ∧
    (∀ p ∈ Desk.grants tr.history, Desk.Conveyed config.overflow tr.history σ s.desk p) ∧
    drop.store.Spares (drop.store.Abandons drop.event) drop.next ∧
    (Trace.Unasked client later → s.Forgets client ∧ ∀ request σ' s' o,
      s.Serves (.ask client request) → s.act? σ (.owner .drain) = some (σ', s', o) →
      s.Passes request s' ∧ s.Spares (fun _ => False) s') ∧
    ∀ id, drop.store.Abandons drop.event id →
      (∀ d after sub rest, s.activity = .delivering d after → d.rest = sub :: rest → sub.id = id →
        s.act? σ (.owner .deliver) =
          some (σ, { s with activity := .delivering (d.strike id) after }, .nothing)) ∧
      tr.entries id = before.entries id ∧
      ∀ sub ∈ s.roster.subscribers, sub.id = id →
        later.updates = [] ∨ later.updates.length = 1 ∧ s.Dooms sub := by
  intro tr
  obtain ⟨σ', _, -, happened, -⟩ := run.at_step
  have next : drop.next = drop.store.abandon client := by
    have change := change_of_effect happened
    rw [drops] at change
    exact change.eq_abandon
  refine ⟨?_, ?_, run.taken_le_values, run.keeps.1, fun p => run.desk.conveyed, ?_, ?_, ?_⟩
  · rintro earlier begun between v rfl fills quiet
    refine ⟨?_, ?_, ?_, ?_⟩
    · have silent : drop.entered = [] := by simp [Step.entered, drops]
      change Trace.entered (earlier ++ begun :: between ++ drop :: later) = _
      rw [List.append_cons, Trace.entered_append, Trace.entered_append, Trace.entered_append,
        Trace.entered_singleton, silent, List.append_nil]
    · obtain ⟨_, _, started⟩ := (List.append_assoc .. ▸ run :
        Run config (earlier ++ (begun :: between ++ drop :: later)) σ s).of_append
      exact started.filled_in_order client
    · have silent : begun.entered = [] := by simp [Step.entered, fills]
      rw [← List.singleton_append, Trace.entered_append, Trace.entered_singleton, silent,
        List.nil_append]
      exact valuesOf_entered_eq_nil quiet
    · have since := run.filling_since client
      rw [next, view_abandon, if_pos rfl, List.nil_append] at since
      exact (List.sublist_append_left _ _).trans since
  · rw [next]
    rfl
  · rw [next, drops]
    exact spares_abandon _ _
  · intro unasked
    have forgets := run.forgets drops unasked
    refine ⟨forgets, fun request σ' s' o serves happened => ?_⟩
    have change : Change σ s (.act (.owner .drain)) σ' s' o := change_of_effect happened
    have passes := change.passes serves forgets.awaiting
    exact ⟨passes, passes.spares⟩
  · intro id gives_up
    refine ⟨?_, run.entries_since gives_up, run.gone_since gives_up⟩
    rintro d after sub rest delivering first rfl
    have strikes := deliver?_of_isClosed (σ := σ) delivering first (run.closed_since gives_up)
    simp [act?, Store.move?, strikes]

/-- The owner grants a subscription and delivers two updates before its client takes the answer. -/
def grantUntaken (v w : Value) : List Event :=
  .act (.ask 0 (.subscribe .all false ⟨[0]⟩)) :: granting ++ delivering v ++
    [.act (.fill 1 w), .act (.resolve 1), .act (.owner .takeValue), .act (.owner .deliver)]

theorem owner_freed_by_abandonment :
    ∃ (before : Trace) (drop : Step) (σ : Signals) (s : Store),
      Run { subscriberCapacity := 1 } (before ++ [drop]) σ s ∧
      drop.event = .act (.abandon 0) ∧ drop.store.Abandons drop.event 1 ∧
      drop.store.act? drop.signals (.owner .deliver) = none ∧
      (s.act? σ (.owner .deliver)).isSome = true ∧
      Trace.entries 1 (before ++ [drop]) = before.entries 1 := by
  have ends : (play? (grantUntaken (serial "A1") (serial "A2"))
      (fresh { subscriberCapacity := 1 })).map (fun now =>
        ((List.lookup 0 now.2.2.replies).map Reply.watched,
          (now.2.2.act? now.2.1 (.owner .deliver)).isNone,
          ((now.2.2.abandon 0).act? now.2.1 (.owner .deliver)).isSome)) =
      some (some [(1, ⟨[0]⟩)], true, true) := by decide +kernel
  obtain ⟨⟨tr, σ, s⟩, played, ends⟩ := Option.map_eq_some_iff.1 ends
  simp only [Prod.mk.injEq, Option.isNone_iff_eq_none] at ends
  obtain ⟨given, waits, goes_on⟩ := ends
  have there : List.lookup 0 s.replies = some (.subscribed 1 ⟨[0]⟩) := by
    obtain ⟨reply, there, watched⟩ := Option.map_eq_some_iff.1 given
    cases reply with
    | subscribed id token =>
      cases watched
      exact there
    | _ => cases watched
  have run := Run.of_play? (by decide) played
  have gives_up : s.Abandons (.act (.abandon 0)) 1 := ⟨0, ⟨[0]⟩, rfl, there⟩
  have dropped := run.step (.act (.abandon 0)) trivial rfl
  have untouched := (dropped.leaves_no_trace rfl).2.2.2.2.2.2.2 1 gives_up
  exact ⟨tr, _, σ, _, dropped, rfl, gives_up, waits, goes_on, untouched.2.1⟩

end Runs

end Telemetry.Store
