import Telemetry.Proofs.Store.Client

/-!
# The barrier before an answer

Before the owner serves a request it applies what waits in the input queue, but no more values than
the queue can hold. That is enough: whatever had entered when the request was sent is among the
values that have been taken or lie in the queue when the owner comes to the request. So each reply
is that of a ledger of first values, and none of those whose fill was done before is missing.

## Main results

* `Run.coherent`: every client is in some phase, and the owner owes it all that entered in time.
* `Run.filled_in_order`: the values of one client enter in the order in which it fills.
* `Run.replies_reflect`: replies are those of growing ledgers.
-/

namespace Telemetry

open scoped List

/-- A step of the owner answers a request out of a ledger. -/
def Ledger.Answers (l : Ledger) (st : Store.Step) (request : Request) (reply : Reply) : Prop :=
  match request with
  | .snapshot filter => reply = .values (l.state.items.filter filter.accepts)
  | .subscribe filter replay token =>
    reply = .subscribed st.store.roster.nextId token ∧
      st.next.roster = st.store.roster.enroll filter.accepts token
        (if replay then l.state.items.filter filter.accepts else [])
        st.store.config.subscriberCapacity.toNat
  | .wait => reply = .done
  | .stats => ∃ stats, reply = .stats stats ∧ stats.received = l.received ∧
      stats.applied = l.updates.length ∧ stats.suppressed = l.suppressed ∧
      stats.keys = l.state.size

namespace Store

/-- The value that a client begins to fill. -/
def Step.filled (st : Step) : List (Nat × Value) :=
  match st.event with
  | .act (.fill client v) => [(client, v)]
  | _ => []

/-- The values of one client among those of all. -/
def valuesOf (client : Nat) (l : List (Nat × Value)) : List Value :=
  (l.filter (·.1 == client)).map Prod.snd

@[simp] theorem valuesOf_nil (client : Nat) : valuesOf client [] = [] := rfl

@[simp] theorem valuesOf_append (client : Nat) (l l' : List (Nat × Value)) :
    valuesOf client (l ++ l') = valuesOf client l ++ valuesOf client l' := by
  simp [valuesOf]

theorem valuesOf_singleton (client c : Nat) (v : Value) :
    valuesOf client [(c, v)] = if c = client then [v] else [] := by
  by_cases h : c = client <;> simp [valuesOf, h]

namespace Trace

/-- All values that clients began to fill, in order. -/
def filled (tr : Trace) : List (Nat × Value) :=
  tr.flatMap Step.filled

@[simp] theorem filled_append (tr more : Trace) : filled (tr ++ more) = filled tr ++ filled more :=
  List.flatMap_append

@[simp] theorem filled_singleton (st : Step) : filled [st] = st.filled := by simp [filled]

end Trace

/-- If the owner owes a client an answer, it may still take all values that it has to take
before. -/
def Drains (tr : Trace) (s : Store) : Prop :=
  ∀ client request left, owed s.activity = some (.ask client request, left) →
    client ∈ s.awaiting → ∃ n, tr.Sent client request n ∧ n ≤ (Trace.taken tr).length + left

/-- What holds after every run. -/
structure Coherent (tr : Trace) (s : Store) : Prop where
  phases : ∀ client, Phase client tr (s.view client)
  reports : s.Reports
  drains : Drains tr s

section Steps

variable {tr : Trace} {σ σ' : Signals} {s s' : Store} {e : Event} {o : Output}

/-- Whoever waits for an answer before and after a step has not done anything. -/
theorem Change.by_ne (h : Change σ s e σ' s' o) (permitted : e.Permitted s)
    (phases : ∀ c, Phase c tr (s.view c)) {client : Nat} (before : client ∈ s.awaiting)
    (after : client ∈ s'.awaiting) : e.by? ≠ some client := by
  have awaits : (s.view client).awaiting = true := List.contains_iff_mem.2 before
  have phase := phases client
  cases h with
  | fill c v =>
    rintro ⟨⟩
    rw [phase.eq_of_isFree permitted] at awaits
    cases awaits
  | ask c request =>
    rintro ⟨⟩
    rw [phase.eq_of_isFree permitted.1] at awaits
    cases awaits
  | collect c there =>
    rintro ⟨⟩
    rw [(phase.of_reply there).2] at awaits
    cases awaits
  | accept c _ _ entered =>
    rintro ⟨⟩
    obtain ⟨v, entry⟩ := Queue.entry_of_enter? entered
    rw [(phase.of_filling entry.waits).2] at awaits
    cases awaits
  | refuse c | abandon c =>
    rintro ⟨⟩
    exact absurd (List.mem_filter.1 after).2 (by simp)
  | _ => simp [Event.by?]

theorem Drains.carry {st : Step} (h : Drains tr s) {client left left' : Nat} {request : Request}
    (owes : owed s.activity = some (.ask client request, left)) (awaits : client ∈ s.awaiting)
    (quiet : st.event.by? ≠ some client) (enough : left ≤ st.taken.length + left') :
    ∃ n, Trace.Sent client request n (tr ++ [st]) ∧
      n ≤ (Trace.taken (tr ++ [st])).length + left' := by
  obtain ⟨n, sent, le⟩ := h client request left owes awaits
  refine ⟨n, sent.snoc quiet, ?_⟩
  simp only [Trace.taken_append, Trace.taken_singleton, List.length_append]
  omega

/-- What the owner owes is all there when it takes a request, and each value that it applies is one
less to apply. -/
theorem Change.drains (h : Change σ s e σ' s' o) (permitted : e.Permitted s)
    (coherent : Coherent tr s)
    (count : s.isOver = false →
      (Trace.values tr).length ≤ (Trace.taken tr).length + s.config.inputCapacity.toNat) :
    Drains (tr ++ [⟨σ, s, e, o, s'⟩]) s' := by
  intro client request left owes awaits
  have quiet := fun before => h.by_ne permitted coherent.phases before awaits
  have drains := coherent.drains
  cases h with
  | send c going entered =>
    have before : client ∈ s.awaiting := by
      rcases List.mem_append.1 awaits with before | last
      · exact before
      · -- A client whose request is on its way has no other in line.
        obtain rfl := List.mem_singleton.1 last
        obtain ⟨m, entry⟩ := Queue.entry_of_enter? entered
        obtain ⟨_, -, -, view⟩ := (coherent.phases client).of_asking entry.waits
        have member : .ask client request ∈ (s.view client).inFlight :=
          List.mem_filter.2 ⟨by simp [inFlight, show owed s.activity = _ from owes],
            by simp [Message.isFrom]⟩
        rw [view] at member
        cases member
    exact drains.carry owes before (quiet before) (Nat.le_add_left _ _)
  | refuse | abandon =>
    have before := List.mem_of_mem_filter awaits
    exact drains.carry owes before (quiet before) (Nat.le_add_left _ _)
  | suppress ready first | update ready first =>
    cases ready with
    | idle idle => cases owes
    | draining draining =>
      cases owes
      refine drains.carry (by rw [draining]; rfl) awaits (quiet awaits) ?_
      rw [taken_of_ready (.draining draining) first, List.length_singleton]
      omega
  | takeRequest idle first =>
    cases owes
    have flying : .ask client request ∈ s.inFlight := by simp [inFlight_of_idle idle, first]
    obtain ⟨⟨n, sent⟩, -⟩ := (coherent.phases client).of_flight flying awaits
    refine ⟨n, sent.snoc (quiet awaits), ?_⟩
    have entered := sent.count_le
    have going := count (by simp [isOver, idle])
    simp only [Trace.taken_append, List.length_append]
    omega
  | finish delivering | deliver delivering | giveUp delivering =>
    have before : owed s.activity = some (.ask client request, left) := by
      rw [delivering]
      simpa using owes
    exact drains.carry before awaits (quiet awaits) (Nat.le_add_left _ _)
  | answer | ignore | grant | skip | die | strike | stop => cases owes
  | _ => exact drains.carry owes awaits (quiet awaits) (Nat.le_add_left _ _)

/-- The value that enters is the one that its client was filling. -/
theorem Change.filling (h : Change σ s e σ' s' o) (client : Nat)
    (phases : ∀ c, Phase c tr (s.view c)) :
    valuesOf client (Step.entered ⟨σ, s, e, o, s'⟩) ++ (s'.view client).filling <+
      (s.view client).filling ++ valuesOf client (Step.filled ⟨σ, s, e, o, s'⟩) := by
  cases h with
  | fill c v =>
    rw [view_fill, show Step.filled _ = [(c, v)] from rfl, valuesOf_singleton]
    exact List.Sublist.refl _
  | accept c none_there going entered =>
    obtain ⟨v, entry, entered⟩ := entered_of_accept none_there going entered
    rw [entered, valuesOf_singleton, view_accept c entry.waiting]
    by_cases same : c = client
    · subst same
      rw [((phases c).of_filling entry.waits).2, if_pos rfl, if_pos rfl]
      exact List.Sublist.refl _
    · rw [if_neg same, if_neg same]
      simp [Step.filled]
  | collect c there =>
    rw [entered_of_reply there]
    simp [Step.filled, view, handOver]
  | refuse c _ ended =>
    rw [entered_of_over ended, view_abandon]
    split <;> simp [Step.filled]
  | abandon c =>
    rw [view_abandon]
    split <;> simp [Step.filled, Step.entered]
  | _ => exact (List.append_nil _).symm ▸ List.Sublist.refl _

end Steps

section Runs

variable {config : StoreConfig} {tr : Trace} {σ : Signals} {s : Store}

/-- No more values have entered than the owner has taken and the queue can hold. -/
theorem Run.count_le (run : Run config tr σ s) (going : s.isOver = false) :
    (Trace.values tr).length ≤ (Trace.taken tr).length + s.config.inputCapacity.toNat := by
  rw [← run.flow going, List.length_append]
  exact Nat.add_le_add_left run.fits _

/-- The owner serves nobody who waits before it has taken all that entered in time. -/
theorem Coherent.in_time (coherent : Coherent tr s) (run : Run config tr σ s) {st : Step}
    {client : Nat} {request : Request} {reply : Reply} (here : st.store = s)
    (awaits : client ∈ s.awaiting) (answers : st.Answers client request reply) :
    Trace.Answered client request reply (tr ++ [st]) := by
  subst here
  obtain ⟨left, draining, enough⟩ := answers.serves
  obtain ⟨n, sent, le⟩ := coherent.drains client request left (by rw [draining]; rfl) awaits
  refine sent.answered run.taken_le_values ?_ answers
  rcases enough with rfl | empty
  · exact le
  · have flow := run.flow (isOver_eq_false_of_serves answers.serves)
    rw [empty, List.append_nil] at flow
    rw [flow]
    exact sent.count_le

theorem Run.coherent (run : Run config tr σ s) : Coherent tr s := by
  induction run with
  | start σ made =>
    rw [ofConfig?_eq_some made]
    refine ⟨fun client => .free [], ?_, ?_⟩
    · intro id message waits
      cases waits
    · intro client request left owes
      cases owes
  | @step tr σ σ' s s' o run e permitted happened ih =>
    have change := change_of_effect happened
    refine ⟨fun client => ?_, change.reports ih.reports, ?_⟩
    · exact change.phase permitted ih.phases ih.reports fun c request reply awaits answers =>
        ih.in_time run rfl awaits answers
    · exact change.drains permitted ih run.count_le

theorem Run.filling (run : Run config tr σ s) (client : Nat) :
    valuesOf client (Trace.entered tr) ++ (s.view client).filling <+
      valuesOf client (Trace.filled tr) := by
  induction run with
  | start σ made =>
    rw [ofConfig?_eq_some made]
    exact List.Sublist.refl _
  | @step tr σ σ' s s' o run e permitted happened ih =>
    have step := (change_of_effect happened).filling client run.coherent.phases
    simp only [Trace.entered_append, Trace.entered_singleton, Trace.filled_append,
      Trace.filled_singleton, valuesOf_append, List.append_assoc]
    refine (step.append_left _).trans ?_
    rw [← List.append_assoc]
    exact ih.append_right _

/-- The values of each client enter the input queue in the order in which the client fills. -/
theorem Run.filled_in_order (run : Run config tr σ s) (client : Nat) :
    valuesOf client (Trace.entered tr) <+ valuesOf client (Trace.filled tr) :=
  (List.sublist_append_left _ _).trans (run.filling client)

/-- An operation that returns was answered by the owner, or it put a value into the input queue. -/
theorem Run.returned {before later : Trace} {done : Step} {client : Nat} {reply : Reply}
    (run : Run config (before ++ done :: later) σ s) (ends : done.event = .act (.resolve client))
    (returned : done.output = .result (.ok reply)) :
    (∃ request, before.Answered client request reply) ∨
      reply = .done ∧ ∃ v, before.Begun client (.act (.fill client v)) ∧
        done.entered = [(client, v)] := by
  obtain ⟨σ', run, -, happened, -⟩ := run.at_step
  have phases := run.coherent.phases
  obtain ⟨σ₀, t, e, o, t'⟩ := done
  have change : Change σ₀ t e σ' t' o := change_of_effect happened
  change e = _ at ends
  change o = _ at returned
  subst ends returned
  cases change with
  | collect _ there => exact .inl ((phases client).of_reply there).1
  | accept _ none_there going entered =>
    obtain ⟨v, entry, entered⟩ := entered_of_accept none_there going entered
    exact .inr ⟨rfl, v, ((phases client).of_filling entry.waits).1, entered⟩

/-- A fill that returns has put its value into the input queue. -/
theorem Run.fill_returns {before later : Trace} {done : Step} {client : Nat} {v : Value}
    {reply : Reply} (run : Run config (before ++ done :: later) σ s)
    (begun : before.Begun client (.act (.fill client v)))
    (ends : done.event = .act (.resolve client)) (returned : done.output = .result (.ok reply)) :
    done.entered = [(client, v)] := by
  rcases run.returned ends returned with ⟨request, c, rfl, of⟩ | ⟨-, w, filling, entered⟩
  · cases begun.unique of.begun rfl rfl
  · cases begun.unique filling rfl rfl
    exact entered

/-- What the owner answers is what the ledger of the values taken so far says. -/
theorem Run.answers_of_ledger {st : Step} {client : Nat} {request : Request} {reply : Reply}
    (run : Run config tr σ st.store) (answers : st.Answers client request reply) :
    (Ledger.ofValues (Trace.taken tr)).Answers st request reply := by
  obtain ⟨keeps, -⟩ := run.keeps
  have gives := answers.gives
  cases request with
  | snapshot filter =>
    cases gives
    rw [Ledger.Answers, snapshot, keeps.state]
  | subscribe filter replay token =>
    obtain ⟨is, roster⟩ := gives
    refine ⟨is, ?_⟩
    rw [roster, replayOf, snapshot, keeps.state]
  | wait =>
    cases gives
    rfl
  | stats =>
    cases gives
    exact ⟨_, rfl, keeps.received, keeps.applied, keeps.suppressed, congrArg Keyed.size keeps.state⟩

theorem Run.until_served {c : Course} (run : Run config c.trace σ s) :
    Run config c.untilServed c.served.signals c.served.store := by
  rw [c.trace_eq] at run
  obtain ⟨_, before, -⟩ := run.at_step
  exact before

/-- An operation that asks and returns a reply ends with the answer to its request. -/
theorem Run.ask_returns {before later : Trace} {done : Step} {client : Nat} {request : Request}
    {reply : Reply} (run : Run config (before ++ done :: later) σ s)
    (begun : before.Begun client (.act (.ask client request)))
    (ends : done.event = .act (.resolve client)) (returned : done.output = .result (.ok reply)) :
    before.Answered client request reply := by
  rcases run.returned ends returned with ⟨request', c, rfl, of⟩ | ⟨-, v, filling, -⟩
  · cases begun.unique of.begun rfl rfl
    exact ⟨c, rfl, of⟩
  · cases begun.unique filling rfl rfl

/-- The course of a request among given events, and what had happened when it was asked. -/
theorem exists_course_since_play? {first between rest : List Event} {client : Nat}
    {request : Request} {reply : Reply} {now : Trace × Signals × Store}
    (small : config.inputCapacity.toNat ≤ queueLimit) (quiet : ∀ e ∈ between, e.by? ≠ some client)
    (replied : (play? (first ++ .act (.ask client request) :: between) (fresh config)).bind
      (fun now => (now.2.2.resolve? client).map Prod.fst) = some (.ok reply))
    (played : play? ((first ++ .act (.ask client request) :: between) ++
      .act (.resolve client) :: rest) (fresh config) = some now) :
    ∃ (c : Course) (later : Trace) (begun : Trace × Signals × Store), c.Of client request reply ∧
      now.1 = c.trace ++ later ∧ play? first (fresh config) = some begun ∧ begun.1 = c.before := by
  have run : Run config now.1 now.2.1 now.2.2 := .of_play? small played
  rw [play?_append] at played
  obtain ⟨⟨tr, σ, s⟩, asked, played⟩ := Option.bind_eq_some_iff.1 played
  rw [asked] at replied
  obtain ⟨⟨_, s'⟩, resolved, rfl⟩ := Option.map_eq_some_iff.1 replied
  have happened : Event.effect? σ s (.act (.resolve client)) = some (σ, s', .result (.ok reply)) :=
    Option.map_eq_some_iff.2 ⟨_, resolved, rfl⟩
  have permitted : Event.Permitted s (.act (.resolve client)) := trivial
  rw [play?, if_pos permitted, happened] at played
  obtain ⟨more, trace, -⟩ := events_of_play? played
  rw [trace, List.append_assoc] at run ⊢
  obtain ⟨c, rfl, of⟩ := run.ask_returns (Trace.begun_of_play? asked quiet) rfl rfl
  rw [play?_append] at asked
  obtain ⟨begun, first, asked⟩ := Option.bind_eq_some_iff.1 asked
  obtain ⟨since, split, same⟩ := events_of_play? asked
  obtain ⟨ask, waiting, rfl, event, same⟩ := List.map_eq_cons_iff.1 same
  refine ⟨c, _, begun, of, rfl, first, ?_⟩
  have silent : Trace.Quiet client waiting := by
    intro st member
    exact quiet _ (same ▸ List.mem_map_of_mem member)
  exact (Trace.split_unique (split.symm.trans rfl) (congrArg Event.by? event)
    (congrArg Event.by? of.asks) silent of.quiet).1

/-- The course of a request among given events. -/
theorem exists_course_of_play? {first between rest : List Event} {client : Nat} {request : Request}
    {reply : Reply} {now : Trace × Signals × Store}
    (small : config.inputCapacity.toNat ≤ queueLimit) (quiet : ∀ e ∈ between, e.by? ≠ some client)
    (replied : (play? (first ++ .act (.ask client request) :: between) (fresh config)).bind
      (fun now => (now.2.2.resolve? client).map Prod.fst) = some (.ok reply))
    (played : play? ((first ++ .act (.ask client request) :: between) ++
      .act (.resolve client) :: rest) (fresh config) = some now) :
    Run config now.1 now.2.1 now.2.2 ∧ ∃ (c : Course) (later : Trace), c.Of client request reply ∧
      now.1 = c.untilServed ++ c.served :: later := by
  obtain ⟨c, later, _, of, trace, -⟩ := exists_course_since_play? small quiet replied played
  exact ⟨.of_play? small played, c, c.later ++ later, of, by simp [trace, c.trace_eq]⟩

/-- Clients see a store that applies the values in the order in which they enter its queue. A fill
that returns has put its value there, and the values of one client enter in its own order. Each
reply is that of the ledger of some first values. None of those that had entered when the request
was sent is missing, none that entered after the reply is among them, and whoever is served later
sees all that was seen before. -/
theorem Run.replies_reflect (run : Run config tr σ s) :
    (∀ (before : Trace) done later client v reply, tr = before ++ done :: later →
      before.Begun client (.act (.fill client v)) → done.event = .act (.resolve client) →
      done.output = .result (.ok reply) → done.entered = [(client, v)]) ∧
    (∀ client, valuesOf client tr.entered <+ valuesOf client tr.filled) ∧
    (∀ (before : Trace) done later client request reply, tr = before ++ done :: later →
      before.Begun client (.act (.ask client request)) → done.event = .act (.resolve client) →
      done.output = .result (.ok reply) →
      ∃ c : Course, c.trace = before ∧ c.Of client request reply ∧
        c.untilSent.values <+: c.untilServed.taken ∧
        c.untilServed.taken <+: c.untilServed.values ∧
        c.untilServed.updates = (Ledger.ofValues c.untilServed.taken).updates ∧
        (Ledger.ofValues c.untilServed.taken).Answers c.served request reply) ∧
    ∀ c c' : Course, c.trace <+: tr → c'.trace <+: tr →
      c.untilServed.length ≤ c'.untilServed.length →
      c.untilServed.taken <+: c'.untilServed.taken := by
  refine ⟨?_, run.filled_in_order, ?_, ?_⟩
  · rintro before done later client v reply rfl begun ends returned
    exact run.fill_returns begun ends returned
  · rintro before done later client request reply rfl begun ends returned
    obtain ⟨c, rfl, of⟩ := run.ask_returns begun ends returned
    obtain ⟨_, _, earlier⟩ := run.of_append
    have served := earlier.until_served
    exact ⟨c, rfl, of, of.counted, served.taken_le_values, served.keeps.2.symm,
      served.answers_of_ledger of.answers⟩
  · intro c c' first second le
    have order : c.untilServed <+: c'.untilServed :=
      List.prefix_of_prefix_length_le (c.untilServed_le.trans first)
        (c'.untilServed_le.trans second) le
    obtain ⟨more, same⟩ := order
    rw [← same, Trace.taken_append]
    exact List.prefix_append _ _

/-- One client fills a value, another asks for the state, and the owner answers. -/
def fillThenLook (v : Value) : List Event :=
  [.act (.fill 0 v), .act (.resolve 0)] ++ .act (.ask 1 (.snapshot .all)) ::
    [.act (.enter (.client 1)), .act (.owner .takeRequest), .act (.owner .drain),
      .act (.owner .deliver), .act (.owner .drain)]

theorem look_reflects_fill :
    let v : Value := ⟨"meter", .text "Info" "Serial", .text "A1", ⟨0, 0⟩⟩
    ∃ tr σ s, Run {} tr σ s ∧ ∃ c : Course, c.trace <+: tr ∧
      c.Of 1 (.snapshot .all) (.values [v]) ∧ c.untilServed.taken <+: c.untilServed.values := by
  intro v
  have look : ((play? (fillThenLook v) (fresh {})).bind fun now =>
      now.2.2.resolve? 1).map Prod.fst = some (.ok (.values [v])) := rfl
  obtain ⟨⟨_, _⟩, look, rfl⟩ := Option.map_eq_some_iff.1 look
  obtain ⟨now, played, resolves⟩ := Option.bind_eq_some_iff.1 look
  have run : Run {} _ _ _ := .step (.of_play? (by decide) played) (.act (.resolve 1)) trivial
    (Option.map_eq_some_iff.2 ⟨_, resolves, rfl⟩)
  have begun := Trace.begun_of_play? played (by decide : ∀ e ∈ _, Event.by? e ≠ some 1)
  obtain ⟨c, trace, of, -, le, -⟩ := run.replies_reflect.2.2.1 now.1 _ [] 1 (.snapshot .all)
    (.values [v]) rfl begun rfl rfl
  exact ⟨_, _, _, run, c, trace ▸ List.prefix_append _ _, of, le⟩

end Runs

end Store

end Telemetry
