import Telemetry.Proofs.Store.Barrier
import Telemetry.Proofs.Store.Delivery

/-!
# What subscribers of a store get

A subscriber gets the accepted part of the state at the moment of its subscription, in ascending
order of keys, and then the accepted updates that follow. Under the blocking policy it misses none
of them; otherwise it misses those that find its queue full.

## Main results

* `Run.conveys_all`: nothing is lost, doubled or reordered under the blocking policy.
* `Run.losses_exact`: what is lost, and what the counter of losses tells.
-/

namespace Telemetry.Store

open scoped List

/-- What a store grants when it answers a request for a subscription. -/
def grantOf (s : Store) (filter : ValueFilter) (replay : Bool) (token : Token) : Grant Value where
  id := s.roster.nextId
  accepts := filter.accepts
  token := token
  initial := s.replayOf filter replay
  capacity := s.roomFor (s.replayOf filter replay)

theorem ascending_replayOf (s : Store) (filter : ValueFilter) (replay : Bool) :
    (s.replayOf filter replay).Pairwise fun v w => compare v.key w.key = .lt := by
  unfold replayOf
  split
  · exact s.state.ascending.sublist List.filter_sublist
  · exact .nil

section Enrolling

variable {σ σ' : Signals} {s s' : Store} {e : Event} {o : Output} {g : Grant Value}

theorem enrolled?_of_act {st : Step} (act : st.act = .enroll g) :
    st.store.roster.enrolled? st.next.roster = some g := by
  unfold Step.act at act
  grind

/-- Somebody is enrolled only when the owner answers a request for a subscription. -/
theorem Change.answers_of_act (h : Change σ s e σ' s' o)
    (act : Step.act ⟨σ, s, e, o, s'⟩ = .enroll g) :
    ∃ client filter replay,
      Step.Answers ⟨σ, s, e, o, s'⟩ client (.subscribe filter replay g.token)
        (.subscribed g.id g.token) ∧
      g = s.grantOf filter replay g.token ∧ g.capacity ≤ queueLimit := by
  have enrolled : s.roster.enrolled? s'.roster = some g := enrolled?_of_act act
  have absurd_of_shape (same : s'.roster.shape = s.roster.shape) :
      s.roster.enrolled? s'.roster ≠ some g := by
    simp [Roster.enrolled?_of_shape same]
  cases h with
  | grant serves fits awaited =>
    rw [Roster.enrolled?_enroll] at enrolled
    cases enrolled
    exact ⟨_, _, _, ⟨rfl, serves, rfl, rfl⟩, rfl, fits⟩
  | die | stop => exact absurd enrolled (absurd_of_shape (Roster.shape_clear _))
  | strike | finish => exact absurd enrolled (absurd_of_shape (Roster.shape_remove _ _))
  | deliver delivering served =>
    obtain ⟨sub, rest, first⟩ := Roster.first_of_serve? served
    exact absurd enrolled (absurd_of_shape (Roster.turn_of_serve? first served).shape)
  | read id token live item => exact absurd enrolled (absurd_of_shape (Roster.shape_read item))
  | close => exact absurd enrolled (absurd_of_shape (Roster.shape_updateOutbox fun _ => rfl))
  | refuse client | abandon client =>
    rcases roster_abandon s client with same | ⟨id, closed⟩
    · exact absurd enrolled (absurd_of_shape (congrArg Roster.shape same))
    · refine absurd enrolled (absurd_of_shape ?_)
      rw [closed]
      exact Roster.shape_updateOutbox fun _ => rfl
  | _ => exact absurd enrolled (absurd_of_shape rfl)

/-- Whoever waits for a subscription gets it when the owner serves the request, if there is room. -/
theorem Change.gives_subscription {client : Nat} {filter : ValueFilter} {replay : Bool}
    {token : Token} (h : Change σ s (.act (.owner .drain)) σ' s' o)
    (serves : s.Serves (.ask client (.subscribe filter replay token)))
    (fits : s.roomFor (s.replayOf filter replay) ≤ queueLimit) (awaited : client ∈ s.awaiting) :
    s.Gives s' (.subscribe filter replay token) (.subscribed s.roster.nextId token) := by
  cases h with
  | suppress ready first | update ready first =>
    exact absurd serves (not_serves_of_ready ready first _)
  | answer serves' is | ignore serves' is =>
    cases serves_unique serves serves'
    cases is
  | grant serves' =>
    cases serves_unique serves serves'
    exact ⟨rfl, rfl⟩
  | skip serves' unawaited =>
    cases serves_unique serves serves'
    exact absurd awaited unawaited
  | strike serves' => cases serves_unique serves serves'
  | die serves' large =>
    cases serves_unique serves serves'
    exact absurd large (Nat.not_lt.2 fits)

end Enrolling

section Grants

variable {config : StoreConfig} {before later : Trace} {st : Step} {σ : Signals} {s : Store}
  {client id : Nat} {filter : ValueFilter} {replay : Bool} {token : Token}

/-- A queue has room for the replay and for as many updates as the settings say. -/
theorem Run.capacity_grantOf {tr : Trace} (run : Run config tr σ s) (filter : ValueFilter)
    (replay : Bool) (token : Token) :
    (s.grantOf filter replay token).capacity =
      (s.replayOf filter replay).length + config.subscriberCapacity.toNat := by
  rw [grantOf, roomFor, run.config_eq]

/-- An answer to a request for a subscription is a grant at the desk. -/
theorem Run.granted (run : Run config (before ++ st :: later) σ s)
    (answers : st.Answers client (.subscribe filter replay token) (.subscribed id token)) :
    (st.store.grantOf filter replay token, before.updates.length) ∈
        Desk.grants (Trace.history (before ++ st :: later)) ∧
      st.updates = [] ∧ st.store.roster.nextId = id := by
  obtain ⟨_, earlier, -⟩ := run.at_step
  obtain ⟨σ₀, t, e, o, t'⟩ := st
  obtain ⟨is, enrolled⟩ := answers.gives
  have event : e = .act (.owner .drain) := answers.event
  subst event
  cases is
  refine ⟨?_, updates_of_serves answers.serves, rfl⟩
  have act : Step.act ⟨σ₀, t, .act (.owner .drain), o, t'⟩ =
      .enroll (t.grantOf filter replay token) := act_eq_enroll enrolled
  rw [Trace.history, List.map_append, List.map_cons, act, ← earlier.published]
  exact Desk.mem_grants _ _ _

/-- A grant at the desk is an answer to a request for a subscription. -/
theorem Run.answered_of_granted {tr : Trace} (run : Run config tr σ s) {p : Grant Value × Nat}
    (granted : p ∈ Desk.grants tr.history) :
    ∃ (before : Trace) (st : Step) (later : Trace) (client : Nat) (filter : ValueFilter)
      (replay : Bool), tr = before ++ st :: later ∧
      st.Answers client (.subscribe filter replay p.1.token) (.subscribed p.1.id p.1.token) ∧
      p.1 = st.store.grantOf filter replay p.1.token ∧ p.1.capacity ≤ queueLimit := by
  induction run with
  | start => cases granted
  | @step tr σ σ' s s' o run e permitted happened ih =>
    rw [Trace.history, List.map_append, List.map_singleton, Desk.grants_snoc] at granted
    rcases List.mem_append.1 granted with old | new
    · obtain ⟨before, st, later, client, filter, replay, rfl, answers, same, fits⟩ := ih old
      exact ⟨before, st, later ++ [⟨σ, s, e, o, s'⟩], client, filter, replay, by simp, answers,
        same, fits⟩
    · cases act : Step.act ⟨σ, s, e, o, s'⟩ with
      | enroll g =>
        rw [act] at new
        obtain rfl := List.mem_singleton.1 new
        obtain ⟨client, filter, replay, answers⟩ := (change_of_effect happened).answers_of_act act
        exact ⟨tr, _, [], client, filter, replay, rfl, answers⟩
      | _ => rw [act] at new; cases new

/-- The accepted updates since a grant. -/
theorem Run.accepted_since (run : Run config (before ++ st :: later) σ s)
    (answers : st.Answers client (.subscribe filter replay token) (.subscribed id token)) :
    (Desk.accepted (st.store.grantOf filter replay token, before.updates.length)
      (Trace.history (before ++ st :: later))).map Prod.fst =
        later.updates.filter filter.accepts := by
  rw [Desk.map_fst_accepted, run.published, List.append_cons, Trace.updates_append,
    Trace.updates_append, Trace.updates_singleton, (run.granted answers).2.1, List.append_nil,
    List.drop_left]
  rfl

/-- As long as the reader is there, it has got what was put into its queue, or it will. -/
theorem Run.items_kept (run : Run config (before ++ st :: later) σ s)
    (answers : st.Answers client (.subscribe filter replay token) (.subscribed id token))
    (reader : s.roster.isClosed id = false) :
    Trace.received id (before ++ st :: later) ++ s.roster.queued id =
      st.store.replayOf filter replay ++ Desk.kept (Trace.entries id (before ++ st :: later)) := by
  obtain ⟨granted, -, rfl⟩ := run.granted answers
  rw [← run.received]
  exact (run.desk.conveyed granted).items reader

/-- There is an entry for each accepted update since a grant, except for one that is on its way. -/
theorem Run.entries_complete (run : Run config (before ++ st :: later) σ s)
    (answers : st.Answers client (.subscribe filter replay token) (.subscribed id token))
    (goes_on : σ.isCancelled token = false) (reader : s.roster.isClosed id = false) :
    ∃ coming : List Value,
      (Trace.entries id (before ++ st :: later)).map (fun e => e.update.1) ++ coming =
        later.updates.filter filter.accepts ∧
      coming.length ≤ 1 ∧ (delivery? s.activity = none → coming = []) := by
  obtain ⟨granted, -, rfl⟩ := run.granted answers
  have complete := congrArg (List.map Prod.fst)
    ((run.desk.conveyed granted).complete ⟨goes_on, reader⟩)
  rw [run.accepted_since answers, List.map_append, List.map_map] at complete
  refine ⟨_, complete, ?_, fun rests => ?_⟩
  · rw [List.length_map]
    exact Desk.length_pending_le _ _
  · rw [Desk.pending_of_idle rests]
    rfl

/-- Under the blocking policy, what a subscription has got is the replay and the accepted updates
since, but for what is on its way. -/
theorem Run.got_append_coming (run : Run config (before ++ st :: later) σ s)
    (policy : config.overflow = .block)
    (answers : st.Answers client (.subscribe filter replay token) (.subscribed id token))
    (goes_on : σ.isCancelled token = false) (reader : s.roster.isClosed id = false) :
    ∃ coming : List Value,
      Trace.received id (before ++ st :: later) ++ s.roster.queued id ++ coming =
        st.store.replayOf filter replay ++ later.updates.filter filter.accepts ∧
      (delivery? s.activity = none → coming = []) := by
  obtain ⟨coming, complete, -, rests⟩ := run.entries_complete answers goes_on reader
  have kept : Desk.kept (Trace.entries id (before ++ st :: later)) =
      (Trace.entries id (before ++ st :: later)).map fun e => e.update.1 := by
    obtain ⟨granted, -, rfl⟩ := run.granted answers
    exact (policy ▸ run.desk).kept_log (Trace.uncut _) granted
  refine ⟨coming, ?_, rests⟩
  rw [run.items_kept answers reader, kept, List.append_assoc, complete]

/-- Under the blocking policy, a subscription that is not cancelled and whose reader is there gets
the accepted part of the state at the moment it was served, in ascending order of keys, and after it
every accepted update since, in order. Only one item may be on its way, while a delivery is. -/
theorem Run.conveys_all (run : Run config (before ++ st :: later) σ s)
    (policy : config.overflow = .block)
    (answers : st.Answers client (.subscribe filter replay token) (.subscribed id token))
    (goes_on : σ.isCancelled token = false) (reader : s.roster.isClosed id = false) :
    let replayed := if replay then st.store.state.items.filter filter.accepts else []
    let live := later.updates.filter filter.accepts
    let got := Trace.received id (before ++ st :: later) ++ s.roster.queued id
    replayed.Pairwise (fun v w => compare v.key w.key = .lt) ∧
      got <+: replayed ++ live ∧
      (delivery? s.activity = none → got = replayed ++ live) := by
  intro replayed live got
  obtain ⟨coming, whole, rests⟩ := run.got_append_coming policy answers goes_on reader
  refine ⟨ascending_replayOf st.store filter replay, ⟨coming, whole⟩, ?_⟩
  intro idle
  rwa [rests idle, List.append_nil] at whole

theorem Run.fates (run : Run config (before ++ st :: later) σ s)
    (answers : st.Answers client (.subscribe filter replay token) (.subscribed id token)) :
    ∀ e ∈ Trace.entries id (before ++ st :: later),
      let full := (st.store.replayOf filter replay).length + config.subscriberCapacity.toNat
      (∃ n < full, e.fate = .kept n) ∨ e.fate = .lost full := by
  intro e member full
  obtain ⟨granted, -, rfl⟩ := run.granted answers
  have suits := (run.desk.conveyed granted).fates e member
  obtain ⟨_, earlier, -⟩ := run.at_step
  rw [earlier.capacity_grantOf] at suits
  cases fate : e.fate with
  | kept n =>
    rw [fate] at suits
    exact .inl ⟨n, suits, rfl⟩
  | lost n =>
    rw [fate] at suits
    exact .inr (congrArg _ suits.1)
  | cut => exact absurd fate ((Trace.uncut _).fate_ne_cut member)

/-- As many live updates as the queue has room for on top of the replay are never lost. -/
theorem Run.first_kept (run : Run config (before ++ st :: later) σ s)
    (answers : st.Answers client (.subscribe filter replay token) (.subscribed id token)) :
    ((Trace.entries id (before ++ st :: later)).take config.subscriberCapacity.toNat).map
        (fun e => e.update.1) <+: Desk.kept (Trace.entries id (before ++ st :: later)) := by
  obtain ⟨granted, -, rfl⟩ := run.granted answers
  obtain ⟨_, earlier, -⟩ := run.at_step
  exact run.desk.first_kept (Trace.uncut _) granted (earlier.capacity_grantOf filter replay token)

/-- Nothing of the replay and of the first live updates is lost, whether anything is read or not. -/
theorem Run.first_conveyed (run : Run config (before ++ st :: later) σ s)
    (answers : st.Answers client (.subscribe filter replay token) (.subscribed id token))
    (reader : s.roster.isClosed id = false) {coming live : List Value}
    (complete :
      (Trace.entries id (before ++ st :: later)).map (fun e => e.update.1) ++ coming = live) :
    st.store.replayOf filter replay ++ live.take config.subscriberCapacity.toNat <+:
      Trace.received id (before ++ st :: later) ++ s.roster.queued id ++ coming := by
  rw [run.items_kept answers reader, List.append_assoc, ← complete]
  refine (List.prefix_append_right_inj _).2 ?_
  have first := run.first_kept answers
  rw [List.map_take] at first
  have short := Desk.length_kept_le (Trace.entries id (before ++ st :: later))
  generalize Desk.kept (Trace.entries id (before ++ st :: later)) = kept at *
  rw [List.take_append]
  rcases Nat.le_total config.subscriberCapacity.toNat
    (Trace.entries id (before ++ st :: later)).length with enough | few
  · rw [List.length_map, Nat.sub_eq_zero_of_le enough, List.take_zero, List.append_nil]
    exact first.trans (List.prefix_append _ _)
  · rw [List.take_of_length_le (by simpa using few)] at first ⊢
    obtain rfl := first.eq_of_length_le (by simpa using short)
    exact (List.prefix_append_right_inj _).2 (List.take_prefix _ _)

/-- A reading of a serial number. -/
def serial (text : String) : Value :=
  ⟨"meter", .text "Info" "Serial", .text text, ⟨0, 0⟩⟩

/-- A value of another device than `serial` makes. -/
def torque (text : String) : Value :=
  ⟨"motor", .text "Info" "Torque", .text text, ⟨0, 0⟩⟩

/-- The owner of an empty store serves a request for a subscription. -/
def granting : List Event :=
  [.act (.enter (.client 0)), .act (.owner .takeRequest), .act (.owner .drain)]

/-- A value is filled and applied while nobody subscribes. -/
def applying (v : Value) : List Event :=
  [.act (.fill 1 v), .act (.resolve 1), .act (.owner .takeValue), .act (.owner .deliver)]

/-- A value is filled, applied and delivered to the only subscriber. -/
def delivering (v : Value) : List Event :=
  [.act (.fill 1 v), .act (.resolve 1), .act (.owner .takeValue), .act (.owner .deliver),
    .act (.owner .deliver)]

/-- Two readers subscribe to everything. -/
def subscribeTwo : List Event :=
  .act (.ask 0 (.subscribe .all false ⟨[0]⟩)) :: granting ++
    [.act (.resolve 0), .act (.ask 3 (.subscribe .all false ⟨[1]⟩)), .act (.enter (.client 3)),
      .act (.owner .takeRequest), .act (.owner .drain), .act (.resolve 3)]

/-- The step among given events at which the owner answers a request for a subscription. -/
theorem exists_answer_of_play? {events rest : List Event} {left : Nat}
    {now : Trace × Signals × Store} (small : config.inputCapacity.toNat ≤ queueLimit)
    (asked : (play? events (fresh config)).map (fun now =>
      (now.2.2.activity, now.2.2.input.items, now.2.2.awaiting.contains client,
        decide (now.2.2.roomFor (now.2.2.replayOf filter replay) ≤ queueLimit),
        now.2.2.roster.nextId)) =
      some (.draining (.ask client (.subscribe filter replay token)) left, [], true, true, id))
    (played : play? (events ++ .act (.owner .drain) :: rest) (fresh config) = some now) :
    Run config now.1 now.2.1 now.2.2 ∧ ∃ before st later, now.1 = before ++ st :: later ∧
      play? events (fresh config) = some (before, st.signals, st.store) ∧
      st.Answers client (.subscribe filter replay token) (.subscribed id token) := by
  have run : Run config now.1 now.2.1 now.2.2 := .of_play? small played
  refine ⟨run, ?_⟩
  obtain ⟨before, st, later, trace, event, begun⟩ := exists_step_of_play? played
  rw [begun, Option.map_some] at asked
  simp only [Option.some.injEq, Prod.mk.injEq, decide_eq_true_eq] at asked
  obtain ⟨draining, empty, awaited, fits, rfl⟩ := asked
  have serves : st.store.Serves (.ask client (.subscribe filter replay token)) :=
    ⟨left, draining, .inr empty⟩
  refine ⟨before, st, later, trace, begun, event, serves, ?_⟩
  rw [trace] at run
  obtain ⟨_, -, -, happened, -⟩ := run.at_step
  rw [event] at happened
  exact (change_of_effect happened).gives_subscription serves fits (by simpa using awaited)

/-- A value of each of two devices is stored, and the owner is to serve a request for the values of
one of them. -/
def askForMeter : List Event :=
  applying (serial "A1") ++ applying (torque "T1") ++
    [.act (.ask 0 (.subscribe (.device "meter") true ⟨[0]⟩)), .act (.enter (.client 0)),
      .act (.owner .takeRequest)]

/-- The request is served, and an update of each device follows. -/
def meterSubscribed : List Event :=
  askForMeter ++ .act (.owner .drain) ::
    .act (.resolve 0) :: (delivering (serial "A2") ++ delivering (torque "T2"))

/-- Whatever follows, the request is served while a value of each device is stored. -/
theorem exists_answer_of_askForMeter {capacity : UInt64} {overflow : Overflow} {rest : List Event}
    {now : Trace × Signals × Store} (room : 1 + capacity.toNat ≤ queueLimit)
    (played : play? (askForMeter ++ .act (.owner .drain) :: rest)
      (fresh { subscriberCapacity := capacity, overflow }) = some now) :
    Run { subscriberCapacity := capacity, overflow } now.1 now.2.1 now.2.2 ∧
      ∃ before st later, now.1 = before ++ st :: later ∧
        st.store.state.items = [serial "A1", torque "T1"] ∧
        st.Answers 0 (.subscribe (.device "meter") true ⟨[0]⟩) (.subscribed 1 ⟨[0]⟩) := by
  have stored : (play? askForMeter (fresh { subscriberCapacity := capacity, overflow })).map
      (fun now => now.2.2.state.items) = some [serial "A1", torque "T1"] := rfl
  have asked : (play? askForMeter (fresh { subscriberCapacity := capacity, overflow })).map
      (fun now => (now.2.2.activity, now.2.2.input.items, now.2.2.awaiting.contains 0,
        decide (now.2.2.roomFor (now.2.2.replayOf (.device "meter") true) ≤ queueLimit),
        now.2.2.roster.nextId)) =
      some (.draining (.ask 0 (.subscribe (.device "meter") true ⟨[0]⟩)) 4, [], true,
        decide (1 + capacity.toNat ≤ queueLimit), 1) := rfl
  rw [decide_eq_true room] at asked
  have small : (4 : UInt64).toNat ≤ queueLimit := by decide
  obtain ⟨run, before, st, later, trace, begun, answers⟩ :=
    exists_answer_of_play? small asked played
  rw [begun] at stored
  exact ⟨run, before, st, later, trace, Option.some.inj stored, answers⟩

theorem two_updates_conveyed :
    ∃ (before : Trace) (st : Step) (later : Trace) (σ : Signals) (s : Store),
      Run {} (before ++ st :: later) σ s ∧
      st.Answers 0 (.subscribe (.device "meter") true ⟨[0]⟩) (.subscribed 1 ⟨[0]⟩) ∧
      σ.isCancelled ⟨[0]⟩ = false ∧ s.roster.isClosed 1 = false ∧
      delivery? s.activity = none ∧ st.store.state.items = [serial "A1", torque "T1"] ∧
      Trace.received 1 (before ++ st :: later) = [serial "A1"] ∧
      s.roster.queued 1 = [serial "A2", serial "A3"] ∧
      [serial "A1", serial "A2", serial "A3"] = [serial "A1"] ++
        later.updates.filter (ValueFilter.device "meter").accepts := by
  have ends : (play? (meterSubscribed ++ .act (.read 1 ⟨[0]⟩) :: delivering (serial "A3"))
      (fresh {})).map (fun now =>
        (now.2.1.isCancelled ⟨[0]⟩, now.2.2.roster.isClosed 1,
          (delivery? now.2.2.activity).isNone, Trace.received 1 now.1,
          now.2.2.roster.queued 1)) =
      some (false, false, true, [serial "A1"], [serial "A2", serial "A3"]) := rfl
  obtain ⟨⟨tr, σ, s⟩, played, ends⟩ := Option.map_eq_some_iff.1 ends
  simp only [Prod.mk.injEq, Option.isNone_iff_eq_none] at ends
  obtain ⟨goes_on, reader, idle, received, queued⟩ := ends
  rw [meterSubscribed, List.append_assoc] at played
  obtain ⟨run, before, st, later, trace, stored, answers⟩ :=
    exists_answer_of_askForMeter (by decide) played
  obtain rfl : tr = _ := trace
  have conveyed := (run.conveys_all rfl answers goes_on reader).2.2 idle
  refine ⟨before, st, later, σ, s, run, answers, goes_on, reader, idle, stored, received, queued,
    ?_⟩
  rw [received, queued, stored] at conveyed
  exact conveyed

end Grants

section Runs

variable {config : StoreConfig} {tr : Trace} {σ : Signals} {s : Store}

/-- Updates that were lost, over all subscriptions that were ever granted. -/
def Trace.losses (tr : Trace) : Nat :=
  ((Desk.grants tr.history).map fun p => Desk.losses (tr.entries p.1.id)).sum

/-- A reply that tells counters answers a request for them. -/
theorem Run.stats_returned {before later : Trace} {done : Step} {client : Nat} {stats : Stats}
    (run : Run config (before ++ done :: later) σ s) (ends : done.event = .act (.resolve client))
    (returned : done.output = .result (.ok (.stats stats))) :
    ∃ c : Course, c.trace = before ∧ c.Of client .stats (.stats stats) ∧
      stats.dropped = c.untilServed.losses := by
  rcases run.returned ends returned with ⟨request, c, rfl, of⟩ | ⟨other, -⟩
  · obtain ⟨_, earlier, -⟩ := run.at_step
    have gives := of.answers.gives
    cases request with
    | stats =>
      refine ⟨c, rfl, of, ?_⟩
      cases gives
      exact earlier.until_served.desk.dropped
    | subscribe => cases gives.1
    | snapshot | wait => cases gives
  · cases other

/-- What is lost is exact. For each subscription that is not cancelled and whose reader is there,
every accepted update since is entered, except for one that may be on its way; it was lost if and
only if the queue was full, and what was read or can be is the replay with the updates that were
kept. No counter of losses tells anything else, the state knows of no loss, and no two readers get
two updates in opposite orders. -/
theorem Run.losses_exact (run : Run config tr σ s) :
    (∀ (before : Trace) st (later : Trace) client filter replay token id,
      tr = before ++ st :: later →
      st.Answers client (.subscribe filter replay token) (.subscribed id token) →
      σ.isCancelled token = false → s.roster.isClosed id = false →
      let replayed := if replay then st.store.state.items.filter filter.accepts else []
      let extra := config.subscriberCapacity.toNat
      let live := later.updates.filter filter.accepts
      let got := tr.received id ++ s.roster.queued id
      (∀ e ∈ tr.entries id,
        (∃ n < replayed.length + extra, e.fate = .kept n) ∨
          e.fate = .lost (replayed.length + extra)) ∧
      got = replayed ++ Desk.kept (tr.entries id) ∧
      ∃ coming, (tr.entries id).map (fun e => e.update.1) ++ coming = live ∧
        coming.length ≤ 1 ∧ (delivery? s.activity = none → coming = []) ∧
        replayed ++ live.take extra <+: got ++ coming) ∧
    (∀ (before : Trace) done later client stats, tr = before ++ done :: later →
      done.event = .act (.resolve client) → done.output = .result (.ok (.stats stats)) →
      ∃ c : Course, c.trace = before ∧ c.Of client .stats (.stats stats) ∧
        stats.dropped = c.untilServed.losses) ∧
    s.Keeps (.ofValues tr.taken) ∧
    (∀ p ∈ Desk.grants tr.history, ∀ q ∈ Desk.grants tr.history,
      (tr.received p.1.id).drop p.1.initial.length = (Desk.live p tr.history).map Prod.fst ∧
      Desk.live p tr.history <+ tr.updates.zipIdx ∧
      ∀ u v, [u, v] <+ Desk.live p tr.history → ¬ [v, u] <+ Desk.live q tr.history) := by
  refine ⟨?_, ?_, run.keeps.1, ?_⟩
  · rintro before st later client filter replay token id rfl answers goes_on reader
    obtain ⟨coming, complete, short, rests⟩ := run.entries_complete answers goes_on reader
    exact ⟨run.fates answers, run.items_kept answers reader, coming, complete, short, rests,
      run.first_conveyed answers reader complete⟩
  · rintro before done later client stats rfl ends returned
    exact run.stats_returned ends returned
  · intro p granted q granted'
    have order := run.desk.live_le_numbered granted
    refine ⟨?_, ?_, fun u v first second => ?_⟩
    · rw [← run.received]
      exact run.desk.drop_received granted
    · rw [← run.published]
      exact order
    · exact Desk.not_sublist_of_sublist (first.trans order)
        (second.trans (run.desk.live_le_numbered granted'))

/-- There is room for one more update than was replayed. -/
def tight : StoreConfig :=
  { subscriberCapacity := 1, overflow := .dropNewest }

theorem one_of_three_lost :
    ∃ (before : Trace) (st : Step) (later : Trace) (σ : Signals) (s : Store),
      Run tight (before ++ st :: later) σ s ∧
      st.Answers 0 (.subscribe (.device "meter") true ⟨[0]⟩) (.subscribed 1 ⟨[0]⟩) ∧
      σ.isCancelled ⟨[0]⟩ = false ∧ s.roster.isClosed 1 = false ∧
      st.store.state.items = [serial "A1", torque "T1"] ∧
      Trace.received 1 (before ++ st :: later) ++ s.roster.queued 1 =
        [serial "A1"] ++ Desk.kept (Trace.entries 1 (before ++ st :: later)) ∧
      Desk.kept (Trace.entries 1 (before ++ st :: later)) = [serial "A2", serial "A4"] ∧
      Trace.losses (before ++ st :: later) = 1 := by
  have ends : (play? (meterSubscribed ++ (delivering (serial "A3") ++
      .act (.read 1 ⟨[0]⟩) :: delivering (serial "A4"))) (fresh tight)).map (fun now =>
        (now.2.1.isCancelled ⟨[0]⟩, now.2.2.roster.isClosed 1,
          Trace.received 1 now.1 ++ now.2.2.roster.queued 1, now.2.2.roster.dropped)) =
      some (false, false, [serial "A1", serial "A2", serial "A4"], 1) := rfl
  obtain ⟨⟨tr, σ, s⟩, played, ends⟩ := Option.map_eq_some_iff.1 ends
  simp only [Prod.mk.injEq] at ends
  obtain ⟨goes_on, reader, got, dropped⟩ := ends
  rw [meterSubscribed, List.append_assoc] at played
  obtain ⟨run, before, st, later, trace, stored, answers⟩ :=
    exists_answer_of_askForMeter (by decide) played
  obtain rfl : tr = _ := trace
  have items := (run.losses_exact.1 _ _ _ _ _ _ _ _ rfl answers goes_on reader).2.1
  rw [stored] at items
  refine ⟨before, st, later, σ, s, run, answers, goes_on, reader, stored, items, ?_,
    run.desk.dropped.symm.trans dropped⟩
  rw [got] at items
  exact (List.cons.inj items).2.symm

end Runs

end Telemetry.Store
