import Telemetry.Gateway
import Telemetry.Proofs.Catalog.Index
import Telemetry.Proofs.Config
import Telemetry.Proofs.Store.State
import Telemetry.Proofs.Store.Subscription

/-!
# Queues that are too large

There is a limit to what a queue may hold. Settings that pass keep queues from having no room at
all, but not from exceeding the limit: the input queue of a store may be too large from the
beginning, and the queue of a subscriber is so when its replay and the room for updates exceed the
limit together. A store cannot be made with the former, and its owner breaks down over the latter; a
catalog refuses the subscription. Nothing else of the kind ever happens.

## Main definitions

* `Roster.Bounded`: all queues of subscribers have room, and are within the limit.
* `Store.Step.Oversized`, `Catalog.Step.Oversized`: a subscriber's queue would exceed the limit.

## Main results

* `Store.Run.dead_iff`: when the owner of a store breaks down.
* `Catalog.Change.tooLarge_iff`: when a catalog refuses a subscription.
* `breaks_iff_oversized`: what settings that pass can break.
-/

namespace Telemetry

namespace Roster

variable {α : Type} {r r' : Roster α}

/-- The queues of subscribers have room, and are no larger than a queue may be. -/
def Bounded (r : Roster α) : Prop :=
  ∀ id capacity, (id, capacity) ∈ r.shape → 0 < capacity ∧ capacity ≤ queueLimit

theorem Bounded.of_shape (bounded : r.Bounded) (same : r'.shape = r.shape) : r'.Bounded := by
  intro id capacity member
  rw [same] at member
  exact bounded id capacity member

end Roster

/-! ## Stores -/

namespace Store

/-- The owner serves a request for a subscription whose queue would be too large. -/
def Step.Oversized (st : Step) : Prop :=
  ∃ client filter replay token, st.event = .act (.owner .drain) ∧
    st.store.Serves (.ask client (.subscribe filter replay token)) ∧
    queueLimit < st.store.roomFor (st.store.replayOf filter replay)

/-- The owner has broken down. -/
def isDead (s : Store) : Bool :=
  match s.activity with
  | .dead => true
  | _ => false

theorem isDead_iff {s : Store} : s.isDead = true ↔ s.activity = .dead := by
  unfold isDead
  grind

theorem ofConfig?_eq_none {config : StoreConfig} :
    ofConfig? config = none ↔ queueLimit < config.inputCapacity.toNat := by
  unfold ofConfig?
  grind

section Steps

variable {σ σ' : Signals} {s s' : Store} {e : Event} {o : Output}

theorem drain?_of_serves {message : Message} (serves : s.Serves message) :
    s.drain? = some ({ s with activity := .idle }.serve message) := by
  obtain ⟨left, draining, enough⟩ := serves
  unfold drain?
  rw [draining]
  cases left with
  | zero => rfl
  | succ left => simp [Queue.pop?, enough.resolve_left left.succ_ne_zero]

/-- The owner breaks down over a queue that would be too large. -/
theorem dead_of_oversized (oversized : Step.Oversized ⟨σ, s, e, o, s'⟩)
    (happened : e.effect? σ s = some (σ', s', o)) : s'.activity = .dead := by
  obtain ⟨client, filter, replay, token, event, serves, large⟩ := oversized
  have event : e = .act (.owner .drain) := event
  subst event
  simp only [Event.effect?, act?, move?, drain?_of_serves serves, Option.map_some,
    Option.some.injEq, Prod.mk.injEq] at happened
  obtain ⟨-, rfl, -⟩ := happened
  change ({ s with activity := .idle }.subscribe client filter replay token).activity = .dead
  rw [subscribe_idle, if_pos large]
  rfl

/-- The owner breaks down over nothing else, and does not recover. -/
theorem dead_iff_of_effect (happened : e.effect? σ s = some (σ', s', o)) :
    s'.activity = .dead ↔ s.activity = .dead ∨ Step.Oversized ⟨σ, s, e, o, s'⟩ := by
  have change := change_of_effect happened
  constructor
  · intro dead
    cases change with
    | die serves large => exact .inr ⟨_, _, _, _, rfl, serves, large⟩
    | @suppress _ after | @finish _ after => cases after <;> cases dead
    | update | takeRequest | deliver | giveUp | stop => cases dead
    | answer | ignore | grant | skip | strike => cases dead
    | _ => exact .inl dead
  · rintro (dead | oversized)
    · have ended : s.isOver = true := by simp [isOver, dead]
      cases change with
      | suppress ready | update ready => simp [isOver_eq_false_of_ready ready] at ended
      | answer serves | ignore serves | grant serves | skip serves | strike serves =>
        simp [isOver_eq_false_of_serves serves] at ended
      | takeRequest idle | stop idle => cases idle.symm.trans dead
      | finish delivering | deliver delivering | giveUp delivering =>
        cases delivering.symm.trans dead
      | die => rfl
      | _ => exact dead
    · exact dead_of_oversized oversized happened

end Steps

section Runs

variable {config : StoreConfig} {tr : Trace} {σ : Signals} {s : Store}

theorem Run.input_bounded (run : Run config tr σ s) (room : 0 < config.inputCapacity.toNat) :
    0 < s.input.capacity ∧ s.input.capacity ≤ queueLimit := by
  rw [run.input_capacity]
  refine ⟨room, ?_⟩
  induction run with
  | start σ made =>
    by_contra large
    rw [ofConfig?_eq_none.2 (Nat.lt_of_not_le large)] at made
    cases made
  | step run e permitted happened ih => exact ih

/-- The queues of subscribers are those that were granted. -/
theorem Run.bounded (run : Run config tr σ s) (room : 0 < config.subscriberCapacity.toNat) :
    s.roster.Bounded := by
  intro id capacity member
  rw [show s.roster.shape = _ from run.desk.registered.shape] at member
  obtain ⟨p, granted, same⟩ := List.mem_map.1 member
  cases same
  obtain ⟨before, st, later, client, filter, replay, rfl, answers, grant, fits⟩ :=
    run.answered_of_granted granted
  refine ⟨?_, fits⟩
  obtain ⟨_, earlier, -⟩ := run.at_step
  rw [congrArg Grant.capacity grant, earlier.capacity_grantOf]
  omega

/-- The owner of a store has broken down if and only if it served a request for a subscription whose
queue would be too large. -/
theorem Run.dead_iff (run : Run config tr σ s) :
    s.activity = .dead ↔ ∃ st ∈ tr, st.Oversized := by
  induction run with
  | start σ made =>
    rw [ofConfig?_eq_some made]
    simp
  | step run e permitted happened ih =>
    rw [dead_iff_of_effect happened, ih]
    simp only [List.mem_append, List.mem_singleton, or_and_right, exists_or, exists_eq_left]

/-- A replay is no longer than the state, which the updates made. -/
theorem Run.length_replayOf_le (run : Run config tr σ s) (filter : ValueFilter) (replay : Bool) :
    (s.replayOf filter replay).length ≤ tr.updates.length := by
  unfold replayOf
  split
  · refine (List.length_filter_le _ _).trans ?_
    rw [run.state_eq]
    exact Keyed.size_ofList_le _
  · exact Nat.zero_le _

/-- The owner does not break down as long as there is room for all updates there were and those
that the settings allow for. -/
theorem Run.not_dead (run : Run config tr σ s)
    (few : tr.updates.length + config.subscriberCapacity.toNat ≤ queueLimit) :
    s.activity ≠ .dead := by
  rw [ne_eq, run.dead_iff]
  rintro ⟨st, member, client, filter, replay, token, -, -, large⟩
  obtain ⟨before, later, rfl⟩ := List.append_of_mem member
  obtain ⟨_, earlier, -⟩ := run.at_step
  have le := earlier.length_replayOf_le filter replay
  rw [roomFor, earlier.config_eq] at large
  rw [Trace.updates_append, List.length_append] at few
  omega

end Runs

end Store

/-! ## Catalogs -/

namespace Catalog

/-- A client gets the answer to a request for a subscription whose queue would be too large. -/
def Step.Oversized (st : Step) : Prop :=
  ∃ client filter token, st.event = .act (.resolve client) ∧
    st.catalog.granted? (.client client) = some (.subscribe filter token) ∧
    queueLimit < st.catalog.roomFor filter

section Steps

variable {σ σ' : Signals} {c c' : Catalog} {e : Event} {o : Output}

@[simp] theorem shape_forget (c : Catalog) : c.forget.roster.shape = c.roster.shape := by
  unfold forget
  split <;> simp

/-- The queues of a catalog stay, and a new one is within the limit. -/
theorem Change.shape (h : Change σ c e σ' c' o) :
    c'.roster.shape = c.roster.shape ∨ ∃ filter, c.roomFor filter ≤ queueLimit ∧
      c'.roster.shape = c.roster.shape ++ [(c.roster.nextId, c.roomFor filter)] := by
  cases h with
  | grant client granted fits => exact .inr ⟨_, fits, Roster.shape_enroll ..⟩
  | @announce client r =>
    obtain ⟨registers, index, frame⟩ := c.put_frame r
    rw [frame]
    exact .inl rfl
  | deliver holder served =>
    obtain ⟨sub, rest, first⟩ := Roster.first_of_serve? served
    exact .inl (Roster.turn_of_serve? first served).shape
  | finish => exact .inl (Roster.shape_remove _ _)
  | strike => exact .inl ((shape_forget _).trans (Roster.shape_remove _ _))
  | read id token live item => exact .inl (Roster.shape_read item)
  | close => exact .inl (Roster.shape_updateOutbox fun _ => rfl)
  | release => exact .inl (shape_forget _)
  | _ => exact .inl rfl

/-- A subscription is refused if and only if its queue would be too large. -/
theorem Change.tooLarge_iff (h : Change σ c e σ' c' o) :
    o = .reply .tooLarge ↔ Step.Oversized ⟨σ, c, e, o, c'⟩ := by
  constructor
  · rintro rfl
    generalize answer : Output.reply .tooLarge = shown at h
    cases h with
    | refuse client granted large => exact ⟨client, _, _, rfl, granted, large⟩
    | @look client query => cases query <;> cases answer
    | _ => cases answer
  · rintro ⟨client, filter, token, event, granted, large⟩
    cases h with
    | refuse => rfl
    | look client looks =>
      cases event
      cases looks.symm.trans granted
    | grant client other fits =>
      cases event
      cases other.symm.trans granted
      exact absurd large (Nat.not_lt.2 fits)
    | done holder =>
      cases event
      cases holder.symm.trans (granted?_eq_some granted).1
    | _ => cases event

/-- A catalog has no more registers than it had and were announced. -/
theorem Change.length_registers_le (h : Change σ c e σ' c' o) :
    c'.registers.length ≤
      c.registers.length + (Step.act ⟨σ, c, e, o, c'⟩).published.length := by
  rcases h.registers_eq with ⟨none, registers, -⟩ | ⟨r, one, registers, -⟩
  · rw [none, registers]
    exact Nat.le_refl _
  · rw [one, registers]
    unfold Catalog.put
    grind

end Steps

section Runs

variable {config : CatalogConfig} {tr : Trace} {σ : Signals} {c : Catalog}

theorem Run.bounded (run : Run config tr σ c) (room : 0 < config.subscriberCapacity.toNat) :
    c.roster.Bounded := by
  induction run with
  | start => simp [ofConfig, Roster.Bounded, Roster.shape]
  | @step tr σ σ' c c' o run e permitted happened ih =>
    rcases (change_of_effect happened).shape with same | ⟨filter, fits, more⟩
    · exact ih.of_shape same
    · intro id capacity member
      rw [more] at member
      rcases List.mem_append.1 member with old | new
      · exact ih id capacity old
      · cases List.mem_singleton.1 new
        refine ⟨?_, fits⟩
        rw [roomFor, run.config_eq]
        omega

theorem Run.length_registers_le (run : Run config tr σ c) :
    c.registers.length ≤ tr.announced.length := by
  induction run with
  | start => simp [ofConfig]
  | @step tr σ σ' c c' o run e permitted happened ih =>
    have le := (change_of_effect happened).length_registers_le
    have more : Trace.announced (tr ++ [⟨σ, c, e, o, c'⟩]) =
        tr.announced ++ (Step.act ⟨σ, c, e, o, c'⟩).published := by
      rw [Trace.announced, Trace.history, List.map_append]
      exact Desk.published_snoc _ _
    rw [more, List.length_append]
    omega

theorem Run.tooLarge_iff (run : Run config tr σ c) :
    ∀ st ∈ tr, st.output = .reply .tooLarge ↔ st.Oversized := by
  intro st member
  obtain ⟨before, later, rfl⟩ := List.append_of_mem member
  obtain ⟨_, -, happened⟩ := run.at_step
  exact (change_of_effect happened).tooLarge_iff

/-- No subscription is refused as long as there is room for all registers that were announced and
those that the settings allow for. -/
theorem Run.not_tooLarge (run : Run config tr σ c)
    (few : tr.announced.length + config.subscriberCapacity.toNat ≤ queueLimit) :
    ∀ st ∈ tr, st.output ≠ .reply .tooLarge := by
  intro st member
  rw [ne_eq, run.tooLarge_iff st member]
  rintro ⟨client, filter, token, -, -, large⟩
  obtain ⟨before, later, rfl⟩ := List.append_of_mem member
  obtain ⟨_, earlier, -⟩ := run.at_step
  have le := earlier.length_registers_le
  have replayed : (filter.filter st.catalog.registers).length ≤ st.catalog.registers.length :=
    List.length_filter_le _ _
  rw [roomFor, earlier.config_eq] at large
  rw [Trace.announced, Trace.history, List.map_append, Desk.published_append,
    List.length_append] at few
  have le : st.catalog.registers.length ≤ (Desk.published (before.map Step.act)).length := le
  omega

end Runs

end Catalog

/-! ## Gateways -/

theorem GatewayConfig.settings_of_validate {g : GatewayConfig} (valid : g.validate = .ok ()) :
    g.state.validate = .ok () ∧ g.commands.validate = .ok () ∧ g.catalog.validate = .ok () := by
  unfold validate at valid
  cases state : g.state.validate <;> cases commands : g.commands.validate <;>
    cases catalog : g.catalog.validate <;>
    simp_all [Except.mapError, bind, Except.bind]

theorem Gateway.ofConfig?_eq_none {g : GatewayConfig} :
    Gateway.ofConfig? g = none ↔
      queueLimit < g.state.inputCapacity.toNat ∨ queueLimit < g.commands.inputCapacity.toNat := by
  rw [← Store.ofConfig?_eq_none, ← Store.ofConfig?_eq_none]
  unfold Gateway.ofConfig?
  cases Store.ofConfig? g.state <;> cases Store.ofConfig? g.commands <;> simp

/-- What settings that pass can break. A store can be made unless its input queue would exceed the
limit, and its owner breaks down if and only if it serves a request for a subscription whose queue
would; a catalog refuses such a subscription and no other; a gateway can be made unless the input
queue of one of its stores, whose settings pass, would exceed the limit. All other queues have room
and are within the limit, and all are where the replays leave room for what the settings say. -/
theorem breaks_iff_oversized {c : StoreConfig} {k : CatalogConfig} {g : GatewayConfig}
    (store : c.validate = .ok ()) (catalog : k.validate = .ok ()) (gateway : g.validate = .ok ()) :
    ((Store.ofConfig? c = none ↔ queueLimit < c.inputCapacity.toNat) ∧
      ∀ tr σ s, Store.Run c tr σ s →
        (0 < s.input.capacity ∧ s.input.capacity ≤ queueLimit) ∧ s.roster.Bounded ∧
        (s.activity = .dead ↔ ∃ st ∈ tr, st.Oversized) ∧
        (tr.updates.length + c.subscriberCapacity.toNat ≤ queueLimit → s.activity ≠ .dead)) ∧
    (∀ tr σ x, Catalog.Run k tr σ x →
      x.roster.Bounded ∧ (∀ st ∈ tr, st.output = .reply .tooLarge ↔ st.Oversized) ∧
      (tr.announced.length + k.subscriberCapacity.toNat ≤ queueLimit →
        ∀ st ∈ tr, st.output ≠ .reply .tooLarge)) ∧
    (Gateway.ofConfig? g = none ↔
      queueLimit < g.state.inputCapacity.toNat ∨ queueLimit < g.commands.inputCapacity.toNat) ∧
    g.state.validate = .ok () ∧ g.commands.validate = .ok () ∧ g.catalog.validate = .ok () := by
  obtain ⟨input, subscriber⟩ := StoreConfig.validate_eq_ok.1 store
  refine ⟨⟨Store.ofConfig?_eq_none, ?_⟩, ?_, Gateway.ofConfig?_eq_none,
    GatewayConfig.settings_of_validate gateway⟩
  · intro tr σ s run
    exact ⟨run.input_bounded input, run.bounded subscriber, run.dead_iff, run.not_dead⟩
  · intro tr σ x run
    have room := CatalogConfig.validate_eq_ok.1 catalog
    exact ⟨run.bounded room, run.tooLarge_iff, run.not_tooLarge⟩

/-- The least capacity that no queue may have. -/
def excessive : UInt64 :=
  2305843009213693952

theorem excessive_capacities_break :
    ∃ tr σ s, Store.Run { subscriberCapacity := excessive } tr σ s ∧ s.activity = .dead ∧
      (∃ st ∈ tr, st.Oversized) ∧
      GatewayConfig.validate { state := { inputCapacity := excessive } } = .ok () ∧
      Gateway.ofConfig? { state := { inputCapacity := excessive } } = none := by
  let c : StoreConfig := { subscriberCapacity := excessive }
  let g : GatewayConfig := { state := { inputCapacity := excessive } }
  let asking : List Store.Event := .act (.ask 0 (.subscribe .all false ⟨[0]⟩)) :: Store.granting
  have valid : g.validate = .ok () := rfl
  have breaks := breaks_iff_oversized (c := c) (k := {}) (g := g) rfl rfl valid
  have ends : (Store.play? asking (Store.fresh c)).map (fun now => now.2.2.isDead) =
      some true := by decide +kernel
  obtain ⟨⟨tr, σ, s⟩, played, dead⟩ := Option.map_eq_some_iff.1 ends
  have dead : s.activity = .dead := Store.isDead_iff.1 dead
  have run : Store.Run c tr σ s := .of_play? (by decide) played
  exact ⟨tr, σ, s, run, dead, (breaks.1.2 tr σ s run).2.2.1.1 dead, valid,
    breaks.2.2.1.2 (.inl (by decide +kernel))⟩

end Telemetry
