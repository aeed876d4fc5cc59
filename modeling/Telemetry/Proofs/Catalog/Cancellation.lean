import Telemetry.Proofs.Catalog.Progress
import Telemetry.Proofs.Desk.Settlement

/-!
# The end of one subscription of a catalog

A subscription of a catalog ends as one of a store does: for good, and alone. Whoever is to strike
the subscriber off needs the lock for it, but an addition that has the lock passes over the
subscriber meanwhile and announces to all others. Only a client that gives up its addition breaks the
announcement off.

## Main definitions

* `Spares`: registers, counters and queues stay as they are.
* `Follows`: what a catalog does on account of subscriptions that ended.
* `EndsAlone`: subscriptions end for good and alone.

## Main results

* `Run.endsAlone`: so they do in every run.
-/

namespace Telemetry.Catalog

/-- Registers and counters stay, and so do the queues of all subscribers, except for some. -/
structure Spares (but : Nat → Prop) (c c' : Catalog) : Prop where
  registers : c'.registers = c.registers
  index : c'.index = c.index
  dropped : c'.roster.dropped = c.roster.dropped
  queued : ∀ id, ¬ but id → c'.roster.queued id = c.roster.queued id
  closed : ∀ id, ¬ but id → c'.roster.isClosed id = c.roster.isClosed id

/-- What a catalog does on account of subscriptions that ended: their readers go away, those who wait
for the end say so, and an addition strikes them off or passes over them. -/
inductive Follows (σ : Signals) (c : Catalog) : Event → (Nat → Prop) → Prop
  | close (id : Nat) : Follows σ c (.act (.close id)) (· = id)
  | wake (id : Nat) : Follows σ c (.act (.wake id)) (· = id)
  | strike {watcher id : Nat} (granted : c.granted? (.watcher watcher) = some (.unsubscribe id)) :
      Follows σ c (.act (.strike watcher)) (· = id)
  | turn {client : Nat} {left : List Register} {d : Delivery Register} {sub : Subscriber Register}
      {rest : List (Subscriber Register)} (holder : c.holder = some ⟨client, left, some d⟩)
      (first : d.rest = sub :: rest)
      (gone : σ.isCancelled sub.token = true ∨ c.roster.isClosed sub.id = true) :
      Follows σ c (.act (.proceed client)) (· = sub.id)
  | giveUp {client : Nat} {left : List Register} {d : Delivery Register}
      {sub : Subscriber Register} {rest : List (Subscriber Register)}
      (holder : c.holder = some ⟨client, left, some d⟩) (first : d.rest = sub :: rest) :
      Follows σ c (.act (.giveUp client)) (· = sub.id)
  | finish {client : Nat} {left : List Register} {d : Delivery Register}
      (holder : c.holder = some ⟨client, left, some d⟩) (served : d.rest = []) :
      Follows σ c (.act (.proceed client)) (· ∈ d.gone)

section Steps

variable {σ σ' : Signals} {c c' : Catalog} {e : Event} {o : Output} {but : Nat → Prop}

theorem Spares.of_roster (registers : c'.registers = c.registers) (index : c'.index = c.index)
    (same : c'.roster = c.roster) : c.Spares but c' :=
  ⟨registers, index, congrArg _ same, fun _ _ => same ▸ rfl, fun _ _ => same ▸ rfl⟩

theorem Spares.mono {more : Nat → Prop} (spares : c.Spares but c') (le : ∀ id, but id → more id) :
    c.Spares more c' :=
  { spares with
    queued := fun id other => spares.queued id fun own => other (le id own)
    closed := fun id other => spares.closed id fun own => other (le id own) }

/-- To be forgotten spares everybody but empties the roster. -/
theorem spares_forget (c : Catalog) : c.Spares but c.forget := by
  unfold forget
  split
  · exact ⟨rfl, rfl, rfl, fun id _ => Roster.queued_clear .., fun id _ => Roster.isClosed_clear ..⟩
  · exact .of_roster rfl rfl rfl

theorem Spares.trans {c'' : Catalog} (first : c.Spares but c') (second : c'.Spares but c'') :
    c.Spares but c'' where
  registers := second.registers.trans first.registers
  index := second.index.trans first.index
  dropped := second.dropped.trans first.dropped
  queued id other := (second.queued id other).trans (first.queued id other)
  closed id other := (second.closed id other).trans (first.closed id other)

theorem spares_remove (c : Catalog) (ids : List Nat) (holder : Option Addition)
    (line : List (Party × Access)) :
    c.Spares but { c with roster := c.roster.remove ids, holder, line } :=
  ⟨rfl, rfl, rfl, fun _ _ => Roster.queued_remove .., fun _ _ => Roster.isClosed_remove ..⟩

theorem roster_forget_of_going (going : c.forget.isForgotten = false) :
    c.forget.roster = c.roster := by
  rw [isForgotten_forget] at going
  rw [forget, going]
  rfl

theorem spares_close (c : Catalog) (id : Nat) : c.Spares (· = id) (c.close id) where
  registers := rfl
  index := rfl
  dropped := rfl
  queued _ differ := Roster.queued_close_of_ne differ
  closed _ differ := Roster.isClosed_close_of_ne differ

/-- What follows the end of subscriptions spares all others, and nobody else is struck off as long as
the catalog is held. -/
theorem Change.spares_of_follows (h : Change σ c e σ' c' o) (follows : Follows σ c e but) :
    σ' = σ ∧ c.Spares but c' ∧ (c'.isForgotten = false → ∀ sub, ¬ but sub.id →
      (sub ∈ c'.roster.subscribers ↔ sub ∈ c.roster.subscribers)) := by
  cases follows with
  | close id =>
    cases h
    exact ⟨rfl, spares_close c id, fun _ _ _ => .rfl⟩
  | wake id => cases h <;> exact ⟨rfl, .of_roster rfl rfl rfl, fun _ _ _ => .rfl⟩
  | strike granted =>
    cases h with
    | strike _ granted' =>
      cases granted.symm.trans granted'
      refine ⟨rfl, (c.spares_remove _ _ _).trans (spares_forget _), fun going sub other => ?_⟩
      rw [roster_forget_of_going going]
      simpa [Roster.mem_remove] using fun _ => other
  | turn holder first gone =>
    cases h with
    | pass holder' | announce holder' => cases holder.symm.trans holder'
    | finish holder' served =>
      cases holder.symm.trans holder'
      cases first.symm.trans served
    | deliver holder' served =>
      cases holder.symm.trans holder'
      rcases Roster.serve?_of_gone first gone served with ⟨-, rfl⟩ | ⟨-, rfl⟩
      · exact ⟨rfl, .of_roster rfl rfl rfl, fun _ _ _ => .rfl⟩
      · refine ⟨rfl, ⟨rfl, rfl, rfl, fun other differ => ?_, fun other _ => ?_⟩, fun _ _ _ => .rfl⟩
        · exact Roster.queued_push_of_ne differ
        · exact Roster.isClosed_push ..
  | giveUp =>
    cases h
    exact ⟨rfl, .of_roster rfl rfl rfl, fun _ _ _ => .rfl⟩
  | finish holder served =>
    cases h with
    | pass holder' | announce holder' => cases holder.symm.trans holder'
    | deliver holder' goes_on =>
      cases holder.symm.trans holder'
      obtain ⟨_, _, first⟩ := Roster.first_of_serve? goes_on
      cases first.symm.trans served
    | finish holder' served' =>
      cases holder.symm.trans holder'
      refine ⟨rfl, c.spares_remove _ _ _, fun _ sub other => ?_⟩
      simpa [Roster.mem_remove] using fun _ => other

/-- An addition passes over a subscriber that is cancelled, even if it waited for room. -/
theorem exists_act_of_cancelled {a : Addition} {d : Delivery Register} {sub : Subscriber Register}
    {rest : List (Subscriber Register)} (holder : c.holder = some a)
    (delivering : a.delivery = some d) (first : d.rest = sub :: rest)
    (cancelled : σ.isCancelled sub.token = true) :
    ∃ step, (step = .proceed a.client ∨ step = .giveUp a.client) ∧
      c.act? σ step = some ({ c with holder := some (a.passOver sub.id) }, .nothing) := by
  obtain ⟨client, left, delivery⟩ := a
  obtain rfl : delivery = some d := delivering
  cases blocked : d.blocked with
  | true =>
    refine ⟨_, .inr rfl, ?_⟩
    simp [act?, giveUp?, holder, Delivery.giveUp?, first, blocked, cancelled, Addition.passOver]
  | false =>
    refine ⟨_, .inl rfl, ?_⟩
    simp [act?, proceed?, holder, Roster.finish?, Roster.serve?, first, blocked, Roster.isGone,
      cancelled, Addition.passOver]

end Steps

section Runs

variable {config : CatalogConfig} {tr : Trace} {σ : Signals} {c : Catalog}

/-- Whoever reads a subscription that is cancelled is told that it has ended, at once. -/
theorem read?_of_isCancelled {token : Token} (cancelled : σ.isCancelled token = true) (id : Nat) :
    c.read? σ id token = some (.ended, c) := by
  rw [read?, if_pos cancelled]

/-- What is cancelled at some step of a run is so at every later step. -/
theorem Run.grows_since {before later : Trace} {st st' : Step}
    (run : Run config (before ++ st :: later) σ c) (member : st' ∈ st :: later) :
    st.signals.Grows st'.signals := by
  rcases List.mem_cons.1 member with rfl | later'
  · exact st'.signals.grows_refl
  · obtain ⟨between, rest, rfl⟩ := List.append_of_mem later'
    rw [← List.cons_append, ← List.append_assoc] at run
    obtain ⟨σ', upto, -⟩ := run.at_step
    refine upto.since (P := fun σ _ => st.signals.Grows σ) ?_ ?_
    · exact fun _ _ change => change.grows
    · exact fun _ _ _ _ _ _ _ _ _ change grown => grown.trans change.grows

/-- Subscriptions end for good and alone. -/
structure EndsAlone (tr : Trace) (σ : Signals) (c : Catalog) : Prop where
  /-- A reader that waits is told at once when its subscription is cancelled ... -/
  told : ∀ id token, σ.isCancelled token = true → c.read? σ id token = some (.ended, c)
  /-- ... and nobody reads anything from then on, whatever is queued. -/
  silent : ∀ before st later id token, tr = before ++ st :: later →
    st.signals.isCancelled token = true → ∀ st' ∈ st :: later,
      st'.event = .act (.read id token) → st'.output = .delivered .ended ∧ st'.next = st'.catalog
  /-- To fire a signal does nothing to a catalog, and what follows is for those alone that ended. -/
  fires : ∀ t, Event.effect? σ c (.fire t) = some (σ.fire t, c, .nothing)
  spares : ∀ e but σ' c' o, Follows σ c e but → e.effect? σ c = some (σ', c', o) →
    σ' = σ ∧ c.Spares but c' ∧ (c'.isForgotten = false → ∀ sub, ¬ but sub.id →
      (sub ∈ c'.roster.subscribers ↔ sub ∈ c.roster.subscribers))
  /-- An addition passes over a subscriber that is cancelled, even if it waited for room. -/
  passes : ∀ a d sub rest, c.holder = some a → a.delivery = some d → d.rest = sub :: rest →
    σ.isCancelled sub.token = true →
    ∃ step, (step = .proceed a.client ∨ step = .giveUp a.client) ∧
      c.act? σ step = some ({ c with holder := some (a.passOver sub.id) }, .nothing)
  /-- Under the blocking policy a register whose announcement was under way at some time and is over
  went once into the queue of every subscription that was there, goes on and accepts it, unless the
  client that added it gave up before. -/
  delivers : c.config.overflow = .block → ∀ before st later d, tr = before ++ st :: later →
    st.catalog.desk.delivery = some d →
    c.desk.delivery = none ∨ Trace.announced (st :: later) ≠ [] →
    ∀ p ∈ Desk.grants tr.history, p.2 < (Trace.announced before).length →
      p.1.accepts d.item = true → Desk.Live σ c.desk p.1 →
      (∃ fate, Desk.settled p.1.id ((Trace.announced before).length - 1) tr.history =
          [⟨(d.item, (Trace.announced before).length - 1), fate⟩] ∧
        (fate.isKept = true ∨ fate = .cut ∧ ∃ st' ∈ st :: later, st'.Forsakes p.1.id d.item)) ∧
      Trace.received p.1.id tr ++ c.roster.queued p.1.id =
        p.1.initial ++ Desk.kept (Trace.entries p.1.id tr)

theorem Run.delivers {before later : Trace} {st : Step} {d : Delivery Register}
    (run : Run config (before ++ st :: later) σ c) (policy : config.overflow = .block)
    (delivering : st.catalog.desk.delivery = some d)
    (finished : c.desk.delivery = none ∨ Trace.announced (st :: later) ≠ [])
    {p : Grant Register × Nat} (granted : p ∈ Desk.grants (Trace.history (before ++ st :: later)))
    (early : p.2 < (Trace.announced before).length) (accepts : p.1.accepts d.item = true)
    (live : Desk.Live σ c.desk p.1) :
    ∃ fate, Desk.settled p.1.id ((Trace.announced before).length - 1)
        (Trace.history (before ++ st :: later)) =
          [⟨(d.item, (Trace.announced before).length - 1), fate⟩] ∧
      (fate.isKept = true ∨ fate = .cut ∧ ∃ st' ∈ st :: later, st'.Forsakes p.1.id d.item) := by
  obtain ⟨_, earlier, -⟩ := run.at_step
  have first := earlier.desk
  have last := run.desk
  have split : Trace.history (before ++ st :: later) =
      Trace.history before ++ Trace.history (st :: later) := List.map_append
  rw [policy] at first last
  rw [split] at granted last ⊢
  obtain ⟨fate, once, reached⟩ :=
    first.delivered_once last delivering finished granted early accepts live
  refine ⟨fate, once, reached.imp id ?_⟩
  rintro ⟨cut, act, member, n, logged⟩
  obtain ⟨st', happened, rfl⟩ := List.mem_map.1 member
  exact ⟨cut, st', happened, (st'.cut_logged_iff p.1.id n d.item).1 ⟨_, logged, rfl, rfl⟩⟩

theorem Run.endsAlone (run : Run config tr σ c) : EndsAlone tr σ c where
  told id token cancelled := read?_of_isCancelled cancelled id
  silent := by
    rintro before st later id token rfl cancelled st' member reads
    have still := run.grows_since member _ cancelled
    obtain ⟨between, rest, split⟩ := List.append_of_mem (List.mem_append_right before member)
    rw [split] at run
    obtain ⟨_, -, happened⟩ := run.at_step
    simp only [reads, Event.effect?, act?, read?_of_isCancelled still, Option.map_some,
      Option.some.injEq, Prod.mk.injEq] at happened
    exact ⟨happened.2.2.symm, happened.2.1.symm⟩
  fires t := rfl
  spares e but σ' c' o follows happened := (change_of_effect happened).spares_of_follows follows
  passes a d sub rest holder delivering first cancelled :=
    exists_act_of_cancelled holder delivering first cancelled
  delivers := by
    rintro policy before st later d rfl delivering finished p granted early accepts live
    refine ⟨run.delivers (run.config_eq ▸ policy) delivering finished granted early accepts live, ?_⟩
    rw [← Trace.received_history]
    exact (run.desk.conveyed granted).items live.reader

end Runs

end Telemetry.Catalog
