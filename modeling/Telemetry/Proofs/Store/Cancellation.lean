import Telemetry.Proofs.Desk.Settlement
import Telemetry.Proofs.Store.Abandonment

/-!
# The end of one subscription of a store

Once a subscription is cancelled its reader gets nothing any more, whatever is queued. To fire a
signal does nothing to a store; what follows has effects on the ended subscription alone. State,
counters and all other queues stay as they are, and a delivery under way goes on to all others.

## Main definitions

* `Follows`: what a store does on account of subscriptions that ended.
* `EndsAlone`: subscriptions end for good and alone.

## Main results

* `Run.endsAlone`: so they do in every run.
-/

namespace Telemetry

namespace Store

/-- What a store does on account of subscriptions that ended: their readers go away, those who wait
for the end say so, and the owner strikes them off or passes over them. -/
inductive Follows (σ : Signals) (s : Store) : Event → (Nat → Prop) → Prop
  | close (id : Nat) : Follows σ s (.act (.close id)) (· = id)
  | wake (id : Nat) : Follows σ s (.act (.wake id)) (· = id)
  | report (id : Nat) : Follows σ s (.act (.enter (.watcher id))) (· = id)
  | disperse (id : Nat) : Follows σ s (.act (.disperse id)) (· = id)
  | strike {id : Nat} (serves : s.Serves (.unsubscribe id)) :
      Follows σ s (.act (.owner .drain)) (· = id)
  | turn {d : Delivery Value} {after : Option (Message × Nat)} {sub : Subscriber Value}
      {rest : List (Subscriber Value)} (delivering : s.activity = .delivering d after)
      (first : d.rest = sub :: rest)
      (gone : σ.isCancelled sub.token = true ∨ s.roster.isClosed sub.id = true) :
      Follows σ s (.act (.owner .deliver)) (· = sub.id)
  | giveUp {d : Delivery Value} {after : Option (Message × Nat)} {sub : Subscriber Value}
      {rest : List (Subscriber Value)} (delivering : s.activity = .delivering d after)
      (first : d.rest = sub :: rest) : Follows σ s (.act (.owner .giveUp)) (· = sub.id)
  | finish {d : Delivery Value} {after : Option (Message × Nat)}
      (delivering : s.activity = .delivering d after) (served : d.rest = []) :
      Follows σ s (.act (.owner .deliver)) (· ∈ d.gone)

section Steps

variable {σ σ' : Signals} {s s' : Store} {e : Event} {o : Output} {but : Nat → Prop}

theorem Spares.of_roster (state : s'.state = s.state) (received : s'.received = s.received)
    (applied : s'.applied = s.applied) (suppressed : s'.suppressed = s.suppressed)
    (same : s'.roster = s.roster) : s.Spares but s' :=
  ⟨state, received, applied, suppressed, congrArg _ same, fun _ _ => same ▸ rfl,
    fun _ _ => same ▸ rfl⟩

theorem Spares.mono {more : Nat → Prop} (spares : s.Spares but s') (le : ∀ id, but id → more id) :
    s.Spares more s' :=
  { spares with
    queued := fun id other => spares.queued id fun own => other (le id own)
    closed := fun id other => spares.closed id fun own => other (le id own) }

theorem spares_close (s : Store) (id : Nat) : s.Spares (· = id) (s.close id) where
  state := rfl
  received := rfl
  applied := rfl
  suppressed := rfl
  dropped := rfl
  queued _ differ := Roster.queued_close_of_ne differ
  closed _ differ := Roster.isClosed_close_of_ne differ

/-- What follows the end of subscriptions spares all others, and nobody else is struck off. -/
theorem Change.spares_of_follows (h : Change σ s e σ' s' o) (follows : Follows σ s e but) :
    σ' = σ ∧ s.Spares but s' ∧
      ∀ sub, ¬ but sub.id → (sub ∈ s'.roster.subscribers ↔ sub ∈ s.roster.subscribers) := by
  cases follows with
  | close id =>
    cases h
    exact ⟨rfl, spares_close s id, fun _ _ => .rfl⟩
  | wake | report | disperse =>
    cases h <;> exact ⟨rfl, .of_roster rfl rfl rfl rfl rfl, fun _ _ => .rfl⟩
  | strike serves =>
    cases h with
    | suppress ready first | update ready first =>
      exact absurd serves (not_serves_of_ready ready first _)
    | answer serves' | ignore serves' | grant serves' | skip serves' | die serves' =>
      cases serves_unique serves serves'
    | strike serves' =>
      cases serves_unique serves serves'
      refine ⟨rfl, ⟨rfl, rfl, rfl, rfl, rfl, fun _ _ => ?_, fun _ _ => ?_⟩, fun sub other => ?_⟩
      · exact Roster.queued_remove ..
      · exact Roster.isClosed_remove ..
      · simpa [Roster.mem_remove] using fun _ => other
  | turn delivering first gone =>
    cases h with
    | suppress ready | update ready => cases ready
    | finish delivering' served =>
      cases delivering.symm.trans delivering'
      cases first.symm.trans served
    | deliver delivering' served =>
      cases delivering.symm.trans delivering'
      rcases Roster.serve?_of_gone first gone served with ⟨-, rfl⟩ | ⟨-, rfl⟩
      · exact ⟨rfl, .of_roster rfl rfl rfl rfl rfl, fun _ _ => .rfl⟩
      · refine ⟨rfl, ⟨rfl, rfl, rfl, rfl, rfl, fun other differ => ?_, fun other _ => ?_⟩,
          fun _ _ => .rfl⟩
        · exact Roster.queued_push_of_ne differ
        · exact Roster.isClosed_push ..
  | giveUp =>
    cases h with
    | suppress ready | update ready => cases ready
    | giveUp => exact ⟨rfl, .of_roster rfl rfl rfl rfl rfl, fun _ _ => .rfl⟩
  | finish delivering served =>
    cases h with
    | suppress ready | update ready => cases ready
    | finish delivering' served' =>
      cases delivering.symm.trans delivering'
      refine ⟨rfl, ⟨rfl, rfl, rfl, rfl, rfl, fun _ _ => ?_, fun _ _ => ?_⟩, fun sub other => ?_⟩
      · exact Roster.queued_remove ..
      · exact Roster.isClosed_remove ..
      · simpa [Roster.mem_remove] using fun _ => other
    | deliver delivering' goes_on =>
      cases delivering.symm.trans delivering'
      obtain ⟨_, _, first⟩ := Roster.first_of_serve? goes_on
      cases first.symm.trans served

/-- The owner passes over a subscriber that is cancelled, even if it waited for room. -/
theorem exists_move_of_cancelled {d : Delivery Value} {after : Option (Message × Nat)}
    {sub : Subscriber Value} {rest : List (Subscriber Value)}
    (delivering : s.activity = .delivering d after) (first : d.rest = sub :: rest)
    (cancelled : σ.isCancelled sub.token = true) :
    ∃ m, s.move? σ m = some (σ, { s with activity := .delivering (d.strike sub.id) after }) := by
  cases blocked : d.blocked with
  | true =>
    refine ⟨.giveUp, ?_⟩
    simp [move?, giveUp?, delivering, Delivery.giveUp?, first, blocked, cancelled]
  | false =>
    refine ⟨.deliver, ?_⟩
    simp [move?, deliver?, delivering, Roster.finish?, Roster.serve?, first, blocked,
      Roster.isGone, cancelled]

end Steps

section Runs

variable {config : StoreConfig} {tr : Trace} {σ : Signals} {s : Store}

/-- Whoever reads a subscription that is cancelled is told that it has ended, at once. -/
theorem read?_of_isCancelled {token : Token} (cancelled : σ.isCancelled token = true) (id : Nat) :
    s.read? σ id token = some (.ended, s) := by
  rw [read?, if_pos cancelled]

/-- What is cancelled at some step of a run is so at every later step. -/
theorem Run.grows_since {before later : Trace} {st st' : Step}
    (run : Run config (before ++ st :: later) σ s) (member : st' ∈ st :: later) :
    st.signals.Grows st'.signals := by
  rcases List.mem_cons.1 member with rfl | later'
  · exact st'.signals.grows_refl
  · obtain ⟨between, rest, rfl⟩ := List.append_of_mem later'
    rw [← List.cons_append, ← List.append_assoc] at run
    obtain ⟨σ', upto, -⟩ := run.at_step
    refine upto.since (P := fun _ σ _ => st.signals.Grows σ) ?_ ?_
    · exact fun _ _ change => change.grows
    · exact fun _ _ _ _ _ _ _ _ change grown => grown.trans change.grows

/-- Subscriptions end for good and alone. -/
structure EndsAlone (tr : Trace) (σ : Signals) (s : Store) : Prop where
  /-- A reader that waits is told at once when its subscription is cancelled ... -/
  told : ∀ id token, σ.isCancelled token = true → s.read? σ id token = some (.ended, s)
  /-- ... and nobody reads anything from then on, whatever is queued. -/
  silent : ∀ before st later id token, tr = before ++ st :: later →
    st.signals.isCancelled token = true → ∀ st' ∈ st :: later,
      st'.event = .act (.read id token) → st'.output = .delivered .ended ∧ st'.next = st'.store
  /-- To fire a signal does nothing to a store, and what follows is for those alone that ended. -/
  fires : ∀ t, Event.effect? σ s (.fire t) = some (σ.fire t, s, .nothing)
  spares : ∀ e but σ' s' o, Follows σ s e but → e.effect? σ s = some (σ', s', o) →
    σ' = σ ∧ s.Spares but s' ∧
      ∀ sub, ¬ but sub.id → (sub ∈ s'.roster.subscribers ↔ sub ∈ s.roster.subscribers)
  /-- The owner passes over a subscriber that is cancelled, even if it waited for room. -/
  passes : ∀ d after sub rest, s.activity = .delivering d after → d.rest = sub :: rest →
    σ.isCancelled sub.token = true →
    ∃ m, s.move? σ m = some (σ, { s with activity := .delivering (d.strike sub.id) after })
  /-- Under the blocking policy an update whose delivery was under way at some time and is over went
  once into the queue of every subscription that was there, goes on and accepts it. -/
  delivers : s.config.overflow = .block → ∀ before st later d, tr = before ++ st :: later →
    delivery? st.store.activity = some d →
    delivery? s.activity = none ∨ Trace.updates (st :: later) ≠ [] →
    ∀ p ∈ Desk.grants (Trace.history tr), p.2 < (Trace.updates before).length →
      p.1.accepts d.item = true → Desk.Live σ s.desk p.1 →
      (∃ n, Desk.settled p.1.id ((Trace.updates before).length - 1) (Trace.history tr) =
        [⟨(d.item, (Trace.updates before).length - 1), .kept n⟩]) ∧
      Trace.received p.1.id tr ++ s.roster.queued p.1.id =
        p.1.initial ++ Desk.kept (Trace.entries p.1.id tr)

theorem Run.delivers {before later : Trace} {st : Step} {d : Delivery Value}
    (run : Run config (before ++ st :: later) σ s) (policy : config.overflow = .block)
    (delivering : delivery? st.store.activity = some d)
    (finished : delivery? s.activity = none ∨ Trace.updates (st :: later) ≠ [])
    {p : Grant Value × Nat} (granted : p ∈ Desk.grants (Trace.history (before ++ st :: later)))
    (early : p.2 < (Trace.updates before).length) (accepts : p.1.accepts d.item = true)
    (live : Desk.Live σ s.desk p.1) :
    ∃ n, Desk.settled p.1.id ((Trace.updates before).length - 1)
        (Trace.history (before ++ st :: later)) =
      [⟨(d.item, (Trace.updates before).length - 1), .kept n⟩] := by
  obtain ⟨_, earlier, -⟩ := run.at_step
  have first := earlier.desk
  have last := run.desk
  have whole := (before ++ st :: later).uncut
  rw [policy] at first last
  rw [← earlier.published] at early ⊢
  have split : Trace.history (before ++ st :: later) =
      Trace.history before ++ Trace.history (st :: later) := List.map_append
  have later_published : Desk.published (Trace.history (st :: later)) =
      Trace.updates (st :: later) := by
    have all := run.published
    rw [split, Desk.published_append, Trace.updates_append, ← earlier.published] at all
    exact List.append_cancel_left all
  rw [split] at granted last whole ⊢
  obtain ⟨fate, once, reached⟩ := first.delivered_once last delivering
    (later_published ▸ finished) granted early accepts live
  cases fate with
  | kept n => exact ⟨n, once⟩
  | lost n => simp [Fate.isKept] at reached
  | cut =>
    have entry := List.mem_of_mem_filter (once ▸ List.mem_singleton.2 rfl)
    exact absurd rfl (whole.fate_ne_cut entry)

theorem Run.endsAlone (run : Run config tr σ s) : EndsAlone tr σ s where
  told id token cancelled := read?_of_isCancelled cancelled id
  silent := by
    rintro before st later id token rfl cancelled st' member reads
    have still := run.grows_since member _ cancelled
    obtain ⟨between, rest, split⟩ := List.append_of_mem (List.mem_append_right before member)
    rw [split] at run
    obtain ⟨_, -, -, happened, -⟩ := run.at_step
    have told : st'.event.effect? st'.signals st'.store = _ := happened
    simp only [reads, Event.effect?, act?, read?_of_isCancelled still, Option.map_some,
      Option.some.injEq, Prod.mk.injEq] at told
    exact ⟨told.2.2.symm, told.2.1.symm⟩
  fires t := rfl
  spares e but σ' s' o follows happened := (change_of_effect happened).spares_of_follows follows
  passes d after sub rest delivering first cancelled :=
    exists_move_of_cancelled delivering first cancelled
  delivers := by
    rintro policy before st later d rfl delivering finished p granted early accepts live
    refine ⟨run.delivers (run.config_eq ▸ policy) delivering finished granted early accepts live, ?_⟩
    rw [← run.received]
    exact (run.desk.conveyed granted).items live.reader

end Runs

end Store

end Telemetry
