import Telemetry.Proofs.Device.Steady
import Telemetry.Proofs.Store.Abandonment
import Telemetry.Proofs.Store.Outcome
import Telemetry.Proofs.Store.Portion

/-!
# A steady device costs one change

A device reports to a store by filling in one value after the other, while other clients do as they
like. If it does not fluctuate, nobody commands it and nobody else writes to its keys, the store
takes from it one value for each register and then only repetitions. Each of the first changes the
state; the others are suppressed, in whatever order the steps of all parties come.

## Main definitions

* `Device.Feeds`: what a device and everybody else do at a store.
* `Device.CostsOneChange`: what the polls of a device come to.

## Main results

* `Feeds.filter_values`: the values at the keys of a device are those of its reports.
* `Ledger.holds_iff_of_repeats`: a repetition is suppressed, and nothing before it is.
* `Feeds.costs_one_change`: later polls leave no trace.
-/

namespace Telemetry

open scoped List
open Keyed

namespace Device

/-- A step of others than a client that fills in nothing at the keys of a device. -/
def isElsewhere (d : Device) (client : Nat) : Store.Event → Bool
  | .act (.fill c v) => c != client && !d.owns v
  | e => e.by? != some client

/-- What has happened at a store to which a device reports as one of its clients. The device is at
some call of its course, or it is gone. Everybody else does as they like, but fills in nothing at
the keys of the device. -/
inductive Feeds (d : Device) (client : Nat) (config : StoreConfig) :
    List (Call × Event) → Option (Loop × Call) → Store.Trace → Signals → Store → Prop
  | start {s : Store} (σ : Signals) (made : Store.ofConfig? config = some s) :
      Feeds d client config [] (some (Loop.start d)) [] σ s
  /-- Somebody else takes a step. -/
  | other {history : List (Call × Event)} {now : Option (Loop × Call)} {tr : Store.Trace}
      {σ σ' : Signals} {s s' : Store} {o : Store.Output}
      (feeds : Feeds d client config history now tr σ s) (e : Store.Event)
      (permitted : e.Permitted s) (happened : e.effect? σ s = some (σ', s', o))
      (elsewhere : d.isElsewhere client e = true) :
      Feeds d client config history now (tr ++ [⟨σ, s, e, o, s'⟩]) σ' s'
  /-- The device begins to fill in what it reports ... -/
  | begins {history : List (Call × Event)} {l : Loop} {v : Value} {tr : Store.Trace}
      {σ σ' : Signals} {s s' : Store} {o : Store.Output}
      (feeds : Feeds d client config history (some (l, .report v)) tr σ s)
      (permitted : Store.Event.Permitted s (.act (.fill client v)))
      (happened : Store.Event.effect? σ s (.act (.fill client v)) = some (σ', s', o)) :
      Feeds d client config history (some (l, .report v))
        (tr ++ [⟨σ, s, .act (.fill client v), o, s'⟩]) σ' s'
  /-- ... and goes on once that has returned. -/
  | returns {history : List (Call × Event)} {l l' : Loop} {call' : Call} {v : Value}
      {tr : Store.Trace} {σ σ' : Signals} {s s' : Store} {reply : Reply}
      (feeds : Feeds d client config history (some (l, .report v)) tr σ s)
      (begun : tr.Begun client (.act (.fill client v)))
      (happened : Store.Event.effect? σ s (.act (.resolve client)) =
        some (σ', s', .result (.ok reply)))
      (noise : String → Float) (stamp : Timestamp) (now : Nat)
      (went : l.resume noise stamp now .done = (l', .ok call')) :
      Feeds d client config (history ++ [(.report v, .done)]) (some (l', call'))
        (tr ++ [⟨σ, s, .act (.resolve client), .result (.ok reply), s'⟩]) σ' s'
  /-- A call of the device to its catalog or for its commands ends, or it is time to poll. -/
  | told {history : List (Call × Event)} {l l' : Loop} {call call' : Call} {e : Event}
      {tr : Store.Trace} {σ : Signals} {s : Store}
      (feeds : Feeds d client config history (some (l, call)) tr σ s)
      (silent : call.reported? = none) (answers : e.Answers d.name call)
      (noise : String → Float) (stamp : Timestamp) (now : Nat)
      (went : l.resume noise stamp now e = (l', .ok call')) :
      Feeds d client config (history ++ [(call, e)]) (some (l', call')) tr σ s
  /-- The device is gone, at any moment or because its report failed. -/
  | leaves {history : List (Call × Event)} {l : Loop} {call : Call} {tr : Store.Trace}
      {σ σ' : Signals} {s s' : Store} {o : Store.Output}
      (feeds : Feeds d client config history (some (l, call)) tr σ s) (e : Store.Event)
      (ends : e = .act (.abandon client) ∨ e = .act (.resolve client))
      (happened : e.effect? σ s = some (σ', s', o)) (failed : ∀ reply, o ≠ .result (.ok reply)) :
      Feeds d client config history none (tr ++ [⟨σ, s, e, o, s'⟩]) σ' s'

section Feeding

variable {d : Device} {client : Nat} {config : StoreConfig} {history : List (Call × Event)}
  {now : Option (Loop × Call)} {tr : Store.Trace} {σ : Signals} {s : Store} {call : Call}
  {e : Event} {v : Value}

theorem Feeds.run (feeds : d.Feeds client config history now tr σ s) :
    Store.Run config tr σ s := by
  induction feeds with
  | start σ made => exact .start σ made
  | other _ e permitted happened _ ih => exact ih.step e permitted happened
  | begins _ permitted happened ih => exact ih.step _ permitted happened
  | returns _ _ happened _ _ _ _ ih => exact ih.step _ trivial happened
  | told _ _ _ _ _ _ _ ih => exact ih
  | leaves _ e ends happened _ ih =>
    refine ih.step e ?_ happened
    rcases ends with rfl | rfl <;> exact trivial

/-- Everybody else can take several steps in turn. -/
theorem Feeds.others (feeds : d.Feeds client config history now tr σ s)
    (events : List Store.Event) {later : Store.Trace × Signals × Store}
    (played : Store.play? events (tr, σ, s) = some later)
    (elsewhere : events.all (d.isElsewhere client) = true) :
    d.Feeds client config history now later.1 later.2.1 later.2.2 := by
  induction events generalizing tr σ s with
  | nil =>
    cases played
    exact feeds
  | cons e rest ih =>
    rw [List.all_cons, Bool.and_eq_true] at elsewhere
    unfold Store.play? at played
    split at played
    next permitted =>
      obtain ⟨⟨σ₁, s₁, o⟩, happened, played⟩ := Option.bind_eq_some_iff.1 played
      exact ih (feeds.other e permitted happened elsewhere.1) played elsewhere.2
    · cases played

theorem by_ne_of_isElsewhere {e : Store.Event} (elsewhere : d.isElsewhere client e = true) :
    e.by? ≠ some client := by
  unfold isElsewhere at elsewhere
  split at elsewhere
  · simp_all [Store.Event.by?]
  · simpa using elsewhere

/-- A device follows its course until it is gone. -/
theorem Feeds.course (feeds : d.Feeds client config history now tr σ s) :
    ∃ l call, d.Course history l call ∧ ∀ at_call, now = some at_call → at_call = (l, call) := by
  induction feeds with
  | start => exact ⟨_, _, .start, by rintro _ ⟨⟩; rfl⟩
  | other _ _ _ _ _ ih => exact ih
  | begins _ _ _ ih => exact ih
  | returns _ _ _ noise stamp now went ih =>
    obtain ⟨l, call, course, same⟩ := ih
    cases same _ rfl
    exact ⟨_, _, course.step noise stamp now (.stored _) went, by rintro _ ⟨⟩; rfl⟩
  | told _ _ answers noise stamp now went ih =>
    obtain ⟨l, call, course, same⟩ := ih
    cases same _ rfl
    exact ⟨_, _, course.step noise stamp now answers went, by rintro _ ⟨⟩; rfl⟩
  | leaves _ _ _ _ _ ih =>
    obtain ⟨l, call, course, -⟩ := ih
    exact ⟨l, call, course, by rintro _ ⟨⟩⟩

theorem stored_concat :
    stored (history ++ [(call, e)]) = stored history ++ call.reported?.toList := by
  rw [stored, List.map_append, List.filterMap_append]
  cases call <;> rfl

/-- Nothing enters when a client gives up or its fill fails. -/
theorem entered_of_leaves {client : Nat} {σ' : Signals} {s' : Store} {e : Store.Event}
    {o : Store.Output} (ends : e = .act (.abandon client) ∨ e = .act (.resolve client))
    (happened : e.effect? σ s = some (σ', s', o)) (failed : ∀ reply, o ≠ .result (.ok reply)) :
    Store.Step.entered ⟨σ, s, e, o, s'⟩ = [] := by
  rcases ends with rfl | rfl
  · rfl
  · cases Store.change_of_effect happened with
    | collect => exact absurd rfl (failed _)
    | accept => exact absurd rfl (failed _)
    | refuse _ _ ended => exact Store.entered_of_over ended

/-- The values of a device enter the input queue as it reports them. -/
theorem Feeds.entered (feeds : d.Feeds client config history now tr σ s) :
    Store.valuesOf client tr.entered = stored history := by
  induction feeds with
  | start => rfl
  | other _ e _ _ elsewhere ih =>
    rw [Store.Trace.entered_append, Store.Trace.entered_singleton, Store.valuesOf_append, ih,
      Store.valuesOf_entered_of_quiet (by_ne_of_isElsewhere elsewhere), List.append_nil]
  | begins _ _ _ ih =>
    rw [Store.Trace.entered_append, Store.Trace.entered_singleton, Store.valuesOf_append, ih]
    exact List.append_nil _
  | @returns _ _ _ _ v _ _ _ _ _ _ feeds begun happened noise stamp now went ih =>
    have done := (feeds.returns begun happened noise stamp now went).run.fill_returns begun rfl rfl
    rw [Store.Trace.entered_append, Store.Trace.entered_singleton, Store.valuesOf_append, ih, done,
      Store.valuesOf_singleton, if_pos rfl, stored_concat]
    rfl
  | told _ silent _ _ _ _ _ ih =>
    rw [ih, stored_concat, silent, Option.toList_none, List.append_nil]
  | leaves _ e ends happened failed ih =>
    rw [Store.Trace.entered_append, Store.Trace.entered_singleton, Store.valuesOf_append, ih,
      entered_of_leaves ends happened failed]
    exact List.append_nil _

/-- Every step is taken by the device, or it is a step of others. -/
theorem Feeds.steps (feeds : d.Feeds client config history now tr σ s) :
    ∀ st ∈ tr, st.event.by? = some client ∨ d.isElsewhere client st.event = true := by
  induction feeds with
  | start => exact List.forall_mem_nil _
  | told _ _ _ _ _ _ _ ih => exact ih
  | other _ _ _ _ elsewhere ih =>
    exact List.forall_mem_append.2 ⟨ih, List.forall_mem_singleton.2 (.inr elsewhere)⟩
  | begins _ _ _ ih => exact List.forall_mem_append.2 ⟨ih, List.forall_mem_singleton.2 (.inl rfl)⟩
  | returns _ _ _ _ _ _ _ ih =>
    exact List.forall_mem_append.2 ⟨ih, List.forall_mem_singleton.2 (.inl rfl)⟩
  | leaves _ _ ends _ _ ih =>
    refine List.forall_mem_append.2 ⟨ih, List.forall_mem_singleton.2 (.inl ?_)⟩
    rcases ends with rfl | rfl <;> rfl

/-- Nobody else fills in anything at the keys of a device. -/
theorem Feeds.filled_elsewhere (feeds : d.Feeds client config history now tr σ s)
    {st : Store.Step} {c : Nat} (happened : st ∈ tr) (fills : st.event = .act (.fill c v))
    (other : c ≠ client) : d.owns v = false := by
  rcases feeds.steps st happened with own | elsewhere
  · rw [fills] at own
    exact absurd (Option.some.inj own) other
  · rw [fills] at elsewhere
    simpa [isElsewhere, other] using elsewhere

theorem event_of_filled {st : Store.Step} {c : Nat} (fills : (c, v) ∈ st.filled) :
    st.event = .act (.fill c v) := by
  unfold Store.Step.filled at fills
  split at fills
  next event =>
    cases List.mem_singleton.1 fills
    exact event
  next => cases fills

/-- The values at the keys of a device that enter the input queue are those of its reports. -/
theorem Feeds.filter_values (feeds : d.Feeds client config history now tr σ s)
    (owned : ∀ v ∈ stored history, v.key ∈ d.keys) :
    tr.values.filter d.owns = stored history := by
  have own (w : Nat × Value) (member : w ∈ tr.entered) : d.owns w.2 = (w.1 == client) := by
    have of_client : w.2 ∈ Store.valuesOf w.1 tr.entered :=
      List.mem_map.2 ⟨w, List.mem_filter.2 ⟨member, beq_self_eq_true _⟩, rfl⟩
    by_cases same : w.1 = client
    · rw [same, feeds.entered] at of_client
      rw [same, beq_self_eq_true]
      exact owns_iff.2 (owned w.2 of_client)
    · -- What somebody else enters they have filled in, so it is elsewhere.
      have filled := (feeds.run.filled_in_order w.1).subset of_client
      obtain ⟨⟨c, v⟩, member, value⟩ := List.mem_map.1 filled
      obtain ⟨there, by_client⟩ := List.mem_filter.1 member
      obtain ⟨st, happened, fills⟩ := List.mem_flatMap.1 there
      obtain rfl : c = w.1 := beq_iff_eq.1 by_client
      rw [beq_eq_false_iff_ne.2 same, ← value]
      exact feeds.filled_elsewhere happened (event_of_filled fills) same
  calc tr.values.filter d.owns
      = (tr.entered.filter fun w => d.owns w.2).map Prod.snd := List.filter_map
    _ = Store.valuesOf client tr.entered := by rw [List.filter_congr own]; rfl
    _ = stored history := feeds.entered

end Feeding

end Device

/-! ## Suppression -/

namespace Ledger

variable {d : Device} {values : List Value} {v : Value}

theorem filter_concat_of_owns (own : d.owns v = true) :
    (values ++ [v]).filter d.owns = values.filter d.owns ++ [v] := by
  rw [List.filter_append, List.filter_cons_of_pos own, List.filter_nil]

/-- When the store has one value for each register of a device, a repetition is suppressed. No value
is before. -/
theorem holds_iff_of_repeats (repeats : d.Repeats ((values ++ [v]).filter d.owns))
    (own : d.owns v = true) :
    (ofValues values).holds v = true ↔ d.keys.length ≤ (values.filter d.owns).length := by
  rw [filter_concat_of_owns own] at repeats
  rw [holds_ofValues, Option.any_eq_true]
  constructor
  · -- Among the first values no key occurs twice.
    rintro ⟨c, last, -⟩
    by_contra few
    obtain ⟨member, at_key⟩ := mem_under.1 (List.mem_of_getLast? last)
    have first := repeats.first
    rw [List.take_of_length_le (by simp; omega), List.map_append] at first
    have distinct := (Device.nodup_keys d).sublist first.sublist
    have earlier : c ∈ values.filter d.owns :=
      List.mem_filter.2 ⟨member, by rw [Device.owns, at_key]; exact own⟩
    exact List.disjoint_of_nodup_append distinct (List.mem_map_of_mem earlier) (by simp [at_key])
  · intro many
    have first := repeats.first
    rw [List.take_append_of_le_length many] at first
    have whole : ((values.filter d.owns).take d.keys.length).map Value.key = d.keys :=
      first.eq_of_length (by simp [many])
    obtain ⟨w, member, at_key⟩ := List.mem_map.1 (whole ▸ Device.owns_iff.1 own)
    have there := List.mem_of_mem_filter (List.mem_of_mem_take member)
    obtain ⟨c, last, filled, same_key⟩ := exists_getLast?_under (mem_under.2 ⟨there, at_key⟩)
    have own' : c ∈ values.filter d.owns :=
      List.mem_filter.2 ⟨filled, by rw [Device.owns, same_key]; exact own⟩
    exact ⟨c, last, repeats.same c (List.mem_append_left _ own') v (by simp) same_key⟩

/-- The updates at the keys of a device are the first values there, one for each register. -/
theorem filter_updates_of_repeats (repeats : d.Repeats (values.filter d.owns)) :
    (ofValues values).updates.filter d.owns = (values.filter d.owns).take d.keys.length := by
  induction values using List.reverseRecOn with
  | nil => exact List.take_nil.symm
  | append_singleton values v ih =>
    have earlier := ih (repeats.of_le ((List.prefix_append values [v]).filter d.owns))
    rw [ofValues_concat, add]
    cases own : d.owns v with
    | false =>
      rw [List.filter_append, List.filter_cons_of_neg (by simp [own]), List.filter_nil,
        List.append_nil, ← earlier]
      split
      · rfl
      · simp [own]
    | true =>
      have held := holds_iff_of_repeats repeats own
      rw [filter_concat_of_owns own]
      split
      next old =>
        rw [List.take_append_of_le_length (held.1 old)]
        exact earlier
      next new =>
        have few : (values.filter d.owns).length < d.keys.length :=
          Nat.lt_of_not_le fun many => new (held.2 many)
        rw [filter_concat_of_owns own, earlier, List.take_of_length_le few.le,
          List.take_of_length_le (by simp; omega)]

end Ledger

namespace Device

/-- Between two moments of a run nothing happens at the keys of a device. -/
structure Untouched (d : Device) (before later : Store.Trace) (s s' : Store) : Prop where
  /-- What the state has at the keys of the device stays there, with its time. -/
  state : ∀ k ∈ d.keys, s'.state.find? k = s.state.find? k
  /-- The counter of updates grows by values at other keys only. -/
  applied : s'.applied = s.applied + later.updates.length ∧ ∀ v ∈ later.updates, d.owns v = false
  /-- No subscriber is sent a value of the device, unless a delivery of one is under way. -/
  sent : (∀ x, Store.delivery? s.activity = some x → d.owns x.item = false) →
    ∀ id, (Store.Trace.entries id (before ++ later)).filter (fun entry => d.owns entry.update.1) =
      (before.entries id).filter fun entry => d.owns entry.update.1

/-- What the polls of a device come to at a store: each register costs one change. -/
structure CostsOneChange (d : Device) (config : StoreConfig) (history : List (Call × Event))
    (tr : Store.Trace) (s : Store) : Prop where
  /-- The values at the keys of the device are taken as they were reported ... -/
  in_order : tr.taken.filter d.owns <+: stored history
  /-- ... and when the second poll begins, one was reported for each register. -/
  first_poll : ∀ before due after, history = before ++ (.await due, .tick) :: after →
    polls before = 1 → (stored before).length = d.registers.length
  /-- These change the state ... -/
  changes : tr.updates.filter d.owns = (tr.taken.filter d.owns).take d.registers.length
  /-- ... each at a key of its own ... -/
  one_each : (tr.updates.filter d.owns).map Value.key <+: d.keys
  /-- ... all that are taken later are suppressed ... -/
  suppresses : ∀ (before : Store.Trace) st later v, tr = before ++ st :: later → v ∈ st.taken →
    d.owns v = true → d.registers.length ≤ (before.taken.filter d.owns).length →
    st.store.holds v = true
  /-- ... and leave no trace. -/
  leaves_no_trace : ∀ (before : Store.Trace) later σ₁ s₁, tr = before ++ later →
    Store.Run config before σ₁ s₁ → d.registers.length ≤ (before.taken.filter d.owns).length →
    d.Untouched before later s₁ s

variable {d : Device} {client : Nat} {config : StoreConfig} {history : List (Call × Event)}
  {now : Option (Loop × Call)} {tr : Store.Trace} {σ : Signals} {s : Store}

theorem uncommanded_of_append {before after : List (Call × Event)}
    (uncommanded : commands (before ++ after) = []) : commands before = [] := by
  rw [commands, List.map_append, List.filterMap_append] at uncommanded
  exact (List.append_eq_nil_iff.1 uncommanded).1

/-- A value of a device is suppressed once there was one for each of its registers. -/
theorem holds_of_length_le {before later : Store.Trace} {st : Store.Step} {v : Value}
    (run : Store.Run config (before ++ st :: later) σ s)
    (repeats : d.Repeats ((Store.Trace.taken (before ++ st :: later)).filter d.owns))
    (taken : v ∈ st.taken) (own : d.owns v = true)
    (polled : d.keys.length ≤ (before.taken.filter d.owns).length) : st.store.holds v = true := by
  obtain ⟨_, earlier, -⟩ := run.at_step
  have begins : (before.taken ++ [v]).filter d.owns <+:
      (Store.Trace.taken (before ++ st :: later)).filter d.owns := by
    refine List.IsPrefix.filter d.owns ?_
    rw [← Store.Step.taken_eq_of_mem taken, List.append_cons, Store.Trace.taken_append,
      Store.Trace.taken_append, Store.Trace.taken_singleton]
    exact List.prefix_append _ _
  rw [Store.holds, earlier.keeps.1.state]
  exact (Ledger.holds_iff_of_repeats (repeats.of_le begins) own).2 polled

/-- No later update is at a key of a device once there was one for each of its registers. -/
theorem quiet_of_length_le {before later : Store.Trace}
    (run : Store.Run config (before ++ later) σ s)
    (repeats : d.Repeats ((before ++ later).taken.filter d.owns))
    (polled : d.keys.length ≤ (before.taken.filter d.owns).length) :
    ∀ v ∈ later.updates, d.owns v = false := by
  have all := Ledger.filter_updates_of_repeats repeats
  obtain ⟨_, _, earlier⟩ := run.of_append
  rw [Store.Trace.taken_append, List.filter_append] at repeats
  have first := Ledger.filter_updates_of_repeats (repeats.of_le (List.prefix_append _ _))
  rw [run.keeps.2, Store.Trace.updates_append, List.filter_append, ← earlier.keeps.2, first,
    Store.Trace.taken_append, List.filter_append, List.take_append_of_le_length polled] at all
  simpa using all

/-- Later polls of a device that does not fluctuate leave no trace, as long as nobody commands it
and nobody else writes to its keys. -/
theorem Feeds.costs_one_change (feeds : d.Feeds client config history now tr σ s)
    (steady : d.variance ≤ 0.0) (uncommanded : commands history = []) :
    d.CostsOneChange config history tr s := by
  obtain ⟨l, call, course, -⟩ := feeds.course
  have run := feeds.run
  have reported := course.repeats steady uncommanded
  have stored_le : stored history <+: reports history call := by
    rw [reports_eq]
    exact List.prefix_append _ _
  have in_order : tr.taken.filter d.owns <+: stored history := by
    rw [← feeds.filter_values fun v member => reported.owned v (stored_le.subset member)]
    exact run.taken_le_values.filter d.owns
  have repeats := reported.of_le (in_order.trans stored_le)
  have count : d.registers.length = d.keys.length := (length_keys d).symm
  have changes : tr.updates.filter d.owns = (tr.taken.filter d.owns).take d.registers.length := by
    rw [← run.keeps.2, count]
    exact Ledger.filter_updates_of_repeats repeats
  refine ⟨in_order, ?_, changes, ?_, ?_, ?_⟩
  · rintro before due after rfl second
    exact course.length_stored steady (uncommanded_of_append uncommanded) second
  · rw [changes, count]
    exact repeats.first
  · rintro before st later v rfl taken own polled
    exact holds_of_length_le run repeats taken own (count ▸ polled)
  · rintro before later σ₁ s₁ rfl earlier polled
    have quiet := quiet_of_length_le run repeats (count ▸ polled)
    refine ⟨?_, ⟨run.applied_since earlier, quiet⟩, ?_⟩
    · intro k own
      refine run.find?_since earlier fun v updated at_key => ?_
      exact absurd (owns_iff.2 (at_key ▸ own)) (by simp [quiet v updated])
    · intro idle id
      exact (run.entries_since_quiet earlier idle quiet).2

/-- The owner takes a value, and nobody is there to get it. -/
def applies : List Store.Event :=
  [.act (.owner .takeValue), .act (.owner .deliver)]

/-- A relay is polled twice, and in between a meter fills in its serial number. The switch, the load
and the serial number are changes, and the second load is suppressed. -/
theorem second_load_suppressed :
    ∃ history now tr σ s, steadyRelay.Feeds 7 {} history now tr σ s ∧ polls history = 2 ∧
      (tr.taken.filter steadyRelay.owns).length = 3 ∧ s.applied = 3 ∧ s.suppressed = 1 ∧
      steadyRelay.CostsOneChange {} history tr s := by
  have begins : steadyRelay.Feeds 7 {} [] (some (Loop.start steadyRelay)) [] {} _ := .start {} rfl
  have introduced := begins.told rfl (.announced _) (fun _ => 0) ⟨0, 0⟩ 0 rfl
    |>.begins (by decide) rfl |>.returns (Store.Trace.begun_snoc rfl) rfl (fun _ => 0) ⟨0, 0⟩ 0 rfl
    |>.told rfl .heard (fun _ => 0) ⟨0, 0⟩ 0 rfl |>.others applies rfl rfl
  have polled := introduced.told rfl (.tick _) (fun _ => 0) ⟨1, 0⟩ 0 rfl
    |>.begins (by decide) rfl |>.returns (Store.Trace.begun_snoc rfl) rfl (fun _ => 0) ⟨1, 0⟩ 0 rfl
    |>.others applies rfl rfl |>.others (Store.applying (Store.serial "A1")) rfl rfl
  have again := polled.told rfl (.tick _) (fun _ => 0) ⟨2, 0⟩ 0 rfl
    |>.begins (by decide) rfl |>.returns (Store.Trace.begun_snoc rfl) rfl (fun _ => 0) ⟨2, 0⟩ 0 rfl
    |>.other (.act (.owner .takeValue)) trivial rfl rfl
  exact ⟨_, _, _, _, _, again, rfl, rfl, rfl, rfl, again.costs_one_change (by decide) rfl⟩

end Device

end Telemetry
