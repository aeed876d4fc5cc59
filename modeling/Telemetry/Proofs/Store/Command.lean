import Telemetry.Proofs.Store.State
import Telemetry.Proofs.Store.Subscription

/-!
# Commands that wait

In a store of commands, a value is a command that somebody wants carried out. Whoever carries it out
fills nothing at its key. So a command waits as long as nothing is filled at its key: it is taken
back by the note on any command at the key, an older one that is noted only now included.

## Main definitions

* `Order`: a command, or the note that it was carried out.
* `Pending`: which commands are listed for a device.

## Main results

* `Run.pending_until_consumed`: what a store lists and what it replays to a device.
-/

namespace Telemetry

open Keyed

/-- What is ordered at a store of commands. -/
inductive Order
  /-- A command is to be carried out. -/
  | submit (command : Value)
  /-- A command was carried out. -/
  | consume (command : Value) (now : Timestamp)

namespace Order

/-- What is filled for an order. -/
def value : Order → Value
  | submit command => command
  | consume command now => command.toNull now

def key (o : Order) : Key :=
  o.value.key

@[simp] theorem key_submit (command : Value) : (submit command).key = command.key :=
  rfl

@[simp] theorem key_consume (command : Value) (now : Timestamp) :
    (consume command now).key = command.key :=
  rfl

theorem eq_submit {o : Order} (there : o.value.isNull = false) : o = .submit o.value := by
  cases o with
  | submit command => rfl
  | consume command now => cases there

theorem under_value (k : Key) (orders : List Order) :
    under Value.key k (orders.map value) = (under key k orders).map value :=
  List.filter_map

end Order

/-- A command is the last one that was submitted at its key, and `after` was ordered since. -/
def LastSubmitted (orders : List Order) (c : Value) (after : List Order) : Prop :=
  ∃ before, orders = before ++ .submit c :: after ∧ ∀ d, .submit d ∈ after → d.key ≠ c.key

/-- The commands that are listed for a device after some orders. There is one for each key at which
the last submitted command is for the device, unless any command at the key was noted since. -/
structure Pending (orders : List Order) (device : String) (listed : List Value) : Prop where
  ascending : listed.Pairwise fun v w => compare v.key w.key = .lt
  listed_iff : ∀ c after, LastSubmitted orders c after →
    (ValueFilter.commandsFor device).accepts c = true →
    ((∃ v ∈ listed, v.same c = true) ↔ ∀ d now, .consume d now ∈ after → d.key ≠ c.key)
  submitted : ∀ v ∈ listed, .submit v ∈ orders ∧
    ∃ c after, LastSubmitted orders c after ∧
      (ValueFilter.commandsFor device).accepts c = true ∧ v.same c = true

namespace ValueFilter

variable {device : String} {v w : Value}

theorem commandsFor_accepts : (commandsFor device).accepts v = true ↔
    v.device = device ∧ v.register.writable = true ∧ v.isNull = false := by
  simp [commandsFor, accepts, and_assoc]

/-- The same readings wait as commands. -/
theorem commandsFor_of_same (same : v.same w = true) :
    (commandsFor device).accepts v = (commandsFor device).accepts w := by
  obtain ⟨-, devices, registers⟩ := Value.same_iff.1 same
  have nulls := Value.isNull_of_same same
  grind [commandsFor_accepts]

end ValueFilter

namespace Store

theorem mem_snapshot {s : Store} {filter : ValueFilter} {v : Value} :
    v ∈ s.snapshot filter ↔ s.state.find? v.key = some v ∧ filter.accepts v = true := by
  rw [snapshot, List.mem_filter, find?_eq_some]
  simp

section Orders

variable {config : StoreConfig} {tr : Trace} {σ : Signals} {s : Store} {orders : List Order}
  {device : String} {c v : Value} {o : Order} {after : List Order} {k : Key}

/-- The state has the same reading as the last order at a key. -/
theorem Run.find?_of_last_order (run : Run config tr σ s)
    (taken : orders.map Order.value = tr.taken)
    (last : (under Order.key k orders).getLast? = some o) :
    ∃ v, s.state.find? k = some v ∧ v.same o.value = true := by
  rw [run.keeps.1.state]
  apply Ledger.find?_of_last
  rw [← taken, Order.under_value, List.getLast?_map, last]
  rfl

/-- A value that is there was taken at some moment. -/
theorem Run.mem_taken (run : Run config tr σ s) (found : s.state.find? k = some v) :
    v ∈ tr.taken := by
  rw [run.keeps.1.state] at found
  obtain ⟨-, before, after, split, -⟩ := Ledger.run_of_find? found
  rw [split]
  simp

/-- A command is there if nothing was ordered at its key since. -/
theorem Run.listed_of_quiet (run : Run config tr σ s) (taken : orders.map Order.value = tr.taken)
    (last : LastSubmitted orders c after)
    (accepts : (ValueFilter.commandsFor device).accepts c = true)
    (quiet : ∀ d now, .consume d now ∈ after → d.key ≠ c.key) :
    ∃ v ∈ s.snapshot (.commandsFor device), v.same c = true := by
  obtain ⟨before, rfl, newest⟩ := last
  have none_since : under Order.key c.key after = [] := by
    refine List.eq_nil_iff_forall_not_mem.2 fun o member => ?_
    obtain ⟨member, here⟩ := mem_under.1 member
    cases o with
    | submit d => exact newest d member here
    | consume d now => exact quiet d now member here
  have last : (under Order.key c.key (before ++ .submit c :: after)).getLast? =
      some (.submit c) := by
    rw [List.append_cons, under_append, none_since]
    simp [under_singleton]
  obtain ⟨v, found, same⟩ := run.find?_of_last_order taken last
  refine ⟨v, mem_snapshot.2 ⟨?_, ?_⟩, same⟩
  · rw [Value.key_of_same same]
    exact found
  · rw [ValueFilter.commandsFor_of_same same]
    exact accepts

/-- Nothing is there after a note on a command at the key. -/
theorem Run.quiet_of_listed (run : Run config tr σ s) (taken : orders.map Order.value = tr.taken)
    (last : LastSubmitted orders c after) (listed : v ∈ s.snapshot (.commandsFor device))
    (same : v.same c = true) :
    ∀ d now, .consume d now ∈ after → d.key ≠ c.key := by
  intro d now member here
  obtain ⟨before, rfl, newest⟩ := last
  obtain ⟨found, accepts⟩ := mem_snapshot.1 listed
  have noted : Order.consume d now ∈ under Order.key c.key after := mem_under.2 ⟨member, here⟩
  obtain ⟨o, last, member, here⟩ := exists_getLast?_under noted
  have whole : (under Order.key c.key (before ++ .submit c :: after)).getLast? = some o := by
    rw [List.append_cons, under_append]
    simp [last]
  obtain ⟨w, there, same'⟩ := run.find?_of_last_order taken whole
  rw [Value.key_of_same same] at found
  obtain rfl : v = w := Option.some.inj (found.symm.trans there)
  have filled := Value.isNull_of_same same'
  rw [(ValueFilter.commandsFor_accepts.1 accepts).2.2] at filled
  -- What stands last at the key is no note, so it is a newer command.
  rw [Order.eq_submit filled.symm] at member here
  exact newest _ member here

/-- Whatever is listed was submitted, and it is the same as the last command at its key. -/
theorem Run.submitted_of_listed (run : Run config tr σ s)
    (taken : orders.map Order.value = tr.taken)
    (listed : v ∈ s.snapshot (.commandsFor device)) :
    .submit v ∈ orders ∧ ∃ c after, LastSubmitted orders c after ∧
      (ValueFilter.commandsFor device).accepts c = true ∧ v.same c = true := by
  obtain ⟨found, accepts⟩ := mem_snapshot.1 listed
  have filled := (ValueFilter.commandsFor_accepts.1 accepts).2.2
  have member := run.mem_taken found
  rw [← taken] at member
  obtain ⟨o, ordered, rfl⟩ := List.mem_map.1 member
  refine ⟨Order.eq_submit filled ▸ ordered, ?_⟩
  have here : o ∈ under Order.key o.value.key orders := mem_under.2 ⟨ordered, rfl⟩
  obtain ⟨u, last, -, -⟩ := exists_getLast?_under here
  obtain ⟨w, there, same⟩ := run.find?_of_last_order taken last
  obtain rfl : o.value = w := Option.some.inj (found.symm.trans there)
  rw [Value.isNull_of_same same] at filled
  obtain ⟨before, after, rfl, none_since⟩ := exists_of_getLast?_under last
  rw [Order.eq_submit filled] at last ⊢
  refine ⟨u.value, after, ⟨before, rfl, fun d member at_key => ?_⟩, ?_, same⟩
  · have later : Order.submit d ∈ under Order.key o.value.key after :=
      mem_under.2 ⟨member, at_key.trans (Value.key_of_same same).symm⟩
    rw [none_since] at later
    cases later
  · rw [← ValueFilter.commandsFor_of_same same]
    exact accepts

theorem Run.pending (run : Run config tr σ s) (taken : orders.map Order.value = tr.taken)
    (device : String) : Pending orders device (s.snapshot (.commandsFor device)) where
  ascending := ascending_replayOf s _ true
  listed_iff := by
    intro c after last accepts
    constructor
    · rintro ⟨v, listed, same⟩
      exact run.quiet_of_listed taken last listed same
    · intro quiet
      exact run.listed_of_quiet taken last accepts quiet
  submitted := by
    intro v listed
    exact run.submitted_of_listed taken listed

/-- At any moment, the commands that are listed for a device, in ascending order of keys, are those
that were submitted last at their keys, up to sameness, and at whose keys no command was noted
since. This is what a client gets that asks for them, and what is replayed to a device that
subscribes. -/
theorem Run.pending_until_consumed (run : Run config tr σ s)
    (taken : orders.map Order.value = tr.taken) (device : String) :
    Pending orders device (s.snapshot (.commandsFor device)) ∧
      ∀ st σ' s', Run config (tr ++ [st]) σ' s' →
        (∀ client reply, st.Answers client (.snapshot (.commandsFor device)) reply →
          ∃ listed, reply = .values listed ∧ Pending orders device listed) ∧
        ∀ client id token,
          st.Answers client (.subscribe (.commandsFor device) true token) (.subscribed id token) →
          Pending orders device (st.next.roster.queued id) := by
  refine ⟨run.pending taken device, fun st σ' s' next => ⟨?_, ?_⟩⟩
  · intro client reply answers
    cases answers.gives
    exact ⟨_, rfl, next.last.1.pending taken device⟩
  · intro client id token answers
    obtain ⟨is, enrolled⟩ := answers.gives
    cases is
    have fresh : st.store.roster.outbox? st.store.roster.nextId = none :=
      next.last.1.desk.registered.fresh
    rw [enrolled, Roster.queued_enroll fresh]
    exact next.last.1.pending taken device

end Orders

/-- A command to a relay. -/
def switch (index : Int32) : Value where
  device := "relay"
  register := { category := "Control", name := "switch", kind := .enumeration, writable := true }
  payload := .enumeration index
  time := ⟨0, 0⟩

/-- The relay is to be switched on, then off, and only then it is noted that it is on. -/
def onThenOff : List Order :=
  [.submit (switch 1), .submit (switch 0), .consume (switch 1) ⟨0, 0⟩]

theorem newer_command_lost :
    ∃ tr σ s, Run {} tr σ s ∧ onThenOff.map Order.value = tr.taken ∧
      Pending onThenOff "relay" (s.snapshot (.commandsFor "relay")) ∧
      s.snapshot (.commandsFor "relay") = [] := by
  have ends : (play? (onThenOff.flatMap fun o => applying o.value) (fresh {})).map (fun now =>
      (now.1.taken, now.2.2.snapshot (.commandsFor "relay"))) =
        some (onThenOff.map Order.value, []) := rfl
  obtain ⟨⟨tr, σ, s⟩, played, ends⟩ := Option.map_eq_some_iff.1 ends
  simp only [Prod.mk.injEq] at ends
  have run : Run {} tr σ s := .of_play? (by decide) played
  have pending := run.pending_until_consumed ends.1.symm "relay"
  exact ⟨tr, σ, s, run, ends.1.symm, pending.1, ends.2⟩

end Store

end Telemetry
