import Telemetry.Proofs.Store.State
import Telemetry.Proofs.Store.Subscription

/-!
# Readers and snapshots

A reader and a client that asks look at a store through different queues, and the owner may have
delivered an update to one subscriber while it waits for another. Still no reader knows more than
the next answer tells. An update counts from the moment at which the owner takes it, before anybody
gets it, so a request that is sent after some reader got the update is answered from a state that
has the update or a later one in its place. And what a subscription gets live comes after all that
was told before it was asked for.

## Main definitions

* `lastUnder`: the last of some updates under a key, with its number.
* `Trace.heard`: what a reader got, with the numbers of the updates.

## Main results

* `Run.heard_before_told`: no reader runs ahead of an answer.
-/

namespace Telemetry

open Keyed
open scoped List

/-- The last of some updates under a key, with its number among them. -/
def lastUnder (k : Key) (updates : List Value) : Option (Value × Nat) :=
  (under (fun u : Value × Nat => u.1.key) k updates.zipIdx).getLast?

section Last

variable {k : Key} {v w : Value} {m n : Nat} {updates : List Value}

theorem map_fst_lastUnder (k : Key) (updates : List Value) :
    (lastUnder k updates).map Prod.fst = (under Value.key k updates).getLast? := by
  conv_rhs => rw [← List.zipIdx_map_fst 0 updates]
  rw [lastUnder, ← List.getLast?_map, under, under, List.filter_map]
  rfl

theorem getElem?_of_lastUnder (last : lastUnder k updates = some (w, m)) :
    updates[m]? = some w ∧ w.key = k := by
  obtain ⟨member, at_key⟩ := mem_under.1 (List.mem_of_getLast? last)
  exact ⟨List.mem_zipIdx_iff_getElem?.1 member, at_key⟩

/-- Under its key, each update is the last one or there is a later one. -/
theorem exists_lastUnder (there : updates[n]? = some v) :
    ∃ w m, n ≤ m ∧ lastUnder v.key updates = some (w, m) := by
  have member : (v, n) ∈ updates.zipIdx := List.mem_zipIdx_iff_getElem?.2 there
  have at_key : (v, n) ∈ under (fun u : Value × Nat => u.1.key) v.key updates.zipIdx :=
    mem_under.2 ⟨member, rfl⟩
  obtain ⟨⟨w, m⟩, last, -⟩ := exists_getLast?_under at_key
  refine ⟨w, m, ?_, last⟩
  obtain ⟨before, after, split, none_since⟩ := exists_of_getLast?_under last
  have ascending := Desk.ascending_zipIdx updates
  rw [split, List.pairwise_append] at ascending
  rw [split] at member
  rcases List.mem_append.1 member with earlier | later
  · exact Nat.le_of_lt (ascending.2.2 _ earlier _ List.mem_cons_self)
  · rcases List.mem_cons.1 later with same | since
    · cases same
      exact Nat.le_refl _
    · have found : (v, n) ∈ under (fun u : Value × Nat => u.1.key) v.key after :=
        mem_under.2 ⟨since, rfl⟩
      rw [none_since] at found
      cases found

/-- What a ledger holds under a key is the last of its updates. -/
theorem Ledger.find?_of_lastUnder {values : List Value}
    (last : lastUnder k (ofValues values).updates = some (w, m)) :
    (ofValues values).state.find? k = some w := by
  rw [find?_state, ← map_fst_lastUnder, last]
  rfl

end Last

namespace Store

/-- What the reader of a subscription got: the part of the replay that it has read, which are the
last updates under their keys when the subscription was granted, and then live updates. Each has its
number among all updates. -/
def Trace.heard (p : Grant Value × Nat) (tr : Trace) : List (Value × Nat) :=
  ((tr.received p.1.id).take p.1.initial.length).filterMap
      (fun v => lastUnder v.key (tr.updates.take p.2)) ++
    Desk.live p tr.history

section Hearing

variable {config : StoreConfig} {tr : Trace} {σ : Signals} {s : Store} {p : Grant Value × Nat}
  {v : Value} {n : Nat}

/-- The updates before a grant, and the answer by which it was made. -/
theorem Run.exists_answer (run : Run config tr σ s) (granted : p ∈ Desk.grants tr.history) :
    ∃ (before : Trace) (st : Step) (later : Trace) (filter : ValueFilter) (replay : Bool),
      tr = before ++ st :: later ∧ p.1.initial = st.store.replayOf filter replay ∧
      p.2 = before.updates.length := by
  obtain ⟨before, st, later, client, filter, replay, rfl, answers, same, -⟩ :=
    run.answered_of_granted granted
  have granted' := (run.granted answers).1
  rw [run.desk.registered.grant_eq granted granted' (congrArg Grant.id same)]
  exact ⟨before, st, later, filter, replay, rfl, rfl, rfl⟩

/-- A replay tells the last update under each key. -/
theorem Run.lastUnder_of_initial (run : Run config tr σ s) (granted : p ∈ Desk.grants tr.history)
    (replayed : v ∈ p.1.initial) :
    ∃ n, lastUnder v.key (tr.updates.take p.2) = some (v, n) := by
  obtain ⟨before, st, later, filter, replay, rfl, initial, count⟩ := run.exists_answer granted
  obtain ⟨_, earlier, -⟩ := run.at_step
  have stands : v ∈ st.store.state.items := by
    rw [initial, replayOf] at replayed
    split at replayed
    · exact List.mem_of_mem_filter replayed
    · cases replayed
  have last := find?_key stands
  rw [earlier.state_eq, find?_ofList, ← map_fst_lastUnder] at last
  obtain ⟨⟨_, n⟩, last, rfl⟩ := Option.map_eq_some_iff.1 last
  rw [count, Trace.updates_append, List.take_left]
  exact ⟨n, last⟩

theorem Run.map_fst_heard (run : Run config tr σ s) (granted : p ∈ Desk.grants tr.history) :
    (tr.heard p).map Prod.fst = tr.received p.1.id := by
  have order := (run.desk.conveyed granted).order
  rw [run.received] at order
  have replayed : (tr.received p.1.id).take p.1.initial.length <+: p.1.initial := by
    have part := order.take p.1.initial.length
    rwa [List.take_left] at part
  have told : (((tr.received p.1.id).take p.1.initial.length).filterMap
      fun v => lastUnder v.key (tr.updates.take p.2)).map Prod.fst =
        (tr.received p.1.id).take p.1.initial.length := by
    rw [List.map_filterMap]
    refine (List.filterMap_congr fun v member => ?_).trans List.filterMap_some
    obtain ⟨n, last⟩ := run.lastUnder_of_initial granted (replayed.subset member)
    rw [last]
    rfl
  rw [Trace.heard, List.map_append, told, ← run.desk.drop_received granted, run.received,
    List.take_append_drop]

/-- What a reader got is an update, and its number is that of the update. -/
theorem Run.getElem?_of_heard (run : Run config tr σ s) (granted : p ∈ Desk.grants tr.history)
    (heard : (v, n) ∈ tr.heard p) : tr.updates[n]? = some v := by
  rcases List.mem_append.1 heard with replayed | live
  · obtain ⟨u, -, last⟩ := List.mem_filterMap.1 replayed
    have there := (getElem?_of_lastUnder last).1
    rw [List.getElem?_take] at there
    split at there
    · exact there
    · cases there
  · have member := (run.desk.live_le_numbered granted).subset live
    rw [Desk.numbered, run.published] at member
    exact List.mem_zipIdx_iff_getElem?.1 member

/-- What a reader got before a request was sent counts in the answer. -/
theorem Run.told_of_heard {c : Course} (run : Run config c.trace σ s) {now : Trace}
    (granted : p ∈ Desk.grants now.history) (heard : (v, n) ∈ now.heard p)
    (before : now <+: c.untilSent) : c.untilServed.updates[n]? = some v := by
  have within : now <+: c.untilServed := before.trans c.untilSent_le
  obtain ⟨more, same⟩ := within.trans c.untilServed_le
  obtain ⟨_, _, earlier⟩ := (same ▸ run : Run config (now ++ more) σ s).of_append
  have there := earlier.getElem?_of_heard granted heard
  obtain ⟨rest, same⟩ := within
  obtain ⟨less, -⟩ := List.getElem?_eq_some_iff.1 there
  rw [← same, Trace.updates_append, List.getElem?_append_left less]
  exact there

end Hearing

/-- Of what a ledger holds under a key, a filter takes it or not. -/
theorem under_filter_state {values : List Value} {k : Key} {w : Value} {m : Nat}
    (last : lastUnder k (Ledger.ofValues values).updates = some (w, m)) (filter : ValueFilter) :
    under Value.key k ((Ledger.ofValues values).state.items.filter filter.accepts) =
      [w].filter filter.accepts := by
  rw [under, List.filter_comm]
  have items := under_items (m := (Ledger.ofValues values).state) (k := k)
  rw [Ledger.find?_of_lastUnder last] at items
  exact congrArg _ items

section Runs

variable {config : StoreConfig} {tr : Trace} {σ : Signals} {s : Store}

/-- No reader runs ahead of an answer. What it got is an update, and each has its number. A request
that is sent after a reader got an update is answered from a ledger that has the update: a filtered
part of its state has under the key that update or a later one, if the filter takes it, and nothing
else. And what a subscription gets live comes after all updates in the ledger of an answer that was
given before the subscription was asked for. -/
theorem Run.heard_before_told (run : Run config tr σ s) :
    (∀ p ∈ Desk.grants tr.history, (tr.heard p).map Prod.fst = tr.received p.1.id ∧
      ∀ u n, (u, n) ∈ tr.heard p → tr.updates[n]? = some u) ∧
    (∀ (now : Trace) (p : Grant Value × Nat) u n (c : Course) client request reply,
      p ∈ Desk.grants now.history → (u, n) ∈ now.heard p → now <+: c.untilSent →
      c.trace <+: tr → c.Of client request reply →
      let told := Ledger.ofValues c.untilServed.taken
      told.Answers c.served request reply ∧ told.updates = c.untilServed.updates ∧
      told.updates <+: tr.updates ∧ n < told.updates.length ∧
      ∃ w m, n ≤ m ∧ told.updates[m]? = some w ∧ w.key = u.key ∧
        ∀ filter : ValueFilter, under Value.key u.key (told.state.items.filter filter.accepts) =
          [w].filter filter.accepts) ∧
    ∀ (c c' : Course) client client' request reply filter replay token id, c'.trace <+: tr →
      c.Of client request reply →
      c'.Of client' (.subscribe filter replay token) (.subscribed id token) →
      c.untilServed ++ [c.served] <+: c'.untilSent →
      let told := Ledger.ofValues c.untilServed.taken
      let p := (c'.served.store.grantOf filter replay token, c'.untilServed.updates.length)
      told.Answers c.served request reply ∧ p ∈ Desk.grants tr.history ∧ p.1.id = id ∧
        ∀ u n, (u, n) ∈ Desk.live p tr.history → told.updates.length ≤ n := by
  refine ⟨?_, ?_, ?_⟩
  · intro p granted
    exact ⟨run.map_fst_heard granted, fun u n => run.getElem?_of_heard granted⟩
  · intro now p u n c client request reply granted heard before within of told
    obtain ⟨more, rfl⟩ := within
    obtain ⟨_, _, run⟩ := run.of_append
    have served := run.until_served
    have updates : told.updates = c.untilServed.updates := served.keeps.2
    have there : told.updates[n]? = some u := updates ▸ run.told_of_heard granted heard before
    obtain ⟨w, m, le, last⟩ := exists_lastUnder there
    obtain ⟨stands, at_key⟩ := getElem?_of_lastUnder last
    have first : told.updates <+: Trace.updates (c.trace ++ more) := by
      rw [updates, c.trace_eq, List.append_assoc, Trace.updates_append]
      exact List.prefix_append _ _
    obtain ⟨less, -⟩ := List.getElem?_eq_some_iff.1 there
    exact ⟨served.answers_of_ledger of.answers, updates, first, less, w, m, le, stands, at_key,
      under_filter_state last⟩
  · intro c c' client client' request reply filter replay token id within of of' before told p
    obtain ⟨more, rfl⟩ := within
    obtain ⟨rest, same⟩ := before.trans (c'.untilSent_le.trans c'.untilServed_le)
    have served : Run config c.untilServed c.served.signals c.served.store := by
      rw [← same, List.append_assoc, List.append_assoc, List.singleton_append] at run
      obtain ⟨_, served, -⟩ := run.at_step
      exact served
    rw [c'.trace_eq, List.append_assoc] at run ⊢
    obtain ⟨granted, -, number⟩ := run.granted of'.answers
    refine ⟨served.answers_of_ledger of.answers, granted, number, fun u n live => ?_⟩
    obtain ⟨rest, same⟩ := before.trans c'.untilSent_le
    calc told.updates.length
        = c.untilServed.updates.length := congrArg _ served.keeps.2
      _ ≤ c'.untilServed.updates.length := by
        rw [← same, List.append_assoc, Trace.updates_append, List.length_append]
        exact Nat.le_add_right _ _
      _ ≤ n := run.desk.le_of_live granted live

/-- Two readers get a value, and the owner delivers another. One of them has read it, the other has
not read the first. -/
def deliverToOne (v w : Value) : List Event :=
  subscribeTwo ++ delivering v ++ [.act (.owner .deliver), .act (.read 1 ⟨[0]⟩)] ++
    delivering w ++ [.act (.read 1 ⟨[0]⟩)]

/-- Somebody asks for the state, and is served once the other has read. -/
def servedLater : List Event :=
  [.act (.enter (.client 2)), .act (.read 2 ⟨[1]⟩), .act (.owner .deliver), .act (.owner .deliver),
    .act (.owner .takeRequest), .act (.owner .drain)]

theorem second_heard_then_told :
    ∃ tr σ s, Run { subscriberCapacity := 1 } tr σ s ∧
      ∃ (now : Trace) (p : Grant Value × Nat) (u : Value) (c : Course) (reply : Reply),
        p ∈ Desk.grants now.history ∧ (u, 1) ∈ now.heard p ∧ now <+: c.untilSent ∧
        c.trace <+: tr ∧ c.Of 2 (.snapshot .all) reply ∧ 1 < c.untilServed.updates.length := by
  let config : StoreConfig := { subscriberCapacity := 1 }
  let first := deliverToOne (serial "A1") (serial "A2")
  let asked := first ++ .act (.ask 2 (.snapshot .all)) :: servedLater
  have heard : (play? first (fresh config)).bind (fun now =>
      (Desk.grants now.1.history).head?.map fun p => (now.1.heard p).map Prod.snd) =
        some [0, 1] := by decide +kernel
  have replied : (play? asked (fresh config)).bind (fun now =>
      (now.2.2.resolve? 2).map fun r => r.1.toOption.isSome) = some true := by decide +kernel
  obtain ⟨begun, played, heard⟩ := Option.bind_eq_some_iff.1 heard
  obtain ⟨p, granted, heard⟩ := Option.map_eq_some_iff.1 heard
  obtain ⟨⟨tr, σ, s⟩, goes_on, replied⟩ := Option.bind_eq_some_iff.1 replied
  obtain ⟨⟨result, s'⟩, resolved, replied⟩ := Option.map_eq_some_iff.1 replied
  obtain ⟨reply, rfl⟩ : ∃ reply, result = .ok reply := by
    cases result with
    | ok reply => exact ⟨reply, rfl⟩
    | error => cases replied
  have ends : play? (asked ++ [.act (.resolve 2)]) (fresh config) =
      some (tr ++ [⟨σ, s, .act (.resolve 2), .result (.ok reply), s'⟩], σ, s') := by
    rw [play?_append, goes_on]
    simp [play?, Event.Permitted, Event.effect?, act?, resolved]
  have answered : (play? asked (fresh config)).bind (fun now =>
      (now.2.2.resolve? 2).map Prod.fst) = some (.ok reply) := by
    rw [goes_on, Option.bind_some, resolved]
    rfl
  obtain ⟨c, later, begun', of, trace, played', before⟩ :=
    exists_course_since_play? (by decide) (by decide) answered ends
  obtain rfl : begun = begun' := Option.some.inj (played.symm.trans played')
  have run := Run.of_play? (by decide) ends
  have granted : p ∈ Desk.grants begun.1.history := List.mem_of_mem_head? granted
  obtain ⟨⟨u, n⟩, member, rfl⟩ : ∃ x ∈ begun.1.heard p, x.2 = 1 :=
    List.mem_map.1 (heard ▸ by simp)
  have within : begun.1 <+: c.untilSent := before ▸ ⟨_, rfl⟩
  have first : c.trace <+: _ := ⟨later, trace.symm⟩
  have told := run.heard_before_told.2.1 _ _ _ _ _ _ _ _ granted member within first of
  exact ⟨_, _, _, run, begun.1, p, u, c, reply, granted, member, within, first, of,
    told.2.1 ▸ told.2.2.2.1⟩

end Runs

end Store

end Telemetry
