import Telemetry.Proofs.Store.State
import Telemetry.Proofs.Store.Subscription

/-!
# What a reader can rebuild

Whoever subscribes with a replay and puts each item that it is sent under its key, in place of what
was there, has the part of the state that its filter takes: the replay brings the part as it was,
and the updates that follow do to it what they did to the state. This is so whenever no delivery is
under way, as long as the filter asks for nothing but the key. No item is sent that repeats the one
before it under its key, not even where the updates follow on the replay.

## Main results

* `Run.snapshot_since`: replay and updates make the part of the state.
* `Run.unrepeated_since`: no item repeats the one before it.
* `Run.sent_mirrors_state`: so do the items that were sent.
-/

namespace Telemetry

open Keyed

namespace ValueFilter

/-- A filter takes all values with a key or none. -/
def ByKey (filter : ValueFilter) : Prop :=
  Whole Value.key filter.accepts

namespace ByKey

variable {a b : ValueFilter}

theorem device (name : String) : ByKey (.device name) := by
  intro v w same
  rw [accepts, accepts, show v.device = w.device from congrArg Key.device same]

theorem names (allowed : List String) : ByKey (.register (.names allowed)) := by
  intro v w same
  rw [accepts, accepts, RegisterFilter.accepts, RegisterFilter.accepts,
    show v.register.name = w.register.name from congrArg Key.register same]

theorem and (first : a.ByKey) (second : b.ByKey) : ByKey (.and a b) := by
  intro v w same
  rw [accepts, accepts, first v w same, second v w same]

end ByKey

end ValueFilter

namespace Store

open scoped List

section Rebuilding

variable {config : StoreConfig} {before later : Trace} {st : Step} {σ : Signals} {s : Store}
  {client id : Nat} {filter : ValueFilter} {token : Token}

theorem Run.state_before (run : Run config (before ++ st :: later) σ s) :
    st.store.state = .ofList before.updates := by
  obtain ⟨_, earlier, -⟩ := run.at_step
  exact earlier.state_eq

theorem Run.updates_split (run : Run config (before ++ st :: later) σ s)
    (answers : st.Answers client (.subscribe filter true token) (.subscribed id token)) :
    Trace.updates (before ++ st :: later) = before.updates ++ later.updates := by
  rw [List.append_cons, Trace.updates_append, Trace.updates_append, Trace.updates_singleton,
    (run.granted answers).2.1, List.append_nil]

/-- A replay is the filtered state of the moment. -/
theorem replayOf_true (s : Store) (filter : ValueFilter) :
    s.replayOf filter true = (s.state.filter filter.accepts).items :=
  rfl

/-- The part of the state that a filter takes is what its replay and the updates since come to. -/
theorem Run.snapshot_since (run : Run config (before ++ st :: later) σ s)
    (answers : st.Answers client (.subscribe filter true token) (.subscribed id token))
    (byKey : filter.ByKey) :
    (ofList (st.store.replayOf filter true ++ later.updates.filter filter.accepts) :
      Keyed Value.key).items = s.snapshot filter := by
  calc (ofList (st.store.replayOf filter true ++ later.updates.filter filter.accepts) :
        Keyed Value.key).items
      = ((later.updates.filter filter.accepts).foldl (fun m v => m.insert v)
          (ofList (before.updates.filter filter.accepts) : Keyed Value.key)).items := by
        rw [ofList_append, replayOf_true, ofList_items, run.state_before, byKey.filter_ofList]
    _ = ((ofList (before.updates ++ later.updates) : Keyed Value.key).filter
          filter.accepts).items := by
        rw [byKey.filter_ofList, List.filter_append, ofList_append]
    _ = s.snapshot filter := by
        rw [← run.updates_split answers, ← run.state_eq]
        rfl

/-- Under each key, no item of a replay and the updates since repeats the one before it. -/
theorem Run.unrepeated_since (run : Run config (before ++ st :: later) σ s)
    (answers : st.Answers client (.subscribe filter true token) (.subscribed id token))
    (byKey : filter.ByKey) :
    Unrepeated (st.store.replayOf filter true ++ later.updates.filter filter.accepts) := by
  intro k
  have chain := run.unrepeated k
  rw [run.updates_split answers, under_append] at chain
  rw [replayOf_true, run.state_before, byKey.filter_ofList, under_append, under_items, find?_ofList]
  rcases byKey.under_filter k with all | none
  · -- The replay has the last of the updates before it.
    rw [all, all]
    cases last : (under Value.key k before.updates).getLast? with
    | none => exact chain.right_of_append
    | some v =>
      obtain ⟨older, split⟩ := List.getLast?_eq_some_iff.1 last
      rw [split, List.append_assoc] at chain
      exact chain.right_of_append
  · rw [none, none]
    exact .nil

/-- Under the blocking policy, a subscription with replay that is not cancelled and whose reader is
there has been sent the part of the state that its filter takes: each item put under its key, in
place of what was there, they make it, unless a delivery is under way. No item is the same reading
as the one before it under its key. -/
theorem Run.sent_mirrors_state (run : Run config (before ++ st :: later) σ s)
    (policy : config.overflow = .block)
    (answers : st.Answers client (.subscribe filter true token) (.subscribed id token))
    (goes_on : σ.isCancelled token = false) (reader : s.roster.isClosed id = false)
    (byKey : filter.ByKey) :
    let sent := Trace.received id (before ++ st :: later) ++ s.roster.queued id
    (delivery? s.activity = none →
      (ofList sent : Keyed Value.key).items = s.snapshot filter) ∧ Unrepeated sent := by
  intro sent
  obtain ⟨coming, first, rests⟩ := run.got_append_coming policy answers goes_on reader
  refine ⟨fun idle => ?_, ?_⟩
  · rw [rests idle, List.append_nil] at first
    rw [show sent = _ from first]
    exact run.snapshot_since answers byKey
  · apply Unrepeated.left_of_append
    rw [first]
    exact run.unrepeated_since answers byKey

/-- Serial numbers of one device. -/
def serials : ValueFilter :=
  .and (.device "meter") (.register (.names ["Serial"]))

theorem two_serials_mirrored :
    ∃ (before : Trace) (st : Step) (later : Trace) (σ : Signals) (s : Store),
      Run {} (before ++ st :: later) σ s ∧
      st.Answers 0 (.subscribe serials true ⟨[0]⟩) (.subscribed 1 ⟨[0]⟩) ∧
      let sent := Trace.received 1 (before ++ st :: later) ++ s.roster.queued 1
      sent = [serial "A1", serial "A2"] ∧
        (ofList sent : Keyed Value.key).items = s.snapshot serials ∧ Unrepeated sent := by
  let asking := applying (serial "A1") ++ .act (.ask 0 (.subscribe serials true ⟨[0]⟩)) :: granting
  let events := asking ++ .act (.resolve 0) :: delivering (serial "A2")
  have ends : (play? events (fresh {})).map (fun now =>
      (now.2.1.isCancelled ⟨[0]⟩, now.2.2.roster.isClosed 1,
        (delivery? now.2.2.activity).isNone, Trace.received 1 now.1 ++ now.2.2.roster.queued 1)) =
          some (false, false, true, [serial "A1", serial "A2"]) := rfl
  obtain ⟨⟨tr, σ, s⟩, played, ends⟩ := Option.map_eq_some_iff.1 ends
  simp only [Prod.mk.injEq] at ends
  obtain ⟨goes_on, reader, idle, sent⟩ := ends
  have replied : (play? asking (fresh {})).bind (fun now => (now.2.2.resolve? 0).map Prod.fst) =
      some (.ok (.subscribed 1 ⟨[0]⟩)) := rfl
  obtain ⟨run, c, later, of, trace⟩ :=
    exists_course_of_play? (by decide) (by decide) replied played
  obtain rfl : tr = _ := trace
  have mirrors := run.sent_mirrors_state rfl of.answers goes_on reader
    ((ValueFilter.ByKey.device _).and (.names _))
  exact ⟨_, _, _, _, _, run, of.answers, sent, mirrors.1 (by simpa using idle), mirrors.2⟩

end Rebuilding

end Store

end Telemetry
