import Mathlib.Data.Finset.Card
import Telemetry.Proofs.Store.Outcome

/-!
# What the counters tell

The counters of a store are functions of the values that its owner has taken. Every value counts as
applied or as suppressed, and it is applied exactly if the latest value before it under its key is
another reading, or there is none. The state may hold an older value than that latest one, but it
is the same reading, so it decides alike.

## Main definitions

* `changesAt`: whether the value at a place changes the reading under its key.
* `Stats.Accounts`: counters that account for some values.

## Main results

* `Ledger.length_updates`, `Ledger.size_state`: the counters of a list of values.
* `Desk.Run.dropped_of_block`: nothing is ever dropped under the blocking policy.
* `Run.counters_account`: every answer with counters accounts for the values taken so far.
-/

namespace Telemetry

open Keyed

/-- The latest value before a place under the key of the value there is another reading, or there is
none. -/
def changesAt (values : List Value) (n : Nat) : Bool :=
  values[n]?.any fun v =>
    (under Value.key v.key (values.take n)).getLast?.all fun c => !c.same v

namespace Ledger

theorem changesAt_of_lt {values : List Value} {n : Nat} (before : n < values.length)
    (more : List Value) : changesAt (values ++ more) n = changesAt values n := by
  rw [changesAt, changesAt, List.getElem?_append_left before,
    List.take_append_of_le_length (Nat.le_of_lt before)]

/-- A value changes the reading under its key unless the state has the same reading already. -/
theorem changesAt_length (values : List Value) (v : Value) :
    changesAt (values ++ [v]) values.length = !(ofValues values).holds v := by
  rw [changesAt, holds_ofValues, List.getElem?_concat_length, List.take_left, Option.any_some]
  cases (under Value.key v.key values).getLast? <;> simp

/-- The updates are as many as the places where a reading changes. -/
theorem length_updates (values : List Value) :
    (ofValues values).updates.length = (List.range values.length).countP (changesAt values) := by
  induction values using List.reverseRecOn with
  | nil => rfl
  | append_singleton values v ih =>
    have earlier : (List.range values.length).countP (changesAt (values ++ [v])) =
        (List.range values.length).countP (changesAt values) :=
      List.countP_congr fun n member => by
        rw [changesAt_of_lt (List.mem_range.1 member)]
    rw [List.length_append, List.length_singleton, List.range_succ, List.countP_append, earlier,
      ← ih, List.countP_singleton, changesAt_length, ofValues_concat, add]
    cases (ofValues values).holds v <;> simp

/-- The state has one value for each key that occurs. -/
theorem size_state (values : List Value) :
    (ofValues values).state.size = (values.map Value.key).toFinset.card := by
  have distinct : ((ofValues values).state.items.map Value.key).Nodup :=
    List.pairwise_map.2 ((ofValues values).state.ascending.imp fun less => Keyed.ne_of_lt less)
  rw [Keyed.size, ← List.length_map Value.key, ← List.toFinset_card_of_nodup distinct]
  congr 1
  ext k
  simp only [List.mem_toFinset, List.mem_map]
  constructor
  · rintro ⟨v, member, rfl⟩
    obtain ⟨-, before, after, rfl, -⟩ := run_of_find? (find?_key member)
    exact ⟨v, by simp, rfl⟩
  · rintro ⟨v, member, rfl⟩
    have there : v ∈ under Value.key v.key values := mem_under.2 ⟨member, rfl⟩
    obtain ⟨w, last, -, -⟩ := exists_getLast?_under there
    obtain ⟨stored, found, -⟩ := find?_of_last last
    exact ⟨stored, find?_eq_some.1 found⟩

/-- The state has no more values than changed it. -/
theorem size_state_le (values : List Value) :
    (ofValues values).state.size ≤ (ofValues values).updates.length := by
  rw [state_eq]
  exact size_ofList_le _

end Ledger

/-! ## Losses under the blocking policy -/

namespace Desk

variable {α : Type} {σ σ' : Signals} {x x' : Desk α} {a : Act α} {h : History α}

theorem Change.lost_of_block (change : x.Change σ .block a x') : a.lost = 0 := by
  cases change with
  | turn delivering first turn =>
    cases turn with
    | lose opened full accepted policy => cases policy
    | _ => rfl
  | _ => rfl

/-- Nothing is dropped under the blocking policy. -/
theorem Run.dropped_of_block (run : Run .block h σ x) : x.roster.dropped = 0 := by
  induction run with
  | start => rfl
  | step run change grows ih => rw [change.dropped, ih, change.lost_of_block]

end Desk

/-! ## Answers -/

/-- Counters that account for the values that the owner of a store has taken. -/
structure Stats.Accounts (stats : Stats) (values : List Value) (s : Store) : Prop where
  received : stats.received = values.length
  shared : stats.received = stats.applied + stats.suppressed
  applied : stats.applied = (List.range values.length).countP (changesAt values)
  keys : stats.keys = (values.map Value.key).toFinset.card
  entries : stats.keys = (s.snapshot .all).length
  keys_le : stats.keys ≤ stats.applied
  dropped : s.config.overflow = .block → stats.dropped = 0
  subscriptions : stats.subscriptions = s.roster.subscribers.length

namespace Store

section Counters

variable {config : StoreConfig} {tr : Trace} {σ : Signals} {s : Store}

/-- The counters of a store account for the values that were taken. -/
theorem Run.accounts (run : Run config tr σ s) : s.stats.Accounts tr.taken s := by
  obtain ⟨keeps, -⟩ := run.keeps
  have size : s.stats.keys = (Ledger.ofValues tr.taken).state.size := congrArg size keeps.state
  have applied : s.stats.applied = (Ledger.ofValues tr.taken).updates.length := keeps.applied
  refine ⟨?_, ?_, ?_, ?_, ?_, ?_, fun policy => ?_, rfl⟩
  · exact keeps.received.trans (Ledger.received_ofValues _)
  · exact keeps.received.trans (congrArg₂ (· + ·) keeps.applied.symm keeps.suppressed.symm)
  · rw [applied, Ledger.length_updates]
  · rw [size, Ledger.size_state]
  · rw [snapshot_all]
    rfl
  · rw [size, applied]
    exact Ledger.size_state_le _
  · rw [run.config_eq] at policy
    exact (policy ▸ run.desk).dropped_of_block

/-- Whenever the owner answers with counters, they account for the values that it has taken by then,
and every client that gets counters gets such an answer. -/
theorem Run.counters_account (run : Run config tr σ s) :
    (∀ (before : Trace) st later client stats, tr = before ++ st :: later →
      st.Answers client .stats (.stats stats) → stats.Accounts before.taken st.store) ∧
    ∀ (before : Trace) done later client stats, tr = before ++ done :: later →
      done.event = .act (.resolve client) → done.output = .result (.ok (.stats stats)) →
      ∃ c : Course, c.trace = before ∧ c.Of client .stats (.stats stats) ∧
        stats.Accounts c.untilServed.taken c.served.store := by
  have answered {before : Trace} {st : Step} {σ : Signals} {client : Nat} {stats : Stats}
      (run : Run config before σ st.store) (answers : st.Answers client .stats (.stats stats)) :
      stats.Accounts before.taken st.store := by
    cases answers.gives
    exact run.accounts
  refine ⟨?_, ?_⟩
  · rintro before st later client stats rfl answers
    obtain ⟨_, earlier, -⟩ := run.at_step
    exact answered earlier answers
  · rintro before done later client stats rfl ends returned
    obtain ⟨c, trace, of, -⟩ := run.stats_returned ends returned
    obtain ⟨_, earlier, -⟩ := run.at_step
    rw [← trace] at earlier
    exact ⟨c, trace, of, answered earlier.until_served of.answers⟩

/-- A value is filled and applied, then filled again, and somebody asks for the counters. -/
def repeatThenCount (v : Value) : List Event :=
  (applying v ++ [.act (.fill 1 v), .act (.resolve 1), .act (.owner .takeValue)]) ++
    .act (.ask 0 .stats) :: granting

theorem repetition_counted :
    let stats : Stats := ⟨2, 1, 1, 0, 1, 0⟩
    ∃ tr σ s, Run {} tr σ s ∧ ∃ c : Course, c.trace <+: tr ∧ c.Of 0 .stats (.stats stats) ∧
      c.untilServed.taken.length = 2 ∧ stats.Accounts c.untilServed.taken c.served.store := by
  intro stats
  have told : ((play? (repeatThenCount (serial "A1")) (fresh {})).bind fun now =>
      now.2.2.resolve? 0).map Prod.fst = some (.ok (.stats stats)) := rfl
  obtain ⟨⟨_, _⟩, told, rfl⟩ := Option.map_eq_some_iff.1 told
  obtain ⟨now, played, resolves⟩ := Option.bind_eq_some_iff.1 told
  have run : Run {} _ _ _ := .step (.of_play? (by decide) played) (.act (.resolve 0)) trivial
    (Option.map_eq_some_iff.2 ⟨_, resolves, rfl⟩)
  obtain ⟨c, trace, of, accounts⟩ := run.counters_account.2 now.1 _ [] 0 stats rfl rfl rfl
  exact ⟨_, _, _, run, c, trace ▸ List.prefix_append _ _, of, accounts.received.symm, accounts⟩

end Counters

end Store

end Telemetry
