import Mathlib.Data.List.SplitBy
import Mathlib.Order.Basic
import Telemetry.Proofs.Store.State
import Telemetry.Proofs.Store.Subscription

/-!
# What a store comes to

The state and the counters of a store depend on the order of the values under each key, and not on
how the values of different keys are mixed. Under a key, the values fall into stretches of readings
that are the same one after the other. The first value of each stretch is an update, and the state
has the first of the last stretch: the same reading as the last value, with the time at which the
reading was first taken.

## Main definitions

* `stretches`, `onsets`: values cut wherever the reading changes, and the first of each part.
* `Store.Condenses`: what a store has of some values.

## Main results

* `Ledger.under_updates`: the updates under a key are the onsets of the values under it.
* `Run.outcome`: two runs with the same values under each key come to the same.
-/

namespace Telemetry

open Keyed

/-- Instants in the order of time. -/
instance : Preorder Timestamp where
  le t u := t.seconds < u.seconds ∨ t.seconds = u.seconds ∧ t.nanoseconds ≤ u.nanoseconds
  le_refl t := .inr ⟨rfl, le_rfl⟩
  le_trans t u v h h' := by omega

/-! ## Stretches -/

/-- Values cut wherever the reading changes. -/
def stretches (values : List Value) : List (List Value) :=
  values.splitBy Value.same

/-- The values with which a reading begins. -/
def onsets (values : List Value) : List Value :=
  (stretches values).filterMap List.head?

section Stretches

variable {values rest : List Value} {earlier : List (List Value)} {v w c : Value}

theorem exists_last_stretch (there : values ≠ []) :
    ∃ earlier v rest, stretches values = earlier ++ [v :: rest] := by
  obtain ⟨earlier, last, split⟩ :=
    (stretches values).eq_nil_or_concat.resolve_left (List.splitBy_ne_nil.2 there)
  rw [List.concat_eq_append] at split
  cases last with
  | nil =>
    have member : [] ∈ stretches values := by simp [split]
    exact absurd member (List.nil_notMem_splitBy Value.same values)
  | cons v rest => exact ⟨earlier, v, rest, split⟩

theorem flatten_stretches (values : List Value) : (stretches values).flatten = values :=
  List.flatten_splitBy Value.same values

theorem mem_of_stretches (split : stretches values = earlier ++ [v :: rest]) : v ∈ values := by
  rw [← flatten_stretches values, split]
  simp

theorem getLast?_of_stretches (split : stretches values = earlier ++ [v :: rest]) :
    values.getLast? = (v :: rest).getLast? := by
  rw [← flatten_stretches values, split, List.flatten_append, List.flatten_singleton,
    List.getLast?_append_of_ne_nil _ (List.cons_ne_nil v rest)]

theorem getLast?_onsets (split : stretches values = earlier ++ [v :: rest]) :
    (onsets values).getLast? = some v := by
  simp [onsets, split]

/-- Within a stretch all readings are the same, and not only neighbours. -/
theorem same_of_stretch (split : stretches values = earlier ++ [v :: rest]) (member : w ∈ rest) :
    v.same w = true := by
  have chain : (v :: rest).IsChain fun a b => a.same b = true :=
    List.isChain_of_mem_splitBy (l := values) (by
      rw [show values.splitBy Value.same = _ from split]
      simp)
  have : IsTrans Value fun a b => a.same b = true := ⟨fun _ _ _ => Value.same_trans⟩
  exact (List.pairwise_cons.1 chain.pairwise).1 w member

/-- A reading that goes on makes the last stretch longer. -/
theorem stretches_concat_same (split : stretches values = earlier ++ [v :: rest])
    (last : (v :: rest).getLast? = some c) (same : c.same w = true) :
    stretches (values ++ [w]) = earlier ++ [v :: rest ++ [w]] := by
  obtain ⟨whole, nonempty, inner, outer⟩ := List.splitBy_eq_iff.1 split
  refine List.splitBy_eq_iff.2 ⟨?_, ?_, ?_, ?_⟩
  · simp [whole]
  · simpa using nonempty
  · intro m member
    rcases List.mem_append.1 member with before | here
    · exact inner m (List.mem_append_left _ before)
    · rw [List.mem_singleton.1 here]
      refine (inner (v :: rest) (by simp)).append (.singleton w) ?_
      rw [last]
      rintro _ ⟨⟩ _ ⟨⟩
      exact same
  · rw [List.isChain_append] at outer ⊢
    refine ⟨outer.1, .singleton _, ?_⟩
    rintro before member _ ⟨⟩
    obtain ⟨there, _, differ⟩ := outer.2.2 before member _ rfl
    exact ⟨there, List.cons_ne_nil _ _, differ⟩

/-- A value is an onset unless the value before it is the same reading. -/
theorem onsets_concat (values : List Value) (w : Value) :
    onsets (values ++ [w]) =
      if values.getLast?.any (fun c => c.same w) then onsets values else onsets values ++ [w] := by
  split
  next goes_on =>
    obtain ⟨c, last, same⟩ := (Option.any_eq_true _ _).1 goes_on
    have there : values ≠ [] := List.ne_nil_of_mem (List.mem_of_getLast? last)
    obtain ⟨earlier, v, rest, split⟩ := exists_last_stretch there
    rw [getLast?_of_stretches split] at last
    rw [onsets, onsets, stretches_concat_same split last same, split]
    simp
  next changes =>
    have differ : ∀ c ∈ values.getLast?, c.same w = false := by
      intro c last
      simpa [Option.mem_def.1 last] using changes
    rw [onsets, stretches, List.splitBy_append_cons _ differ,
      List.splitBy_of_isChain (List.cons_ne_nil w []) (.singleton w)]
    simp [onsets, stretches]

end Stretches

/-! ## Ledgers -/

namespace Ledger

variable {values : List Value} {k : Key} {v : Value}

/-- The state has the same reading exactly if the last value under the key is the same reading. -/
theorem holds_ofValues (values : List Value) (v : Value) :
    (ofValues values).holds v = (under Value.key v.key values).getLast?.any fun c => c.same v := by
  cases last : (under Value.key v.key values).getLast? with
  | none =>
    have never := List.getLast?_eq_none_iff.1 last
    cases found : (ofValues values).state.find? v.key with
    | none => simp [holds, found]
    | some stored =>
      obtain ⟨here, before, after, rfl, -⟩ := run_of_find? found
      simp [under, here] at never
  | some c =>
    obtain ⟨stored, found, same⟩ := find?_of_last last
    rw [holds, found, Option.any_some, Option.any_some, Bool.eq_iff_iff]
    exact ⟨Value.same_trans (Value.same_symm same), Value.same_trans same⟩

/-- The updates under a key are the onsets of the values under it. -/
theorem under_updates (values : List Value) (k : Key) :
    under Value.key k (ofValues values).updates = onsets (under Value.key k values) := by
  induction values using List.reverseRecOn with
  | nil => rfl
  | append_singleton values v ih =>
    rw [ofValues_concat, add, holds_ofValues, under_append, under_singleton]
    by_cases here : v.key = k
    · subst here
      rw [if_pos rfl, onsets_concat, ← ih]
      split
      · rfl
      · simp [under_append, under_singleton]
    · rw [if_neg here, List.append_nil, ← ih]
      split
      · rfl
      · simp [under_append, under_singleton, here]

theorem received_ofValues (values : List Value) : (ofValues values).received = values.length := by
  induction values using List.reverseRecOn with
  | nil => rfl
  | append_singleton values v ih =>
    rw [ofValues_concat, add, List.length_append, ← ih]
    split
    · simp [received, Nat.add_assoc]
    · simp [received, Nat.add_right_comm]

end Ledger

/-- Lists with the same items under each key differ in their order at most. -/
theorem perm_of_under_eq {l l' : List Value}
    (same : ∀ k, under Value.key k l = under Value.key k l') : l.Perm l' := by
  classical
  refine List.perm_iff_count.2 fun v => ?_
  have count_under (l : List Value) : (under Value.key v.key l).count v = l.count v :=
    List.count_filter (by simp)
  rw [← count_under l, ← count_under l', same]

/-! ## Stores -/

namespace Store

/-- A store has of some values one for each key that occurs, in ascending order. It is the first of
the last stretch under its key: the same reading as the last value and all others of the stretch,
with the time of the first, which is the earliest as long as times do not run backwards. -/
structure Condenses (s : Store) (values : List Value) : Prop where
  ascending : (s.snapshot .all).Pairwise fun v w => compare v.key w.key = .lt
  keys : ∀ k, (∃ v ∈ s.snapshot .all, v.key = k) ↔ ∃ v ∈ values, v.key = k
  first : ∀ v ∈ s.snapshot .all, ∃ earlier rest,
    stretches (under Value.key v.key values) = earlier ++ [v :: rest] ∧
      (∀ w ∈ rest, v.same w = true) ∧
      ((v :: rest).IsChain (fun a b => a.time ≤ b.time) → ∀ w ∈ rest, v.time ≤ w.time)
  last : ∀ v ∈ s.snapshot .all, ∃ w,
    (under Value.key v.key values).getLast? = some w ∧ v.same w = true

section Outcome

variable {config config' : StoreConfig} {tr tr' : Trace} {σ σ' : Signals} {s s' : Store}
  {v : Value}

theorem snapshot_all (s : Store) : s.snapshot .all = s.state.items :=
  List.filter_eq_self.2 fun _ _ => rfl

theorem Run.find?_state (run : Run config tr σ s) (k : Key) :
    s.state.find? k = (onsets (under Value.key k tr.taken)).getLast? := by
  rw [run.keeps.1.state, Ledger.find?_state, Ledger.under_updates]

theorem Run.exists_stretch (run : Run config tr σ s) (member : v ∈ s.snapshot .all) :
    ∃ earlier rest, stretches (under Value.key v.key tr.taken) = earlier ++ [v :: rest] := by
  have found := find?_key (s.snapshot_all ▸ member)
  rw [run.find?_state] at found
  cases taken : under Value.key v.key tr.taken with
  | nil =>
    rw [taken] at found
    cases found
  | cons w others =>
    obtain ⟨earlier, w, rest, split⟩ := exists_last_stretch (List.cons_ne_nil w others)
    rw [taken, getLast?_onsets split] at found
    cases found
    exact ⟨earlier, rest, split⟩

theorem Run.exists_entry (run : Run config tr σ s) (member : v ∈ tr.taken) :
    ∃ w ∈ s.snapshot .all, w.key = v.key := by
  have there : under Value.key v.key tr.taken ≠ [] := List.ne_nil_of_mem (mem_under.2 ⟨member, rfl⟩)
  obtain ⟨earlier, w, rest, split⟩ := exists_last_stretch there
  obtain ⟨member, here⟩ := find?_eq_some.1 ((run.find?_state v.key).trans (getLast?_onsets split))
  exact ⟨w, s.snapshot_all ▸ member, here⟩

theorem Run.condenses (run : Run config tr σ s) : s.Condenses tr.taken := by
  refine ⟨?_, fun k => ⟨?_, ?_⟩, fun v member => ?_, fun v member => ?_⟩
  · rw [snapshot_all]
    exact s.state.ascending
  · rintro ⟨v, member, rfl⟩
    obtain ⟨earlier, rest, split⟩ := run.exists_stretch member
    exact ⟨v, (mem_under.1 (mem_of_stretches split)).1, rfl⟩
  · rintro ⟨v, member, rfl⟩
    exact run.exists_entry member
  · obtain ⟨earlier, rest, split⟩ := run.exists_stretch member
    refine ⟨earlier, rest, split, fun w => same_of_stretch split, fun onward w later => ?_⟩
    have : IsTrans Value fun a b => a.time ≤ b.time := ⟨fun _ _ _ => le_trans⟩
    exact (List.pairwise_cons.1 onward.pairwise).1 w later
  · obtain ⟨earlier, rest, split⟩ := run.exists_stretch member
    have last := List.getLast?_eq_some_getLast (List.cons_ne_nil v rest)
    refine ⟨_, (getLast?_of_stretches split).trans last, ?_⟩
    rcases List.mem_cons.1 (List.getLast_mem (List.cons_ne_nil v rest)) with alone | later
    · rw [alone]
      exact v.same_refl
    · exact same_of_stretch split later

/-- Runs whose owners took the same values under each key have the same state. -/
theorem Run.state_congr (run : Run config tr σ s) (run' : Run config' tr' σ' s')
    (same : ∀ k, under Value.key k tr.taken = under Value.key k tr'.taken) : s.state = s'.state :=
  ext_find? fun k => by rw [run.find?_state, run'.find?_state, same]

theorem Run.length_updates_congr (run : Run config tr σ s) (run' : Run config' tr' σ' s')
    (same : ∀ k, under Value.key k tr.taken = under Value.key k tr'.taken) :
    tr.updates.length = tr'.updates.length := by
  rw [← run.keeps.2, ← run'.keeps.2]
  refine (perm_of_under_eq fun k => ?_).length_eq
  rw [Ledger.under_updates, Ledger.under_updates, same]

/-- Two runs, however the values of different keys are mixed in each: if the owners took the same
values under each key, they come to the same state and the same counters. -/
theorem Run.outcome (run : Run config tr σ s) (run' : Run config' tr' σ' s')
    (same : ∀ k, under Value.key k tr.taken = under Value.key k tr'.taken) :
    s.snapshot .all = s'.snapshot .all ∧ s.Condenses tr.taken ∧
      s.stats.received = s'.stats.received ∧ s.stats.applied = s'.stats.applied ∧
      s.stats.suppressed = s'.stats.suppressed ∧ s.stats.keys = s'.stats.keys := by
  have state := run.state_congr run' same
  have received : s.received = s'.received := by
    rw [run.keeps.1.received, run'.keeps.1.received, Ledger.received_ofValues,
      Ledger.received_ofValues, (perm_of_under_eq same).length_eq]
  have applied : s.applied = s'.applied := by
    rw [run.keeps.1.applied, run'.keeps.1.applied, run.keeps.2, run'.keeps.2,
      run.length_updates_congr run' same]
  refine ⟨?_, run.condenses, received, applied, ?_, congrArg size state⟩
  · rw [snapshot_all, snapshot_all, state]
  · have total := run.keeps.1.received
    have total' := run'.keeps.1.received
    rw [Ledger.received, ← run.keeps.1.applied, ← run.keeps.1.suppressed] at total
    rw [Ledger.received, ← run'.keeps.1.applied, ← run'.keeps.1.suppressed] at total'
    change s.suppressed = s'.suppressed
    omega

/-- The same reading as `serial` makes, five seconds later. -/
def lateSerial (text : String) : Value :=
  { serial text with time := ⟨5, 0⟩ }

/-- Two values are applied, and a repetition of one of them is not. -/
def applyTwoOfThree (v w repeated : Value) : List Event :=
  applying v ++ applying w ++
    [.act (.fill 1 repeated), .act (.resolve 1), .act (.owner .takeValue)]

theorem mixed_orders_agree :
    ∃ tr σ s tr' σ' s', Run {} tr σ s ∧ Run {} tr' σ' s' ∧
      tr.taken = [serial "A1", torque "T1", lateSerial "A1"] ∧
      tr'.taken = [torque "T1", serial "A1", lateSerial "A1"] ∧
      s.snapshot .all = [serial "A1", torque "T1"] ∧ s.snapshot .all = s'.snapshot .all ∧
      s.Condenses tr.taken ∧ s.stats.suppressed = s'.stats.suppressed := by
  have ends : (play? (applyTwoOfThree (serial "A1") (torque "T1") (lateSerial "A1")) (fresh {})).map
      (fun now => (Trace.taken now.1, now.2.2.snapshot .all)) =
        some ([serial "A1", torque "T1", lateSerial "A1"], [serial "A1", torque "T1"]) := rfl
  have ends' :
      (play? (applyTwoOfThree (torque "T1") (serial "A1") (lateSerial "A1")) (fresh {})).map
        (fun now => Trace.taken now.1) = some [torque "T1", serial "A1", lateSerial "A1"] := rfl
  obtain ⟨⟨tr, σ, s⟩, played, ends⟩ := Option.map_eq_some_iff.1 ends
  obtain ⟨⟨tr', σ', s'⟩, played', taken'⟩ := Option.map_eq_some_iff.1 ends'
  obtain ⟨taken, snapshot⟩ := Prod.mk.inj ends
  have run : Run {} tr σ s := .of_play? (by decide) played
  have run' : Run {} tr' σ' s' := .of_play? (by decide) played'
  have same : ∀ k, under Value.key k tr.taken = under Value.key k tr'.taken := by
    intro k
    have differ : (serial "A1").key ≠ (torque "T1").key := by decide
    simp only [show tr.taken = _ from taken, show tr'.taken = _ from taken', under,
      List.filter_cons]
    grind
  obtain ⟨agree, condenses, -, -, suppressed, -⟩ := run.outcome run' same
  exact ⟨_, _, _, _, _, _, run, run', taken, taken', snapshot, agree, condenses, suppressed⟩

end Outcome

end Store

end Telemetry
