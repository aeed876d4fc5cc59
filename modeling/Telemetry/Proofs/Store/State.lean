import Mathlib.Data.List.Chain
import Telemetry.Proofs.Keyed
import Telemetry.Proofs.Store.Ledger
import Telemetry.Proofs.Value

/-!
# The state as a function of the values

The state of a store is made of the values that changed it. Under each key it has the last of them,
none of them is the same reading as the one before it, and what is there is the same reading as the
last value that was taken at all.

## Main results

* `Ledger.state_eq`, `Run.state_eq`: the state is made of the updates.
* `Ledger.unrepeated`: no update repeats the one before it.
* `Ledger.run_of_find?`: what is there has not changed since it came.
-/

namespace Telemetry

open Keyed

/-- Under each key, no value is the same reading as the one before it. -/
def Unrepeated (values : List Value) : Prop :=
  ∀ k, (under Value.key k values).IsChain fun v w => v.same w = false

theorem Unrepeated.left_of_append {values more : List Value}
    (unrepeated : Unrepeated (values ++ more)) : Unrepeated values := by
  intro k
  have chain := unrepeated k
  rw [under_append] at chain
  exact chain.left_of_append

namespace Ledger

variable {k : Key} {v c : Value}

theorem ofValues_concat (values : List Value) (v : Value) :
    ofValues (values ++ [v]) = (ofValues values).add v :=
  ofValues_append values [v]

/-- The state is made of the updates. -/
theorem state_eq (values : List Value) :
    (ofValues values).state = ofList (ofValues values).updates := by
  induction values using List.reverseRecOn with
  | nil => rfl
  | append_singleton values v ih =>
    rw [ofValues_concat, add]
    split
    · exact ih
    · simp only [ofList_append, ih, List.foldl_cons, List.foldl_nil]

theorem find?_state (values : List Value) (k : Key) :
    (ofValues values).state.find? k = (under Value.key k (ofValues values).updates).getLast? := by
  rw [state_eq, find?_ofList]

/-- No update is the same reading as the one before it under its key. -/
theorem unrepeated (values : List Value) : Unrepeated (ofValues values).updates := by
  induction values using List.reverseRecOn with
  | nil => intro k; exact .nil
  | append_singleton values v ih =>
    rw [ofValues_concat, add]
    split
    · exact ih
    next new =>
      intro k
      rw [under_append, under_singleton]
      split
      next here =>
        refine (ih k).append (.singleton v) ?_
        intro stored last w first
        obtain rfl : v = w := by simpa using first
        rw [← here, ← find?_state] at last
        simpa [holds, Option.mem_def.1 last] using new
      · simpa using ih k

/-- What is in the state under a key came at some moment, and whatever came since under the key is
the same reading. -/
theorem run_of_find? {values : List Value} (found : (ofValues values).state.find? k = some v) :
    v.key = k ∧ ∃ before after, values = before ++ v :: after ∧
      ∀ w ∈ after, w.key = k → v.same w = true := by
  induction values using List.reverseRecOn with
  | nil => cases found
  | append_singleton values w ih =>
    rw [ofValues_concat, add] at found
    split at found
    next old =>
      obtain ⟨here, before, after, rfl, same⟩ := ih found
      refine ⟨here, before, after ++ [w], by simp, ?_⟩
      intro u member at_key
      rcases List.mem_append.1 member with earlier | last
      · exact same u earlier at_key
      · obtain rfl := List.mem_singleton.1 last
        simpa [holds, at_key, show (ofValues _).state.find? k = some v from found] using old
    next new =>
      rw [find?_insert] at found
      split at found
      next here =>
        cases found
        exact ⟨here, values, [], rfl, by simp⟩
      next other =>
        obtain ⟨here, before, after, rfl, same⟩ := ih found
        refine ⟨here, before, after ++ [w], by simp, ?_⟩
        intro u member at_key
        rcases List.mem_append.1 member with earlier | last
        · exact same u earlier at_key
        · obtain rfl := List.mem_singleton.1 last
          exact absurd at_key other

/-- The state has the same reading as the last value under a key. -/
theorem find?_of_last {values : List Value} (last : (under Value.key k values).getLast? = some c) :
    ∃ v, (ofValues values).state.find? k = some v ∧ v.same c = true := by
  induction values using List.reverseRecOn with
  | nil => cases last
  | append_singleton values w ih =>
    rw [under_append, under_singleton] at last
    rw [ofValues_concat, add]
    split at last
    next here =>
      obtain rfl : w = c := by simpa using last
      split
      next old =>
        obtain ⟨v, found, same⟩ := (Option.any_eq_true _ _).1 old
        exact ⟨v, here ▸ found, same⟩
      · exact ⟨w, by rw [find?_insert, if_pos here], w.same_refl⟩
    next other =>
      have before := ih (by simpa using last)
      split
      · exact before
      · rw [find?_insert, if_neg other]
        exact before

end Ledger

namespace Store

variable {config : StoreConfig} {tr : Trace} {σ : Signals} {s : Store}

/-- The state of a store is made of its updates. -/
theorem Run.state_eq (run : Run config tr σ s) : s.state = .ofList tr.updates := by
  obtain ⟨keeps, updates⟩ := run.keeps
  rw [keeps.state, Ledger.state_eq, updates]

theorem Run.unrepeated (run : Run config tr σ s) : Unrepeated tr.updates :=
  run.keeps.2 ▸ Ledger.unrepeated tr.taken

end Store

end Telemetry
