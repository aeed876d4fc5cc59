import Telemetry.Proofs.Store.State
import Telemetry.Proofs.Store.Subscription

/-!
# A part of the values

Many values go through a store, and often only some of them matter, such as those of one device. As
long as no value of that part is an update, nothing happens to it: the state keeps what it has under
its keys, the counter of updates grows by others only, and nothing of it is put into the queue of a
subscriber or lost there, once a delivery that is under way is over.

## Main results

* `Change.delivery`: what is delivered was delivered before or is an update.
* `Run.find?_since`, `Run.applied_since`: state and counter.
* `Run.entries_since_quiet`: what subscribers are sent.
-/

namespace Telemetry

open Keyed

namespace Roster

variable {α : Type} {σ : Signals} {overflow : Overflow} {r r' : Roster α} {d d' : Delivery α}

/-- A turn is about the item under way. -/
theorem item_of_serve? (served : r.serve? σ overflow d = some (d', r')) : d'.item = d.item := by
  obtain ⟨sub, rest, first⟩ := first_of_serve? served
  have turn := turn_of_serve? first served
  generalize r.fate? σ overflow d sub = fate at turn
  cases turn <;> rfl

theorem item_of_giveUp? (passed : d.giveUp? σ = some d') : d'.item = d.item := by
  obtain ⟨sub, rest, -, -, rfl⟩ := strike_of_giveUp? passed
  rfl

end Roster

namespace Store

variable {config : StoreConfig} {before later : Trace} {st : Step} {σ σ' σ₁ : Signals}
  {s s' s₁ : Store} {e : Event} {o : Output} {p : Value → Bool} {k : Key} {id n : Nat}

/-- What is delivered was delivered before, or it is the update of the step. -/
theorem Change.delivery (change : Change σ s e σ' s' o) {d' : Delivery Value}
    (delivering : delivery? s'.activity = some d') :
    (∃ d, delivery? s.activity = some d ∧ d.item = d'.item) ∨
      Step.updates ⟨σ, s, e, o, s'⟩ = [d'.item] := by
  cases change with
  | update ready first new =>
    right
    obtain rfl : s.roster.deliver _ = d' := Option.some.inj delivering
    rw [updates_of_ready ready first, new, if_neg Bool.false_ne_true]
    rfl
  | @suppress _ after | @finish _ after => cases after <;> cases delivering
  | deliver before served =>
    obtain rfl := Option.some.inj delivering
    exact .inl ⟨_, by rw [before]; rfl, (Roster.item_of_serve? served).symm⟩
  | giveUp before passed =>
    obtain rfl := Option.some.inj delivering
    exact .inl ⟨_, by rw [before]; rfl, (Roster.item_of_giveUp? passed).symm⟩
  | takeRequest | answer | ignore | grant | skip | die | strike | stop => cases delivering
  | _ => exact .inl ⟨d', delivering, rfl⟩

/-- What is put into a queue or lost there is the item of the delivery under way. -/
theorem Step.item_of_logged {entry : Desk.Entry Value} (logged : entry ∈ st.act.logged id n) :
    ∃ d, delivery? st.store.activity = some d ∧ d.item = entry.update.1 := by
  unfold Step.act at logged
  split at logged
  · cases logged
  · cases logged
  · split at logged
    · split at logged
      next d delivering =>
        split at logged
        · refine ⟨d, delivering, ?_⟩
          unfold Desk.Act.logged at logged
          grind
        · cases logged
      · cases logged
    · cases logged
    · cases logged

/-- What happened settles what a store is like. -/
theorem Run.store_eq (run : Run config before σ s) (run' : Run config before σ₁ s₁) : s = s₁ := by
  rcases List.eq_nil_or_concat' before with rfl | ⟨before, st, rfl⟩
  · exact Option.some.inj (run.made.symm.trans run'.made)
  · exact run.last.2.2.2.symm.trans run'.last.2.2.2

theorem Step.taken_eq_of_mem {v : Value} (taken : v ∈ st.taken) : st.taken = [v] := by
  have short := length_taken_le st
  have there := List.length_pos_of_mem taken
  obtain ⟨w, alone⟩ := List.length_eq_one_iff.1 (show st.taken.length = 1 by omega)
  rw [alone, List.mem_singleton] at taken
  rw [alone, taken]

section Since

variable (run : Run config (before ++ later) σ s) (earlier : Run config before σ₁ s₁)

include run earlier

/-- The state keeps what it has under a key without updates. -/
theorem Run.find?_since (quiet : ∀ v ∈ later.updates, v.key ≠ k) :
    s.state.find? k = s₁.state.find? k := by
  have none_new : under Value.key k later.updates = [] := by
    rw [List.eq_nil_iff_forall_not_mem]
    intro v member
    obtain ⟨updated, here⟩ := mem_under.1 member
    exact quiet v updated here
  rw [run.state_eq, earlier.state_eq, find?_ofList, find?_ofList, Trace.updates_append,
    under_append, none_new, List.append_nil]

theorem Run.applied_since : s.applied = s₁.applied + later.updates.length := by
  obtain ⟨keeps, updates⟩ := run.keeps
  obtain ⟨keeps₁, updates₁⟩ := earlier.keeps
  rw [keeps.applied, keeps₁.applied, updates, updates₁, Trace.updates_append, List.length_append]

/-- No more of a part without updates is put into a queue or lost there, unless a delivery of it is
under way. -/
theorem Run.entries_since_quiet (idle : ∀ d, delivery? s₁.activity = some d → p d.item = false)
    (quiet : ∀ v ∈ later.updates, p v = false) :
    (∀ d, delivery? s.activity = some d → p d.item = false) ∧
      (Trace.entries id (before ++ later)).filter (fun entry => p entry.update.1) =
        (before.entries id).filter fun entry => p entry.update.1 := by
  induction later using List.reverseRecOn generalizing σ s with
  | nil =>
    rw [List.append_nil] at run ⊢
    exact ⟨run.store_eq earlier ▸ idle, rfl⟩
  | append_singleton later st ih =>
    rw [← List.append_assoc] at run ⊢
    obtain ⟨until_then, -, happened, rfl⟩ := run.last
    obtain ⟨idle', same⟩ := ih until_then fun v member =>
      quiet v (by rw [Trace.updates_append]; exact List.mem_append_left _ member)
    refine ⟨?_, ?_⟩
    · intro d' delivering
      rcases (change_of_effect happened).delivery delivering with ⟨d, delivering, item⟩ | new
      · exact item ▸ idle' d delivering
      · exact quiet d'.item (by simp [Trace.updates_append, show st.updates = _ from new])
    · rw [Trace.entries_snoc, List.filter_append, same, List.append_right_eq_self,
        List.filter_eq_nil_iff]
      intro entry logged
      obtain ⟨d, delivering, item⟩ := Step.item_of_logged logged
      rw [← item, idle' d delivering]
      exact Bool.false_ne_true

end Since

end Store

end Telemetry
