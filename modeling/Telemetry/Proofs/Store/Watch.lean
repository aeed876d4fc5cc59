import Telemetry.Proofs.Desk.Watch
import Telemetry.Proofs.Store.Run

/-!
# Those who watch a store

A subscription of a store is watched from the moment its answer is there, and a subscriber is struck
off by a message. So no message ever strikes off a subscriber whose subscription goes on.

## Main definitions

* `Store.Watching`: watchers, answers and messages fit the roster.
-/

namespace Telemetry.Store

/-- Somebody waits for the end of a subscription, or will as soon as it is handed over. -/
def Watches (s : Store) (id : Nat) (token : Token) : Prop :=
  (id, token) ∈ s.watchers ∨ ∃ client, (client, Reply.subscribed id token) ∈ s.replies

/-- The store was told to strike a subscriber off, or is about to be. -/
def Condemns (s : Store) (id : Nat) : Prop :=
  .unsubscribe id ∈ s.inFlight ∨ ∃ party, (party, Message.unsubscribe id) ∈ s.control.waiting

/-- Watchers, answers and messages fit the roster. -/
def Watching (σ : Signals) (s : Store) : Prop :=
  Desk.Watched σ s.roster s.Watches s.Condemns

section Steps

variable {σ σ' : Signals} {s s' : Store} {e : Event} {o : Output}

/-- A message on its way was on its way before, or its sender stood in line. -/
theorem Change.inFlight (h : Change σ s e σ' s' o) {m : Message} (sent : m ∈ s'.inFlight) :
    m ∈ s.inFlight ∨ ∃ party, (party, m) ∈ s.control.waiting := by
  cases h with
  | send c going entered | report c going entered =>
    obtain ⟨m', entry⟩ := Queue.entry_of_enter? entered
    have sent : m ∈ ((owed s.activity).map Prod.fst).toList ++ _ := sent
    rw [entry.items, ← List.append_assoc] at sent
    rcases List.mem_append.1 sent with before | last
    · exact .inl before
    · obtain rfl := List.mem_singleton.1 last
      exact .inr ⟨_, entry.waits⟩
  | suppress ready | update ready =>
    refine .inl ?_
    simpa [Store.inFlight, owed_of_ready ready] using sent
  | takeRequest idle first =>
    refine .inl ?_
    rw [inFlight_of_idle idle, first]
    simpa [Store.inFlight, Queue.dequeue] using sent
  | answer serves | ignore serves | grant serves | skip serves | strike serves =>
    refine .inl ?_
    rw [inFlight_of_serves serves]
    exact List.mem_cons_of_mem _ (by simpa [inFlight_of_idle] using sent)
  | die =>
    have sent : m ∈ ([] : List Message) := sent
    cases sent
  | finish delivering | deliver delivering | giveUp delivering =>
    refine .inl ?_
    simpa [Store.inFlight, delivering] using sent
  | stop idle =>
    refine .inl ?_
    simpa [Store.inFlight, idle] using sent
  | _ => exact .inl sent

/-- A subscriber is condemned only by one who waits for the end of a cancelled subscription. -/
theorem Change.condemns (h : Change σ s e σ' s' o) {id : Nat} (condemns : s'.Condemns id) :
    s.Condemns id ∨ ∃ token, (id, token) ∈ s.watchers ∧ σ.isCancelled token = true := by
  rcases condemns with sent | ⟨party, waits⟩
  · exact .inl (h.inFlight sent)
  · cases h with
    | ask c request =>
      rcases List.mem_append.1 waits with before | last
      · exact .inl (.inr ⟨party, before⟩)
      · cases List.mem_singleton.1 last
    | send c going entered | report c going entered =>
      obtain ⟨m, entry⟩ := Queue.entry_of_enter? entered
      have waits : (party, Message.unsubscribe id) ∈ (s.control.leave _).waiting :=
        entry.waiting ▸ waits
      exact .inl (.inr ⟨party, List.mem_of_mem_filter waits⟩)
    | refuse | abandon | disperse => exact .inl (.inr ⟨party, List.mem_of_mem_filter waits⟩)
    | @wake other token watched cancelled =>
      rcases List.mem_append.1 waits with before | last
      · exact .inl (.inr ⟨party, before⟩)
      · cases List.mem_singleton.1 last
        exact .inr ⟨token, watched, cancelled⟩
    | _ => exact .inl (.inr ⟨party, waits⟩)

/-- A subscription is watched because it was before, or because it is granted now. -/
theorem Change.watches (h : Change σ s e σ' s' o) {id : Nat} {token : Token}
    (watches : s'.Watches id token) :
    s.Watches id token ∨ id = s.roster.nextId ∧ s'.roster.nextId = s.roster.nextId + 1 ∧
      ∃ accepts, s'.roster.subscribers = s.roster.subscribers ++ [⟨id, accepts, token⟩] := by
  cases h with
  | @collect c reply there =>
    left
    rcases watches with watched | ⟨client, replied⟩
    · rcases List.mem_append.1 watched with before | handed
      · exact .inl before
      · obtain ⟨l, l', split, -⟩ := List.lookup_eq_some_iff.1 there
        cases reply with
        | subscribed i t =>
          cases List.mem_singleton.1 handed
          exact .inr ⟨c, by simp [split]⟩
        | _ => cases handed
    · exact .inr ⟨client, List.mem_of_mem_filter replied⟩
  | refuse | abandon =>
    rcases watches with watched | ⟨client, replied⟩
    · exact .inl (.inl watched)
    · exact .inl (.inr ⟨client, List.mem_of_mem_filter replied⟩)
  | wake | forget =>
    rcases watches with watched | replied
    · exact .inl (.inl (List.mem_of_mem_filter watched))
    · exact .inl (.inr replied)
  | @answer c request reply serves is =>
    rcases watches with watched | ⟨client, replied⟩
    · exact .inl (.inl watched)
    · rcases List.mem_append.1 replied with before | last
      · exact .inl (.inr ⟨client, before⟩)
      · cases List.mem_singleton.1 last
        cases request <;> cases is
  | grant =>
    rcases watches with watched | ⟨client, replied⟩
    · exact .inl (.inl watched)
    · rcases List.mem_append.1 replied with before | last
      · exact .inl (.inr ⟨client, before⟩)
      · cases List.mem_singleton.1 last
        exact .inr ⟨rfl, rfl, _, rfl⟩
  | _ => exact .inl watches

end Steps

end Telemetry.Store
