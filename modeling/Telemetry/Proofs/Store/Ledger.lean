import Telemetry.Proofs.Store.Run

/-!
# The ledger of a store

A ledger is what a list of values comes to when they are applied one after the other, without
queues, clients or subscribers. The state and the counters of a store are those of the ledger of the
values that its owner has taken so far, and those values are the first of all that entered the
input queue, in the order in which they entered.

## Main definitions

* `Ledger.ofValues`: state, updates and suppressed values of a list of values.
* `Trace.entered`, `Trace.taken`, `Trace.updates`: the values that entered the queue, those that the
  owner took from it, and those among them that changed the state.
-/

namespace Telemetry

/-- What applying values one after the other comes to. -/
structure Ledger where
  state : Keyed Value.key := .empty
  /-- The values that changed the state, in the order in which they did. -/
  updates : List Value := []
  suppressed : Nat := 0

namespace Ledger

/-- The state has the same reading already. -/
def holds (l : Ledger) (v : Value) : Bool :=
  (l.state.find? v.key).any fun stored => stored.same v

def add (l : Ledger) (v : Value) : Ledger :=
  if l.holds v then { l with suppressed := l.suppressed + 1 }
  else { l with state := l.state.insert v, updates := l.updates ++ [v] }

def ofValues (values : List Value) : Ledger :=
  values.foldl add {}

def received (l : Ledger) : Nat :=
  l.updates.length + l.suppressed

theorem ofValues_append (values more : List Value) :
    ofValues (values ++ more) = more.foldl add (ofValues values) :=
  List.foldl_append

end Ledger

namespace Store

/-- State and counters are those of a ledger. -/
structure Keeps (s : Store) (l : Ledger) : Prop where
  state : s.state = l.state
  received : s.received = l.received
  applied : s.applied = l.updates.length
  suppressed : s.suppressed = l.suppressed

namespace Step

/-- The value that enters the input queue, with the client whose fill is done by that. -/
def entered (st : Step) : List (Nat × Value) :=
  match st.event with
  | .act (.resolve client) =>
    if (List.lookup client st.store.replies).isNone && !st.store.isOver then
      (st.store.input.admitted.find? fun w => w.1 == client).toList
    else []
  | _ => []

/-- The value that the owner takes from the input queue. -/
def taken (st : Step) : List Value :=
  match st.event, st.store.activity with
  | .act (.owner .takeValue), .idle => st.store.input.items.take 1
  | .act (.owner .drain), .draining _ (_ + 1) => st.store.input.items.take 1
  | _, _ => []

/-- The value that the owner takes, if it changes the state. -/
def updates (st : Step) : List Value :=
  st.taken.filter fun v => !st.store.holds v

end Step

namespace Trace

def entered (tr : Trace) : List (Nat × Value) :=
  tr.flatMap Step.entered

/-- All values that entered the input queue, in order. -/
def values (tr : Trace) : List Value :=
  (entered tr).map Prod.snd

def taken (tr : Trace) : List Value :=
  tr.flatMap Step.taken

def updates (tr : Trace) : List Value :=
  tr.flatMap Step.updates

@[simp] theorem entered_append (tr more : Trace) :
    entered (tr ++ more) = entered tr ++ entered more :=
  List.flatMap_append

@[simp] theorem values_append (tr more : Trace) :
    values (tr ++ more) = values tr ++ values more := by
  simp [values]

theorem values_le_append (tr more : Trace) : values tr <+: values (tr ++ more) := by
  rw [values_append]
  exact List.prefix_append _ _

@[simp] theorem taken_append (tr more : Trace) : taken (tr ++ more) = taken tr ++ taken more :=
  List.flatMap_append

@[simp] theorem updates_append (tr more : Trace) :
    updates (tr ++ more) = updates tr ++ updates more :=
  List.flatMap_append

@[simp] theorem taken_singleton (st : Step) : taken [st] = st.taken := by simp [taken]

@[simp] theorem updates_singleton (st : Step) : updates [st] = st.updates := by simp [updates]

@[simp] theorem entered_singleton (st : Step) : entered [st] = st.entered := by simp [entered]

@[simp] theorem values_singleton (st : Step) : values [st] = st.entered.map Prod.snd := by
  simp [values]

end Trace

/-! ## Steps -/

section Steps

variable {σ σ' : Signals} {s s' : Store} {e : Event} {o : Output}

theorem isOver_eq_false_of_ready {m : Move} {after : Option (Message × Nat)} (h : s.Ready m after) :
    s.isOver = false := by
  cases h with
  | idle h | draining h => simp [isOver, h]

theorem isOver_eq_false_of_serves {message : Message} (h : s.Serves message) :
    s.isOver = false := by
  obtain ⟨left, draining, -⟩ := h
  simp [isOver, draining]

theorem taken_of_ready {m : Move} {after : Option (Message × Nat)} {v : Value} {rest : List Value}
    (ready : s.Ready m after) (first : s.input.items = v :: rest) :
    Step.taken ⟨σ, s, .act (.owner m), o, s'⟩ = [v] := by
  cases ready with
  | idle h | draining h => simp [Step.taken, h, first]

theorem taken_of_serves {message : Message} (serves : s.Serves message) :
    Step.taken ⟨σ, s, .act (.owner .drain), o, s'⟩ = [] := by
  obtain ⟨left, draining, enough⟩ := serves
  cases left with
  | zero => simp [Step.taken, draining]
  | succ left => simp [Step.taken, draining, enough.resolve_left left.succ_ne_zero]

/-- State and counters follow the values that are taken. -/
theorem Change.keeps (h : Change σ s e σ' s' o) {l : Ledger} (keeps : s.Keeps l) :
    s'.Keeps ((Step.taken ⟨σ, s, e, o, s'⟩).foldl Ledger.add l) := by
  have same : s.holds = l.holds := by
    funext v
    rw [holds, Ledger.holds, keeps.state]
  cases h with
  | suppress ready first old =>
    rw [taken_of_ready ready first, List.foldl_cons, List.foldl_nil, Ledger.add, ← same, if_pos old]
    refine ⟨keeps.state, ?_, keeps.applied, ?_⟩
    · simp [Ledger.received, keeps.received, Nat.add_assoc]
    · simp [keeps.suppressed]
  | update ready first new =>
    rw [taken_of_ready ready first, List.foldl_cons, List.foldl_nil, Ledger.add, ← same, new,
      if_neg Bool.false_ne_true]
    refine ⟨?_, ?_, ?_, keeps.suppressed⟩
    · simp [keeps.state]
    · simp [Ledger.received, keeps.received, Nat.add_right_comm]
    · simp [keeps.applied]
  | answer serves | ignore serves | grant serves | skip serves | die serves | strike serves =>
    rw [taken_of_serves serves]
    exact ⟨keeps.state, keeps.received, keeps.applied, keeps.suppressed⟩
  | _ => exact ⟨keeps.state, keeps.received, keeps.applied, keeps.suppressed⟩

theorem length_taken_le (st : Step) : st.taken.length ≤ 1 := by
  unfold Step.taken
  split
  · exact List.length_take_le 1 _
  · exact List.length_take_le 1 _
  · exact Nat.zero_le 1

/-- An update is a value that the ledger records. -/
theorem updates_foldl_taken {st : Step} {l : Ledger} (keeps : st.store.Keeps l) :
    (st.taken.foldl Ledger.add l).updates = l.updates ++ st.updates := by
  have same : st.store.holds = l.holds := by
    funext v
    rw [holds, Ledger.holds, keeps.state]
  have short := length_taken_le st
  unfold Step.updates
  rw [same]
  match st.taken, short with
  | [], _ => simp
  | [v], _ => cases h : l.holds v <;> simp [Ledger.add, h]

theorem entered_of_reply {client : Nat} {reply : Reply}
    (there : List.lookup client s.replies = some reply) :
    Step.entered ⟨σ, s, .act (.resolve client), o, s'⟩ = [] := by
  simp [Step.entered, there]

theorem entered_of_over (ended : s.isOver = true) : Step.entered ⟨σ, s, e, o, s'⟩ = [] := by
  unfold Step.entered
  split <;> simp [ended]

theorem entered_of_accept {client : Nat} {input : Queue Nat Value}
    (none_there : List.lookup client s.replies = none) (going : s.isOver = false)
    (entered : s.input.enter? client = some input) :
    ∃ v, s.input.Entry input client v ∧
      Step.entered ⟨σ, s, .act (.resolve client), o, s'⟩ = [(client, v)] := by
  obtain ⟨v, entry⟩ := Queue.entry_of_enter? entered
  exact ⟨v, entry, by simp [Step.entered, none_there, going, entry.found]⟩

/-- Nothing is lost between the input queue and the owner, unless the owner breaks down. -/
theorem Change.flow (h : Change σ s e σ' s' o) (going : s'.isOver = false) :
    Step.taken ⟨σ, s, e, o, s'⟩ ++ s'.input.items =
      s.input.items ++ (Step.entered ⟨σ, s, e, o, s'⟩).map Prod.snd := by
  cases h with
  | suppress ready first | update ready first =>
    rw [taken_of_ready ready first]
    simp [Step.entered, Queue.dequeue, first]
  | answer serves | ignore serves | grant serves | skip serves | strike serves =>
    rw [taken_of_serves serves]
    exact (List.append_nil _).symm
  | accept client none_there going entered =>
    obtain ⟨v, entry, entered⟩ := entered_of_accept none_there going entered
    rw [entered, entry.items]
    rfl
  | collect client there =>
    rw [entered_of_reply there]
    exact (List.append_nil _).symm
  | refuse client _ ended =>
    rw [entered_of_over ended]
    exact (List.append_nil _).symm
  | die | stop => cases going
  | _ => exact (List.append_nil _).symm

/-- Once the owner is gone it stays so, and nothing is taken or enters any more. -/
theorem Change.stays_over (h : Change σ s e σ' s' o) (ended : s.isOver = true) :
    s'.isOver = true ∧ Step.taken ⟨σ, s, e, o, s'⟩ = [] ∧ Step.entered ⟨σ, s, e, o, s'⟩ = [] := by
  refine ⟨?_, ?_, entered_of_over ended⟩
  · cases h with
    | suppress ready | update ready => simp [isOver_eq_false_of_ready ready] at ended
    | answer serves | ignore serves | grant serves | skip serves | strike serves =>
      simp [isOver_eq_false_of_serves serves] at ended
    | takeRequest idle => simp [isOver, idle] at ended
    | finish delivering | deliver delivering | giveUp delivering =>
      simp [isOver, delivering] at ended
    | die | stop => rfl
    | _ => exact ended
  · unfold Step.taken
    split
    next idle => simp [isOver_eq_false_of_ready (.idle idle)] at ended
    next draining => simp [isOver_eq_false_of_ready (.draining draining)] at ended
    · rfl

/-- When the owner ends, nothing is taken and nothing enters. -/
theorem Change.ends (h : Change σ s e σ' s' o) (ended : s'.isOver = true) :
    Step.taken ⟨σ, s, e, o, s'⟩ = [] ∧ Step.entered ⟨σ, s, e, o, s'⟩ = [] := by
  cases before : s.isOver with
  | true => exact (h.stays_over before).2
  | false =>
    cases h with
    | @suppress _ after => cases after <;> cases ended
    | @finish _ after => cases after <;> cases ended
    | update | takeRequest | deliver | giveUp => cases ended
    | answer | ignore | grant | skip | strike => cases ended
    | die serves => exact ⟨taken_of_serves serves, rfl⟩
    | stop => exact ⟨rfl, rfl⟩
    | _ => exact absurd (before.symm.trans ended) Bool.false_ne_true

theorem Change.config_eq (h : Change σ s e σ' s' o) : s'.config = s.config := by
  cases h <;> rfl

theorem Change.fits (h : Change σ s e σ' s' o) (fits : s.input.Fits) : s'.input.Fits := by
  cases h with
  | suppress ready first | update ready first => exact Queue.fits_dequeue first fits
  | accept client none_there going entered => exact Queue.fits_enter? entered
  | die => exact Nat.zero_le _
  | _ => exact fits

theorem Change.capacity_eq (h : Change σ s e σ' s' o) : s'.input.capacity = s.input.capacity := by
  cases h with
  | accept client none_there going entered =>
    obtain ⟨v, entry⟩ := Queue.entry_of_enter? entered
    exact entry.capacity
  | _ => rfl

end Steps

/-! ## Runs -/

section Runs

variable {config : StoreConfig} {tr : Trace} {σ : Signals} {s : Store}

theorem ofConfig?_eq_some (h : ofConfig? config = some s) :
    s = { config, input := { capacity := config.inputCapacity.toNat } } := by
  unfold ofConfig? at h
  split at h <;> cases h
  rfl

theorem Run.config_eq (run : Run config tr σ s) : s.config = config := by
  induction run with
  | start σ made => rw [ofConfig?_eq_some made]
  | step run e permitted happened ih => exact (change_of_effect happened).config_eq.trans ih

theorem Run.input_capacity (run : Run config tr σ s) :
    s.input.capacity = config.inputCapacity.toNat := by
  induction run with
  | start σ made => rw [ofConfig?_eq_some made]
  | step run e permitted happened ih => exact (change_of_effect happened).capacity_eq.trans ih

/-- The input queue holds no more than it has room for. -/
theorem Run.fits (run : Run config tr σ s) :
    s.input.items.length ≤ s.config.inputCapacity.toNat := by
  suffices s.input.Fits ∧ s.input.capacity = s.config.inputCapacity.toNat from this.2 ▸ this.1
  induction run with
  | start σ made =>
    rw [ofConfig?_eq_some made]
    exact ⟨Nat.zero_le _, rfl⟩
  | step run e permitted happened ih =>
    have change := change_of_effect happened
    rw [change.config_eq, change.capacity_eq]
    exact ⟨change.fits ih.1, ih.2⟩

/-- State, counters and updates are those of the values that the owner has taken. -/
theorem Run.keeps (run : Run config tr σ s) :
    s.Keeps (.ofValues (Trace.taken tr)) ∧
      (Ledger.ofValues (Trace.taken tr)).updates = Trace.updates tr := by
  induction run with
  | start σ made =>
    rw [ofConfig?_eq_some made]
    exact ⟨⟨rfl, rfl, rfl, rfl⟩, rfl⟩
  | step run e permitted happened ih =>
    have change := change_of_effect happened
    obtain ⟨keeps, updates⟩ := ih
    rw [Trace.taken_append, Trace.taken_singleton, Ledger.ofValues_append]
    refine ⟨change.keeps keeps, ?_⟩
    rw [updates_foldl_taken keeps, updates]
    simp

/-- As long as the owner is there, what entered was taken or waits in the queue. -/
theorem Run.flow (run : Run config tr σ s) (going : s.isOver = false) :
    Trace.taken tr ++ s.input.items = Trace.values tr := by
  induction run with
  | start σ made =>
    rw [ofConfig?_eq_some made]
    rfl
  | @step tr σ σ' s s' o run e permitted happened ih =>
    have change := change_of_effect happened
    have before : s.isOver = false := by
      cases h : s.isOver with
      | false => rfl
      | true => exact absurd (change.stays_over h).1 (by simp [going])
    calc Trace.taken (tr ++ [⟨σ, s, e, o, s'⟩]) ++ s'.input.items
        = Trace.taken tr ++ (Step.taken ⟨σ, s, e, o, s'⟩ ++ s'.input.items) := by simp
      _ = Trace.taken tr ++ (s.input.items ++ (Step.entered ⟨σ, s, e, o, s'⟩).map Prod.snd) := by
        rw [change.flow going]
      _ = Trace.values tr ++ (Step.entered ⟨σ, s, e, o, s'⟩).map Prod.snd := by
        rw [← List.append_assoc, ih before]
      _ = Trace.values (tr ++ [⟨σ, s, e, o, s'⟩]) := by simp

/-- The owner takes the values in the order in which they entered. -/
theorem Run.taken_le_values (run : Run config tr σ s) : Trace.taken tr <+: Trace.values tr := by
  induction run with
  | start => exact List.prefix_rfl
  | @step tr σ σ' s s' o run e permitted happened ih =>
    cases ended : s'.isOver with
    | true =>
      obtain ⟨taken, entered⟩ := (change_of_effect happened).ends ended
      simpa [taken, entered] using ih
    | false => exact ⟨_, (run.step e permitted happened).flow ended⟩

end Runs

end Store

end Telemetry
