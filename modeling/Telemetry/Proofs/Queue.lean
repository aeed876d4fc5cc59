import Telemetry.Queue

/-!
# Lines and places

What the operations of a bounded queue do to its items and to its line. A sender that enters stood
in line, and there was a place for it; so a queue never holds more than it has room for.
-/

namespace Telemetry.Queue

variable {σ α : Type}

/-- What is left of a queue once its first item is taken. -/
def dequeue (q : Queue σ α) (rest : List α) : Queue σ α :=
  { q with items := rest }

/-- Nothing is queued beyond the capacity. -/
def Fits (q : Queue σ α) : Prop :=
  q.items.length ≤ q.capacity

theorem pop?_eq_some {q q' : Queue σ α} {a : α} :
    q.pop? = some (a, q') ↔ ∃ rest, q.items = a :: rest ∧ q' = q.dequeue rest := by
  unfold pop? dequeue
  cases q.items with
  | nil => simp
  | cons b rest => simp [eq_comm, and_assoc]

theorem pop?_eq_none {q : Queue σ α} : q.pop? = none ↔ q.items = [] := by
  unfold pop?
  cases q.items <;> simp

theorem fits_dequeue {q : Queue σ α} {a : α} {rest : List α} (first : q.items = a :: rest)
    (fits : q.Fits) : (q.dequeue rest).Fits := by
  simp only [Fits, dequeue, first, List.length_cons] at *
  omega

variable [DecidableEq σ]

@[simp] theorem leave_items (q : Queue σ α) (sender : σ) : (q.leave sender).items = q.items :=
  rfl

/-- Others keep their places when a sender leaves the line. -/
theorem filter_leave (q : Queue σ α) (sender other : σ) :
    (q.leave sender).waiting.filter (·.1 == other) =
      if sender = other then [] else q.waiting.filter (·.1 == other) := by
  unfold leave
  rw [List.filter_filter]
  split
  next same =>
    subst same
    simp
  next differ =>
    refine List.filter_congr fun p _ => ?_
    by_cases h : p.1 = other <;> simp [h, Ne.symm differ]

/-- A sender enters: it was admitted, there was room, its item goes from the line to the end. -/
structure Entry (q q' : Queue σ α) (sender : σ) (a : α) : Prop where
  found : q.admitted.find? (fun w => w.1 == sender) = some (sender, a)
  waits : (sender, a) ∈ q.waiting
  room : q.items.length < q.capacity
  items : q'.items = q.items ++ [a]
  waiting : q'.waiting = (q.leave sender).waiting
  capacity : q'.capacity = q.capacity

theorem entry_of_enter? {q q' : Queue σ α} {sender : σ} (h : q.enter? sender = some q') :
    ∃ a, q.Entry q' sender a := by
  obtain ⟨⟨first, a⟩, found, rfl⟩ := Option.map_eq_some_iff.1 h
  obtain rfl : first = sender := by simpa using List.find?_some found
  have admitted := List.mem_of_find?_eq_some found
  have room : 0 < q.room := by
    rcases Nat.eq_zero_or_pos q.room with full | room
    · simp [Queue.admitted, full] at admitted
    · exact room
  refine ⟨a, found, List.mem_of_mem_take admitted, ?_, rfl, rfl, rfl⟩
  simp only [Queue.room] at room
  omega

/-- Others stay in line. -/
theorem Entry.mem_waiting {q q' : Queue σ α} {sender : σ} {a : α} {p : σ × α}
    (entry : q.Entry q' sender a) (waits : p ∈ q.waiting) (other : p.1 ≠ sender) :
    p ∈ q'.waiting := by
  rw [entry.waiting]
  exact List.mem_filter.2 ⟨waits, by simpa using other⟩

theorem fits_enter? {q q' : Queue σ α} {sender : σ} (h : q.enter? sender = some q') : q'.Fits := by
  obtain ⟨a, entry⟩ := entry_of_enter? h
  have room := entry.room
  simp only [Fits, entry.items, entry.capacity, List.length_append, List.length_singleton]
  omega

/-- Whoever is first in line enters as soon as there is room. -/
theorem exists_enter? {q : Queue σ α} {sender : σ} {a : α} {rest : List (σ × α)}
    (first : q.waiting = (sender, a) :: rest) (room : q.items.length < q.capacity) :
    ∃ q', q.enter? sender = some q' := by
  obtain ⟨n, places⟩ : ∃ n, q.room = n + 1 := ⟨q.room - 1, by grind [Queue.room]⟩
  simp [enter?, admitted, first, places]

/-- Nobody stands in line for a queue with room if nobody can enter. -/
theorem waiting_eq_nil {q : Queue σ α} (room : q.items.length < q.capacity)
    (stuck : ∀ sender, q.enter? sender = none) : q.waiting = [] := by
  cases line : q.waiting with
  | nil => rfl
  | cons p rest =>
    obtain ⟨q', entered⟩ := exists_enter? line room
    cases (stuck p.1).symm.trans entered

end Telemetry.Queue
