/-!
# Bounded queues

A queue holds a limited number of items. Senders that find it full wait in line and enter in the
order in which they came; a place that becomes free belongs to the first who waits.

Every sender joins the line first. It may enter as soon as fewer senders stand ahead of it than
places are free, and those who may enter can do so in any order.

## Main definitions

* `Queue`: items and line.
* `Queue.join`, `Queue.enter?`, `Queue.leave`, `Queue.pop?`: the operations.
-/

namespace Telemetry

structure Queue (σ α : Type) where
  capacity : Nat
  items : List α := []
  /-- Each sender stands in line at most once. -/
  waiting : List (σ × α) := []

namespace Queue

variable {σ α : Type}

/-- Free places. -/
def room (q : Queue σ α) : Nat :=
  q.capacity - q.items.length

/-- Those who may enter. -/
def admitted (q : Queue σ α) : List (σ × α) :=
  q.waiting.take q.room

def join (q : Queue σ α) (sender : σ) (a : α) : Queue σ α :=
  { q with waiting := q.waiting ++ [(sender, a)] }

/-- Out of the line without entering. -/
def leave [DecidableEq σ] (q : Queue σ α) (sender : σ) : Queue σ α :=
  { q with waiting := q.waiting.filter fun w => w.1 != sender }

def waits [DecidableEq σ] (q : Queue σ α) (sender : σ) : Bool :=
  q.waiting.any fun w => w.1 == sender

/-- From the line into the queue. -/
def enter? [DecidableEq σ] (q : Queue σ α) (sender : σ) : Option (Queue σ α) :=
  (q.admitted.find? fun w => w.1 == sender).map fun w =>
    { q.leave sender with items := q.items ++ [w.2] }

def pop? (q : Queue σ α) : Option (α × Queue σ α) :=
  match q.items with
  | [] => none
  | a :: rest => some (a, { q with items := rest })

end Queue

end Telemetry
