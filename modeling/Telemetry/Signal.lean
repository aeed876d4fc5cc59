/-!
# Cancellation signals

Signals form a tree. Firing a signal cancels it and everything below it; it stays cancelled from
then on. A token knows its signal and all signals above it, so nothing has to be told.

## Main definitions

* `Token`: a signal with its ancestors.
* `Signals`: which signals have fired.
-/

namespace Telemetry

structure Token where
  /-- The number of the signal, then those of its ancestors upwards. -/
  lineage : List Nat
  deriving DecidableEq, Repr

structure Signals where
  fired : List Nat := []
  /-- The number of the next new signal. -/
  next : Nat := 0
  deriving DecidableEq, Repr

namespace Signals

/-- A new signal without ancestors. -/
def root (s : Signals) : Token × Signals :=
  (⟨[s.next]⟩, { s with next := s.next + 1 })

/-- A new signal below another. -/
def child (s : Signals) (parent : Token) : Token × Signals :=
  (⟨s.next :: parent.lineage⟩, { s with next := s.next + 1 })

def fire (s : Signals) (t : Token) : Signals :=
  match t.lineage with
  | [] => s
  | n :: _ => if s.fired.contains n then s else { s with fired := n :: s.fired }

def fireAll (s : Signals) (tokens : List Token) : Signals :=
  tokens.foldl fire s

/-- The signal itself or one above it has fired. -/
def isCancelled (s : Signals) (t : Token) : Bool :=
  t.lineage.any s.fired.contains

end Signals

end Telemetry
