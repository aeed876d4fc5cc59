import Telemetry.Proofs.Desk.Registry

/-!
# The list of subscribers

The subscribers on a roster stand in the order of their numbers, each number is given out once, and
whoever leaves the list is cancelled, or has no reader, or leaves with everybody. A subscriber whose
reader is gone is struck off by the next delivery: either its turn is to come or it has been found
to be gone.

## Main definitions

* `Desk.Listed`: the list is in order.
* `Desk.Moves`: who may come and who may leave.
* `Delivery.Dooms`: a delivery that strikes a subscriber off if it has no reader.

## Main results

* `Registered.listed`, `Change.moves`: lists are in order, and change only as they may.
-/

namespace Telemetry

open scoped List

namespace Signals

/-- Firing signals cancels each of them. -/
theorem isCancelled_fireAll (σ : Signals) {t : Token} {tokens : List Token}
    (member : t ∈ tokens) (signal : t.lineage ≠ []) : (σ.fireAll tokens).isCancelled t = true := by
  induction tokens generalizing σ with
  | nil => cases member
  | cons first rest ih =>
    rcases List.mem_cons.1 member with rfl | later
    · exact (σ.fire t).grows_fireAll rest t (σ.isCancelled_fire signal List.suffix_rfl)
    · exact ih (σ.fire first) later

end Signals

namespace Delivery

variable {α : Type} {d : Delivery α} {s first : Subscriber α} {rest : List (Subscriber α)}

/-- The turn of a subscriber is to come, or it has been found to be gone. -/
def Dooms (d : Delivery α) (s : Subscriber α) : Prop :=
  s ∈ d.rest ∨ s.id ∈ d.gone

theorem Dooms.strike (dooms : d.Dooms s) (due : d.rest = first :: rest) :
    (d.strike first.id).Dooms s := by
  rcases dooms with waits | gone
  · rw [due] at waits
    rcases List.mem_cons.1 waits with rfl | later
    · exact .inr (List.mem_append_right _ (List.mem_singleton.2 rfl))
    · exact .inl (by simpa [Delivery.strike, next, due] using later)
  · exact .inr (List.mem_append_left _ gone)

theorem Dooms.next (dooms : d.Dooms s) (due : d.rest = first :: rest) (other : s ≠ first) :
    d.next.Dooms s := by
  refine dooms.imp_left fun waits => ?_
  rw [due] at waits
  simpa [Delivery.next, due] using List.mem_of_ne_of_mem other waits

end Delivery

namespace Roster

variable {α : Type} {σ : Signals} {overflow : Overflow} {r r' : Roster α} {d d' : Delivery α}
  {s : Subscriber α} {id : Nat}

/-- A subscriber without a reader is found to be gone when its turn comes. -/
theorem serve?_of_isClosed {rest : List (Subscriber α)} (first : d.rest = s :: rest)
    (closed : r.isClosed s.id = true) : r.serve? σ overflow d = some (d.strike s.id, r) := by
  simp [serve?, first, closed, isGone]

theorem Turn.isClosed {fate : Option Fate} (turn : r.Turn σ overflow d s fate d' r') :
    r'.isClosed id = r.isClosed id := by
  cases turn with
  | keep => exact isClosed_push ..
  | _ => rfl

/-- A subscriber without a reader is struck off in the end. -/
theorem dooms_of_serve? (served : r.serve? σ overflow d = some (d', r'))
    (closed : r.isClosed s.id = true) (dooms : d.Dooms s) : d'.Dooms s := by
  obtain ⟨first, rest, due⟩ := first_of_serve? served
  by_cases same : s = first
  · subst same
    cases (serve?_of_isClosed due closed).symm.trans served
    exact dooms.strike due
  · have turn := turn_of_serve? due served
    generalize r.fate? σ overflow d first = fate at turn
    cases turn with
    | strike => exact dooms.strike due
    | pass | keep | lose => exact dooms.next due same
    | block => exact dooms

theorem dooms_of_giveUp? (passed : d.giveUp? σ = some d') (dooms : d.Dooms s) : d'.Dooms s := by
  obtain ⟨first, rest, due, -, rfl⟩ := strike_of_giveUp? passed
  exact dooms.strike due

/-- A reader is gone because it was, or because it goes now. -/
theorem isClosed_of_close {other : Nat} (closed : (r.close other).isClosed id = true) :
    id = other ∨ r.isClosed id = true := by
  by_cases same : id = other
  · exact .inl same
  · right
    rw [isClosed, close, (retouches_updateOutbox r other _).outbox?] at closed
    simpa [isClosed, same] using closed

theorem isClosed_enroll {accepts : α → Bool} {token : Token} {replay : List α} {extra : Nat} :
    (r.enroll accepts token replay extra).isClosed id = r.isClosed id := by
  rw [isClosed, isClosed, outbox?_enroll]
  cases r.outbox? id with
  | some b => rfl
  | none => split <;> rfl

theorem mem_remove {ids : List Nat} : s ∈ (r.remove ids).subscribers ↔
    s ∈ r.subscribers ∧ s.id ∉ ids := by
  simp [remove]

end Roster

namespace Desk

variable {α : Type} {σ σ' : Signals} {overflow : Overflow} {h : History α} {x x' : Desk α}
  {a : Act α} {s : Subscriber α}

/-- Subscribers stand in the order of their numbers, which are below the next one, and each was
granted its subscription. No number was given out twice. -/
structure Listed (h : History α) (r : Roster α) : Prop where
  ascending : r.subscribers.Pairwise fun s s' => s.id < s'.id
  below : ∀ s ∈ r.subscribers, s.id < r.nextId
  granted : r.subscribers <+ (grants h).map fun p => p.1.subscriber
  once : (grants h).Pairwise fun p q => p.1.id < q.1.id
  given : ∀ p ∈ grants h, p.1.id < r.nextId

theorem Registered.listed (reg : Registered overflow h x) : Listed h x.roster where
  ascending := by
    have granted : ((grants h).map fun p => p.1.subscriber).Pairwise fun s s' => s.id < s'.id :=
      List.pairwise_map.2 reg.ascending
    exact granted.sublist reg.subscribers
  below _ on := reg.subscriber_lt on
  granted := reg.subscribers
  once := reg.ascending
  given p granted := (reg.known p granted).1

/-- Somebody new comes with the next number, or some leave; whoever leaves is cancelled or has no
reader, unless everybody leaves. -/
inductive Moves (σ : Signals) (r r' : Roster α) (ended : Bool) : Prop
  | join (s : Subscriber α) (id : s.id = r.nextId) (next : r'.nextId = r.nextId + 1)
      (more : r'.subscribers = r.subscribers ++ [s])
  | leave (next : r.nextId ≤ r'.nextId) (fewer : r'.subscribers <+ r.subscribers)
      (why : ∀ s ∈ r.subscribers, s ∉ r'.subscribers →
        σ.isCancelled s.token = true ∨ r.isClosed s.id = true ∨ ended = true)

theorem Change.leaves (change : x.Change σ overflow a x') (reg : Registered overflow h x)
    (att : Attended h σ x) (on : s ∈ x.roster.subscribers) (off : s ∉ x'.roster.subscribers) :
    σ.isCancelled s.token = true ∨ x.roster.isClosed s.id = true ∨ x'.ended = true := by
  obtain ⟨p, granted, rfl⟩ := reg.exists_grant on
  by_contra stays
  simp only [not_or, Bool.not_eq_true] at stays
  obtain ⟨goes_on, reader, going⟩ := stays
  exact off (change.there reg att going granted ⟨goes_on, reader⟩)

/-- The list changes only as it may. -/
theorem Change.moves (change : x.Change σ overflow a x') (reg : Registered overflow h x)
    (att : Attended h σ x) : Moves σ x.roster x'.roster x'.ended := by
  rcases change.grants_eq 0 with ⟨-, -, fewer⟩ | ⟨g, -, id, next, -, more⟩
  · exact .leave change.nextId_le fewer fun s on off => change.leaves reg att on off
  · exact .join g.subscriber id next more

end Desk

end Telemetry
