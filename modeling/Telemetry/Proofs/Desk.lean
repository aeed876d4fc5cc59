import Telemetry.Proofs.Roster

/-!
# Desks

A desk is what stores and catalogs have in common: a roster of subscribers and the delivery that is
under way. Its history tells which subscriptions were granted, what was published, what became of
each item at the turn of each subscriber, and what was read.

## Main definitions

* `Desk.Act`, `Desk.History`: what happens at a desk.
* `Desk.grants`, `Desk.numbered`, `Desk.log`, `Desk.received`: what a history tells.
* `Desk.Change`, `Desk.Run`: what can happen.
-/

namespace Telemetry

namespace Signals

/-- What was cancelled stays so. -/
def Grows (σ σ' : Signals) : Prop :=
  ∀ t, σ.isCancelled t = true → σ'.isCancelled t = true

theorem grows_refl (σ : Signals) : σ.Grows σ :=
  fun _ h => h

theorem Grows.trans {σ σ' σ'' : Signals} (h : σ.Grows σ') (h' : σ'.Grows σ'') : σ.Grows σ'' :=
  fun t cancelled => h' t (h t cancelled)

theorem grows_fire (σ : Signals) (t : Token) : σ.Grows (σ.fire t) := by
  intro t' cancelled
  obtain ⟨n, member, fired⟩ := List.any_eq_true.1 cancelled
  refine List.any_eq_true.2 ⟨n, member, ?_⟩
  unfold fire
  split
  · exact fired
  · split
    · exact fired
    · exact List.contains_iff_mem.2 (List.mem_cons_of_mem _ (List.contains_iff_mem.1 fired))

theorem grows_fireAll (σ : Signals) (tokens : List Token) : σ.Grows (σ.fireAll tokens) := by
  induction tokens generalizing σ with
  | nil => exact σ.grows_refl
  | cons t rest ih => exact (σ.grows_fire t).trans (ih _)

/-- Firing a signal cancels whatever is below it. -/
theorem isCancelled_fire (σ : Signals) {t below : Token} (signal : t.lineage ≠ [])
    (above : t.lineage.IsSuffix below.lineage) : (σ.fire t).isCancelled below = true := by
  obtain ⟨n, rest, lineage⟩ := List.exists_cons_of_ne_nil signal
  have member : n ∈ below.lineage := above.subset (by simp [lineage])
  refine List.any_eq_true.2 ⟨n, member, ?_⟩
  unfold fire
  rw [lineage]
  grind

end Signals

/-- A subscription that was granted. -/
structure Grant (α : Type) where
  id : Nat
  accepts : α → Bool
  token : Token
  /-- What its queue held at once. -/
  initial : List α
  capacity : Nat

namespace Grant

variable {α : Type}

def subscriber (g : Grant α) : Subscriber α :=
  ⟨g.id, g.accepts, g.token⟩

end Grant

namespace Roster

variable {α : Type} {r r' : Roster α}

/-- The subscription that a roster has on top of those of another. -/
def enrolled? (r r' : Roster α) : Option (Grant α) :=
  match r'.subscribers.drop r.subscribers.length, r'.outboxes.drop r.outboxes.length with
  | [s], [e] => some ⟨s.id, s.accepts, s.token, e.2.items, e.2.capacity⟩
  | _, _ => none

theorem enrolled?_of_shape (same : r'.shape = r.shape) : enrolled? r r' = none := by
  have lengths := congrArg List.length same
  simp only [shape, List.length_map] at lengths
  have none_new : r'.outboxes.drop r.outboxes.length = [] :=
    List.drop_eq_nil_of_le (Nat.le_of_eq lengths)
  unfold enrolled?
  rw [none_new]
  split
  next contra => cases contra
  · rfl

@[simp] theorem enrolled?_self : enrolled? r r = none :=
  enrolled?_of_shape rfl

theorem enrolled?_enroll (r : Roster α) (accepts : α → Bool) (token : Token) (initial : List α)
    (extra : Nat) : enrolled? r (r.enroll accepts token initial extra) =
      some ⟨r.nextId, accepts, token, initial, initial.length + extra⟩ := by
  simp [enrolled?, enroll]

end Roster

namespace Fate

def isKept : Fate → Bool
  | kept _ => true
  | _ => false

def isLost : Fate → Bool
  | lost _ => true
  | _ => false

/-- How many items the queue held. -/
def queued : Fate → Nat
  | kept n | lost n => n
  | cut => 0

/-- An item is kept where there is room, and lost at a full queue only if the policy says so. -/
def Suits (overflow : Overflow) (capacity : Nat) : Fate → Prop
  | kept n => n < capacity
  | lost n => n = capacity ∧ overflow = .dropNewest
  | cut => True

end Fate

/-- A roster and the delivery under way. -/
structure Desk (α : Type) where
  roster : Roster α
  delivery : Option (Delivery α) := none
  /-- Nothing will be published any more. -/
  ended : Bool := false

namespace Desk

variable {α : Type}

inductive Act (α : Type)
  | enroll (g : Grant α)
  | publish (a : α)
  /-- The turn of a subscriber, and what became of the item if that is settled. -/
  | turn (id : Nat) (a : α) (fate : Option Fate)
  /-- A delivery is broken off before the turn of some who want the item. -/
  | cut (a : α) (ids : List Nat)
  | read (id : Nat) (a : α)
  | other

/-- An item with its number among all that were published, and what became of it. -/
structure Entry (α : Type) where
  update : α × Nat
  fate : Fate

namespace Act

def published : Act α → List α
  | publish a => [a]
  | _ => []

/-- The subscription that is granted, after `n` items were published. -/
def granted (n : Nat) : Act α → List (Grant α × Nat)
  | enroll g => [(g, n)]
  | _ => []

/-- What becomes of the last of `n` items for a subscription. -/
def logged (id n : Nat) : Act α → List (Entry α)
  | turn i a (some fate) => if i = id then [⟨(a, n - 1), fate⟩] else []
  | cut a ids => if id ∈ ids then [⟨(a, n - 1), .cut⟩] else []
  | _ => []

def received (id : Nat) : Act α → List α
  | read i a => if i = id then [a] else []
  | _ => []

end Act

abbrev History (α : Type) := List (Act α)

/-- Each act with the number of items that were published before. -/
def marked : Nat → History α → List (Nat × Act α)
  | _, [] => []
  | n, a :: rest => (n, a) :: marked (n + a.published.length) rest

def published (h : History α) : List α :=
  h.flatMap Act.published

/-- All that was published, numbered from zero. -/
def numbered (h : History α) : List (α × Nat) :=
  (published h).zipIdx

/-- The subscriptions, each with the number of items that were published before it. -/
def grants (h : History α) : List (Grant α × Nat) :=
  (marked 0 h).flatMap fun p => p.2.granted p.1

/-- What became of each item for a subscription. -/
def log (id : Nat) (h : History α) : List (Entry α) :=
  (marked 0 h).flatMap fun p => p.2.logged id p.1

/-- What the reader of a subscription got. -/
def received (id : Nat) (h : History α) : List α :=
  h.flatMap (Act.received id)

/-- The items of some entries that went into the queue. -/
def kept (entries : List (Entry α)) : List α :=
  (entries.filter fun e => e.fate.isKept).map fun e => e.update.1

/-- How many of some entries tell of a loss. -/
def losses (entries : List (Entry α)) : Nat :=
  entries.countP fun e => e.fate.isLost

section Histories

variable (h : History α) (a : Act α) (id : Nat)

theorem marked_append (n : Nat) (more : History α) :
    marked n (h ++ more) = marked n h ++ marked (n + (published h).length) more := by
  induction h generalizing n with
  | nil => simp [marked, published]
  | cons a rest ih => simp [marked, ih, published, Nat.add_assoc]

@[simp] theorem published_nil : published ([] : History α) = [] := rfl

@[simp] theorem grants_nil : grants ([] : History α) = [] := rfl

@[simp] theorem log_nil : log id ([] : History α) = [] := rfl

@[simp] theorem received_nil : received id ([] : History α) = [] := rfl

@[simp] theorem published_snoc : published (h ++ [a]) = published h ++ a.published := by
  simp [published]

@[simp] theorem grants_snoc :
    grants (h ++ [a]) = grants h ++ a.granted (published h).length := by
  simp [grants, marked_append, marked]

@[simp] theorem log_snoc : log id (h ++ [a]) = log id h ++ a.logged id (published h).length := by
  simp [log, marked_append, marked]

@[simp] theorem received_snoc : received id (h ++ [a]) = received id h ++ a.received id := by
  simp [received]

theorem published_append (more : History α) :
    published (h ++ more) = published h ++ published more := by
  simp [published]

theorem received_append (more : History α) :
    received id (h ++ more) = received id h ++ received id more := by
  simp [received]

theorem mem_grants (g : Grant α) (more : History α) :
    (g, (published h).length) ∈ grants (h ++ .enroll g :: more) := by
  simp [grants, marked_append, marked, Act.granted]

/-- What was granted stays granted. -/
theorem grants_subset (more : History α) : grants h ⊆ grants (h ++ more) := by
  rw [grants, grants, marked_append, List.flatMap_append]
  exact List.subset_append_left _ _

theorem numbered_snoc :
    numbered (h ++ [a]) = numbered h ++ a.published.zipIdx (published h).length := by
  simp [numbered, List.zipIdx_append]

@[simp] theorem length_numbered : (numbered h).length = (published h).length :=
  List.length_zipIdx

/-- The numbers ascend. -/
theorem ascending_zipIdx (l : List α) : l.zipIdx.Pairwise fun x y => x.2 < y.2 := by
  have indices : (List.range' 0 l.length).Pairwise (· < ·) := List.pairwise_lt_range' 1
  rw [← List.zipIdx_map_snd 0 l, List.pairwise_map] at indices
  exact indices

theorem ascending_numbered : (numbered h).Pairwise fun x y => x.2 < y.2 :=
  ascending_zipIdx (published h)

@[simp] theorem kept_nil : kept ([] : List (Entry α)) = [] := rfl

@[simp] theorem kept_append (l l' : List (Entry α)) : kept (l ++ l') = kept l ++ kept l' := by
  simp [kept]

@[simp] theorem losses_append (l l' : List (Entry α)) :
    losses (l ++ l') = losses l + losses l' :=
  List.countP_append

end Histories

/-! ## Runs -/

/-- All that can happen at a desk. -/
inductive Change (σ : Signals) (overflow : Overflow) (x : Desk α) : Act α → Desk α → Prop
  | stay : Change σ overflow x .other x
  | enroll (accepts : α → Bool) (token : Token) (initial : List α) (extra : Nat)
      (idle : x.delivery = none) :
      Change σ overflow x
        (.enroll ⟨x.roster.nextId, accepts, token, initial, initial.length + extra⟩)
        { x with roster := x.roster.enroll accepts token initial extra }
  | skip : Change σ overflow x .other { x with roster := x.roster.skipId }
  | publish (a : α) (idle : x.delivery = none) (going : x.ended = false) :
      Change σ overflow x (.publish a) { x with delivery := some (x.roster.deliver a) }
  | turn {d d' : Delivery α} {s : Subscriber α} {rest : List (Subscriber α)} {fate : Option Fate}
      {roster : Roster α} (delivering : x.delivery = some d) (first : d.rest = s :: rest)
      (turn : x.roster.Turn σ overflow d s fate d' roster) :
      Change σ overflow x (.turn s.id d.item fate) { x with roster, delivery := some d' }
  | giveUp {d : Delivery α} {s : Subscriber α} {rest : List (Subscriber α)}
      (delivering : x.delivery = some d) (first : d.rest = s :: rest)
      (cancelled : σ.isCancelled s.token = true) :
      Change σ overflow x .other { x with delivery := some (d.strike s.id) }
  | finish {d : Delivery α} (delivering : x.delivery = some d) (served : d.rest = []) :
      Change σ overflow x .other { x with roster := x.roster.remove d.gone, delivery := none }
  | cut {d : Delivery α} (delivering : x.delivery = some d) :
      Change σ overflow x
        (.cut d.item ((d.rest.filter fun s => s.accepts d.item).map Subscriber.id))
        { x with delivery := none }
  | strike (id : Nat) (idle : x.delivery = none)
      (gone : ∀ s ∈ x.roster.subscribers, s.id = id → σ.isCancelled s.token = true) :
      Change σ overflow x .other { x with roster := x.roster.remove [id] }
  | clear (idle : x.delivery = none) :
      Change σ overflow x .other { x with roster := x.roster.clear, ended := true }
  | read {id : Nat} {a : α} {roster : Roster α} (item : x.roster.read? id = some (a, roster)) :
      Change σ overflow x (.read id a) { x with roster }
  | close (id : Nat) : Change σ overflow x .other { x with roster := x.roster.close id }

theorem Change.of_act {σ : Signals} {overflow : Overflow} {x x' : Desk α} {a b : Act α}
    (same : a = b) (change : x.Change σ overflow b x') : x.Change σ overflow a x' :=
  same ▸ change

theorem Change.stay_of_eq {σ : Signals} {overflow : Overflow} {x x' : Desk α} (same : x' = x) :
    x.Change σ overflow .other x' :=
  same ▸ .stay

/-- What can have happened at a desk since it was opened. -/
inductive Run (overflow : Overflow) : History α → Signals → Desk α → Prop
  | start (σ : Signals) (nextId : Nat) : Run overflow [] σ ⟨{ nextId }, none, false⟩
  | step {h : History α} {σ σ' : Signals} {x x' : Desk α} {a : Act α} (run : Run overflow h σ x)
      (change : x.Change σ overflow a x') (grows : σ.Grows σ') : Run overflow (h ++ [a]) σ' x'

end Desk

end Telemetry
