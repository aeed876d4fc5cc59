import Mathlib.Data.List.Infix
import Telemetry.Roster

/-!
# Outboxes and turns

What the operations of a roster do to the queue of one subscriber, and the ways in which the turn
of a subscriber can go when an item is delivered.

## Main definitions

* `Roster.queued`, `Roster.shape`: the items in a queue, and which queues there are.
* `Fate`, `Roster.Turn`: what becomes of an item at the turn of a subscriber.
-/

namespace Telemetry

/-- What becomes of an item that a subscriber should get. -/
inductive Fate
  /-- It went into the queue, which held `queued` items before. -/
  | kept (queued : Nat)
  /-- It was dropped at a queue of `queued` items. -/
  | lost (queued : Nat)
  /-- The delivery was broken off before the turn of the subscriber. -/
  | cut
  deriving DecidableEq

/-- What is found in a table whose entries were changed, each in its own way. -/
theorem lookup_map {β γ : Type} (f : Nat → β → γ) (l : List (Nat × β)) (k : Nat) :
    List.lookup k (l.map fun e => (e.1, f e.1 e.2)) = (List.lookup k l).map (f k) := by
  induction l with
  | nil => rfl
  | cons e l ih =>
    obtain ⟨i, b⟩ := e
    simp only [List.map_cons, List.lookup_cons]
    by_cases same : k = i
    · simp [same]
    · simp [beq_eq_false_iff_ne.2 same, ih]

namespace Roster

variable {α : Type}

/-- What waits for the reader of a subscription. -/
def queued (r : Roster α) (id : Nat) : List α :=
  ((r.outbox? id).map Outbox.items).getD []

/-- The queues that there are, with their capacities. -/
def shape (r : Roster α) : List (Nat × Nat) :=
  r.outboxes.map fun e => (e.1, e.2.capacity)

/-- A queue holds no more than it has room for, and one without a reader holds nothing. -/
def Fits (r : Roster α) : Prop :=
  ∀ id b, r.outbox? id = some b →
    b.items.length ≤ b.capacity ∧ (b.closed = true → b.items = [])

/-! ## One queue -/

/-- The queues of a roster are those of another, each changed in its own way. -/
def Retouches (f : Nat → Outbox α → Outbox α) (r r' : Roster α) : Prop :=
  r'.outboxes = r.outboxes.map fun e => (e.1, f e.1 e.2)

theorem Retouches.outbox? {f : Nat → Outbox α → Outbox α} {r r' : Roster α}
    (h : Retouches f r r') (id : Nat) : r'.outbox? id = (r.outbox? id).map (f id) := by
  rw [Roster.outbox?, h, lookup_map]
  rfl

theorem Retouches.shape {f : Nat → Outbox α → Outbox α} {r r' : Roster α}
    (h : Retouches f r r') (same : ∀ id b, (f id b).capacity = b.capacity) :
    r'.shape = r.shape := by
  simp [Roster.shape, show r'.outboxes = _ from h, same]

theorem Retouches.fits {f : Nat → Outbox α → Outbox α} {r r' : Roster α} (h : Retouches f r r')
    (fits : r.Fits)
    (kept : ∀ id b, r.outbox? id = some b → b.items.length ≤ b.capacity →
      (b.closed = true → b.items = []) → (f id b).items.length ≤ (f id b).capacity ∧
        ((f id b).closed = true → (f id b).items = [])) : r'.Fits := by
  intro id b there
  rw [h.outbox?] at there
  obtain ⟨b, present, rfl⟩ := Option.map_eq_some_iff.1 there
  exact kept id b present (fits id b present).1 (fits id b present).2

theorem retouches_updateOutbox (r : Roster α) (id : Nat) (f : Outbox α → Outbox α) :
    Retouches (fun i b => if i = id then f b else b) r (r.updateOutbox id f) := by
  refine List.map_congr_left fun e _ => ?_
  by_cases h : e.1 = id
  · simp [← h]
  · simp [h]

theorem retouches_remove (r : Roster α) (ids : List Nat) :
    Retouches (fun i b => if ids.contains i then { b with finished := true } else b) r
      (r.remove ids) := by
  refine List.map_congr_left fun e _ => ?_
  dsimp only
  split <;> rfl

theorem retouches_clear (r : Roster α) :
    Retouches (fun _ b => { b with finished := true }) r r.clear :=
  rfl

section Queues

variable {r r' : Roster α} {id : Nat} {a : α}

theorem queued_of_outbox? {b : Outbox α} (h : r.outbox? id = some b) : r.queued id = b.items := by
  simp [queued, h]

@[simp] theorem queued_remove (r : Roster α) (ids : List Nat) (id : Nat) :
    (r.remove ids).queued id = r.queued id := by
  rw [queued, queued, (retouches_remove r ids).outbox?, Option.map_map]
  congr 2
  funext b
  simp only [Function.comp]
  split <;> rfl

@[simp] theorem isClosed_remove (r : Roster α) (ids : List Nat) (id : Nat) :
    (r.remove ids).isClosed id = r.isClosed id := by
  rw [isClosed, isClosed, (retouches_remove r ids).outbox?, Option.any_map]
  congr 1
  funext b
  split <;> rfl

@[simp] theorem shape_remove (r : Roster α) (ids : List Nat) : (r.remove ids).shape = r.shape :=
  (retouches_remove r ids).shape fun i b => by
    split <;> rfl

theorem fits_remove (ids : List Nat) (fits : r.Fits) : (r.remove ids).Fits :=
  (retouches_remove r ids).fits fits fun i b _ le closed => by
    split <;> exact ⟨le, closed⟩

@[simp] theorem queued_clear (r : Roster α) (id : Nat) : r.clear.queued id = r.queued id := by
  rw [queued, queued, r.retouches_clear.outbox?, Option.map_map]
  rfl

@[simp] theorem isClosed_clear (r : Roster α) (id : Nat) : r.clear.isClosed id = r.isClosed id := by
  rw [isClosed, isClosed, r.retouches_clear.outbox?, Option.any_map]

@[simp] theorem shape_clear (r : Roster α) : r.clear.shape = r.shape :=
  r.retouches_clear.shape fun _ _ => rfl

/-- Whoever is struck off first is struck off with everybody. -/
@[simp] theorem clear_remove (r : Roster α) (ids : List Nat) : (r.remove ids).clear = r.clear := by
  simp only [clear, remove, List.map_map, Roster.mk.injEq, true_and, and_true]
  refine List.map_congr_left fun e _ => ?_
  dsimp only [Function.comp]
  split <;> rfl

theorem fits_clear (fits : r.Fits) : r.clear.Fits :=
  r.retouches_clear.fits fits fun _ _ _ le closed => ⟨le, closed⟩

@[simp] theorem shape_updateOutbox {f : Outbox α → Outbox α}
    (same : ∀ b, (f b).capacity = b.capacity) : (r.updateOutbox id f).shape = r.shape :=
  (retouches_updateOutbox r id f).shape fun i b => by
    split <;> simp [same]

theorem queued_updateOutbox_of_ne {other : Nat} (f : Outbox α → Outbox α) (h : other ≠ id) :
    (r.updateOutbox id f).queued other = r.queued other := by
  rw [queued, queued, (retouches_updateOutbox r id f).outbox?]
  simp [h]

/-! ### Pushing -/

theorem exists_of_hasRoom (room : r.hasRoom id = true) :
    ∃ b, r.outbox? id = some b ∧ b.items.length < b.capacity := by
  obtain ⟨b, there, room⟩ := (Option.any_eq_true _ _).1 room
  exact ⟨b, there, by simpa [Outbox.hasRoom] using room⟩

@[simp] theorem isClosed_push (r : Roster α) (id : Nat) (a : α) (other : Nat) :
    (r.push id a).isClosed other = r.isClosed other := by
  rw [isClosed, isClosed, push, (retouches_updateOutbox r id _).outbox?, Option.any_map]
  congr 1
  funext b
  split <;> rfl

theorem queued_push (room : r.hasRoom id = true) :
    (r.push id a).queued id = r.queued id ++ [a] := by
  obtain ⟨b, there, -⟩ := exists_of_hasRoom room
  rw [queued, queued, push, (retouches_updateOutbox r id _).outbox?, there]
  simp [Outbox.push]

theorem queued_push_of_ne {other : Nat} (h : other ≠ id) :
    (r.push id a).queued other = r.queued other :=
  queued_updateOutbox_of_ne _ h

theorem fits_push (room : r.hasRoom id = true) (opened : r.isClosed id = false) (fits : r.Fits) :
    (r.push id a).Fits := by
  obtain ⟨b, there, less⟩ := exists_of_hasRoom room
  refine (retouches_updateOutbox r id _).fits fits fun i c present le closed => ?_
  by_cases h : i = id
  · subst h
    cases there.symm.trans present
    have reads : b.closed = false := by simpa [isClosed, there] using opened
    simpa [Outbox.push, reads] using Nat.succ_le_of_lt less
  · simpa [h] using ⟨le, closed⟩

/-! ### Closing -/

theorem isClosed_close_of_isClosed {other : Nat} (h : r.isClosed other = true) :
    (r.close id).isClosed other = true := by
  obtain ⟨b, there, closed⟩ := (Option.any_eq_true _ _).1 h
  rw [isClosed, close, (retouches_updateOutbox r id _).outbox?, there]
  by_cases same : other = id <;> simp [same, closed]

theorem isClosed_close {b : Outbox α} (there : r.outbox? id = some b) :
    (r.close id).isClosed id = true := by
  rw [isClosed, close, (retouches_updateOutbox r id _).outbox?, there]
  simp

theorem queued_close_of_ne {other : Nat} (h : other ≠ id) :
    (r.close id).queued other = r.queued other :=
  queued_updateOutbox_of_ne _ h

/-- The queue of a subscription whose reader is there was not touched. -/
theorem queued_close_of_open {other : Nat} (h : (r.close id).isClosed other = false) :
    (r.close id).queued other = r.queued other := by
  by_cases same : other = id
  · subst same
    rw [isClosed, close, (retouches_updateOutbox r other _).outbox?] at h
    rw [queued, queued, close, (retouches_updateOutbox r other _).outbox?]
    cases there : r.outbox? other with
    | none => rfl
    | some b => simp [there] at h
  · exact queued_updateOutbox_of_ne _ same

theorem isClosed_close_of_ne {other : Nat} (h : other ≠ id) :
    (r.close id).isClosed other = r.isClosed other := by
  rw [isClosed, isClosed, close, (retouches_updateOutbox r id _).outbox?]
  simp [h]

theorem fits_close (fits : r.Fits) : (r.close id).Fits := by
  refine (retouches_updateOutbox r id _).fits fits fun i b _ le closed => ?_
  by_cases h : i = id
  · simp [h]
  · simpa [h] using ⟨le, closed⟩

/-! ### Reading -/

theorem read?_eq_some (h : r.read? id = some (a, r')) :
    ∃ b rest, r.outbox? id = some b ∧ b.items = a :: rest ∧
      r' = r.updateOutbox id fun b => { b with items := rest } := by
  unfold read? at h
  split at h
  next b rest there =>
    cases h
    exact ⟨_, _, there, rfl, rfl⟩
  · cases h

theorem queued_read (h : r.read? id = some (a, r')) : a :: r'.queued id = r.queued id := by
  obtain ⟨b, rest, there, items, rfl⟩ := read?_eq_some h
  rw [queued, queued, (retouches_updateOutbox r id _).outbox?, there]
  simp [items]

theorem isClosed_read (h : r.read? id = some (a, r')) (other : Nat) :
    r'.isClosed other = r.isClosed other := by
  obtain ⟨b, rest, there, items, rfl⟩ := read?_eq_some h
  rw [isClosed, isClosed, (retouches_updateOutbox r id _).outbox?, Option.any_map]
  congr 1
  funext b
  split <;> rfl

theorem shape_read (h : r.read? id = some (a, r')) : r'.shape = r.shape := by
  obtain ⟨b, rest, there, items, rfl⟩ := read?_eq_some h
  exact shape_updateOutbox fun _ => rfl

theorem fits_read (h : r.read? id = some (a, r')) (fits : r.Fits) : r'.Fits := by
  obtain ⟨b, rest, there, items, rfl⟩ := read?_eq_some h
  refine (retouches_updateOutbox r id _).fits fits fun i c present le closed => ?_
  by_cases same : i = id
  · subst same
    cases there.symm.trans present
    rw [items] at le closed
    rw [if_pos rfl]
    exact ⟨Nat.le_of_succ_le le, fun shut => absurd (closed shut) (by simp)⟩
  · simpa [same] using ⟨le, closed⟩

theorem exists_read? {b : Outbox α} {rest : List α} (there : r.outbox? id = some b)
    (items : b.items = a :: rest) : ∃ r', r.read? id = some (a, r') := by
  cases b
  cases items
  simp [read?, there]

/-- There is room in a queue from which something was read. -/
theorem hasRoom_read (h : r.read? id = some (a, r')) (fits : r.Fits) : r'.hasRoom id = true := by
  obtain ⟨b, rest, there, items, rfl⟩ := read?_eq_some h
  have le := (fits id b there).1
  rw [items, List.length_cons] at le
  rw [hasRoom, (retouches_updateOutbox r id _).outbox?, there]
  simp [Outbox.hasRoom]
  omega

/-! ### Enrolling -/

theorem shape_of_outbox? {b : Outbox α} (there : r.outbox? id = some b) :
    (id, b.capacity) ∈ r.shape := by
  obtain ⟨l, l', split, -⟩ := List.lookup_eq_some_iff.1 there
  exact List.mem_map.2 ⟨(id, b), by simp [split], rfl⟩

theorem exists_of_shape {capacity : Nat} (there : (id, capacity) ∈ r.shape)
    (distinct : (r.shape.map Prod.fst).Nodup) :
    ∃ b, r.outbox? id = some b ∧ b.capacity = capacity := by
  obtain ⟨⟨k, b⟩, member, same⟩ := List.mem_map.1 there
  cases same
  obtain ⟨l, l', split⟩ := List.append_of_mem member
  refine ⟨b, List.lookup_eq_some_iff.2 ⟨l, l', split, ?_⟩, rfl⟩
  intro e before
  rw [shape, split, List.map_map, List.map_append, List.nodup_append] at distinct
  have differ := distinct.2.2 e.1 (List.mem_map.2 ⟨e, before, rfl⟩) k (by simp)
  simpa using Ne.symm differ

theorem outbox?_enroll (r : Roster α) (accepts : α → Bool) (token : Token) (replay : List α)
    (extra id : Nat) :
    (r.enroll accepts token replay extra).outbox? id = (r.outbox? id).or
      (if id = r.nextId then some { capacity := replay.length + extra, items := replay }
        else none) := by
  rw [outbox?, enroll, List.lookup_append]
  by_cases same : id = r.nextId
  · simp [outbox?, same]
  · simp [outbox?, same, beq_eq_false_iff_ne.2 same, List.lookup_cons]

@[simp] theorem shape_enroll (r : Roster α) (accepts : α → Bool) (token : Token)
    (replay : List α) (extra : Nat) :
    (r.enroll accepts token replay extra).shape =
      r.shape ++ [(r.nextId, replay.length + extra)] := by
  simp [shape, enroll]

theorem queued_enroll_of_ne {accepts : α → Bool} {token : Token} {replay : List α} {extra : Nat}
    (h : id ≠ r.nextId) : (r.enroll accepts token replay extra).queued id = r.queued id := by
  simp [queued, outbox?_enroll, h]

theorem queued_enroll {accepts : α → Bool} {token : Token} {replay : List α} {extra : Nat}
    (fresh : r.outbox? r.nextId = none) :
    (r.enroll accepts token replay extra).queued r.nextId = replay := by
  simp [queued, outbox?_enroll, fresh]

theorem fits_enroll {accepts : α → Bool} {token : Token} {replay : List α} {extra : Nat}
    (fits : r.Fits) : (r.enroll accepts token replay extra).Fits := by
  intro i b there
  rw [outbox?_enroll] at there
  rcases Option.or_eq_some_iff.1 there with old | ⟨-, new⟩
  · exact fits i b old
  · split at new <;> cases new
    simp

end Queues

/-! ## Turns -/

variable {σ : Signals} {overflow : Overflow} {r r' : Roster α} {d d' : Delivery α}
  {s : Subscriber α}

/-- What becomes of the item under way at the turn of a subscriber, if that is settled now and the
subscriber should get it. -/
def fate? (σ : Signals) (overflow : Overflow) (d : Delivery α) (s : Subscriber α) (r : Roster α) :
    Option Fate :=
  if r.isClosed s.id || !d.blocked && (σ.isCancelled s.token || !s.accepts d.item) then none
  else if r.hasRoom s.id then some (.kept (r.queued s.id).length)
  else if !d.blocked && overflow == .dropNewest then some (.lost (r.queued s.id).length)
  else none

theorem fate?_ne_cut : r.fate? σ overflow d s ≠ some .cut := by
  unfold fate?
  split
  · simp
  · split
    · simp
    · split <;> simp

/-- The turn of a subscriber. -/
inductive Turn (σ : Signals) (overflow : Overflow) (r : Roster α) (d : Delivery α)
    (s : Subscriber α) : Option Fate → Delivery α → Roster α → Prop
  | strike (gone : r.isClosed s.id = true ∨ σ.isCancelled s.token = true) :
      Turn σ overflow r d s none (d.strike s.id) r
  | pass (free : d.blocked = false) (other : s.accepts d.item = false) :
      Turn σ overflow r d s none d.next r
  | keep (opened : r.isClosed s.id = false) (room : r.hasRoom s.id = true)
      (wanted : d.blocked = true ∨ s.accepts d.item = true) :
      Turn σ overflow r d s (some (.kept (r.queued s.id).length)) d.next (r.push s.id d.item)
  | lose (opened : r.isClosed s.id = false) (full : r.hasRoom s.id = false)
      (wanted : s.accepts d.item = true) (policy : overflow = .dropNewest) :
      Turn σ overflow r d s (some (.lost (r.queued s.id).length)) d.next
        { r with dropped := r.dropped + 1 }
  | block (wanted : s.accepts d.item = true) (policy : overflow = .block) :
      Turn σ overflow r d s none { d with blocked := true } r

theorem Turn.shape {fate : Option Fate} (turn : r.Turn σ overflow d s fate d' r') :
    r'.shape = r.shape := by
  cases turn with
  | keep => exact shape_updateOutbox fun _ => rfl
  | _ => rfl

/-- Somebody is served only if it is somebody's turn. -/
theorem first_of_serve? (served : r.serve? σ overflow d = some (d', r')) :
    ∃ s rest, d.rest = s :: rest := by
  cases first : d.rest with
  | nil => simp [serve?, first] at served
  | cons s rest => exact ⟨s, rest, rfl⟩

theorem remove_of_finish? (finished : r.finish? d = some r') :
    d.rest = [] ∧ r' = r.remove d.gone := by
  unfold finish? at finished
  split at finished <;> cases finished
  next served => exact ⟨by simpa using served, rfl⟩

/-- A blocked delivery passes over a subscriber only if it is cancelled. -/
theorem strike_of_giveUp? (passed : d.giveUp? σ = some d') :
    ∃ s rest, d.rest = s :: rest ∧ σ.isCancelled s.token = true ∧ d' = d.strike s.id := by
  unfold Delivery.giveUp? at passed
  split at passed
  · cases passed
  next s rest first =>
    split at passed <;> cases passed
    next stuck => exact ⟨s, rest, first, ((Bool.and_eq_true _ _).mp stuck).2, rfl⟩

/-- Nobody can be served only while a delivery is blocked by a full queue whose reader is there. -/
theorem serve?_eq_none {rest : List (Subscriber α)} (first : d.rest = s :: rest) :
    r.serve? σ overflow d = none ↔
      d.blocked = true ∧ r.isClosed s.id = false ∧ r.hasRoom s.id = false := by
  unfold serve?
  rw [first]
  cases overflow <;> grind

theorem giveUp?_eq_none {rest : List (Subscriber α)} (first : d.rest = s :: rest)
    (blocked : d.blocked = true) : d.giveUp? σ = none ↔ σ.isCancelled s.token = false := by
  simp [Delivery.giveUp?, first, blocked]

/-- A subscriber that is gone is struck off, unless it gets an item that waited for room. -/
theorem serve?_of_gone {rest : List (Subscriber α)} (first : d.rest = s :: rest)
    (gone : σ.isCancelled s.token = true ∨ r.isClosed s.id = true)
    (served : r.serve? σ overflow d = some (d', r')) :
    d' = d.strike s.id ∧ r' = r ∨ d' = d.next ∧ r' = r.push s.id d.item := by
  have is_gone : r.isGone σ s = true := by simpa [isGone] using gone
  simp only [serve?, first, is_gone, if_true] at served
  split at served
  · split at served
    · cases served
      exact .inl ⟨rfl, rfl⟩
    · split at served <;> cases served
      exact .inr ⟨rfl, rfl⟩
  · cases served
    exact .inl ⟨rfl, rfl⟩

/-- Every turn goes one of these ways. -/
theorem turn_of_serve? {rest : List (Subscriber α)} (first : d.rest = s :: rest)
    (served : r.serve? σ overflow d = some (d', r')) :
    r.Turn σ overflow d s (r.fate? σ overflow d s) d' r' := by
  unfold serve? at served
  rw [first] at served
  unfold fate?
  cases blocked : d.blocked with
  | true =>
    cases closed : r.isClosed s.id with
    | true =>
      simp only [blocked, closed, if_true] at served
      cases served
      exact .strike (.inl closed)
    | false =>
      cases room : r.hasRoom s.id with
      | true =>
        simp only [blocked, closed, room, if_true, Bool.false_eq_true, if_false] at served
        cases served
        exact .keep closed room (.inl blocked)
      | false => simp [blocked, closed, room] at served
  | false =>
    simp only [blocked, isGone] at served
    cases closed : r.isClosed s.id with
    | true =>
      simp only [closed, Bool.or_true, if_true, Bool.false_eq_true, if_false] at served
      cases served
      exact .strike (.inl closed)
    | false =>
      cases cancelled : σ.isCancelled s.token with
      | true =>
        simp only [cancelled, Bool.true_or, if_true, Bool.false_eq_true, if_false] at served
        cases served
        exact .strike (.inr cancelled)
      | false =>
        cases accepts : s.accepts d.item with
        | false =>
          simp only [closed, cancelled, accepts, Bool.or_false, Bool.not_false, if_true,
            Bool.false_eq_true, if_false] at served
          cases served
          exact .pass blocked accepts
        | true =>
          simp only [closed, cancelled, accepts, Bool.or_false, Bool.not_true, Bool.false_eq_true,
            if_false] at served
          cases room : r.hasRoom s.id with
          | true =>
            simp only [room, if_true] at served
            cases served
            exact .keep closed room (.inr accepts)
          | false =>
            simp only [room, Bool.false_eq_true, if_false] at served
            cases overflow with
            | dropNewest =>
              cases served
              exact .lose closed room accepts rfl
            | block =>
              cases served
              rw [← first]
              exact .block accepts rfl

end Roster

end Telemetry
