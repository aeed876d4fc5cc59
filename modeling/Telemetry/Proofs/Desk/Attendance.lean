import Telemetry.Proofs.Desk.Conveyance

/-!
# Readers who stay

A reader who stays keeps its subscriber on the roster: as long as its subscription is not cancelled
and the desk is open nobody strikes it off, and its queue does not come to an end. Under the blocking
policy such a reader misses nothing.

## Main definitions

* `Roster.Lists`: a subscriber is on the roster, and its reader is there.

## Main results

* `Desk.Run.lists`: whoever stays remains on the roster.
* `Desk.Run.isExhausted_of_on`: the queue of a subscriber on the roster does not end.
* `Desk.Run.forwards`: whoever was there from the beginning misses nothing.
-/

namespace Telemetry

/-- A subscriber is on the roster, and its reader is there. -/
structure Roster.Lists {α : Type} (r : Roster α) (s : Subscriber α) : Prop where
  on : s ∈ r.subscribers
  opened : r.isClosed s.id = false

namespace Desk

variable {α : Type} {σ σ' : Signals} {overflow : Overflow} {h : History α} {x x' : Desk α}
  {a : Act α} {s : Subscriber α}

/-- Whoever stays remains on the roster. -/
theorem Run.lists (run : Run overflow h σ x) (change : x.Change σ overflow a x')
    (grows : σ.Grows σ') (lists : x.roster.Lists s) (going : x'.ended = false)
    (goes_on : σ'.isCancelled s.token = false) (opened : x'.roster.isClosed s.id = false) :
    x'.roster.Lists s := by
  obtain ⟨p, granted, rfl⟩ := run.registered.exists_grant lists.on
  have live : Live σ' x' p.1 := ⟨goes_on, opened⟩
  exact ⟨change.there run.registered run.attended going granted (change.live grows live), opened⟩

/-! ## Queues that go on -/

/-- The queue of a subscriber on the roster goes on. -/
def Ongoing (r : Roster α) : Prop :=
  ∀ s ∈ r.subscribers, ∃ b, r.outbox? s.id = some b ∧ b.finished = false

theorem Ongoing.retouch {r r' : Roster α} {f : Nat → Outbox α → Outbox α} (ongoing : Ongoing r)
    (retouches : Roster.Retouches f r r') (fewer : r'.subscribers ⊆ r.subscribers)
    (same : ∀ s ∈ r'.subscribers, ∀ b, (f s.id b).finished = b.finished) : Ongoing r' := by
  intro s on
  obtain ⟨b, there, goes_on⟩ := ongoing s (fewer on)
  refine ⟨f s.id b, by rw [retouches.outbox?, there]; rfl, ?_⟩
  rw [same s on, goes_on]

theorem Ongoing.update {r : Roster α} {f : Outbox α → Outbox α} (ongoing : Ongoing r) (id : Nat)
    (same : ∀ b, (f b).finished = b.finished) : Ongoing (r.updateOutbox id f) := by
  refine ongoing.retouch (Roster.retouches_updateOutbox r id f) (List.Subset.refl _) fun s _ b => ?_
  split
  · exact same b
  · rfl

theorem Ongoing.remove {r : Roster α} (ongoing : Ongoing r) (ids : List Nat) :
    Ongoing (r.remove ids) := by
  refine ongoing.retouch (Roster.retouches_remove r ids) (List.filter_subset_self _) fun s on b => ?_
  have spared : s.id ∉ ids := by simpa using (List.mem_filter.1 on).2
  rw [if_neg (by simpa using spared)]

theorem Ongoing.enroll {r : Roster α} (ongoing : Ongoing r) (fresh : r.outbox? r.nextId = none)
    (accepts : α → Bool) (token : Token) (initial : List α) (extra : Nat) :
    Ongoing (r.enroll accepts token initial extra) := by
  intro s on
  rcases List.mem_append.1 on with old | new
  · obtain ⟨b, there, goes_on⟩ := ongoing s old
    exact ⟨b, by rw [Roster.outbox?_enroll, there]; rfl, goes_on⟩
  · obtain rfl := List.mem_singleton.1 new
    refine ⟨⟨initial.length + extra, initial, false, false⟩, ?_, rfl⟩
    rw [Roster.outbox?_enroll, fresh]
    simp

theorem Change.ongoing (change : x.Change σ overflow a x') (reg : Registered overflow h x)
    (ongoing : Ongoing x.roster) : Ongoing x'.roster := by
  cases change with
  | enroll => exact ongoing.enroll reg.fresh _ _ _ _
  | turn _ _ turn =>
    cases turn with
    | keep => exact ongoing.update _ fun _ => rfl
    | _ => exact ongoing
  | finish | strike => exact ongoing.remove _
  | clear =>
    intro s on
    cases on
  | read item =>
    obtain ⟨b, rest, -, -, rfl⟩ := Roster.read?_eq_some item
    exact ongoing.update _ fun _ => rfl
  | close => exact ongoing.update _ fun _ => rfl
  | _ => exact ongoing

theorem Run.ongoing (run : Run overflow h σ x) : Ongoing x.roster := by
  induction run with
  | start =>
    intro s on
    cases on
  | step run change _ ih => exact change.ongoing run.registered ih

/-- The queue of a subscriber on the roster does not end. -/
theorem Run.isExhausted_of_on (run : Run overflow h σ x) (on : s ∈ x.roster.subscribers) :
    x.roster.isExhausted s.id = false := by
  obtain ⟨b, there, goes_on⟩ := run.ongoing s on
  simp [Roster.isExhausted, there, goes_on]

/-! ## From the beginning -/

/-- Whoever was there from the beginning misses nothing under the blocking policy: what it got and
what waits for it are all items that it accepts, unless one is being delivered. -/
theorem Run.forwards (run : Run .block h σ x) (uncut : Uncut h) (lists : x.roster.Lists s)
    (goes_on : σ.isCancelled s.token = false) (idle : x.delivery = none)
    (first : ∀ p ∈ grants h, p.1.initial = [] ∧ p.2 = 0) :
    received s.id h ++ x.roster.queued s.id = (published h).filter s.accepts := by
  obtain ⟨p, granted, rfl⟩ := run.registered.exists_grant lists.on
  obtain ⟨empty, since⟩ := first p granted
  have conveyed := run.conveyed granted
  have entries := conveyed.complete ⟨goes_on, lists.opened⟩
  rw [pending_of_idle idle, List.append_nil] at entries
  calc received p.1.id h ++ x.roster.queued p.1.id
      = kept (log p.1.id h) := by rw [conveyed.items lists.opened, empty, List.nil_append]
    _ = ((log p.1.id h).map Entry.update).map Prod.fst := by
        rw [run.kept_log uncut granted, List.map_map]
        rfl
    _ = (published h).filter p.1.accepts := by
        rw [entries, map_fst_accepted, since, List.drop_zero]

end Desk

end Telemetry
