import Mathlib.Algebra.BigOperators.Group.List.Basic
import Mathlib.Algebra.GroupWithZero.Nat
import Telemetry.Proofs.Desk.Registry

/-!
# What reaches a subscriber

What the reader of a subscription got and what waits in its queue is what the queue held at once,
followed by the items that went into it. Those are the published items that the subscription
accepts, in order, except for the ones lost at a full queue or cut off, and for one that may be on
its way.

## Main definitions

* `Desk.pending`: the item that is on its way to a subscriber.
* `Desk.Conveyed`: what reached the subscriber of a grant.
-/

namespace Telemetry.Desk

open scoped List

variable {α : Type}

/-- The item that is on its way to a subscriber, the last of `n`. -/
def pending (x : Desk α) (n : Nat) (g : Grant α) : List (α × Nat) :=
  match x.delivery with
  | some d =>
    if (d.rest.any fun s => s.id == g.id) && g.accepts d.item then [(d.item, n - 1)] else []
  | none => []

/-- The items published after a grant that the subscription accepts, with their numbers. -/
def accepted (p : Grant α × Nat) (h : History α) : List (α × Nat) :=
  ((numbered h).drop p.2).filter fun u => p.1.accepts u.1

theorem map_fst_accepted (p : Grant α × Nat) (h : History α) :
    (accepted p h).map Prod.fst = ((published h).drop p.2).filter p.1.accepts := by
  rw [← List.zipIdx_map_fst 0 (published h), ← List.map_drop, List.filter_map]
  rfl

/-- What reached the subscriber of a grant. -/
structure Conveyed (overflow : Overflow) (h : History α) (σ : Signals) (x : Desk α)
    (p : Grant α × Nat) : Prop where
  /-- As long as the reader is there, its items are those that were put into the queue. -/
  items : x.roster.isClosed p.1.id = false →
    received p.1.id h ++ x.roster.queued p.1.id = p.1.initial ++ kept (log p.1.id h)
  order : received p.1.id h <+: p.1.initial ++ kept (log p.1.id h)
  entries : (log p.1.id h).map Entry.update ++ x.pending (published h).length p.1 <+ accepted p h
  /-- A live subscription has an entry for each item it accepts, except for one on its way. -/
  complete : Live σ x p.1 →
    (log p.1.id h).map Entry.update ++ x.pending (published h).length p.1 = accepted p h
  fates : ∀ e ∈ log p.1.id h, e.fate.Suits overflow p.1.capacity
  crowd : ∀ i e, (log p.1.id h)[i]? = some e → e.fate.queued ≤ p.1.initial.length + i

section Steps

variable {σ σ' : Signals} {overflow : Overflow} {h : History α} {x x' : Desk α} {a : Act α}
  {p : Grant α × Nat}

/-- Nothing is read once the reader is gone. -/
theorem Change.received_of_closed (change : x.Change σ overflow a x') (fits : x.roster.Fits)
    {id : Nat} (closed : x'.roster.isClosed id = true) : a.received id = [] := by
  cases change with
  | @read i a roster item =>
    rw [Roster.isClosed_read item] at closed
    by_cases same : i = id
    · subst same
      obtain ⟨b, rest, there, items, -⟩ := Roster.read?_eq_some item
      have shut : b.closed = true := by simpa [Roster.isClosed, there] using closed
      rw [(fits _ b there).2 shut] at items
      cases items
    · exact if_neg same
  | _ => rfl

/-- What goes into the queue of a subscription or out of it. -/
theorem Change.queue (change : x.Change σ overflow a x') {id : Nat} (below : id < x.roster.nextId)
    (opened : x'.roster.isClosed id = false) (n : Nat) :
    a.received id ++ x'.roster.queued id = x.roster.queued id ++ kept (a.logged id n) := by
  cases change with
  | enroll =>
    rw [Roster.queued_enroll_of_ne (Nat.ne_of_lt below)]
    exact (List.append_nil _).symm
  | @turn d d' s rest fate roster delivering first turn =>
    cases turn with
    | keep shut room =>
      by_cases same : s.id = id
      · subst same
        rw [Roster.queued_push room]
        simp [Act.received, Act.logged, kept, Fate.isKept]
      · have others : (x.roster.push s.id d.item).queued id = x.roster.queued id :=
          Roster.queued_updateOutbox_of_ne _ (Ne.symm same)
        simp [Act.received, Act.logged, same, others]
    | lose =>
      by_cases same : s.id = id <;> simp [Act.received, Act.logged, kept, Fate.isKept, same] <;> rfl
    | _ => exact (List.append_nil _).symm
  | cut =>
    simp only [Act.received, Act.logged]
    split <;> simp [kept, Fate.isKept]
  | finish | strike =>
    simp [Act.received, Act.logged]
  | clear => simp [Act.received, Act.logged]
  | @read i a roster item =>
    by_cases same : i = id
    · subst same
      simpa [Act.received, Act.logged] using Roster.queued_read item
    · obtain ⟨b, rest, there, items, rfl⟩ := Roster.read?_eq_some item
      simp [Act.received, Act.logged, same, Roster.queued_updateOutbox_of_ne _ (Ne.symm same)]
  | close =>
    rw [Roster.queued_close_of_open opened]
    exact (List.append_nil _).symm
  | _ => exact (List.append_nil _).symm

theorem pending_of_idle (idle : x.delivery = none) (n : Nat) (g : Grant α) :
    x.pending n g = [] := by
  simp [pending, idle]

theorem length_pending_le (n : Nat) (g : Grant α) : (x.pending n g).length ≤ 1 := by
  unfold pending
  split
  · split <;> simp
  · simp

theorem pending_of_delivery {d : Delivery α} (delivering : x.delivery = some d) (n : Nat)
    (g : Grant α) : x.pending n g =
      if (d.rest.any fun s => s.id == g.id) && g.accepts d.item then [(d.item, n - 1)] else [] := by
  simp [pending, delivering]

/-- The number of a subscriber whose turn it is does not come again. -/
theorem Registered.any_tail (reg : Registered overflow h x) {d : Delivery α} {s : Subscriber α}
    {rest : List (Subscriber α)} (delivering : x.delivery = some d) (first : d.rest = s :: rest) :
    (rest.any fun s' => s'.id == s.id) = false := by
  have ids : (d.rest.map Subscriber.id).Nodup := by
    have sub := ((reg.rest d delivering).sublist.trans reg.subscribers).map Subscriber.id
    rw [List.map_map] at sub
    exact sub.nodup reg.distinct
  rw [first, List.map_cons, List.nodup_cons] at ids
  rw [List.any_eq_false]
  intro s' member same
  have same : s'.id = s.id := by simpa using same
  exact ids.1 (List.mem_map.2 ⟨s', member, same⟩)

/-- At the turn of a subscriber the item on its way to it is settled, unless the delivery is blocked
or the subscriber is gone. -/
theorem Turn.settle {d d' : Delivery α} {s : Subscriber α} {rest : List (Subscriber α)}
    {fate : Option Fate} {roster : Roster α} (reg : Registered overflow h x)
    (granted : p ∈ grants h) (delivering : x.delivery = some d) (first : d.rest = s :: rest)
    (turn : x.roster.Turn σ overflow d s fate d' roster) (n : Nat) :
    let left := ((Act.turn s.id d.item fate).logged p.1.id n).map Entry.update ++
      pending { x with roster, delivery := some d' } n p.1
    left = x.pending n p.1 ∨ left = [] ∧ ¬ Live σ x p.1 := by
  intro left
  have on : s ∈ x.roster.subscribers := reg.mem_of_rest delivering (by simp [first])
  have tail := reg.any_tail delivering first
  by_cases same : s.id = p.1.id
  · obtain rfl := reg.eq_subscriber granted on same
    have tail : (rest.any fun s => s.id == p.1.id) = false := tail
    have accepts (wanted : d.blocked = true ∨ p.1.accepts d.item = true) :
        p.1.accepts d.item = true := wanted.elim (reg.wanted d _ rest delivering first) id
    have before : x.pending n p.1 = if p.1.accepts d.item then [(d.item, n - 1)] else [] := by
      simp [pending_of_delivery delivering, first, Grant.subscriber]
    rw [before]
    cases turn with
    | strike gone =>
      refine .inr ⟨?_, reg.not_live on granted rfl gone⟩
      simp [left, Act.logged, pending, Delivery.strike, Delivery.next, first, tail]
    | pass free other =>
      have other : p.1.accepts d.item = false := other
      left
      simp [left, Act.logged, pending, Delivery.next, other]
    | keep opened room wanted =>
      left
      simp [left, Act.logged, pending, Delivery.next, first, tail, accepts wanted, Grant.subscriber]
    | lose opened full wanted =>
      left
      simp [left, Act.logged, pending, Delivery.next, first, tail, accepts (.inr wanted),
        Grant.subscriber]
    | block wanted =>
      left
      simp [left, Act.logged, pending, first, Grant.subscriber]
  · left
    have others : (s.id == p.1.id) = false := by simpa using same
    have logged : (Act.turn s.id d.item fate).logged p.1.id n = [] := by
      cases fate <;> simp [Act.logged, same]
    simp only [left, logged, List.map_nil, List.nil_append]
    cases turn <;>
      simp [pending, delivering, Delivery.strike, Delivery.next, first, others]

/-- An item on its way is settled or stays on its way, and one that is published is on its way. Only
subscriptions that are not live are passed over. -/
theorem Change.settle (change : x.Change σ overflow a x') (reg : Registered overflow h x)
    (att : Attended h σ x) (granted : p ∈ grants h) :
    let left := (a.logged p.1.id (published h).length).map Entry.update ++
        x'.pending ((published h).length + a.published.length) p.1
    left = x.pending (published h).length p.1 ++
        ((a.published.zipIdx (published h).length).filter fun u => p.1.accepts u.1) ∨
      left = [] ∧ ¬ Live σ x p.1 := by
  intro left
  cases change with
  | publish a idle going =>
    by_cases on : (x.roster.subscribers.any fun s => s.id == p.1.id)
    · left
      cases accepts : p.1.accepts a <;>
        simp [left, Act.logged, Act.published, pending, idle, Roster.deliver, on, accepts]
    · refine .inr ⟨by simp [left, Act.logged, pending, Roster.deliver, on], fun live => on ?_⟩
      exact List.any_eq_true.2 ⟨_, att.there going p granted live, by simp [Grant.subscriber]⟩
  | turn delivering first turn =>
    simpa [left, Act.published] using
      Turn.settle reg granted delivering first turn (published h).length
  | @giveUp d s rest delivering first cancelled =>
    simpa [left, Act.published, Act.logged] using
      Turn.settle reg granted delivering first (.strike (.inr cancelled)) (published h).length
  | @cut d delivering =>
    left
    have wants : (p.1.id ∈ (d.rest.filter fun s => s.accepts d.item).map Subscriber.id) ↔
        ((d.rest.any fun s => s.id == p.1.id) && p.1.accepts d.item) = true := by
      simp only [List.mem_map, List.mem_filter, Bool.and_eq_true, List.any_eq_true, beq_iff_eq]
      constructor
      · rintro ⟨s, ⟨member, accepts⟩, same⟩
        obtain rfl := reg.eq_subscriber granted (reg.mem_of_rest delivering member) same
        exact ⟨⟨_, member, rfl⟩, accepts⟩
      · rintro ⟨⟨s, member, same⟩, accepts⟩
        obtain rfl := reg.eq_subscriber granted (reg.mem_of_rest delivering member) same
        exact ⟨_, ⟨member, accepts⟩, rfl⟩
    simp only [left, Act.logged, Act.published, pending_of_delivery delivering, wants]
    split <;> simp [pending]
  | finish delivering served =>
    left
    simp [left, pending, delivering, served, Act.logged, Act.published]
  | enroll _ _ _ _ idle | strike _ idle | clear idle =>
    left
    simp [left, pending, idle, Act.logged, Act.published]
  | _ =>
    left
    simp [left, pending, Act.logged, Act.published]

/-- A settled item was treated as the queue and the policy have it. -/
theorem Change.suits (change : x.Change σ overflow a x') (reg : Registered overflow h x)
    (granted : p ∈ grants h) (n : Nat) :
    ∀ e ∈ a.logged p.1.id n, e.fate.Suits overflow p.1.capacity ∧
      (e.fate.queued = 0 ∨ e.fate.queued = (x.roster.queued p.1.id).length ∧
        x.roster.isClosed p.1.id = false) := by
  intro e member
  obtain ⟨b, there, capacity⟩ := reg.exists_outbox granted
  cases change with
  | @turn d d' s rest fate roster delivering first turn =>
    cases turn with
    | keep opened room =>
      obtain ⟨same, rfl⟩ : s.id = p.1.id ∧ e = _ := by simpa [Act.logged] using member
      rw [same] at opened room ⊢
      obtain ⟨b', there', less⟩ := Roster.exists_of_hasRoom room
      cases there.symm.trans there'
      refine ⟨?_, .inr ⟨rfl, opened⟩⟩
      simpa [Fate.Suits, Roster.queued_of_outbox? there, ← capacity] using less
    | lose opened full wanted policy =>
      obtain ⟨same, rfl⟩ : s.id = p.1.id ∧ e = _ := by simpa [Act.logged] using member
      rw [same] at opened full ⊢
      refine ⟨⟨?_, policy⟩, .inr ⟨rfl, opened⟩⟩
      have most := (reg.fits _ b there).1
      have least : b.capacity ≤ b.items.length := by
        simpa [Roster.hasRoom, Outbox.hasRoom, there] using full
      rw [Roster.queued_of_outbox? there, ← capacity]
      exact Nat.le_antisymm most least
    | _ => simp [Act.logged] at member
  | cut =>
    obtain ⟨-, rfl⟩ : _ ∧ e = _ := by simpa [Act.logged] using member
    exact ⟨trivial, .inl rfl⟩
  | _ => cases member

theorem accepted_snoc (reg : Registered overflow h x) (granted : p ∈ grants h) :
    accepted p (h ++ [a]) = accepted p h ++
      (a.published.zipIdx (published h).length).filter fun u => p.1.accepts u.1 := by
  have since : p.2 ≤ (numbered h).length := by simpa using (reg.known p granted).2
  rw [accepted, accepted, numbered_snoc, List.drop_append_of_le_length since, List.filter_append]

/-- A subscription that is granted has its replay, and nothing else has happened to it. -/
theorem Change.conveyed_new (change : x.Change σ overflow a x') (reg : Registered overflow h x)
    (granted : p ∈ a.granted (published h).length) : Conveyed overflow (h ++ [a]) σ' x' p := by
  cases change with
  | enroll accepts token initial extra idle =>
    obtain rfl := List.mem_singleton.1 granted
    obtain ⟨none_received, none_logged⟩ := reg.unknown _ (Nat.le_refl _)
    have log_eq (g : Grant α) : log x.roster.nextId (h ++ [.enroll g]) = [] := by
      rw [log_snoc, none_logged]
      rfl
    have received_eq (g : Grant α) : received x.roster.nextId (h ++ [.enroll g]) = [] := by
      rw [received_snoc, none_received]
      rfl
    have accepted_eq (g g' : Grant α) :
        accepted (g, (published h).length) (h ++ [.enroll g']) = [] := by
      have none_after : (numbered h).drop (published h).length = [] :=
        List.drop_eq_nil_of_le (by simp)
      simp [accepted, numbered_snoc, Act.published, none_after]
    refine ⟨fun _ => ?_, ?_, ?_, fun _ => ?_, ?_, ?_⟩
    · simp [log_eq, received_eq, Roster.queued_enroll reg.fresh]
    · simp [received_eq]
    · simp [log_eq, pending, idle]
    · simp [log_eq, pending, idle, accepted_eq]
    · simp [log_eq]
    · simp [log_eq]
  | _ => cases granted

theorem length_kept_le (l : List (Entry α)) : (kept l).length ≤ l.length := by
  rw [kept, List.length_map]
  exact List.length_filter_le _ _

/-- What reaches a subscriber in a step is what the step tells. -/
theorem Change.conveyed (change : x.Change σ overflow a x') (grows : σ.Grows σ')
    (reg : Registered overflow h x) (att : Attended h σ x) (granted : p ∈ grants h)
    (before : Conveyed overflow h σ x p) : Conveyed overflow (h ++ [a]) σ' x' p := by
  have items : x'.roster.isClosed p.1.id = false →
      received p.1.id (h ++ [a]) ++ x'.roster.queued p.1.id =
        p.1.initial ++ kept (log p.1.id (h ++ [a])) := by
    intro opened
    have earlier : x.roster.isClosed p.1.id = false := by
      by_contra closed
      exact absurd (opened.symm.trans (change.isClosed (by simpa using closed))) (by simp)
    rw [received_snoc, log_snoc, kept_append, List.append_assoc,
      change.queue (reg.known p granted).1 opened (published h).length, ← List.append_assoc,
      before.items earlier, List.append_assoc]
  have settled := change.settle reg att granted
  refine ⟨items, ?_, ?_, fun live => ?_, ?_, ?_⟩
  · cases closed : x'.roster.isClosed p.1.id with
    | false => exact ⟨_, items closed⟩
    | true =>
      rw [received_snoc, change.received_of_closed reg.fits closed, List.append_nil, log_snoc,
        kept_append, ← List.append_assoc]
      exact before.order.trans (List.prefix_append _ _)
  · rw [log_snoc, List.map_append, List.append_assoc, published_snoc, List.length_append,
      accepted_snoc reg granted]
    rcases settled with same | ⟨none, -⟩
    · rw [same, ← List.append_assoc]
      exact before.entries.append_right _
    · rw [none, List.append_nil]
      exact (List.sublist_append_left _ _).trans <|
        before.entries.trans (List.sublist_append_left _ _)
  · have earlier := change.live grows live
    rw [log_snoc, List.map_append, List.append_assoc, published_snoc, List.length_append,
      accepted_snoc reg granted]
    rcases settled with same | ⟨-, dead⟩
    · rw [same, ← List.append_assoc, before.complete earlier]
    · exact absurd earlier dead
  · intro e member
    rw [log_snoc] at member
    rcases List.mem_append.1 member with old | new
    · exact before.fates e old
    · exact (change.suits reg granted _ e new).1
  · intro i e there
    rw [log_snoc, List.getElem?_append] at there
    split at there
    · exact before.crowd i e there
    next beyond =>
      have suits := change.suits reg granted _ e (List.mem_of_getElem? there)
      rcases suits.2 with empty | ⟨held, opened⟩
      · omega
      · have count := congrArg List.length (before.items opened)
        have most := length_kept_le (log p.1.id h)
        simp only [List.length_append] at count
        omega

theorem Run.conveyed (run : Run overflow h σ x) (granted : p ∈ grants h) :
    Conveyed overflow h σ x p := by
  induction run with
  | start => cases granted
  | @step h σ σ' x x' a run change grows ih =>
    rw [grants_snoc] at granted
    rcases List.mem_append.1 granted with old | new
    · exact change.conveyed grows run.registered run.attended old (ih old)
    · exact change.conveyed_new run.registered new

/-! ## Losses -/

/-- Whether a step loses an item. -/
def Act.lost : Act α → Nat
  | .turn _ _ (some (.lost _)) => 1
  | _ => 0

theorem Change.dropped (change : x.Change σ overflow a x') :
    x'.roster.dropped = x.roster.dropped + a.lost := by
  cases change with
  | turn delivering first turn => cases turn <;> rfl
  | read item =>
    obtain ⟨b, rest, -, -, rfl⟩ := Roster.read?_eq_some item
    rfl
  | _ => rfl

theorem sum_indicator {ids : List Nat} (distinct : ids.Nodup) {id : Nat} (member : id ∈ ids) :
    (ids.map fun i => if id = i then 1 else 0).sum = 1 := by
  induction ids with
  | nil => cases member
  | cons i ids ih =>
    obtain ⟨fresh, distinct⟩ := List.nodup_cons.1 distinct
    rcases List.mem_cons.1 member with rfl | member
    · have zero : ∀ j ∈ ids, (if id = j then 1 else 0) = 0 := by
        intro j other
        have differ : id ≠ j := fun same => fresh (same ▸ other)
        exact if_neg differ
      simp [List.map_congr_left zero]
    · have differ : id ≠ i := fun same => fresh (same ▸ member)
      simp [ih distinct member, differ]

/-- A loss is one of a single subscription. -/
theorem Change.losses (change : x.Change σ overflow a x') (reg : Registered overflow h x)
    (n : Nat) : ((grants h).map fun p => Desk.losses (a.logged p.1.id n)).sum = a.lost := by
  have none_lost (zero : ∀ id, Desk.losses (a.logged id n) = 0) :
      ((grants h).map fun p => Desk.losses (a.logged p.1.id n)).sum = 0 := by
    simp [zero]
  cases change with
  | @turn d d' s rest fate roster delivering first turn =>
    cases turn with
    | lose =>
      obtain ⟨p, granted, rfl⟩ := reg.exists_grant
        (reg.mem_of_rest delivering (by simp [first] : s ∈ d.rest))
      have once := sum_indicator reg.distinct (List.mem_map.2 ⟨p, granted, rfl⟩)
      rw [List.map_map] at once
      refine Eq.trans (congrArg List.sum (List.map_congr_left fun q _ => ?_)) once
      by_cases same : p.1.subscriber.id = q.1.id <;>
        simp_all [Act.logged, Desk.losses, Fate.isLost, Grant.subscriber]
    | keep =>
      refine none_lost fun id => ?_
      simp only [Act.logged]
      split <;> simp [Desk.losses, Fate.isLost]
    | _ => exact none_lost fun _ => rfl
  | cut =>
    refine none_lost fun id => ?_
    simp only [Act.logged]
    split <;> simp [Desk.losses, Fate.isLost]
  | _ => exact none_lost fun _ => rfl

/-- The counter of a roster tells how many items were lost, over all subscriptions. -/
theorem Run.dropped (run : Run overflow h σ x) :
    x.roster.dropped = ((grants h).map fun p => losses (log p.1.id h)).sum := by
  induction run with
  | start => rfl
  | @step h σ σ' x x' a run change grows ih =>
    have reg := run.registered
    have new : ((a.granted (published h).length).map fun p =>
        losses (log p.1.id (h ++ [a]))).sum = 0 := by
      cases change with
      | enroll =>
        have none_logged := (reg.unknown _ (Nat.le_refl _)).2
        simp [Act.granted, Act.logged, none_logged, losses]
      | _ => rfl
    rw [grants_snoc, List.map_append, List.sum_append, new, Nat.add_zero, change.dropped, ih,
      ← change.losses reg (published h).length, ← List.sum_map_add]
    simp only [log_snoc, losses_append]

/-! ## Deliveries that are never broken off -/

/-- Whether a delivery is broken off. -/
def Act.cuts : Act α → Bool
  | .cut _ _ | .turn _ _ (some .cut) => true
  | _ => false

/-- No delivery was broken off. -/
def Uncut (h : History α) : Prop :=
  ∀ a ∈ h, a.cuts = false

theorem mem_of_marked {n m : Nat} (member : (m, a) ∈ marked n h) : a ∈ h := by
  induction h generalizing n with
  | nil => cases member
  | cons b rest ih =>
    rcases List.mem_cons.1 member with first | later
    · cases first
      exact List.mem_cons_self
    · exact List.mem_cons_of_mem _ (ih later)

theorem Uncut.fate_ne_cut (uncut : Uncut h) {id : Nat} {e : Entry α} (member : e ∈ log id h) :
    e.fate ≠ .cut := by
  intro cut
  obtain ⟨⟨n, act⟩, marked, logged⟩ := List.mem_flatMap.1 member
  have whole := uncut act (mem_of_marked marked)
  cases act with
  | cut => cases whole
  | turn i a fate =>
    cases fate with
    | none => cases logged
    | some fate =>
      obtain ⟨-, rfl⟩ : i = id ∧ e = _ := by simpa [Act.logged] using logged
      obtain rfl : fate = .cut := cut
      cases whole
  | _ => cases logged

/-- Nothing becomes of an item for a subscription without a reader. -/
theorem Change.logged_of_closed (change : x.Change σ overflow a x') {id : Nat}
    (closed : x.roster.isClosed id = true) (whole : a.cuts = false) (n : Nat) :
    a.logged id n = [] := by
  cases change with
  | turn delivering first turn =>
    cases turn with
    | keep opened | lose opened =>
      refine if_neg fun same => ?_
      rw [same, closed] at opened
      cases opened
    | _ => rfl
  | cut => cases whole
  | _ => rfl

theorem kept_of_forall {l : List (Entry α)} (all : ∀ e ∈ l, e.fate.isKept = true) :
    kept l = l.map fun e => e.update.1 := by
  rw [kept, List.filter_eq_self.2 all]

/-- Under the blocking policy everything is kept. -/
theorem Run.kept_log (run : Run .block h σ x) (uncut : Uncut h) (granted : p ∈ grants h) :
    kept (log p.1.id h) = (log p.1.id h).map fun e => e.update.1 := by
  refine kept_of_forall fun e member => ?_
  have suits := (run.conveyed granted).fates e member
  have whole := uncut.fate_ne_cut member
  cases fate : e.fate with
  | kept => rfl
  | lost => simp [fate, Fate.Suits] at suits
  | cut => exact absurd fate whole

/-- As many items are kept in any case as a queue has room for on top of the replay. -/
theorem Run.first_kept (run : Run overflow h σ x) (uncut : Uncut h) (granted : p ∈ grants h)
    {extra : Nat} (room : p.1.capacity = p.1.initial.length + extra) :
    ((log p.1.id h).take extra).map (fun e => e.update.1) <+: kept (log p.1.id h) := by
  have conveyed := run.conveyed granted
  have first : ∀ e ∈ (log p.1.id h).take extra, e.fate.isKept = true := by
    intro e member
    obtain ⟨i, there⟩ := List.mem_iff_getElem?.1 member
    obtain ⟨less, there⟩ : i < extra ∧ (log p.1.id h)[i]? = some e := by
      rw [List.getElem?_take] at there
      split at there
      next less => exact ⟨less, there⟩
      · cases there
    have suits := conveyed.fates e (List.mem_of_getElem? there)
    have crowd := conveyed.crowd i e there
    have whole := uncut.fate_ne_cut (List.mem_of_getElem? there)
    cases fate : e.fate with
    | kept => rfl
    | lost n =>
      rw [fate] at suits crowd
      simp only [Fate.Suits, Fate.queued] at suits crowd
      omega
    | cut => exact absurd fate whole
  rw [← kept_of_forall first]
  refine ⟨kept ((log p.1.id h).drop extra), ?_⟩
  rw [← kept_append, List.take_append_drop]

/-! ## Order -/

/-- The updates that the reader of a subscription got, with their numbers, after the replay. -/
def live (p : Grant α × Nat) (h : History α) : List (α × Nat) :=
  (((log p.1.id h).filter fun e => e.fate.isKept).map Entry.update).take
    ((received p.1.id h).length - p.1.initial.length)

/-- What was read after the replay are the live updates. -/
theorem Run.drop_received (run : Run overflow h σ x) (granted : p ∈ grants h) :
    (received p.1.id h).drop p.1.initial.length = (live p h).map Prod.fst := by
  rw [List.prefix_iff_eq_take.1 (run.conveyed granted).order, List.drop_take, List.drop_left, live,
    List.map_take, List.map_map]
  rfl

/-- Readers get updates that they accept, in the order in which they were published. -/
theorem Run.live_le_accepted (run : Run overflow h σ x) (granted : p ∈ grants h) :
    live p h <+ accepted p h := by
  have entries : (log p.1.id h).map Entry.update <+ accepted p h :=
    (List.sublist_append_left _ _).trans (run.conveyed granted).entries
  exact (List.take_sublist _ _).trans ((List.filter_sublist.map _).trans entries)

theorem Run.live_le_numbered (run : Run overflow h σ x) (granted : p ∈ grants h) :
    live p h <+ numbered h :=
  (run.live_le_accepted granted).trans (List.filter_sublist.trans (List.drop_sublist _ _))

/-- Live updates were published after the grant. -/
theorem Run.le_of_live (run : Run overflow h σ x) (granted : p ∈ grants h) {a : α} {n : Nat}
    (member : (a, n) ∈ live p h) : p.2 ≤ n := by
  have since := List.mem_of_mem_filter ((run.live_le_accepted granted).subset member)
  obtain ⟨i, less, there⟩ := List.mem_drop_iff_getElem.1 since
  simp only [numbered, List.getElem_zipIdx, Prod.mk.injEq] at there
  omega

theorem not_sublist_of_sublist {u v : α × Nat} (first : [u, v] <+ numbered h) :
    ¬ [v, u] <+ numbered h := by
  intro second
  have less := List.pairwise_iff_forall_sublist.1 (ascending_numbered h) first
  have more := List.pairwise_iff_forall_sublist.1 (ascending_numbered h) second
  omega

end Steps

end Telemetry.Desk
