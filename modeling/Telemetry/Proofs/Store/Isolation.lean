import Telemetry.Proofs.Store.Subscription

/-!
# Readers apart

Under the policy that drops the newest item nobody waits for a reader. A queue that is full costs
its own subscription an update, and one is added to the count of losses; that is all. So whether,
when and how often one reader reads can be told from what is in its queue and from that count, and
from nothing else.

What is left when queue and count are covered is called the veiled store. Each step of anybody but
the reader does the same to a store and to the veiled store, up to what the veil covers, and a step
of the reader changes nothing but what it covers.

## Main definitions

* `Store.veil`: a store without what depends on one reader.
* `Store.Alike`: what two stores have in common if they differ in when one reader read.

## Main results

* `Run.exists_unread`: a run goes as well without the steps of a reader.
* `Run.isolated`: two runs that differ in when one reader reads are alike throughout.
-/

namespace Telemetry

/-- An answer without the count of losses. -/
def Reply.sansLosses : Reply → Reply
  | .stats st => .stats { st with dropped := 0 }
  | reply => reply

@[simp] theorem Reply.sansLosses_sansLosses (reply : Reply) :
    reply.sansLosses.sansLosses = reply.sansLosses := by
  cases reply <;> rfl

/-- A queue without its items. -/
def Outbox.emptied {α : Type} (b : Outbox α) : Outbox α :=
  { b with items := [] }

namespace Roster

variable {α : Type} {r r' q : Roster α} {reader other : Nat}

/-- A queue as it is under the veil: that of the reader shows no items. -/
def cover (reader id : Nat) (b : Outbox α) : Outbox α :=
  if id = reader then b.emptied else b

theorem cover_self (reader : Nat) (b : Outbox α) : cover reader reader b = b.emptied :=
  if_pos rfl

theorem cover_of_ne (apart : other ≠ reader) (b : Outbox α) : cover reader other b = b :=
  if_neg apart

/-- A roster without what is in the queue of one reader and without the count of losses. -/
def veil (reader : Nat) (r : Roster α) : Roster α :=
  { r with outboxes := r.outboxes.map fun e => (e.1, cover reader e.1 e.2), dropped := 0 }

theorem retouches_veil (reader : Nat) (r : Roster α) : Retouches (cover reader) r (r.veil reader) :=
  rfl

theorem outbox?_veil_of_ne (apart : other ≠ reader) :
    (r.veil reader).outbox? other = r.outbox? other := by
  rw [(retouches_veil reader r).outbox?, funext (cover_of_ne apart), Option.map_id']

theorem hasRoom_veil_of_ne (apart : other ≠ reader) :
    (r.veil reader).hasRoom other = r.hasRoom other := by
  rw [hasRoom, hasRoom, outbox?_veil_of_ne apart]

@[simp] theorem isClosed_veil (reader : Nat) (r : Roster α) (id : Nat) :
    (r.veil reader).isClosed id = r.isClosed id := by
  rw [isClosed, isClosed, (retouches_veil reader r).outbox?, Option.any_map]
  congr 1
  funext b
  dsimp only [Function.comp, cover]
  split <;> rfl

theorem retouches_self (r : Roster α) : Retouches (fun _ b => b) r r := by
  simp [Retouches]

theorem Retouches.trans {f g : Nat → Outbox α → Outbox α} (h : Retouches f r r')
    (h' : Retouches g r' q) : Retouches (fun i b => g i (f i b)) r q := by
  rw [Retouches, h', h, List.map_map]
  rfl

/-- Two rosters that come from one, if what was done to it differs only under the veil. -/
theorem Retouches.veil_eq {f g : Nat → Outbox α → Outbox α} (h : Retouches f r r')
    (h' : Retouches g r q) (subscribers : r'.subscribers = q.subscribers)
    (nextId : r'.nextId = q.nextId)
    (covered : ∀ i b, cover reader i (f i b) = cover reader i (g i b)) :
    r'.veil reader = q.veil reader := by
  have outboxes : (r'.veil reader).outboxes = (q.veil reader).outboxes := by
    rw [h.trans (retouches_veil reader r'), h'.trans (retouches_veil reader q)]
    exact List.map_congr_left fun e _ => Prod.ext rfl (covered e.1 e.2)
  rw [veil, veil, subscribers, nextId]
  exact congrArg (fun boxes => Roster.mk q.subscribers boxes q.nextId 0) outboxes

@[simp] theorem veil_veil (reader : Nat) (r : Roster α) :
    (r.veil reader).veil reader = r.veil reader :=
  (retouches_veil reader r).veil_eq r.retouches_self rfl rfl fun i b => by
    by_cases same : i = reader <;> simp [cover, same, Outbox.emptied]

/-- What is done to the items of the reader cannot be seen. -/
theorem veil_updateOutbox_self {f : Outbox α → Outbox α}
    (covered : ∀ b, (f b).emptied = b.emptied) :
    (r.updateOutbox reader f).veil reader = r.veil reader :=
  (retouches_updateOutbox r reader f).veil_eq r.retouches_self rfl rfl fun i b => by
    by_cases same : i = reader
    · subst same
      simp [cover_self, covered]
    · simp [same]

/-! ## Operations under the veil -/

/-- What is done to each queue by itself can be done under the veil. -/
theorem Retouches.veil_eq_veil {f : Nat → Outbox α → Outbox α} (h : Retouches f r r')
    (h' : Retouches f (r.veil reader) q) (subscribers : q.subscribers = r'.subscribers)
    (nextId : q.nextId = r'.nextId)
    (covered : ∀ b, (f reader b.emptied).emptied = (f reader b).emptied) :
    q.veil reader = r'.veil reader :=
  ((retouches_veil reader r).trans h').veil_eq h subscribers nextId fun i b => by
    by_cases same : i = reader
    · subst same
      rw [cover_self, cover_self, cover_self, covered]
    · rw [cover_of_ne same b]

theorem veil_updateOutbox {f : Outbox α → Outbox α} (id : Nat)
    (covered : ∀ b : Outbox α, (f b.emptied).emptied = (f b).emptied) :
    ((r.veil reader).updateOutbox id f).veil reader = (r.updateOutbox id f).veil reader := by
  refine (retouches_updateOutbox r id f).veil_eq_veil (retouches_updateOutbox _ id f) rfl rfl ?_
  intro b
  by_cases touched : reader = id
  · simp [touched, covered]
  · simp [touched, Outbox.emptied]

theorem veil_close (r : Roster α) (reader id : Nat) :
    ((r.veil reader).close id).veil reader = (r.close id).veil reader :=
  veil_updateOutbox id fun _ => rfl

theorem veil_push (r : Roster α) (reader id : Nat) (a : α) :
    ((r.veil reader).push id a).veil reader = (r.push id a).veil reader :=
  veil_updateOutbox id fun _ => rfl

theorem veil_remove (r : Roster α) (reader : Nat) (ids : List Nat) :
    ((r.veil reader).remove ids).veil reader = (r.remove ids).veil reader := by
  refine (retouches_remove r ids).veil_eq_veil (retouches_remove _ ids) rfl rfl fun b => ?_
  split <;> rfl

theorem veil_clear (r : Roster α) (reader : Nat) :
    (r.veil reader).clear.veil reader = r.clear.veil reader :=
  r.retouches_clear.veil_eq_veil (retouches_clear _) rfl rfl fun _ => rfl

theorem veil_enroll (r : Roster α) (reader : Nat) (accepts : α → Bool) (token : Token)
    (replay : List α) (extra : Nat) :
    ((r.veil reader).enroll accepts token replay extra).veil reader =
      (r.enroll accepts token replay extra).veil reader := by
  have old := congrArg Roster.outboxes (r.veil_veil reader)
  simp only [veil] at old
  simp only [veil, enroll, List.map_append, old]

section Reading

variable {a : α}

theorem veil_read (read : r.read? reader = some (a, r')) : r'.veil reader = r.veil reader := by
  obtain ⟨b, rest, -, -, rfl⟩ := read?_eq_some read
  exact veil_updateOutbox_self fun _ => rfl

theorem veil_read_of_ne (apart : other ≠ reader) :
    ((r.veil reader).read? other).map (fun p => (p.1, p.2.veil reader)) =
      (r.read? other).map fun p => (p.1, p.2.veil reader) := by
  unfold read?
  rw [outbox?_veil_of_ne apart]
  split
  · exact congrArg (fun r => some (_, r)) (veil_updateOutbox other fun _ => rfl)
  · rfl

end Reading

/-- An item is put into a queue that has room, and dropped otherwise. -/
def offer (id : Nat) (a : α) (r : Roster α) : Roster α :=
  if r.hasRoom id then r.push id a else { r with dropped := r.dropped + 1 }

/-- Whether an item for the reader finds room cannot be seen. -/
theorem veil_offer_self (a : α) : (r.offer reader a).veil reader = r.veil reader := by
  unfold offer
  split
  · exact veil_updateOutbox_self fun _ => rfl
  · rfl

theorem veil_offer (r : Roster α) (reader id : Nat) (a : α) :
    ((r.veil reader).offer id a).veil reader = (r.offer id a).veil reader := by
  by_cases same : id = reader
  · subst same
    rw [veil_offer_self, veil_offer_self, veil_veil]
  · rw [offer, offer, hasRoom_veil_of_ne same]
    split
    · exact veil_push r reader id a
    · exact veil_veil reader r

section Turns

variable {σ : Signals} {d : Delivery α}

theorem serve?_dropNewest {s : Subscriber α} {rest : List (Subscriber α)}
    (first : d.rest = s :: rest) (free : d.blocked = false) :
    r.serve? σ .dropNewest d =
      if r.isGone σ s then some (d.strike s.id, r)
      else if s.accepts d.item then some (d.next, r.offer s.id d.item)
      else some (d.next, r) := by
  unfold serve? offer
  rw [first]
  dsimp only
  cases r.isGone σ s <;> cases s.accepts d.item <;> cases r.hasRoom s.id <;> simp [free]

theorem veil_serve? (r : Roster α) (reader : Nat) (free : d.blocked = false) :
    ((r.veil reader).serve? σ .dropNewest d).map (fun p => (p.1, p.2.veil reader)) =
      (r.serve? σ .dropNewest d).map fun p => (p.1, p.2.veil reader) := by
  cases first : d.rest with
  | nil => simp [serve?, first]
  | cons s rest =>
    have gone : (r.veil reader).isGone σ s = r.isGone σ s := by simp [isGone]
    rw [serve?_dropNewest first free, serve?_dropNewest first free, gone]
    cases r.isGone σ s with
    | true => simp
    | false =>
      cases s.accepts d.item with
      | true => simp [veil_offer]
      | false => simp

end Turns

end Roster

namespace Store

variable {s : Store} {σ : Signals} {reader : Nat}

/-- Answers without the counts of losses. -/
def sansLosses (replies : List (Nat × Reply)) : List (Nat × Reply) :=
  replies.map fun p => (p.1, p.2.sansLosses)

/-- A store without what depends on when one reader reads. -/
def veil (reader : Nat) (s : Store) : Store :=
  { s with
    roster := s.roster.veil reader
    replies := sansLosses s.replies }

@[simp] theorem sansLosses_sansLosses (replies : List (Nat × Reply)) :
    sansLosses (sansLosses replies) = sansLosses replies := by
  simp [sansLosses]

@[simp] theorem sansLosses_filter (replies : List (Nat × Reply)) (client : Nat) :
    sansLosses (replies.filter (·.1 != client)) =
      (sansLosses replies).filter (·.1 != client) := by
  rw [sansLosses, sansLosses, List.filter_map]
  rfl

theorem lookup_veil (reader client : Nat) (s : Store) :
    List.lookup client (s.veil reader).replies =
      (List.lookup client s.replies).map Reply.sansLosses :=
  lookup_map (fun _ => Reply.sansLosses) s.replies client

/-- Stores that differ in nothing but their rosters and answers. -/
theorem veil_congr (t : Store) {roster roster' : Roster Value}
    {replies replies' : List (Nat × Reply)} (same : roster.veil reader = roster'.veil reader)
    (told : sansLosses replies = sansLosses replies') :
    { t with roster := roster, replies := replies }.veil reader =
      { t with roster := roster', replies := replies' }.veil reader := by
  simp only [veil, same, told]

@[simp] theorem veil_veil (reader : Nat) (s : Store) :
    (s.veil reader).veil reader = s.veil reader :=
  veil_congr s (s.roster.veil_veil reader) (sansLosses_sansLosses s.replies)

theorem veil_roster (reader : Nat) (s : Store) :
    (s.veil reader).roster = s.roster.veil reader := rfl

theorem veil_config (reader : Nat) (s : Store) : (s.veil reader).config = s.config := rfl

theorem veil_input (reader : Nat) (s : Store) : (s.veil reader).input = s.input := rfl

theorem veil_control (reader : Nat) (s : Store) : (s.veil reader).control = s.control := rfl

theorem veil_activity (reader : Nat) (s : Store) : (s.veil reader).activity = s.activity := rfl

theorem veil_isOver (reader : Nat) (s : Store) : (s.veil reader).isOver = s.isOver := rfl

theorem veil_isPending (reader : Nat) (s : Store) (client : Nat) :
    (s.veil reader).isPending client = s.isPending client := rfl

/-! ### Steps of clients under the veil -/

theorem veil_enter? (reader : Nat) (s : Store) (party : Party) :
    (s.veil reader).enter? party = (s.enter? party).map (veil reader) := by
  unfold enter?
  rw [apply_ite (Option.map (veil reader)), Option.map_map]
  cases party <;> rfl

theorem veil_abandon (reader : Nat) (s : Store) (client : Nat) :
    ((s.veil reader).abandon client).veil reader = (s.abandon client).veil reader := by
  refine veil_congr (s.abandon client) ?_ (by simp [veil])
  rw [lookup_veil]
  cases List.lookup client s.replies with
  | none => exact s.roster.veil_veil reader
  | some reply =>
    cases reply with
    | subscribed id token => exact s.roster.veil_close reader id
    | values | done | stats => exact s.roster.veil_veil reader

theorem veil_close (reader : Nat) (s : Store) (id : Nat) :
    ((s.veil reader).close id).veil reader = (s.close id).veil reader :=
  veil_congr s (s.roster.veil_close reader id) (sansLosses_sansLosses s.replies)

theorem resolve?_of_lookup {client : Nat} {reply : Reply}
    (there : List.lookup client s.replies = some reply) :
    s.resolve? client = some (.ok reply, s.handOver client reply) := by
  rw [resolve?, collect?_eq_some.2 ⟨there, rfl⟩]

theorem resolve?_of_lookup_eq_none {client : Nat}
    (missing : List.lookup client s.replies = none) :
    s.resolve? client =
      if s.isOver then
        if s.isPending client then some (.error s.closed, s.abandon client) else none
      else (s.input.enter? client).map fun input => (.ok .done, { s with input }) := by
  simp [resolve?, collect?, missing]

theorem veil_resolve? (reader : Nat) (s : Store) (client : Nat) :
    ((s.veil reader).resolve? client).map (fun p => (p.1.map Reply.sansLosses, p.2.veil reader)) =
      (s.resolve? client).map fun p => (p.1.map Reply.sansLosses, p.2.veil reader) := by
  have lookup := lookup_veil reader client s
  cases there : List.lookup client s.replies with
  | some reply =>
    rw [there] at lookup
    rw [resolve?_of_lookup there, resolve?_of_lookup lookup]
    have watched : reply.sansLosses.watched = reply.watched := by cases reply <;> rfl
    simp [Except.map, handOver, watched, veil]
  | none =>
    rw [there] at lookup
    rw [resolve?_of_lookup_eq_none there, resolve?_of_lookup_eq_none lookup, veil_isOver,
      veil_isPending]
    split
    · split
      · rw [Option.map_some, Option.map_some, veil_abandon]
        rfl
      · rfl
    · rw [Option.map_map, Option.map_map]
      congr 1
      funext input
      exact congrArg (Prod.mk _) (veil_veil reader { s with input })

theorem veil_wake? (reader : Nat) (s : Store) (id : Nat) :
    (s.veil reader).wake? σ id = (s.wake? σ id).map (veil reader) := by
  unfold wake?
  dsimp only [veil]
  cases s.watchers.find? fun w => w.1 == id with
  | none => rfl
  | some w =>
    dsimp only
    rw [apply_ite (Option.map (veil reader)), apply_ite (Option.map (veil reader))]
    rfl

theorem veil_disperse? (reader : Nat) (s : Store) (id : Nat) :
    (s.veil reader).disperse? id = (s.disperse? id).map (veil reader) := by
  unfold disperse?
  rw [apply_ite (Option.map (veil reader))]
  rfl

theorem veil_read?_of_ne {other : Nat} (apart : other ≠ reader) (token : Token) :
    ((s.veil reader).read? σ other token).map (fun p => (p.1, p.2.veil reader)) =
      (s.read? σ other token).map fun p => (p.1, p.2.veil reader) := by
  have exhausted : (s.roster.veil reader).isExhausted other = s.roster.isExhausted other := by
    rw [Roster.isExhausted, Roster.isExhausted, Roster.outbox?_veil_of_ne apart]
  have items := s.roster.veil_read_of_ne apart
  simp only [read?, veil_roster, exhausted]
  cases σ.isCancelled token with
  | true => exact congrArg (fun t => some (_, t)) (veil_veil reader s)
  | false =>
    cases there : s.roster.read? other with
    | none =>
      rw [there, Option.map_none, Option.map_eq_none_iff] at items
      rw [items]
      cases s.roster.isExhausted other with
      | true => exact congrArg (fun t => some (_, t)) (veil_veil reader s)
      | false => rfl
    | some p =>
      rw [there, Option.map_some, Option.map_eq_some_iff] at items
      obtain ⟨q, read, same⟩ := items
      obtain ⟨item, rest⟩ := Prod.ext_iff.1 same
      rw [read]
      dsimp only at item ⊢
      exact congrArg₂ (fun v t => some (Delivered.item v, t)) item
        (veil_congr s rest (sansLosses_sansLosses s.replies))

/-! ### Steps of the owner under the veil -/

theorem veil_apply (reader : Nat) (s : Store) (v : Value) (after : Option (Message × Nat)) :
    (s.veil reader).apply v after = (s.apply v after).veil reader := by
  unfold apply
  rw [apply_ite (veil reader)]
  rfl

theorem veil_answer {t : Store} {reply reply' : Reply} (alike : t.veil reader = s.veil reader)
    (same : reply.sansLosses = reply'.sansLosses) (client : Nat) :
    (t.answer client reply).veil reader = (s.answer client reply').veil reader := by
  have awaiting : t.awaiting = s.awaiting := (congrArg Store.awaiting alike :)
  unfold answer
  rw [apply_ite (veil reader), apply_ite (veil reader), awaiting]
  refine if_congr Iff.rfl ?_ alike
  have answered := congrArg (fun u : Store =>
    { u with
      awaiting := s.awaiting.filter (· != client)
      replies := u.replies ++ sansLosses [(client, reply)] }) alike
  simpa [veil, sansLosses, same] using answered

theorem veil_subscribe (reader : Nat) (s : Store) (client : Nat) (filter : ValueFilter)
    (replay : Bool) (token : Token) :
    ((s.veil reader).subscribe client filter replay token).veil reader =
      (s.subscribe client filter replay token).veil reader := by
  unfold subscribe
  dsimp only
  rw [apply_ite (veil reader), apply_ite (veil reader), apply_ite (veil reader),
    apply_ite (veil reader)]
  refine if_congr Iff.rfl ?_ (if_congr Iff.rfl ?_ ?_)
  · exact veil_congr s.die (s.roster.veil_clear reader) (sansLosses_sansLosses s.replies)
  · refine veil_answer (veil_congr s ?_ (sansLosses_sansLosses s.replies)) rfl client
    exact s.roster.veil_enroll reader _ _ _ _
  · exact veil_congr s (s.roster.skipId.veil_veil reader) (sansLosses_sansLosses s.replies)

theorem veil_serve (reader : Nat) (s : Store) (message : Message) :
    ((s.veil reader).serve message).veil reader = (s.serve message).veil reader := by
  cases message with
  | unsubscribe id =>
    exact veil_congr s (s.roster.veil_remove reader [id]) (sansLosses_sansLosses s.replies)
  | ask client request =>
    cases request with
    | snapshot filter => exact veil_answer (veil_veil reader s) rfl client
    | subscribe filter replay token => exact veil_subscribe reader s client filter replay token
    | wait => exact veil_answer (veil_veil reader s) rfl client
    | stats =>
      have same : (Reply.stats (s.veil reader).stats).sansLosses =
          (Reply.stats s.stats).sansLosses := rfl
      exact veil_answer (veil_veil reader s) same client

theorem veil_deliver? (policy : s.config.overflow = .dropNewest)
    (free : ∀ d after, s.activity = .delivering d after → d.blocked = false) :
    ((s.veil reader).deliver? σ).map (veil reader) = (s.deliver? σ).map (veil reader) := by
  cases delivering : s.activity with
  | delivering d after =>
    simp only [deliver?, veil_activity, delivering, veil_roster, veil_config, policy]
    cases first : d.rest with
    | nil =>
      simp only [Roster.finish?, first, List.isEmpty_nil, if_true]
      exact congrArg some (veil_congr { s with activity := resume after }
        (s.roster.veil_remove reader d.gone) (sansLosses_sansLosses s.replies))
    | cons sub rest =>
      simp only [Roster.finish?, first, List.isEmpty_cons, Bool.false_eq_true, if_false]
      have served := congrArg (Option.map fun p : Delivery Value × Roster Value =>
        { s with
          roster := p.2
          activity := .delivering p.1 after
          replies := sansLosses s.replies })
        (s.roster.veil_serve? (σ := σ) reader (free d after delivering))
      simpa [Function.comp_def, veil] using served
  | _ => simp [deliver?, veil_activity, delivering]

theorem veil_takeValue? (reader : Nat) (s : Store) :
    (s.veil reader).takeValue? = s.takeValue?.map (veil reader) := by
  cases idle : s.activity with
  | idle =>
    simp only [takeValue?, veil_activity, idle, veil_input, Option.map_map]
    congr 1
    funext p
    exact veil_apply reader { s with input := p.2 } p.1 none
  | _ => simp [takeValue?, veil_activity, idle]

theorem veil_takeRequest? (reader : Nat) (s : Store) :
    (s.veil reader).takeRequest? = s.takeRequest?.map (veil reader) := by
  cases idle : s.activity with
  | idle =>
    simp only [takeRequest?, veil_activity, idle, veil_control, Option.map_map]
    rfl
  | _ => simp [takeRequest?, veil_activity, idle]

theorem veil_giveUp? (reader : Nat) (s : Store) :
    (s.veil reader).giveUp? σ = (s.giveUp? σ).map (veil reader) := by
  cases delivering : s.activity with
  | delivering d after =>
    simp only [giveUp?, veil_activity, delivering, Option.map_map]
    rfl
  | _ => simp [giveUp?, veil_activity, delivering]

theorem veil_drain? (reader : Nat) (s : Store) :
    (s.veil reader).drain?.map (veil reader) = s.drain?.map (veil reader) := by
  cases draining : s.activity with
  | draining message left =>
    have serves := veil_serve reader { s with activity := .idle } message
    simp only [drain?, veil_activity, draining, veil_input]
    cases left with
    | zero => exact congrArg some serves
    | succ left =>
      cases s.input.pop? with
      | none => exact congrArg some serves
      | some p =>
        have applied := veil_apply reader { s with input := p.2 } p.1 (some (message, left))
        exact congrArg some ((congrArg (veil reader) applied).trans (veil_veil reader _))
  | _ => simp [drain?, veil_activity, draining]

theorem veil_stop? (reader : Nat) (s : Store) :
    ((s.veil reader).stop? σ).map (fun p => (p.1, p.2.veil reader)) =
      (s.stop? σ).map fun p => (p.1, p.2.veil reader) := by
  cases idle : s.activity with
  | idle =>
    simp only [stop?, veil_activity, idle]
    rw [apply_ite (Option.map _), apply_ite (Option.map _)]
    refine if_congr Iff.rfl (congrArg (fun t => some (_, t)) ?_) rfl
    exact veil_congr { s with activity := .stopped } (s.roster.veil_clear reader)
      (sansLosses_sansLosses s.replies)
  | _ => simp [stop?, veil_activity, idle]

/-- The owner does the same under the veil. -/
theorem veil_move? (reader : Nat) (policy : s.config.overflow = .dropNewest)
    (free : ∀ d after, s.activity = .delivering d after → d.blocked = false) (m : Move) :
    ((s.veil reader).move? σ m).map (fun p => (p.1, p.2.veil reader)) =
      (s.move? σ m).map fun p => (p.1, p.2.veil reader) := by
  have moved {x y : Option Store} (alike : x.map (veil reader) = y.map (veil reader)) :
      (x.map (σ, ·)).map (fun p => (p.1, p.2.veil reader)) =
        (y.map (σ, ·)).map fun p => (p.1, p.2.veil reader) := by
    simpa [Function.comp_def] using congrArg (Option.map (σ, ·)) alike
  cases m with
  | takeValue => exact moved (by simp [veil_takeValue?, Function.comp_def])
  | takeRequest => exact moved (by simp [veil_takeRequest?, Function.comp_def])
  | drain => exact moved (veil_drain? reader s)
  | deliver => exact moved (veil_deliver? policy free)
  | giveUp => exact moved (by simp [veil_giveUp?, Function.comp_def])
  | stop => exact veil_stop? reader s

/-! ### Events under the veil -/

/-- What somebody sees of a step, without counts of losses. -/
def Output.sansLosses : Output → Output
  | .result r => .result (r.map Reply.sansLosses)
  | o => o

/-- The reader takes a step. -/
def Event.reads (reader : Nat) : Event → Bool
  | act (.read id _) => id == reader
  | _ => false

/-- What comes of a step, as far as it does not depend on the reader. -/
def seen (reader : Nat) (p : Signals × Store × Output) : Signals × Store × Output :=
  (p.1, p.2.1.veil reader, p.2.2.sansLosses)

/-- Nobody's step but the reader's depends on what is under the veil. -/
theorem veil_effect? (policy : s.config.overflow = .dropNewest)
    (free : ∀ d after, s.activity = .delivering d after → d.blocked = false) {e : Event}
    (apart : e.reads reader = false) :
    (e.effect? σ (s.veil reader)).map (seen reader) = (e.effect? σ s).map (seen reader) := by
  have settled {τ : Signals} {t t' : Store} (alike : t.veil reader = t'.veil reader) :
      (some (τ, t, Output.nothing)).map (seen reader) =
        (some (τ, t', Output.nothing)).map (seen reader) := by
    simp [seen, alike]
  cases e with
  | fire t => exact settled (veil_veil reader s)
  | act a =>
    cases a with
    | fill client v => exact settled (veil_veil reader (s.fill client v))
    | ask client request => exact settled (veil_veil reader (s.ask client request))
    | retain => exact settled (veil_veil reader { s with handles := s.handles + 1 })
    | release => exact settled (veil_veil reader { s with handles := s.handles - 1 })
    | abandon client => exact settled (veil_abandon reader s client)
    | close id => exact settled (veil_close reader s id)
    | enter party => simp [Event.effect?, act?, veil_enter?, Function.comp_def, seen]
    | wake id => simp [Event.effect?, act?, veil_wake?, Function.comp_def, seen]
    | disperse id => simp [Event.effect?, act?, veil_disperse?, Function.comp_def, seen]
    | resolve client =>
      have resolved := congrArg (Option.map fun p : Except Error Reply × Store =>
        (σ, p.2, Output.result p.1)) (veil_resolve? reader s client)
      simpa [Event.effect?, act?, Function.comp_def, seen, Output.sansLosses] using resolved
    | owner m =>
      have moved := congrArg (Option.map fun p : Signals × Store => (p.1, p.2, Output.nothing))
        (veil_move? (σ := σ) reader policy free m)
      simpa [Event.effect?, act?, Function.comp_def, seen, Output.sansLosses] using moved
    | read id token =>
      have other : id ≠ reader := by simpa [Event.reads] using apart
      have read := congrArg (Option.map fun p : Delivered Value × Store =>
        (σ, p.2, Output.delivered p.1)) (veil_read?_of_ne (s := s) (σ := σ) other token)
      simpa [Event.effect?, act?, Function.comp_def, seen, Output.sansLosses] using read

theorem permitted_veil (reader : Nat) (s : Store) (e : Event) :
    e.Permitted (s.veil reader) ↔ e.Permitted s := by
  have free (client : Nat) : (s.veil reader).isFree client = s.isFree client := by
    rw [isFree, isFree, veil_isPending, lookup_veil, Option.isNone_map]
  cases e with
  | fire t => exact Iff.rfl
  | act a =>
    cases a with
    | fill client v =>
      change (s.veil reader).isFree client = true ↔ s.isFree client = true
      rw [free]
    | ask client request =>
      change (s.veil reader).isFree client = true ∧ _ ↔ s.isFree client = true ∧ _
      rw [free]
      exact Iff.rfl
    | _ => exact Iff.rfl

/-- The reader changes nothing but what is under the veil. -/
theorem Change.veil_of_reads {σ' : Signals} {s' : Store} {e : Event} {o : Output}
    (h : Change σ s e σ' s' o) (reads : e.reads reader = true) :
    σ' = σ ∧ s'.veil reader = s.veil reader := by
  cases h with
  | read id token live item =>
    obtain rfl : id = reader := by simpa [Event.reads] using reads
    exact ⟨rfl, veil_congr s (Roster.veil_read item) rfl⟩
  | readEnd => exact ⟨rfl, rfl⟩
  | _ => cases reads

/-- A delivery never waits for room. -/
theorem Run.not_blocked {config : StoreConfig} {tr : Trace} (run : Run config tr σ s)
    (policy : config.overflow = .dropNewest) {d : Delivery Value}
    {after : Option (Message × Nat)} (delivering : s.activity = .delivering d after) :
    d.blocked = false := by
  by_contra blocked
  have under_way : s.desk.delivery = some d := by rw [desk_of_delivering delivering]
  have blocks := run.desk.policy under_way (by simpa using blocked)
  rw [policy] at blocks
  cases blocks

/-- Whoever does the same to stores that are alike sees the same. -/
theorem exists_effect?_of_veil_eq {t s' : Store} {σ' : Signals} {e : Event} {o : Output}
    (alike : t.veil reader = s.veil reader) (policy : s.config.overflow = .dropNewest)
    (free : ∀ d after, s.activity = .delivering d after → d.blocked = false)
    (apart : e.reads reader = false) (happened : e.effect? σ s = some (σ', s', o)) :
    ∃ t' o', e.effect? σ t = some (σ', t', o') ∧ t'.veil reader = s'.veil reader ∧
      o'.sansLosses = o.sansLosses := by
  have config : t.config = s.config := (congrArg Store.config alike :)
  have activity : t.activity = s.activity := (congrArg Store.activity alike :)
  have same : (e.effect? σ t).map (seen reader) = (e.effect? σ s).map (seen reader) := by
    rw [← veil_effect? policy free apart, ← alike]
    exact (veil_effect? (config ▸ policy) (activity ▸ free) apart).symm
  rw [happened] at same
  obtain ⟨⟨σ'', t', o'⟩, happened', shown⟩ := Option.map_eq_some_iff.1 same
  simp only [seen, Prod.mk.injEq] at shown
  obtain ⟨rfl, alike', told⟩ := shown
  exact ⟨t', o', happened', alike', told⟩

/-! ## Runs that differ in one reader -/

/-- What two stores have in common if they differ in when one reader read. -/
structure Alike (reader : Nat) (s s' : Store) : Prop where
  /-- The state, the counts of values, the owner and the queues of values and requests. -/
  rest : s' = { s with roster := s'.roster, replies := s'.replies }
  /-- What is counted, except for losses. -/
  counts : { s'.stats with dropped := 0 } = { s.stats with dropped := 0 }
  /-- Answers, except for the count of losses in them. -/
  told : sansLosses s'.replies = sansLosses s.replies
  subscribers : s'.roster.subscribers = s.roster.subscribers
  nextId : s'.roster.nextId = s.roster.nextId
  /-- The queues of everybody else. -/
  others : ∀ id, id ≠ reader → s'.roster.outbox? id = s.roster.outbox? id
  closed : s'.roster.isClosed reader = s.roster.isClosed reader

theorem alike_of_veil_eq {s' : Store} (alike : s'.veil reader = s.veil reader) :
    s.Alike reader s' := by
  have roster : s'.roster.veil reader = s.roster.veil reader := (congrArg Store.roster alike :)
  refine ⟨?_, (congrArg Store.stats alike :), (congrArg Store.replies alike :),
    (congrArg Roster.subscribers roster :), (congrArg Roster.nextId roster :), ?_, ?_⟩
  · have back := congrArg (fun t : Store =>
      { t with roster := s'.roster, replies := s'.replies }) alike
    exact back
  · intro id other
    rw [← Roster.outbox?_veil_of_ne other, roster, Roster.outbox?_veil_of_ne other]
  · rw [← Roster.isClosed_veil reader s'.roster, roster, Roster.isClosed_veil]

namespace Step

/-- A step without what depends on when one reader reads. -/
def veil (reader : Nat) (st : Step) : Step where
  signals := st.signals
  store := st.store.veil reader
  event := st.event
  output := st.output.sansLosses
  next := st.next.veil reader

/-- The same step in two runs that differ in one reader. -/
structure Alike (reader : Nat) (st st' : Step) : Prop where
  event : st'.event = st.event
  signals : st'.signals = st.signals
  before : st.store.Alike reader st'.store
  after : st.next.Alike reader st'.next
  output : st'.output.sansLosses = st.output.sansLosses

theorem alike_of_veil_eq {st st' : Step} (same : st'.veil reader = st.veil reader) :
    st.Alike reader st' where
  event := (congrArg Step.event same :)
  signals := (congrArg Step.signals same :)
  before := Store.alike_of_veil_eq (congrArg Step.store same :)
  after := Store.alike_of_veil_eq (congrArg Step.next same :)
  output := (congrArg Step.output same :)

theorem received_veil (reader id : Nat) (st : Step) :
    (st.veil reader).received id = st.received id := by
  obtain ⟨σ, s, e, o, s'⟩ := st
  cases o with
  | result r =>
    cases e with
    | fire => rfl
    | act a => cases a <;> rfl
  | nothing | delivered => rfl

theorem received_of_reads {id : Nat} {st : Step} (other : id ≠ reader)
    (reads : st.event.reads reader = true) : st.received id = [] := by
  obtain ⟨σ, s, e, o, s'⟩ := st
  cases e with
  | fire => cases reads
  | act a =>
    cases a with
    | read i token =>
      obtain rfl : i = reader := by simpa [Event.reads] using reads
      cases o with
      | delivered d => cases d <;> simp [received, Ne.symm other]
      | nothing | result => rfl
    | _ => cases reads

end Step

namespace Trace

/-- What happened without the steps of a reader. -/
def unread (reader : Nat) (tr : Trace) : Trace :=
  tr.filter fun st => !st.event.reads reader

theorem unread_snoc (reader : Nat) (tr : Trace) (st : Step) :
    unread reader (tr ++ [st]) =
      if st.event.reads reader then unread reader tr else unread reader tr ++ [st] := by
  cases reads : st.event.reads reader <;> simp [unread, reads]

theorem events_unread (reader : Nat) (tr : Trace) :
    (tr.map Step.event).filter (!·.reads reader) = (tr.unread reader).map Step.event :=
  List.filter_map

/-- What one reader gets can be told without the steps of another. -/
theorem received_unread {id : Nat} (other : id ≠ reader) (tr : Trace) :
    received id ((tr.unread reader).map (Step.veil reader)) = received id tr := by
  induction tr using List.reverseRecOn with
  | nil => rfl
  | append_singleton tr st ih =>
    rw [unread_snoc, received_append, received_singleton]
    split
    next reads => rw [ih, Step.received_of_reads other reads, List.append_nil]
    · rw [List.map_append, received_append, ih, List.map_singleton, received_singleton,
        Step.received_veil]

end Trace

variable {config : StoreConfig} {tr tr' : Trace} {σ' : Signals} {s' : Store}

/-- A run goes as well without the steps of a reader. -/
theorem Run.exists_unread (run : Run config tr σ s) (policy : config.overflow = .dropNewest)
    (reader : Nat) :
    ∃ tr' s', Run config tr' σ s' ∧ Trace.opening tr' σ = tr.opening σ ∧
      tr'.map (Step.veil reader) = (tr.unread reader).map (Step.veil reader) ∧
      s'.veil reader = s.veil reader := by
  induction run with
  | @start s σ made => exact ⟨[], s, .start σ made, rfl, rfl, rfl⟩
  | @step tr σ σ' s s' o run e permitted happened ih =>
    obtain ⟨tr', t, run', opens, same, alike⟩ := ih
    cases reads : e.reads reader with
    | true =>
      obtain ⟨rfl, unseen⟩ := (change_of_effect happened).veil_of_reads reads
      refine ⟨tr', t, run', ?_, ?_, alike.trans unseen.symm⟩
      · rw [Trace.opening_snoc, opens]
      · rw [Trace.unread_snoc, if_pos reads, same]
    | false =>
      have policy' : s.config.overflow = .dropNewest := run.config_eq ▸ policy
      obtain ⟨t', o', happened', alike', told⟩ := exists_effect?_of_veil_eq alike policy'
        (fun d after => run.not_blocked policy) reads happened
      have permitted' : e.Permitted t := by
        rw [← permitted_veil reader, alike, permitted_veil]
        exact permitted
      refine ⟨tr' ++ [⟨σ, t, e, o', t'⟩], t', run'.step e permitted' happened', ?_, ?_, alike'⟩
      · rw [Trace.opening_snoc, Trace.opening_snoc, opens]
      · rw [Trace.unread_snoc, if_neg (by simp [reads]), List.map_append, List.map_append, same]
        simp [Step.veil, alike, alike', told]

/-- Under the policy that drops the newest item readers do not interfere. Take two runs that begin
alike and in which the same happens in the same order, but for the steps of one reader: when it
reads, how often, or whether at all. Then the same came of each of the other steps. The stores
before and after it are alike: they have the same state, the same subscribers, the same counts
except for the losses, and the same queue for everybody but the reader. Everybody is answered the
same, but for the losses that are told to those who ask for the counts, and everybody but the reader
got the same items. -/
theorem Run.isolated (run : Run config tr σ s) (run' : Run config tr' σ' s')
    (policy : config.overflow = .dropNewest) (opens : tr.opening σ = tr'.opening σ')
    (apart : (tr.map Step.event).filter (!·.reads reader) =
      (tr'.map Step.event).filter (!·.reads reader)) :
    List.Forall₂ (Step.Alike reader) (tr.unread reader) (tr'.unread reader) ∧
      σ' = σ ∧ s.Alike reader s' ∧
      ∀ id, id ≠ reader → tr'.received id = tr.received id := by
  obtain ⟨quiet, t, goes, starts, same, alike⟩ := run.exists_unread policy reader
  obtain ⟨quiet', t', goes', starts', same', alike'⟩ := run'.exists_unread policy reader
  have event : Step.event ∘ Step.veil reader = Step.event := rfl
  have events : quiet.map Step.event = quiet'.map Step.event := by
    have shown := congrArg (List.map Step.event) same
    have shown' := congrArg (List.map Step.event) same'
    rw [List.map_map, List.map_map, event] at shown shown'
    rw [shown, shown', ← Trace.events_unread, ← Trace.events_unread, apart]
  obtain ⟨rfl, rfl, rfl⟩ := goes.eq_of_events goes' (starts.trans (opens.trans starts'.symm)) events
  have veiled : (tr'.unread reader).map (Step.veil reader) =
    (tr.unread reader).map (Step.veil reader) := same'.symm.trans same
  refine ⟨?_, rfl, alike_of_veil_eq (alike'.symm.trans alike), fun id other => ?_⟩
  · have steps := List.forall₂_eq_eq_eq ▸ veiled.symm
    exact (List.forall₂_map_left_iff.1 (List.forall₂_map_right_iff.1 steps)).imp
      fun _ _ same => Step.alike_of_veil_eq same.symm
  · rw [← Trace.received_unread other, veiled, Trace.received_unread other]

/-- Two values are delivered to two readers. The second one reads each at once, the first one does
what is given in between. -/
def besideReader (reading : List Event) (v w : Value) : List Event :=
  subscribeTwo ++ delivering v ++ [.act (.owner .deliver), .act (.read 2 ⟨[1]⟩)] ++ reading ++
    delivering w ++ [.act (.owner .deliver), .act (.read 2 ⟨[1]⟩)]

theorem second_reader_isolated :
    ∃ (tr tr' : Trace) (σ : Signals) (s s' : Store),
      Run { subscriberCapacity := 1, overflow := .dropNewest } tr σ s ∧
      Run { subscriberCapacity := 1, overflow := .dropNewest } tr' σ s' ∧
      s.roster.dropped = 0 ∧ s'.roster.dropped = 1 ∧ s.Alike 1 s' ∧
      (Trace.received 2 tr).length = 2 ∧ Trace.received 2 tr' = Trace.received 2 tr := by
  let config : StoreConfig := { subscriberCapacity := 1, overflow := .dropNewest }
  let reads := besideReader [.act (.read 1 ⟨[0]⟩)] (serial "A1") (serial "A2")
  let rests := besideReader [] (serial "A1") (serial "A2")
  have ends : (play? reads (fresh config)).map (fun now => (now.1.opening now.2.1,
      now.2.2.roster.dropped, (Trace.received 2 now.1).length)) = some ({}, 0, 2) := by
    decide +kernel
  have ends' : (play? rests (fresh config)).map (fun now => (now.1.opening now.2.1,
      now.2.2.roster.dropped)) = some ({}, 1) := by decide +kernel
  obtain ⟨⟨tr, σ, s⟩, played, ends⟩ := Option.map_eq_some_iff.1 ends
  obtain ⟨⟨tr', σ', s'⟩, played', ends'⟩ := Option.map_eq_some_iff.1 ends'
  simp only [Prod.mk.injEq] at ends ends'
  obtain ⟨opens, none_lost, got⟩ := ends
  obtain ⟨opens', one_lost⟩ := ends'
  have run := Run.of_play? (by decide) played
  have run' := Run.of_play? (by decide) played'
  obtain ⟨more, trace, events⟩ := events_of_play? played
  obtain ⟨more', trace', events'⟩ := events_of_play? played'
  obtain rfl : tr = more := trace
  obtain rfl : tr' = more' := trace'
  have apart : (tr.map Step.event).filter (!·.reads 1) =
      (tr'.map Step.event).filter (!·.reads 1) := by
    rw [events, events']
    rfl
  obtain ⟨-, same, alike, received⟩ := run.isolated run' rfl (opens.trans opens'.symm) apart
  obtain rfl : σ' = σ := same
  exact ⟨tr, tr', σ', s, s', run, run', none_lost, one_lost, alike, got, received 2 (by decide)⟩

end Store

end Telemetry
