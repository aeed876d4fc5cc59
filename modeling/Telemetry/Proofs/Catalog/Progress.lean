import Telemetry.Proofs.Catalog.Announcement
import Telemetry.Proofs.Catalog.Listing

/-!
# What holds a catalog up

Whoever adds registers keeps the lock until they are announced, and everybody else stands in line
behind it, those included who wait to strike a subscriber off. Nobody else waits for anybody: if
nothing goes on although something is under way, then an addition waits for a subscriber that goes
on, wants the register, and has not read enough to have room for it. That subscriber need not be
struck off to get out of the way. The addition sees for itself that a signal has fired or a reader
is gone, and passes over it while the one who was to strike it off still stands in line.

## Main definitions

* `HasWork`: something is under way.
* `Obstructs`: an addition waits for one reader.

## Main results

* `Run.held_up_by_reader`: whoever holds a catalog up is a live reader with a full queue.
-/

namespace Telemetry.Catalog

/-- An announcement leaves out the subscriber whose turn it is, which is to be struck off. -/
def Addition.passOver (id : Nat) (a : Addition) : Addition :=
  { a with delivery := a.delivery.map fun d => d.strike id }

/-- Something is under way. -/
inductive HasWork (σ : Signals) (c : Catalog) : Prop
  | waits (line : c.line ≠ [])
  | holds (holder : c.holder ≠ none)
  | ends {id : Nat} {token : Token} (watched : (id, token) ∈ c.watchers)
      (cancelled : σ.isCancelled token = true)

/-- An addition has the lock and waits until a subscriber has room for a register. The subscription
is not cancelled, its reader is there, and the register is for it. -/
structure Obstructs (σ : Signals) (c : Catalog) (a : Addition) (sub : Subscriber Register) :
    Prop where
  holder : c.holder = some a
  waits : ∃ d rest, a.delivery = some d ∧ d.rest = sub :: rest ∧ d.blocked = true ∧
    sub.accepts d.item = true
  live : σ.isCancelled sub.token = false
  reader : c.roster.isClosed sub.id = false
  full : c.roster.hasRoom sub.id = false

section Grants

variable {config : CatalogConfig} {tr : Trace} {st : Step} {σ σ' : Signals} {c c' : Catalog}
  {e : Event} {o : Output} {g : Grant Register}

/-- Somebody is enrolled only when a client gets the subscription that it asked for. -/
theorem Change.grants_of_act (h : Change σ c e σ' c' o)
    (act : Step.act ⟨σ, c, e, o, c'⟩ = .enroll g) :
    ∃ client filter, Step.Grants ⟨σ, c, e, o, c'⟩ client filter g.token g.id ∧
      g = c.grantOf filter g.token := by
  unfold Step.act at act
  cases h with
  | grant client granted fits =>
    simp only [granted] at act
    cases act
    exact ⟨client, _, ⟨rfl, granted, rfl⟩, rfl⟩
  | _ => grind

/-- A grant at the desk is a subscription that a client got. -/
theorem Run.grants_of_granted (run : Run config tr σ c) {p : Grant Register × Nat}
    (granted : p ∈ Desk.grants tr.history) :
    ∃ (before : Trace) (st : Step) (later : Trace) (client : Nat) (filter : RegisterFilter),
      tr = before ++ st :: later ∧ st.Grants client filter p.1.token p.1.id ∧
      p.1 = st.catalog.grantOf filter p.1.token := by
  induction run with
  | start => cases granted
  | @step tr σ σ' c c' o run e permitted happened ih =>
    rw [Trace.history, List.map_append, List.map_singleton, Desk.grants_snoc] at granted
    rcases List.mem_append.1 granted with old | new
    · obtain ⟨before, st, later, client, filter, rfl, grants, same⟩ := ih old
      exact ⟨before, st, later ++ [⟨σ, c, e, o, c'⟩], client, filter, by simp, grants, same⟩
    · cases act : Step.act ⟨σ, c, e, o, c'⟩ with
      | enroll g =>
        rw [act] at new
        obtain rfl := List.mem_singleton.1 new
        obtain ⟨client, filter, grants, same⟩ := (change_of_effect happened).grants_of_act act
        exact ⟨tr, _, [], client, filter, rfl, grants, same⟩
      | _ => rw [act] at new; cases new

/-- Whoever is watched was granted a subscription. -/
theorem Run.granted_of_watched (run : Run config tr σ c) {id : Nat} {token : Token}
    (watched : (id, token) ∈ c.watchers) :
    ∃ p ∈ Desk.grants tr.history, p.1.id = id ∧ p.1.token = token := by
  induction run with
  | start => cases watched
  | @step tr σ σ' c c' o run e permitted happened ih =>
    have change := change_of_effect happened
    rw [Trace.history, List.map_append, List.map_singleton, Desk.grants_snoc]
    rcases change.watches watched with before | ⟨rfl, -, accepts, more⟩
    · obtain ⟨p, granted, same⟩ := ih before
      exact ⟨p, List.mem_append_left _ granted, same⟩
    · obtain ⟨g, one, same⟩ := (change.desk permitted run.held run.watching).granted_of_join
        (Desk.published tr.history).length more
      refine ⟨(g, _), List.mem_append_right _ (one ▸ List.mem_singleton.2 rfl), ?_⟩
      exact ⟨congrArg Subscriber.id same, congrArg Subscriber.token same⟩

/-- The watcher with a number is the only one. -/
theorem Run.find?_watchers (run : Run config tr σ c) {id : Nat} {token : Token}
    (watched : (id, token) ∈ c.watchers) :
    c.watchers.find? (fun w => w.1 == id) = some (id, token) := by
  cases found : c.watchers.find? fun w => w.1 == id with
  | none => simpa using List.find?_eq_none.1 found _ watched
  | some w =>
    obtain ⟨id', token'⟩ := w
    obtain rfl : id' = id := by simpa using List.find?_some found
    obtain ⟨p, granted, rfl, rfl⟩ := run.granted_of_watched watched
    obtain ⟨q, granted', same, rfl⟩ :=
      run.granted_of_watched (List.mem_of_find?_eq_some found)
    rw [run.desk.registered.grant_eq granted' granted same]

end Grants

/-! ## Who can go on -/

section Stalling

variable {config : CatalogConfig} {tr : Trace} {σ : Signals} {c : Catalog} {a : Addition}
  {sub : Subscriber Register}

/-- Nobody waits for the end of a subscription that is cancelled. -/
theorem Run.watched_live (run : Run config tr σ c) (stalled : Stalled σ c) {id : Nat}
    {token : Token} (watched : (id, token) ∈ c.watchers) : σ.isCancelled token = false := by
  have sleeps : c.wake? σ id = none := Option.map_eq_none_iff.1 (stalled (.wake id) rfl)
  rw [wake?, run.find?_watchers watched] at sleeps
  by_contra cancelled
  rw [Bool.not_eq_false] at cancelled
  simp only [cancelled, if_true] at sleeps
  split at sleeps <;> cases sleeps

/-- An addition that does not go on is blocked by a live subscriber with a full queue. -/
theorem Stalled.of_holder (stalled : Stalled σ c) (holder : c.holder = some a) :
    ∃ d sub rest, a.delivery = some d ∧ d.rest = sub :: rest ∧ d.blocked = true ∧
      σ.isCancelled sub.token = false ∧ c.roster.isClosed sub.id = false ∧
      c.roster.hasRoom sub.id = false := by
  obtain ⟨client, left, delivery⟩ := a
  cases delivery with
  | none =>
    have idle : c.desk.delivery = none := by simp [Catalog.desk, holder]
    exact absurd (holder.symm.trans (stalled.free idle)) (by simp)
  | some d =>
    have proceeds : c.proceed? σ client = none :=
      Option.map_eq_none_iff.1 (stalled (.proceed client) rfl)
    have gives_up : c.giveUp? σ client = none :=
      Option.map_eq_none_iff.1 (stalled (.giveUp client) rfl)
    simp only [proceed?, holder, bne_self_eq_false, Bool.false_eq_true, if_false] at proceeds
    simp only [giveUp?, holder, bne_self_eq_false, Bool.false_eq_true, if_false,
      Option.map_eq_none_iff] at gives_up
    cases first : d.rest with
    | nil => simp [Roster.finish?, first] at proceeds
    | cons sub rest =>
      simp only [Roster.finish?, first, List.isEmpty_cons, Bool.false_eq_true, if_false,
        Option.map_eq_none_iff, Roster.serve?_eq_none first] at proceeds
      obtain ⟨blocked, opened, full⟩ := proceeds
      have live := (Roster.giveUp?_eq_none first blocked).1 gives_up
      exact ⟨d, sub, rest, rfl, first, blocked, live, opened, full⟩

/-- While an addition has the lock, nobody is granted it. -/
theorem granted?_of_holder (holder : c.holder = some a) (party : Party) :
    c.granted? party = none := by
  simp [granted?, holder]

/-- When nobody can go on although something is under way, somebody has the lock. -/
theorem Run.exists_holder (run : Run config tr σ c) (orderly : tr.Orderly)
    (stalled : Stalled σ c) (work : HasWork σ c) : ∃ a, c.holder = some a := by
  cases holder : c.holder with
  | some a => exact ⟨a, rfl⟩
  | none =>
    cases work with
    | waits line => exact absurd (stalled.line_eq_nil (run.tended orderly) holder) line
    | holds held => exact absurd holder held
    | ends watched cancelled =>
      exact absurd ((run.watched_live stalled watched).symm.trans cancelled) Bool.false_ne_true

/-! ## What lets an addition go on -/

namespace Obstructs

variable {σ' : Signals} {c' : Catalog}

/-- An addition passes over the subscriber for which it waits once that is cancelled. -/
theorem gives_up (obstructs : Obstructs σ c a sub) (holder : c'.holder = c.holder)
    (cancelled : σ'.isCancelled sub.token = true) :
    c'.act? σ' (.giveUp a.client) =
      some ({ c' with holder := some (a.passOver sub.id) }, .nothing) := by
  obtain ⟨d, rest, delivering, first, blocked, -⟩ := obstructs.waits
  obtain ⟨client, left, delivery⟩ := a
  obtain rfl : delivery = some d := delivering
  rw [obstructs.holder] at holder
  simp [act?, giveUp?, holder, Delivery.giveUp?, first, blocked, cancelled, Addition.passOver]

/-- An addition passes over the subscriber for which it waits once its reader is gone. -/
theorem proceeds (obstructs : Obstructs σ c a sub) (holder : c'.holder = c.holder)
    (closed : c'.roster.isClosed sub.id = true) :
    c'.act? σ' (.proceed a.client) =
      some ({ c' with holder := some (a.passOver sub.id) }, .nothing) := by
  obtain ⟨d, rest, delivering, first, blocked, -⟩ := obstructs.waits
  obtain ⟨client, left, delivery⟩ := a
  obtain rfl : delivery = some d := delivering
  rw [obstructs.holder] at holder
  simp [act?, proceed?, holder, Roster.finish?, Roster.serve?, first, blocked, closed,
    Addition.passOver]

end Obstructs

theorem Run.isCancelled_of_fire {before later : Trace} {st : Step}
    (run : Run config (before ++ st :: later) σ c) {t below : Token} (fires : st.event = .fire t)
    (signal : t.lineage ≠ []) (above : t.lineage.IsSuffix below.lineage) :
    σ.isCancelled below = true := by
  refine run.since (P := fun σ _ => σ.isCancelled below = true) ?_ ?_
  · intro σ _ change
    obtain ⟨σ₀, c₀, e, o, c₁⟩ := st
    obtain rfl : e = .fire t := fires
    cases change
    exact σ₀.isCancelled_fire signal above
  · intro _ _ _ _ _ _ _ _ _ change cancelled
    exact change.grows _ cancelled

theorem Run.isClosed_of_close {before later : Trace} {st : Step}
    (run : Run config (before ++ st :: later) σ c) {p : Grant Register × Nat}
    (granted : p ∈ Desk.grants before.history) (closes : st.event = .act (.close p.1.id)) :
    c.roster.isClosed p.1.id = true := by
  refine run.since (P := fun _ c => c.roster.isClosed p.1.id = true) ?_ ?_
  · intro σ earlier change
    obtain ⟨b, there, -⟩ := earlier.desk.registered.exists_outbox granted
    obtain ⟨σ₀, c₀, e, o, c₁⟩ := st
    obtain rfl : e = .act (.close p.1.id) := closes
    dsimp only at change
    cases change
    exact Roster.isClosed_close there
  · intro _ _ _ _ _ _ _ run permitted change closed
    exact (change.desk permitted run.held run.watching).isClosed closed

/-- Somebody waits for the end of the subscription that holds an addition up. -/
theorem Run.watched_of_obstructs (run : Run config tr σ c) (orderly : tr.Orderly)
    (obstructs : Obstructs σ c a sub) : (sub.id, sub.token) ∈ c.watchers := by
  obtain ⟨d, rest, delivering, first, -⟩ := obstructs.waits
  have under_way : c.desk.delivery = some d := by
    simp [Catalog.desk, obstructs.holder, delivering]
  have on := run.desk.registered.mem_of_rest under_way (first ▸ List.mem_cons_self : sub ∈ d.rest)
  refine ((run.tended orderly).watched sub on).resolve_right fun condemned => ?_
  have cancelled := (run.watching.cancelled sub.id ⟨sub.id, condemned⟩).2 sub on rfl
  exact Bool.false_ne_true (obstructs.live.symm.trans cancelled)

/-- When the signal of a subscription fires, whoever waited for that asks for the lock. -/
theorem Run.wakes (run : Run config tr σ c) {id : Nat} {token : Token}
    (watched : (id, token) ∈ c.watchers) (going : c.isForgotten = false) {σ' : Signals}
    (cancelled : σ'.isCancelled token = true) :
    c.act? σ' (.wake id) =
      some ((c.unwatch id).join (.watcher id) (.unsubscribe id), .nothing) := by
  simp only [act?, wake?, run.find?_watchers watched, cancelled, if_true, going]
  rfl

/-- A catalog that does not go on although something is under way has the blocking policy, and an
addition has the lock and waits for one subscriber that is not cancelled, whose reader is there,
that wants the register, and whose queue is full: it holds as many registers as were replayed and
may be added. If the signal of the subscription or one above it is fired, then whoever is to strike
the subscriber off stands in line, as everybody does while the addition waits. But from then on the
addition can go on, and so it can from the moment at which the reader leaves, whatever else
happened. -/
theorem Run.held_up_by_reader (run : Run config tr σ c) (orderly : tr.Orderly)
    (stalled : Stalled σ c) (work : HasWork σ c) :
    config.overflow = .block ∧ ∃ a sub, Obstructs σ c a sub ∧
      (∃ (before : Trace) (st : Step) (later : Trace) (asker : Nat) (filter : RegisterFilter),
        tr = before ++ st :: later ∧ st.Grants asker filter sub.token sub.id ∧
        sub.accepts = filter.accepts ∧
        (c.roster.queued sub.id).length =
          (filter.filter st.catalog.registers).length + config.subscriberCapacity.toNat) ∧
      (∀ t : Token, t.lineage ≠ [] → t.lineage.IsSuffix sub.token.lineage →
        ∃ c', c.act? (σ.fire t) (.wake sub.id) = some (c', .nothing) ∧
          (.watcher sub.id, .unsubscribe sub.id) ∈ c'.line ∧ c'.holder = c.holder) ∧
      ∀ (more : Trace) σ' c', Run config (tr ++ more) σ' c' → c'.holder = c.holder →
        (∀ party, c'.granted? party = none) ∧
        (∀ t : Token, t.lineage ≠ [] → t.lineage.IsSuffix sub.token.lineage →
          (∃ st ∈ more, st.event = .fire t) → c'.act? σ' (.giveUp a.client) =
            some ({ c' with holder := some (a.passOver sub.id) }, .nothing)) ∧
        ((∃ st ∈ more, st.event = .act (.close sub.id)) → c'.act? σ' (.proceed a.client) =
          some ({ c' with holder := some (a.passOver sub.id) }, .nothing)) := by
  obtain ⟨a, holder⟩ := run.exists_holder orderly stalled work
  obtain ⟨d, sub, rest, delivering, first, blocked, live, opened, full⟩ := stalled.of_holder holder
  have reg := run.desk.registered
  have under_way : c.desk.delivery = some d := by simp [Catalog.desk, holder, delivering]
  have wanted := reg.wanted _ _ _ under_way first blocked
  have obstructs : Obstructs σ c a sub := {
    holder := holder
    waits := ⟨d, rest, delivering, first, blocked, wanted⟩
    live := live
    reader := opened
    full := full }
  have on := reg.mem_of_rest under_way (first ▸ List.mem_cons_self : sub ∈ d.rest)
  obtain ⟨p, granted, rfl, b, there, length⟩ := reg.full on full
  refine ⟨run.desk.policy under_way blocked, a, p.1.subscriber, obstructs, ?_, ?_, ?_⟩
  · obtain ⟨before, st, later, asker, filter, rfl, grants, same⟩ := run.grants_of_granted granted
    obtain ⟨_, earlier, -⟩ := run.at_step
    refine ⟨before, st, later, asker, filter, rfl, grants, ?_, ?_⟩
    · exact congrArg Grant.accepts same
    · rw [show c.roster.queued _ = b.items from Roster.queued_of_outbox? there, length, same,
        ← earlier.config_eq]
      rfl
  · intro t signal above
    have going : c.isForgotten = false :=
      isForgotten_of_held (run.held (isBusy_of_holder holder))
    exact ⟨_, run.wakes (run.watched_of_obstructs orderly obstructs) going
      (σ.isCancelled_fire signal above), by simp [join], rfl⟩
  · intro more σ' c' after same
    refine ⟨granted?_of_holder (same.trans holder), ?_, ?_⟩
    · rintro t signal above ⟨st, member, fires⟩
      obtain ⟨earlier, later, rfl⟩ := List.append_of_mem member
      rw [← List.append_assoc] at after
      exact obstructs.gives_up same (after.isCancelled_of_fire fires signal above)
    · rintro ⟨st, member, closes⟩
      obtain ⟨earlier, later, rfl⟩ := List.append_of_mem member
      rw [← List.append_assoc] at after
      have granted : p ∈ Desk.grants (Trace.history (tr ++ earlier)) := by
        rw [Trace.history, List.map_append]
        exact Desk.grants_subset _ _ granted
      exact obstructs.proceeds same (after.isClosed_of_close granted closes)

/-- The addition that has the lock has no step, and no subscription is cancelled. -/
def isStuck (σ : Signals) (c : Catalog) : Bool :=
  (c.holder.any fun a =>
    (c.proceed? σ a.client).isNone && (c.giveUp? σ a.client).isNone && a.delivery.isSome) &&
    c.watchers.all fun w => !σ.isCancelled w.2

theorem stalled_of_isStuck (stuck : isStuck σ c = true) : Stalled σ c := by
  simp only [isStuck, Bool.and_eq_true, List.all_eq_true, Option.any_eq_true,
    Option.isNone_iff_eq_none, Bool.not_eq_true'] at stuck
  obtain ⟨⟨a, holder, ⟨proceeds, gives_up⟩, announces⟩, live⟩ := stuck
  have ungranted := granted?_of_holder holder
  obtain ⟨d, delivering⟩ := Option.isSome_iff_exists.1 announces
  intro b due
  cases b with
  | begin client => simp [act?, begin?, ungranted]
  | proceed client =>
    by_cases own : a.client = client
    · simp [act?, ← own, proceeds]
    · simp [act?, proceed?, holder, own]
  | giveUp client =>
    by_cases own : a.client = client
    · simp [act?, ← own, gives_up]
    · obtain ⟨owner, left, delivery⟩ := a
      obtain rfl : delivery = some d := delivering
      simp [act?, giveUp?, holder, show owner ≠ client from own]
  | resolve client =>
    obtain ⟨owner, left, delivery⟩ := a
    obtain rfl : delivery = some d := delivering
    simp [act?, resolve?, ungranted, holder]
  | wake id =>
    have sleeps : c.wake? σ id = none := by
      unfold wake?
      split
      · rfl
      next w token found =>
        rw [if_neg]
        simpa using live _ (List.mem_of_find?_eq_some found)
    simp [act?, sleeps]
  | strike id => simp [act?, strike?, ungranted]
  | _ => cases due

/-- The announcement of the second register is blocked, and somebody asks what is known. -/
def askBehindAddition : List Event :=
  subscribing ++ .act (.resolve 1) :: (adding ++ .act (.proceed 2) :: (announcing ++
    .act (.proceed 2) :: [.act (.proceed 2), .act (.ask 3 (.look .all))]))

theorem reader_holds_up_look :
    ∃ tr σ c, Run { subscriberCapacity := 1 } tr σ c ∧ tr.Orderly ∧ Stalled σ c ∧
      HasWork σ c ∧ ∃ a sub, Obstructs σ c a sub := by
  have ends : (play? askBehindAddition (fresh { subscriberCapacity := 1 })).map (fun now =>
      (decide now.1.Orderly, isStuck now.2.1 now.2.2, now.2.2.line.map Prod.fst)) =
        some (true, true, [.client 3]) := by
    rw [play?_fresh]
    decide +kernel
  obtain ⟨⟨tr, σ, c⟩, played, ends⟩ := Option.map_eq_some_iff.1 ends
  simp only [Prod.mk.injEq, decide_eq_true_eq] at ends
  obtain ⟨orderly, stuck, line⟩ := ends
  have run : Run { subscriberCapacity := 1 } tr σ c := .of_play? played
  have stalled : Stalled σ c := stalled_of_isStuck stuck
  have work : HasWork σ c := .waits fun nobody => by simp [nobody] at line
  obtain ⟨-, a, sub, obstructs, -⟩ := run.held_up_by_reader orderly stalled work
  exact ⟨tr, σ, c, run, orderly, stalled, work, a, sub, obstructs⟩

end Stalling

end Telemetry.Catalog
