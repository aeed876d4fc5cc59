import Telemetry.Proofs.Catalog.Cancellation
import Telemetry.Proofs.Signal
import Telemetry.Proofs.Site
import Telemetry.Proofs.Store.Cancellation

/-!
# The end of one subscription

A subscription ends when its token is cancelled, be it the token itself, one above it, or the reader
that went away. It has a token of its own, below that of whoever asked for it, so its end is the end
of nothing else.

## Main definitions

* `Signals.Knows`: a token was made already.
* `Signals.EndsAlone`: a new token ends nothing but itself and what is made below it.
* `Site.EndsAlone`: a subscription ends for good and alone.

## Main results

* `cancellation_final_and_local`: so do subscriptions of stores and catalogs in every run.
-/

namespace Telemetry

/-! ## Tokens -/

namespace Signals

variable {σ : Signals} {t parent : Token}

/-- A token was made already: its signal and those above it have their numbers. -/
def Knows (σ : Signals) (t : Token) : Prop :=
  ∀ n ∈ t.lineage, n < σ.next

theorem knows_root (σ : Signals) : σ.root.2.Knows σ.root.1 := by
  intro n member
  obtain rfl := List.mem_singleton.1 member
  exact Nat.lt_succ_self _

theorem Knows.child (known : σ.Knows parent) : (σ.child parent).2.Knows (σ.child parent).1 := by
  intro n member
  rcases List.mem_cons.1 member with rfl | above
  · exact Nat.lt_succ_self _
  · exact Nat.lt_succ_of_lt (known n above)

/-- Firing a signal leaves alone whatever is not below it. -/
theorem isCancelled_fire_of_not_within (apart : ¬ parent.Within t) :
    (σ.fire t).isCancelled parent = σ.isCancelled parent := by
  rw [Bool.eq_iff_iff, isCancelled_fire_iff]
  exact or_iff_left apart

/-- A new token below another ends nothing but itself and what is made below it. -/
structure EndsAlone (σ : Signals) (parent : Token) : Prop where
  /-- It ends with its parent. -/
  under : ∀ σ' t, parent.Within t → (Signals.fire σ' t).isCancelled (σ.child parent).1 = true
  /-- Its parent does not end with it, and neither does anything else that was there. -/
  earlier : ∀ σ' t, σ.Knows t → (Signals.fire σ' (σ.child parent).1).isCancelled t = σ'.isCancelled t
  /-- Nor does anything that is made later below its parent. -/
  later : ∀ σ' : Signals, σ.next < σ'.next →
    (σ'.fire (σ.child parent).1).isCancelled (σ'.child parent).1 =
      σ'.isCancelled (σ'.child parent).1

theorem Knows.endsAlone (known : σ.Knows parent) : σ.EndsAlone parent where
  under σ' t := by
    rintro ⟨n, signal, member⟩
    exact isCancelled_fire_iff.2 (.inr ⟨n, signal, List.mem_cons_of_mem _ member⟩)
  earlier σ' t old := isCancelled_fire_of_not_within (not_within_child old)
  later σ' grown := by
    -- A later sibling is above nothing that fires, as its parent is older than the signal.
    have apart : ¬ parent.Within (σ.child parent).1 := not_within_child known
    refine isCancelled_fire_of_not_within fun below => apart (within_of_child_within ?_ below)
    exact fun n member => Nat.lt_of_lt_of_le (known.child n member) grown

end Signals

/-! ## Sites -/

namespace Site

variable {x x' : Site} {s : Subscription}

/-- The store or catalog of a subscription is there. -/
def Feeds (x : Site) (s : Subscription) : Prop :=
  match s.feed with
  | .store n => (x.stores[n]?).isSome = true
  | .catalog n => (x.catalogs[n]?).isSome = true

/-- No store, catalog or task is another one, but for the queue of one subscription. -/
structure Spares (s : Subscription) (x x' : Site) : Prop where
  stores : ∀ n (store : Store), x.stores[n]? = some store → ∃ store', x'.stores[n]? = some store' ∧
    store.Spares (fun id => s.feed = .store n ∧ id = s.id) store' ∧
    store'.roster.subscribers = store.roster.subscribers ∧ store'.activity = store.activity
  catalogs : ∀ n (c : Catalog), x.catalogs[n]? = some c → ∃ c', x'.catalogs[n]? = some c' ∧
    c.Spares (fun id => s.feed = .catalog n ∧ id = s.id) c' ∧
    c'.roster.subscribers = c.roster.subscribers ∧ c'.holder = c.holder
  tasks : x'.tasks = x.tasks

/-- A subscription of a site ends for good and alone. -/
structure EndsAlone (x : Site) (s : Subscription) : Prop where
  /-- Once it is cancelled nobody gets an item of it, whatever is queued. -/
  silent : x.signals.isCancelled s.token = true →
    (∀ i x', x.read? s ≠ some (.item i, x')) ∧ x.tryRead s = (none, x)
  /-- Whoever reads it is told of its end at once, and whoever waits for it goes on. -/
  told : x.signals.isCancelled s.token = true → x.Feeds s → x.read? s = some (.ended, x) ∧
    ∀ n t, x.tasks[n]? = some t → t.status = .waiting (.receive s) →
      x.taskStep? n = some (x.respond n t .ended)
  /-- Whoever reads several subscriptions gets the items of those that go on. -/
  others : ∀ rest i x', x.readAny? s rest = some (.item i, x') →
    ∃ s' ∈ s :: rest, x.signals.isCancelled s'.token = false ∧ x.read? s' = some (.item i, x')
  /-- What is asked for below a cancelled token is cancelled, and nobody hears of it. -/
  refused : x.signals.isCancelled s.token = true → ∀ feed, ∃ token σ,
    x.openBelow feed s.token = (.error ⟨feed, 0, token, false⟩, { x with signals := σ }) ∧
    σ.isCancelled token = true
  /-- To drop it is to cancel it and to let go of its queue. -/
  dropped : (x.drop s).signals = x.signals.fire s.token ∧ x.Spares s (x.drop s)

/-- A subscription that is cancelled gives no item. -/
theorem read?_ne_item (cancelled : x.signals.isCancelled s.token = true) (i : Item) (x' : Site) :
    x.read? s ≠ some (.item i, x') := by
  intro read
  unfold read? at read
  split at read
  · split at read <;> cases read
    next happened =>
      obtain ⟨store, σ, store', -, acts, -⟩ := storeAct?_eq_some.1 happened
      simp [Store.act?, Store.read?_of_isCancelled cancelled] at acts
  · split at read <;> cases read
    next happened =>
      obtain ⟨c, c', -, acts, -⟩ := catalogAct?_eq_some.1 happened
      simp [Catalog.act?, Catalog.read?_of_isCancelled cancelled] at acts

/-- Whoever reads a subscription that is cancelled is told that it has ended. -/
theorem read?_of_isCancelled (cancelled : x.signals.isCancelled s.token = true)
    (feeds : x.Feeds s) : x.read? s = some (.ended, x) := by
  unfold Feeds at feeds
  unfold read?
  split
  next n feed =>
    rw [feed] at feeds
    obtain ⟨store, there⟩ := Option.isSome_iff_exists.1 feeds
    have told : x.storeAct? n (.read s.id s.token) = some (.delivered .ended, x) := by
      refine storeAct?_eq_some.2 ⟨store, x.signals, store, there, ?_, ?_⟩
      · simp [Store.act?, Store.read?_of_isCancelled cancelled]
      · rw [setIfInBounds_of_getElem? there]
    rw [told]
  next n feed =>
    rw [feed] at feeds
    obtain ⟨c, there⟩ := Option.isSome_iff_exists.1 feeds
    have told : x.catalogAct? n (.read s.id s.token) = some (.delivered .ended, x) := by
      refine catalogAct?_eq_some.2 ⟨c, c, there, ?_, ?_⟩
      · simp [Catalog.act?, Catalog.read?_of_isCancelled cancelled]
      · rw [setIfInBounds_of_getElem? there]
    rw [told]

theorem exists_read?_of_readAny? {rest : List Subscription} {i : Item}
    (got : x.readAny? s rest = some (.item i, x')) :
    ∃ s' ∈ s :: rest, x.read? s' = some (.item i, x') := by
  unfold readAny? at got
  split at got
  next read => exact ⟨s, List.mem_cons_self, read.trans got⟩
  next =>
    obtain ⟨s', member, picked⟩ := List.exists_of_findSome?_eq_some got
    refine ⟨s', List.mem_cons_of_mem _ member, ?_⟩
    split at picked <;> cases picked
    next read => exact read

theorem openBelow_of_isCancelled {feed : Feed} {parent : Token}
    (cancelled : x.signals.isCancelled parent = true) :
    x.openBelow feed parent = (.error ⟨feed, 0, (x.signals.child parent).1, false⟩,
        { x with signals := (x.signals.child parent).2 }) ∧
      (x.signals.child parent).2.isCancelled (x.signals.child parent).1 = true := by
  have below : (x.signals.child parent).2.isCancelled (x.signals.child parent).1 = true := by
    obtain ⟨n, member, fired⟩ := List.any_eq_true.1 cancelled
    exact List.any_eq_true.2 ⟨n, List.mem_cons_of_mem _ member, fired⟩
  exact ⟨if_pos below, below⟩

theorem spares_of_same (stores : x'.stores = x.stores) (catalogs : x'.catalogs = x.catalogs)
    (tasks : x'.tasks = x.tasks) : x.Spares s x' where
  stores _ store there := ⟨store, stores ▸ there, .of_roster rfl rfl rfl rfl rfl, rfl, rfl⟩
  catalogs _ c there := ⟨c, catalogs ▸ there, .of_roster rfl rfl rfl, rfl, rfl⟩
  tasks := tasks

/-- A reader that goes away changes its own queue and nothing else. -/
theorem storeAct_close (n id : Nat) : ∃ stores, x.storeAct n (.close id) = { x with stores } ∧
    ∀ m (store : Store), x.stores[m]? = some store →
      stores[m]? = some (if m = n then store.close id else store) := by
  unfold storeAct
  cases closes : x.storeAct? n (.close id) with
  | none =>
    refine ⟨x.stores, rfl, fun m store there => ?_⟩
    rw [if_neg, there]
    rintro rfl
    simp [storeAct?, there, Store.act?] at closes
  | some p =>
    obtain ⟨o, x'⟩ := p
    obtain ⟨store, σ, store', there, acts, rfl⟩ := storeAct?_eq_some.1 closes
    cases acts
    refine ⟨_, rfl, fun m other there' => ?_⟩
    by_cases same : m = n
    · subst same
      cases there.symm.trans there'
      rw [if_pos rfl, getElem?_setIfInBounds_of_getElem? there]
    · rw [if_neg same, Array.getElem?_setIfInBounds_ne (Ne.symm same), there']

theorem catalogAct_close (n id : Nat) : ∃ catalogs,
    x.catalogAct n (.close id) = { x with catalogs } ∧ ∀ m (c : Catalog), x.catalogs[m]? = some c →
      catalogs[m]? = some (if m = n then c.close id else c) := by
  unfold catalogAct
  cases closes : x.catalogAct? n (.close id) with
  | none =>
    refine ⟨x.catalogs, rfl, fun m c there => ?_⟩
    rw [if_neg, there]
    rintro rfl
    simp [catalogAct?, there, Catalog.act?] at closes
  | some p =>
    obtain ⟨o, x'⟩ := p
    obtain ⟨c, c', there, acts, rfl⟩ := catalogAct?_eq_some.1 closes
    cases acts
    refine ⟨_, rfl, fun m other there' => ?_⟩
    by_cases same : m = n
    · subst same
      cases there.symm.trans there'
      rw [if_pos rfl, getElem?_setIfInBounds_of_getElem? there]
    · rw [if_neg same, Array.getElem?_setIfInBounds_ne (Ne.symm same), there']

/-- Whoever drops a subscription spares everybody else. -/
theorem spares_drop (x : Site) (s : Subscription) :
    (x.drop s).signals = x.signals.fire s.token ∧ x.Spares s (x.drop s) := by
  unfold drop
  dsimp only
  split
  · split
    next n feed =>
      obtain ⟨stores, closes, parts⟩ := (x.fire s.token).storeAct_close n s.id
      rw [closes]
      refine ⟨rfl, fun m store there => ⟨_, parts m store there, ?_⟩,
        fun m c there => ⟨c, there, .of_roster rfl rfl rfl, rfl, rfl⟩, rfl⟩
      split
      next same =>
        subst same
        exact ⟨(store.spares_close s.id).mono fun id own => ⟨feed, own⟩, rfl, rfl⟩
      next => exact ⟨.of_roster rfl rfl rfl rfl rfl, rfl, rfl⟩
    next n feed =>
      obtain ⟨catalogs, closes, parts⟩ := (x.fire s.token).catalogAct_close n s.id
      rw [closes]
      refine ⟨rfl, fun m store there => ⟨store, there, .of_roster rfl rfl rfl rfl rfl, rfl, rfl⟩,
        fun m c there => ⟨_, parts m c there, ?_⟩, rfl⟩
      split
      next same =>
        subst same
        exact ⟨(c.spares_close s.id).mono fun id own => ⟨feed, own⟩, rfl, rfl⟩
      next => exact ⟨.of_roster rfl rfl rfl, rfl, rfl⟩
  · exact ⟨rfl, spares_of_same rfl rfl rfl⟩

theorem endsAlone (x : Site) (s : Subscription) : x.EndsAlone s where
  silent cancelled := by
    refine ⟨read?_ne_item cancelled, ?_⟩
    unfold tryRead
    split
    next read => exact absurd read (read?_ne_item cancelled _ _)
    · rfl
  told cancelled feeds := by
    have read := read?_of_isCancelled cancelled feeds
    refine ⟨read, fun n t there waits => ?_⟩
    simp [taskStep?, there, waits, read]
  others rest i x' got := by
    obtain ⟨s', member, read⟩ := exists_read?_of_readAny? got
    refine ⟨s', member, ?_, read⟩
    by_contra cancelled
    exact read?_ne_item (by simpa using cancelled) _ _ read
  refused cancelled feed := ⟨_, _, openBelow_of_isCancelled cancelled⟩
  dropped := x.spares_drop s

end Site

/-- Subscriptions of stores and catalogs end for good and alone, in every run. -/
theorem cancellation_final_and_local :
    (∀ (config : StoreConfig) (tr : Store.Trace) (σ : Signals) (s : Store),
      Store.Run config tr σ s → Store.EndsAlone tr σ s) ∧
    (∀ (config : CatalogConfig) (tr : Catalog.Trace) (σ : Signals) (c : Catalog),
      Catalog.Run config tr σ c → Catalog.EndsAlone tr σ c) ∧
    (∀ (σ : Signals) (parent : Token), σ.Knows parent → σ.EndsAlone parent) ∧
    ∀ (x : Site) (s : Subscription), x.EndsAlone s :=
  ⟨fun _ _ _ _ run => run.endsAlone, fun _ _ _ _ run => run.endsAlone,
    fun _ _ known => known.endsAlone, Site.endsAlone⟩

namespace Store

/-- Of two readers the first reads nothing, and the delivery of a second update waits for it. -/
def waitForFirst : List Event :=
  subscribeTwo ++ delivering (serial "A1") ++ [.act (.owner .deliver), .act (.read 2 ⟨[1]⟩),
    .act (.fill 1 (serial "A2")), .act (.resolve 1), .act (.owner .takeValue),
    .act (.owner .deliver)]

/-- The delivery passes over the first reader. -/
def goOn : List Event :=
  [.act (.owner .giveUp), .act (.owner .deliver), .act (.owner .deliver)]

end Store

namespace Catalog

/-- Of two readers the first reads nothing, and the announcement of a second register waits for
it. -/
def waitForFirst : List Event :=
  subscribing ++ .act (.resolve 1) :: (adding ++ .act (.proceed 2) :: (announcing ++
    .act (.proceed 2) :: [.act (.proceed 2)]))

/-- The announcement passes over the first reader. -/
def goOn : List Event :=
  [.act (.giveUp 2), .act (.proceed 2), .act (.proceed 2)]

end Catalog

/-- The second reader gets what waited for the first, once the first is cancelled. -/
theorem second_gets_what_waited :
    (∃ before st later σ s, Store.Run { subscriberCapacity := 1 } (before ++ st :: later) σ s ∧
      st.event = .fire ⟨[0]⟩ ∧
      (Store.delivery? st.store.activity).map Delivery.blocked = some true ∧
      s.roster.queued 2 = [Store.serial "A2"] ∧ Store.EndsAlone (before ++ st :: later) σ s) ∧
    (∃ before st later σ c, Catalog.Run { subscriberCapacity := 1 } (before ++ st :: later) σ c ∧
      st.event = .fire ⟨[0]⟩ ∧ st.catalog.desk.delivery.map Delivery.blocked = some true ∧
      c.roster.queued 1 = [Catalog.current] ∧ Catalog.EndsAlone (before ++ st :: later) σ c) ∧
    ((Signals.root {}).2.Knows (Signals.root {}).1 ∧
      (Signals.root {}).2.EndsAlone (Signals.root {}).1) ∧
    Site.EndsAlone {} ⟨.store 0, 0, ⟨[0]⟩, true⟩ := by
  refine ⟨?_, ?_, ?_, cancellation_final_and_local.2.2.2 _ _⟩
  · have ends : (Store.play? Store.waitForFirst (Store.fresh { subscriberCapacity := 1 })).bind
        (fun now => (Store.play? (.fire ⟨[0]⟩ :: Store.goOn) now).map fun now' =>
          ((Store.delivery? now.2.2.activity).map Delivery.blocked,
            now'.2.2.roster.queued 2)) = some (some true, [Store.serial "A2"]) := rfl
    obtain ⟨⟨before, σ, s⟩, waits, ends⟩ := Option.bind_eq_some_iff.1 ends
    obtain ⟨⟨tr, σ', s'⟩, played, ends⟩ := Option.map_eq_some_iff.1 ends
    obtain ⟨blocked, queued⟩ := Prod.mk.inj ends
    have run := (Store.Run.of_play? (by decide) waits).play played
    have after : Store.play? Store.goOn (before ++ [⟨σ, s, .fire ⟨[0]⟩, .nothing, s⟩],
        σ.fire ⟨[0]⟩, s) = some (tr, σ', s') := played
    obtain ⟨later, trace, -⟩ := Store.events_of_play? after
    obtain rfl : tr = before ++ _ :: later := trace.trans (List.append_assoc ..)
    exact ⟨before, _, later, σ', s', run, rfl, blocked, queued,
      cancellation_final_and_local.1 _ _ _ _ run⟩
  · have ends : (Catalog.play? Catalog.waitForFirst (Catalog.fresh { subscriberCapacity := 1 })).bind
        (fun now => (Catalog.play? (.fire ⟨[0]⟩ :: Catalog.goOn) now).map fun now' =>
          (now.2.2.desk.delivery.map Delivery.blocked, now'.2.2.roster.queued 1)) =
        some (some true, [Catalog.current]) := by
      rw [Catalog.play?_fresh]
      decide +kernel
    obtain ⟨⟨before, σ, c⟩, waits, ends⟩ := Option.bind_eq_some_iff.1 ends
    obtain ⟨⟨tr, σ', c'⟩, played, ends⟩ := Option.map_eq_some_iff.1 ends
    obtain ⟨blocked, queued⟩ := Prod.mk.inj ends
    obtain ⟨run, -⟩ := (Catalog.Run.of_play? waits).play played
    have after : Catalog.play? Catalog.goOn (before ++ [⟨σ, c, .fire ⟨[0]⟩, .nothing, c⟩],
        σ.fire ⟨[0]⟩, c) = some (tr, σ', c') := played
    obtain ⟨later, trace, -⟩ := Catalog.events_of_play? after
    obtain rfl : tr = before ++ _ :: later := trace.trans (List.append_assoc ..)
    exact ⟨before, _, later, σ', c', run, rfl, blocked, queued,
      cancellation_final_and_local.2.1 _ _ _ _ run⟩
  · have known := Signals.knows_root {}
    exact ⟨known, cancellation_final_and_local.2.2.1 _ _ known⟩

end Telemetry
