import Telemetry.Proofs.Catalog.Delivery
import Telemetry.Proofs.Desk.Listing

/-!
# Who is on the list of a catalog

Somebody waits for the end of each subscription on the list of a catalog, or stands in line to
strike it off. So when nobody can go on and nobody holds the lock, whoever is on the list goes on.

## Main definitions

* `Event.Orderly`: what is assumed of readers and clients.
* `Stalled`: nobody can go on.
* `Tended`: subscribers are watched, and the line fits the list.
* `Lists`: the list of a catalog holds the subscriptions that go on.

## Main results

* `Run.lists`: so it does after every run.
-/

namespace Telemetry.Catalog

open scoped List

/-- A reader goes away with its subscription, whose signal fires first, and clients do not strike
anybody off. Of everything else nothing is assumed. -/
def Event.Orderly (σ : Signals) (c : Catalog) : Event → Prop
  | act (.close id) =>
    ∀ sub ∈ c.roster.subscribers, sub.id = id → σ.isCancelled sub.token = true
  | act (.ask _ (.unsubscribe _)) => False
  | _ => True

instance (σ : Signals) (c : Catalog) (e : Event) : Decidable (e.Orderly σ c) :=
  match e with
  | .act (.close id) =>
    inferInstanceAs (Decidable (∀ sub ∈ c.roster.subscribers, sub.id = id → _))
  | .act (.ask _ (.unsubscribe _)) => isFalse id
  | .act (.ask _ (.look _)) | .act (.ask _ (.add _)) | .act (.ask _ (.subscribe _ _))
  | .act (.begin _) | .act (.proceed _) | .act (.giveUp _) | .act (.resolve _) | .act (.abandon _)
  | .act (.wake _) | .act (.strike _) | .act (.read _ _) | .act .retain | .act .release
  | .fire _ => isTrue trivial

/-- All that happened was orderly. -/
def Trace.Orderly (tr : Trace) : Prop :=
  ∀ st ∈ tr, st.event.Orderly st.signals st.catalog

instance (tr : Trace) : Decidable tr.Orderly :=
  inferInstanceAs (Decidable (∀ st ∈ tr, st.event.Orderly st.signals st.catalog))

/-- Steps in which somebody goes on with what is under way. -/
def Action.isDue : Action → Bool
  | .begin _ | .proceed _ | .giveUp _ | .resolve _ | .wake _ | .strike _ => true
  | _ => false

/-- Nobody can go on. -/
def Stalled (σ : Signals) (c : Catalog) : Prop :=
  ∀ a : Action, a.isDue = true → c.act? σ a = none

/-- Each subscriber on the list is watched, or is about to be struck off, and the reader of one that
goes on is there. Whoever stands in line to strike somebody off waited for the end of its
subscription. Nobody is on a list that nobody holds. -/
structure Tended (σ : Signals) (c : Catalog) : Prop where
  watched : ∀ sub ∈ c.roster.subscribers,
    (sub.id, sub.token) ∈ c.watchers ∨ (.watcher sub.id, .unsubscribe sub.id) ∈ c.line
  reader : ∀ sub ∈ c.roster.subscribers, c.roster.isClosed sub.id = true →
    σ.isCancelled sub.token = true
  watchers : ∀ id access, (.watcher id, access) ∈ c.line → access = .unsubscribe id
  clients : ∀ client id, (.client client, .unsubscribe id) ∉ c.line
  nobody : c.isForgotten = true → c.roster.subscribers = []

theorem Trace.Orderly.of_snoc {tr : Trace} {st : Step} (orderly : Trace.Orderly (tr ++ [st])) :
    tr.Orderly ∧ st.event.Orderly st.signals st.catalog :=
  ⟨fun st' member => orderly st' (List.mem_append_left _ member), orderly st (by simp)⟩

section Steps

variable {σ σ' : Signals} {c c' : Catalog} {e : Event} {o : Output} {sub : Subscriber Register}

/-- Of a catalog that is forgotten, only the list is lost. -/
theorem mem_of_forget (on : sub ∈ c.forget.roster.subscribers) : sub ∈ c.roster.subscribers := by
  unfold forget at on
  split at on
  · cases on
  · exact on

theorem isClosed_forget (id : Nat) : c.forget.roster.isClosed id = c.roster.isClosed id := by
  unfold forget
  split
  · exact Roster.isClosed_clear ..
  · rfl

theorem isForgotten_forget (c : Catalog) : c.forget.isForgotten = c.isForgotten := by
  obtain ⟨roster, frame⟩ := c.forget_frame
  rw [frame]
  rfl

theorem subscribers_of_forget (forgotten : c.forget.isForgotten = true) :
    c.forget.roster.subscribers = [] := by
  rw [isForgotten_forget] at forgotten
  rw [forget, if_pos forgotten]
  rfl

/-- Only a subscription that is granted puts somebody on the list. -/
theorem Change.newcomer (h : Change σ c e σ' c' o) (fresh : c.roster.outbox? c.roster.nextId = none)
    (on : sub ∈ c'.roster.subscribers) (new : sub ∉ c.roster.subscribers) :
    (sub.id, sub.token) ∈ c'.watchers ∧ c'.roster.isClosed sub.id = false := by
  cases h with
  | @grant client filter token =>
    rcases List.mem_append.1 on with old | last
    · exact absurd old new
    · obtain rfl := List.mem_singleton.1 last
      refine ⟨List.mem_append_right _ (List.mem_singleton.2 rfl), ?_⟩
      rw [Roster.isClosed_enroll]
      simp [Roster.isClosed, fresh]
  | @announce client r =>
    obtain ⟨registers, index, frame⟩ := c.put_frame r
    rw [frame] at on
    exact absurd on new
  | deliver holder served =>
    obtain ⟨first, rest, due⟩ := Roster.first_of_serve? served
    exact absurd ((Desk.Turn.rest (Roster.turn_of_serve? due served)).1 ▸ on) new
  | finish => exact absurd (Roster.mem_remove.1 on).1 new
  | strike => exact absurd (Roster.mem_remove.1 (mem_of_forget on)).1 new
  | release => exact absurd (mem_of_forget on) new
  | read id token live item =>
    obtain ⟨b, rest, -, -, rfl⟩ := Roster.read?_eq_some item
    exact absurd on new
  | _ => exact absurd on new

/-- Whoever is watched or about to be struck off stays so until it is. -/
theorem Change.watched (h : Change σ c e σ' c' o) (tended : c.Tended σ)
    (old : sub ∈ c.roster.subscribers) (on : sub ∈ c'.roster.subscribers) :
    (sub.id, sub.token) ∈ c'.watchers ∨ (.watcher sub.id, .unsubscribe sub.id) ∈ c'.line := by
  have watched := tended.watched sub old
  cases h with
  | ask => exact watched.imp_right (List.mem_append_left _)
  | begin | look | refuse | abandon =>
    exact watched.imp_right fun waits => List.mem_filter.2 ⟨waits, by simp⟩
  | grant =>
    exact watched.imp (List.mem_append_left _) fun waits => List.mem_filter.2 ⟨waits, by simp⟩
  | @announce client r =>
    obtain ⟨registers, index, frame⟩ := c.put_frame r
    rw [frame]
    exact watched
  | @wake id =>
    rcases watched with watched | waits
    · by_cases same : sub.id = id
      · exact .inr (by simp [join, same])
      · exact .inl (List.mem_filter.2 ⟨watched, by simpa using same⟩)
    · exact .inr (List.mem_append_left _ waits)
  | sleep forgotten =>
    rw [tended.nobody forgotten] at old
    cases old
  | @strike watcher id granted =>
    have other : sub.id ≠ id := by
      simpa using (Roster.mem_remove.1 (mem_of_forget on)).2
    rw [watchers_forget, line_forget]
    exact watched.imp_right fun waits => List.mem_filter.2 ⟨waits, by simpa using other⟩
  | release =>
    rw [watchers_forget, line_forget]
    exact watched
  | _ => exact watched

/-- A reader that is gone was gone before, or its subscription is cancelled. -/
theorem Change.opened (h : Change σ c e σ' c' o) (orderly : e.Orderly σ c)
    (old : sub ∈ c.roster.subscribers) (closed : c'.roster.isClosed sub.id = true) :
    c.roster.isClosed sub.id = true ∨ σ.isCancelled sub.token = true := by
  cases h with
  | grant => exact .inl (by rwa [Roster.isClosed_enroll] at closed)
  | @announce client r =>
    obtain ⟨registers, index, frame⟩ := c.put_frame r
    rw [frame] at closed
    exact .inl closed
  | deliver holder served =>
    obtain ⟨first, rest, due⟩ := Roster.first_of_serve? served
    exact .inl ((Roster.turn_of_serve? due served).isClosed ▸ closed)
  | finish => exact .inl (by simpa using closed)
  | strike => exact .inl (by simpa [isClosed_forget] using closed)
  | release => exact .inl (by rwa [isClosed_forget] at closed)
  | read id token live item => exact .inl (Roster.isClosed_read item sub.id ▸ closed)
  | close id =>
    rcases Roster.isClosed_of_close closed with same | before
    · exact .inr (orderly sub old same)
    · exact .inl before
  | _ => exact .inl closed

/-- Whoever stands in line stood there before, or is a client that asks, or waited for the end of a
subscription. -/
theorem Change.line (h : Change σ c e σ' c' o) {party : Party} {access : Access}
    (waits : (party, access) ∈ c'.line) :
    (party, access) ∈ c.line ∨
      (∃ client, party = .client client ∧ e = .act (.ask client access)) ∨
      ∃ id, party = .watcher id ∧ access = .unsubscribe id := by
  cases h with
  | ask client =>
    rcases List.mem_append.1 waits with before | last
    · exact .inl before
    · cases List.mem_singleton.1 last
      exact .inr (.inl ⟨client, rfl, rfl⟩)
  | begin | look | grant | refuse | abandon => exact .inl (List.mem_of_mem_filter waits)
  | @announce client r =>
    obtain ⟨registers, index, frame⟩ := c.put_frame r
    rw [frame] at waits
    exact .inl waits
  | @wake id =>
    rcases List.mem_append.1 waits with before | last
    · exact .inl before
    · cases List.mem_singleton.1 last
      exact .inr (.inr ⟨id, rfl, rfl⟩)
  | strike =>
    rw [line_forget] at waits
    exact .inl (List.mem_of_mem_filter waits)
  | release =>
    rw [line_forget] at waits
    exact .inl waits
  | _ => exact .inl waits

/-- Nobody is on the list of a catalog that nobody holds. -/
theorem Change.nobody (h : Change σ c e σ' c' o) (permitted : e.Permitted c) (held : c.Held)
    (nobody : c.isForgotten = true → c.roster.subscribers = [])
    (forgotten : c'.isForgotten = true) : c'.roster.subscribers = [] := by
  have not_held : ¬ 0 < c'.handles := fun some_handle =>
    absurd (forgotten.symm.trans (isForgotten_of_held some_handle)) (by simp)
  cases h with
  | ask => simp [isForgotten, join] at forgotten
  | begin _ granted | look _ granted | grant _ granted | refuse _ granted =>
    exact absurd (held (isBusy_of_line (granted?_eq_some granted).2)) not_held
  | pass holder | deliver holder | finish holder | giveUp holder | done holder =>
    exact absurd (held (isBusy_of_holder holder)) not_held
  | @announce client r left holder =>
    obtain ⟨registers, index, frame⟩ := c.put_frame r
    rw [frame] at not_held
    exact absurd (held (isBusy_of_holder holder)) not_held
  | abandon client => exact nobody ((isForgotten_abandon held client).symm.trans forgotten)
  | wake => simp [isForgotten, join] at forgotten
  | strike | release => exact subscribers_of_forget forgotten
  | retain => exact absurd (Nat.succ_pos _) not_held
  | read id token live item =>
    obtain ⟨b, rest, -, -, rfl⟩ := Roster.read?_eq_some item
    exact nobody forgotten
  | _ => exact nobody forgotten

theorem Change.tended (h : Change σ c e σ' c' o) (permitted : e.Permitted c) (held : c.Held)
    (fresh : c.roster.outbox? c.roster.nextId = none) (orderly : e.Orderly σ c)
    (tended : c.Tended σ) : c'.Tended σ' where
  watched sub on := by
    by_cases old : sub ∈ c.roster.subscribers
    · exact h.watched tended old on
    · exact .inl (h.newcomer fresh on old).1
  reader sub on closed := by
    by_cases old : sub ∈ c.roster.subscribers
    · refine h.grows _ ?_
      rcases h.opened orderly old closed with before | cancelled
      · exact tended.reader sub old before
      · exact cancelled
    · exact absurd ((h.newcomer fresh on old).2.symm.trans closed) (by simp)
  watchers id access waits := by
    rcases h.line waits with before | ⟨client, other, -⟩ | ⟨id', same, is⟩
    · exact tended.watchers id access before
    · cases other
    · cases same
      exact is
  clients client id waits := by
    rcases h.line waits with before | ⟨client', same, asked⟩ | ⟨id', other, -⟩
    · exact tended.clients client id before
    · subst asked
      exact orderly
    · cases other
  nobody := h.nobody permitted held tended.nobody

end Steps

section Runs

variable {config : CatalogConfig} {tr : Trace} {σ : Signals} {c : Catalog}
  {sub : Subscriber Register}

theorem Run.tended (run : Run config tr σ c) (orderly : tr.Orderly) : c.Tended σ := by
  induction run with
  | start σ => constructor <;> simp [ofConfig]
  | @step tr σ σ' c c' o run e permitted happened ih =>
    obtain ⟨before, last⟩ := orderly.of_snoc
    exact (change_of_effect happened).tended permitted run.held run.desk.registered.fresh last
      (ih before)

/-- Whoever holds the lock and announces nothing goes on. -/
theorem Stalled.free (stalled : Stalled σ c) (idle : c.desk.delivery = none) : c.holder = none := by
  cases holder : c.holder with
  | none => rfl
  | some a =>
    obtain ⟨client, left, delivery⟩ := a
    obtain rfl : delivery = none := by simpa [Catalog.desk, holder] using idle
    cases left with
    | nil =>
      have resolves : c.resolve? client = none :=
        Option.map_eq_none_iff.1 (stalled (.resolve client) rfl)
      simp [resolve?, granted?, holder] at resolves
    | cons r left =>
      have proceeds : c.proceed? σ client = none :=
        Option.map_eq_none_iff.1 (stalled (.proceed client) rfl)
      simp [proceed?, holder] at proceeds

/-- When nobody can go on and nobody holds the lock, nobody waits for it: the first in line would be
granted it. -/
theorem Stalled.line_eq_nil (stalled : Stalled σ c) (tended : c.Tended σ) (free : c.holder = none) :
    c.line = [] := by
  cases line : c.line with
  | nil => rfl
  | cons first rest =>
    obtain ⟨party, access⟩ := first
    have granted : c.granted? party = some access := by simp [granted?, free, line]
    cases party with
    | client n =>
      have begins : c.begin? n = none := Option.map_eq_none_iff.1 (stalled (.begin n) rfl)
      have resolves : c.resolve? n = none := Option.map_eq_none_iff.1 (stalled (.resolve n) rfl)
      cases access with
      | look | subscribe => simp [resolve?, granted] at resolves
      | add => simp [begin?, granted] at begins
      | unsubscribe id => exact absurd (line ▸ List.mem_cons_self) (tended.clients n id)
    | watcher id =>
      obtain rfl := tended.watchers id access (line ▸ List.mem_cons_self)
      have strikes : c.strike? id = none := Option.map_eq_none_iff.1 (stalled (.strike id) rfl)
      simp [strike?, granted] at strikes

/-- Nobody can go on if nobody has the lock or waits for it and all subscriptions go on. -/
theorem stalled_of_rest (free : c.holder = none) (line : c.line = [])
    (live : ∀ w ∈ c.watchers, σ.isCancelled w.2 = false) : Stalled σ c := by
  have ungranted (party : Party) : c.granted? party = none := by simp [granted?, free, line]
  intro a due
  cases a with
  | begin client => simp [act?, begin?, ungranted]
  | proceed client => simp [act?, proceed?, free]
  | giveUp client => simp [act?, giveUp?, free]
  | resolve client => simp [act?, resolve?, ungranted, free]
  | wake id =>
    have sleeps : c.wake? σ id = none := by
      unfold wake?
      split
      · rfl
      next w token found => simp [live _ (List.mem_of_find?_eq_some found)]
    simp [act?, sleeps]
  | strike id => simp [act?, strike?, ungranted]
  | _ => cases due

/-- When nobody can go on and nobody holds the lock, whoever is on the list goes on. -/
theorem Run.live_of_stalled (run : Run config tr σ c) (orderly : tr.Orderly)
    (stalled : Stalled σ c) (free : c.holder = none) (on : sub ∈ c.roster.subscribers) :
    σ.isCancelled sub.token = false ∧ c.roster.isClosed sub.id = false := by
  have tended := run.tended orderly
  have watched : (sub.id, sub.token) ∈ c.watchers := by
    simpa [stalled.line_eq_nil tended free] using tended.watched sub on
  have sleeps : c.wake? σ sub.id = none := Option.map_eq_none_iff.1 (stalled (.wake sub.id) rfl)
  have live : σ.isCancelled sub.token = false := by
    unfold wake? at sleeps
    split at sleeps
    next missing => simpa using List.find?_eq_none.1 missing _ watched
    next id token found =>
      obtain rfl : id = sub.id := by simpa using List.find?_some found
      obtain rfl := (run.watching.tokens _ _ (List.mem_of_find?_eq_some found)).2 sub on rfl
      by_contra cancelled
      simp only [show σ.isCancelled sub.token = true by simpa using cancelled, if_true] at sleeps
      split at sleeps <;> cases sleeps
  refine ⟨live, ?_⟩
  by_contra closed
  rw [Bool.not_eq_false] at closed
  exact absurd (live.symm.trans (tended.reader sub on closed)) (by simp)

/-- The list of a catalog holds the subscriptions that go on. It is in order and changes only as it
may. When nobody can go on and no announcement is under way, nobody else is on it. A catalog that
nobody holds has no list. -/
structure Lists (tr : Trace) (σ : Signals) (c : Catalog) : Prop where
  listed : Desk.Listed tr.history c.roster
  moves : ∀ (before : Trace) st later, tr = before ++ st :: later →
    Desk.Moves st.signals st.catalog.roster st.next.roster st.next.isForgotten
  there : c.isForgotten = false → ∀ p ∈ Desk.grants tr.history, Desk.Live σ c.desk p.1 →
    p.1.subscriber ∈ c.roster.subscribers
  settled : Stalled σ c → c.desk.delivery = none → c.isForgotten = false →
    ∀ p ∈ Desk.grants tr.history,
      p.1.subscriber ∈ c.roster.subscribers ↔ Desk.Live σ c.desk p.1
  forgotten : c.isForgotten = true → c.roster.subscribers = []

theorem Run.moves {before later : Trace} {st : Step}
    (run : Run config (before ++ st :: later) σ c) :
    Desk.Moves st.signals st.catalog.roster st.next.roster st.next.isForgotten := by
  rw [List.append_cons] at run
  obtain ⟨σ', c', run⟩ := run.of_append
  obtain ⟨earlier, permitted, happened, rfl⟩ := run.last
  have act := (change_of_effect happened).desk permitted earlier.held earlier.watching
  rw [earlier.config_eq] at act
  exact act.moves earlier.desk.registered earlier.desk.attended

theorem Run.lists (run : Run config tr σ c) (orderly : tr.Orderly) : Lists tr σ c where
  listed := run.desk.registered.listed
  moves before st later same := (same ▸ run).moves
  there := run.desk.attended.there
  settled stalled idle going p granted := by
    constructor
    · intro on
      obtain ⟨live, reader⟩ := run.live_of_stalled orderly stalled (stalled.free idle) on
      exact ⟨live, reader⟩
    · exact run.desk.attended.there going p granted
  forgotten := (run.tended orderly).nobody

end Runs

end Telemetry.Catalog
