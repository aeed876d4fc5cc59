import Telemetry.Catalog
import Telemetry.Proofs.Roster

/-!
# Runs of a catalog

A run is a sequence of events at a catalog: steps of its clients, its readers and those who wait for
the end of a subscription, in any order, and signals that are fired. A client may give up at any
moment what it has under way, whether it waits for the lock or holds it.

Whoever has something under way holds the catalog meanwhile, so the last handle is given up only
when no client does. Nothing else is assumed.

## Main definitions

* `Catalog.Event`, `Catalog.Step`, `Catalog.Run`: what happens, and what happened.
* `Catalog.Change`: all that an event can do to a catalog, one case for each way in which it can go.
-/

namespace Telemetry.Catalog

/-- What happens at a catalog: somebody takes a step, or a signal is fired. -/
inductive Event
  | act (a : Action)
  | fire (t : Token)

/-- The effect of an event, if it can happen. -/
def Event.effect? (σ : Signals) (c : Catalog) : Event → Option (Signals × Catalog × Output)
  | act a => (c.act? σ a).map fun (c, o) => (σ, c, o)
  | fire t => some (σ.fire t, c, .nothing)

/-- An event, the situation in which it happened, and what came of it. -/
structure Step where
  signals : Signals
  catalog : Catalog
  event : Event
  output : Output
  next : Catalog

/-- All that happened, in order. -/
abbrev Trace := List Step

/-- A client holds the lock or waits for it. -/
def isBusy (c : Catalog) : Bool :=
  c.holder.isSome || c.line.any fun w =>
    match w.1 with
    | .client _ => true
    | .watcher _ => false

/-- Only a catalog that somebody holds is used, and it is held as long as a client has something
under way. -/
def Event.Permitted (c : Catalog) : Event → Prop
  | act (.ask _ _) | act .retain => 0 < c.handles
  | act .release => 1 < c.handles ∨ c.isBusy = false
  | _ => True

instance (c : Catalog) (e : Event) : Decidable (e.Permitted c) :=
  match e with
  | .act (.ask _ _) | .act .retain => inferInstanceAs (Decidable (0 < c.handles))
  | .act .release => inferInstanceAs (Decidable (1 < c.handles ∨ c.isBusy = false))
  | .act (.begin _) | .act (.proceed _) | .act (.giveUp _) | .act (.resolve _) | .act (.abandon _)
  | .act (.wake _) | .act (.strike _) | .act (.read _ _) | .act (.close _)
  | .fire _ => isTrue trivial

/-- The runs of a catalog under some settings, with the signals and the catalog as they are at the
end. -/
inductive Run (config : CatalogConfig) : Trace → Signals → Catalog → Prop
  | start (σ : Signals) : Run config [] σ (ofConfig config)
  | step {tr : Trace} {σ σ' : Signals} {c c' : Catalog} {o : Output} (run : Run config tr σ c)
      (e : Event) (permitted : e.Permitted c) (happened : e.effect? σ c = some (σ', c', o)) :
      Run config (tr ++ [⟨σ, c, e, o, c'⟩]) σ' c'

/-! ## Parts of a run -/

section Parts

variable {config : CatalogConfig} {tr later : Trace} {st : Step} {σ : Signals} {c : Catalog}

theorem Run.last (run : Run config (tr ++ [st]) σ c) :
    Run config tr st.signals st.catalog ∧ st.event.Permitted st.catalog ∧
      st.event.effect? st.signals st.catalog = some (σ, c, st.output) ∧ st.next = c := by
  generalize h : tr ++ [st] = l at run
  cases run with
  | start => simp at h
  | step run e permitted happened =>
    obtain ⟨rfl, rfl⟩ := List.append_inj' h rfl |>.imp id List.singleton_inj.1
    exact ⟨run, permitted, happened, rfl⟩

/-- What happened up to some moment is a run. -/
theorem Run.of_append (run : Run config (tr ++ later) σ c) : ∃ σ' c', Run config tr σ' c' := by
  induction later using List.reverseRecOn generalizing σ c with
  | nil => exact ⟨σ, c, by simpa using run⟩
  | append_singleton later st ih =>
    rw [← List.append_assoc] at run
    exact ih run.last.1

/-- A run seen from one of its steps. -/
theorem Run.at_step (run : Run config (tr ++ st :: later) σ c) :
    ∃ σ', Run config tr st.signals st.catalog ∧
      st.event.effect? st.signals st.catalog = some (σ', st.next, st.output) := by
  rw [List.append_cons] at run
  obtain ⟨σ', c', run⟩ := run.of_append
  obtain ⟨before, -, happened, rfl⟩ := run.last
  exact ⟨σ', before, happened⟩

end Parts

/-! ## Given events -/

/-- Lets events happen one after the other, if they can. -/
def play? : List Event → Trace × Signals × Catalog → Option (Trace × Signals × Catalog)
  | [], now => some now
  | e :: rest, (tr, σ, c) =>
    if e.Permitted c then
      (e.effect? σ c).bind fun (σ', c', o) => play? rest (tr ++ [⟨σ, c, e, o, c'⟩], σ', c')
    else none

/-- A new catalog, to which nothing has happened. -/
def fresh (config : CatalogConfig) : Trace × Signals × Catalog :=
  ([], {}, ofConfig config)

section Playing

variable {config : CatalogConfig} {events more : List Event} {now now' : Trace × Signals × Catalog}

theorem play?_append (events more : List Event) (now : Trace × Signals × Catalog) :
    play? (events ++ more) now = (play? events now).bind (play? more) := by
  induction events generalizing now with
  | nil => rfl
  | cons e rest ih =>
    obtain ⟨tr, σ, c⟩ := now
    simp only [List.cons_append, play?]
    split
    · cases e.effect? σ c with
      | none => rfl
      | some p => exact ih _
    · rfl

theorem Run.play (run : Run config now.1 now.2.1 now.2.2) (played : play? events now = some now') :
    Run config now'.1 now'.2.1 now'.2.2 ∧ ∃ later, now'.1 = now.1 ++ later := by
  induction events generalizing now with
  | nil =>
    cases played
    exact ⟨run, [], (List.append_nil _).symm⟩
  | cons e rest ih =>
    obtain ⟨tr, σ, c⟩ := now
    unfold play? at played
    split at played
    next permitted =>
      obtain ⟨⟨σ', c', o⟩, happened, played⟩ := Option.bind_eq_some_iff.1 played
      obtain ⟨run, later, trace⟩ := ih (run.step e permitted happened) played
      exact ⟨run, ⟨σ, c, e, o, c'⟩ :: later, by simpa using trace⟩
    · cases played

theorem Run.of_play? (played : play? events (fresh config) = some now) :
    Run config now.1 now.2.1 now.2.2 := by
  have begun : Run config (fresh config).1 (fresh config).2.1 (fresh config).2.2 := .start {}
  exact (begun.play played).1

theorem events_of_play? (played : play? events now = some now') :
    ∃ more, now'.1 = now.1 ++ more ∧ more.map Step.event = events := by
  induction events generalizing now with
  | nil =>
    cases played
    exact ⟨[], (List.append_nil _).symm, rfl⟩
  | cons e rest ih =>
    obtain ⟨tr, σ, c⟩ := now
    unfold play? at played
    split at played
    · obtain ⟨⟨σ', c', o⟩, -, played⟩ := Option.bind_eq_some_iff.1 played
      obtain ⟨more, trace, events⟩ := ih played
      exact ⟨⟨σ, c, e, o, c'⟩ :: more, by simpa using trace, by simp [events]⟩
    · cases played

/-- The step at which one of some given events happens. -/
theorem exists_step_of_play? {e : Event} (played : play? (events ++ e :: more) now = some now') :
    ∃ before st later, now'.1 = before ++ st :: later ∧ st.event = e ∧
      play? events now = some (before, st.signals, st.catalog) := by
  rw [play?_append] at played
  obtain ⟨⟨before, σ, c⟩, begun, played⟩ := Option.bind_eq_some_iff.1 played
  unfold play? at played
  split at played
  · obtain ⟨⟨σ', c', o⟩, -, played⟩ := Option.bind_eq_some_iff.1 played
    obtain ⟨later, trace, -⟩ := events_of_play? played
    exact ⟨before, ⟨σ, c, e, o, c'⟩, later, by simpa using trace, rfl, begun⟩
  · cases played

end Playing

/-! ## What an event can do -/

section Holding

variable {c : Catalog} {party : Party} {access : Access}

/-- Whoever is granted the lock stood in line for it, and nobody held it. -/
theorem granted?_eq_some (h : c.granted? party = some access) :
    c.holder = none ∧ (party, access) ∈ c.line := by
  unfold granted? at h
  split at h
  · cases h
  next free =>
    refine ⟨by simpa using free, ?_⟩
    rw [List.span_eq_takeWhile_dropWhile] at h
    split at h
    next ahead first wish rest split =>
      have found : c.line.dropWhile (fun w => w.1 != party) = (first, wish) :: rest :=
        (Prod.mk.inj split).2
      have turn := List.head?_dropWhile_not (fun w => w.1 != party) c.line
      rw [found] at turn
      have same : first = party := by simpa using turn
      have member : (first, wish) ∈ c.line :=
        (List.dropWhile_sublist _).subset (by rw [found]; exact List.mem_cons_self)
      split at h <;> cases h
      exact same ▸ member
    · cases h

/-- Putting a register into a catalog changes nothing but the registers and their index. -/
theorem put_frame (r : Register) (c : Catalog) :
    ∃ registers index, (c.put r).2 = { c with registers, index } := by
  unfold put
  split
  · split <;> exact ⟨_, _, rfl⟩
  · exact ⟨_, _, rfl⟩

/-- What a catalog has under the name of a register is that register, or the register is news. -/
theorem put_fst (r : Register) (c : Catalog) :
    (c.put r).1 = decide (c.named? r.name ≠ some r) := by
  unfold put named?
  split
  next place there =>
    rw [there]
    split <;> simp_all
  next missing => simp [missing]

/-- A catalog stays as it is when a register is put that is no news. -/
theorem put_of_named? {r : Register} (known : c.named? r.name = some r) : c.put r = (false, c) := by
  unfold named? at known
  unfold put
  split
  next place there =>
    rw [there] at known
    exact if_pos known
  next missing =>
    rw [missing] at known
    cases known

end Holding

def unwatch (id : Nat) (c : Catalog) : Catalog :=
  { c with watchers := c.watchers.filter (·.1 != id) }

/-- The room that the queue of a new subscriber needs. -/
def roomFor (c : Catalog) (filter : RegisterFilter) : Nat :=
  (filter.filter c.registers).length + c.config.subscriberCapacity.toNat

/-- All that an event can do. -/
inductive Change (σ : Signals) (c : Catalog) : Event → Signals → Catalog → Output → Prop
  | fire (t : Token) : Change σ c (.fire t) (σ.fire t) c .nothing
  | ask (client : Nat) (access : Access) :
      Change σ c (.act (.ask client access)) σ (c.join (.client client) access) .nothing
  | begin (client : Nat) {registers : List Register}
      (granted : c.granted? (.client client) = some (.add registers)) :
      Change σ c (.act (.begin client)) σ
        { c.leave (.client client) with holder := some ⟨client, registers, none⟩ } .nothing
  | pass {client : Nat} {r : Register} {left : List Register}
      (holder : c.holder = some ⟨client, r :: left, none⟩) (known : c.named? r.name = some r) :
      Change σ c (.act (.proceed client)) σ { c with holder := some ⟨client, left, none⟩ } .nothing
  | announce {client : Nat} {r : Register} {left : List Register}
      (holder : c.holder = some ⟨client, r :: left, none⟩) (news : c.named? r.name ≠ some r) :
      Change σ c (.act (.proceed client)) σ
        { (c.put r).2 with holder := some ⟨client, left, some (c.roster.deliver r)⟩ } .nothing
  | deliver {client : Nat} {left : List Register} {d d' : Delivery Register}
      {roster : Roster Register} (holder : c.holder = some ⟨client, left, some d⟩)
      (served : c.roster.serve? σ c.config.overflow d = some (d', roster)) :
      Change σ c (.act (.proceed client)) σ
        { c with roster, holder := some ⟨client, left, some d'⟩ } .nothing
  | finish {client : Nat} {left : List Register} {d : Delivery Register}
      (holder : c.holder = some ⟨client, left, some d⟩) (served : d.rest = []) :
      Change σ c (.act (.proceed client)) σ
        { c with roster := c.roster.remove d.gone, holder := some ⟨client, left, none⟩ } .nothing
  | giveUp {client : Nat} {left : List Register} {d d' : Delivery Register}
      (holder : c.holder = some ⟨client, left, some d⟩) (passed : d.giveUp? σ = some d') :
      Change σ c (.act (.giveUp client)) σ { c with holder := some ⟨client, left, some d'⟩ }
        .nothing
  | look (client : Nat) {query : Query}
      (granted : c.granted? (.client client) = some (.look query)) :
      Change σ c (.act (.resolve client)) σ (c.leave (.client client)) (.reply (c.look query))
  | grant (client : Nat) {filter : RegisterFilter} {token : Token}
      (granted : c.granted? (.client client) = some (.subscribe filter token))
      (fits : c.roomFor filter ≤ queueLimit) :
      Change σ c (.act (.resolve client)) σ
        { c.leave (.client client) with
          roster := c.roster.enroll filter.accepts token (filter.filter c.registers)
            c.config.subscriberCapacity.toNat
          watchers := c.watchers ++ [(c.roster.nextId, token)] }
        (.reply (.subscribed c.roster.nextId token))
  | refuse (client : Nat) {filter : RegisterFilter} {token : Token}
      (granted : c.granted? (.client client) = some (.subscribe filter token))
      (large : queueLimit < c.roomFor filter) :
      Change σ c (.act (.resolve client)) σ (c.leave (.client client)) (.reply .tooLarge)
  | done {client : Nat} (holder : c.holder = some ⟨client, [], none⟩) :
      Change σ c (.act (.resolve client)) σ { c with holder := none } (.reply .done)
  | abandon (client : Nat) : Change σ c (.act (.abandon client)) σ (c.abandon client) .nothing
  | wake {id : Nat} {token : Token} (watched : (id, token) ∈ c.watchers)
      (cancelled : σ.isCancelled token = true) (held : c.isForgotten = false) :
      Change σ c (.act (.wake id)) σ ((c.unwatch id).join (.watcher id) (.unsubscribe id)) .nothing
  | sleep {id : Nat} (forgotten : c.isForgotten = true) :
      Change σ c (.act (.wake id)) σ (c.unwatch id) .nothing
  | strike (watcher : Nat) {id : Nat}
      (granted : c.granted? (.watcher watcher) = some (.unsubscribe id)) :
      Change σ c (.act (.strike watcher)) σ
        { c.leave (.watcher id) with roster := c.roster.remove [id] }.forget .nothing
  | read (id : Nat) (token : Token) {r : Register} {roster : Roster Register}
      (live : σ.isCancelled token = false) (item : c.roster.read? id = some (r, roster)) :
      Change σ c (.act (.read id token)) σ { c with roster } (.delivered (.item r))
  | readEnd (id : Nat) (token : Token) :
      Change σ c (.act (.read id token)) σ c (.delivered .ended)
  | close (id : Nat) : Change σ c (.act (.close id)) σ (c.close id) .nothing
  | retain : Change σ c (.act .retain) σ { c with handles := c.handles + 1 } .nothing
  | release : Change σ c (.act .release) σ { c with handles := c.handles - 1 }.forget .nothing

section Inversion

variable {σ σ' : Signals} {c c' : Catalog} {o : Output}

theorem change_of_begin {client : Nat} (h : c.begin? client = some c') :
    Change σ c (.act (.begin client)) σ c' .nothing := by
  unfold begin? at h
  split at h <;> cases h
  next granted => exact .begin client granted

theorem change_of_proceed {client : Nat} (h : c.proceed? σ client = some c') :
    Change σ c (.act (.proceed client)) σ c' .nothing := by
  unfold proceed? at h
  split at h
  · cases h
  next a holder =>
    obtain ⟨owner, left, delivery⟩ := a
    split at h
    · cases h
    next own =>
      obtain rfl : owner = client := by simpa using own
      cases delivery with
      | some d =>
        dsimp only at h
        split at h
        next roster finished =>
          cases h
          obtain ⟨served, rfl⟩ := Roster.remove_of_finish? finished
          exact .finish holder served
        · obtain ⟨⟨d', roster⟩, served, rfl⟩ := Option.map_eq_some_iff.1 h
          exact .deliver holder served
      | none =>
        cases left with
        | nil => cases h
        | cons r left =>
          have put : { (c.put r).2 with
              holder := some ⟨owner, left, if (c.put r).1 then some ((c.put r).2.roster.deliver r)
                else none⟩ } = c' := Option.some.inj h
          subst put
          by_cases known : c.named? r.name = some r
          · rw [put_of_named? known]
            exact .pass holder known
          · have news : (c.put r).1 = true := by simpa [put_fst] using known
            obtain ⟨registers, index, frame⟩ := c.put_frame r
            have same : (c.put r).2.roster = c.roster := by rw [frame]
            rw [news, same]
            exact .announce holder known

theorem change_of_giveUp {client : Nat} (h : c.giveUp? σ client = some c') :
    Change σ c (.act (.giveUp client)) σ c' .nothing := by
  unfold giveUp? at h
  split at h
  next owner left d holder =>
    split at h
    · cases h
    next own =>
      obtain rfl : owner = client := by simpa using own
      obtain ⟨d', passed, rfl⟩ := Option.map_eq_some_iff.1 h
      exact .giveUp holder passed
  · cases h

theorem change_of_resolve {client : Nat} {r : Reply} (h : c.resolve? client = some (r, c')) :
    Change σ c (.act (.resolve client)) σ c' (.reply r) := by
  unfold resolve? at h
  split at h
  next query granted =>
    cases h
    exact .look client granted
  next filter token granted =>
    unfold subscribe at h
    dsimp only at h
    split at h <;> cases h
    next large => exact .refuse client granted large
    next fits => exact .grant client granted (Nat.le_of_not_lt fits)
  · split at h
    next owner holder =>
      split at h <;> cases h
      next own => exact .done (own ▸ holder)
    · cases h

theorem change_of_wake {id : Nat} (h : c.wake? σ id = some c') :
    Change σ c (.act (.wake id)) σ c' .nothing := by
  unfold wake? at h
  split at h
  · cases h
  next w token found =>
    have watched := List.mem_of_find?_eq_some found
    obtain rfl : w = id := by simpa using List.find?_some found
    split at h
    next cancelled =>
      dsimp only at h
      split at h <;> cases h
      next forgotten => exact .sleep forgotten
      next held => exact .wake watched cancelled (by simpa using held)
    · cases h

theorem change_of_strike {watcher : Nat} (h : c.strike? watcher = some c') :
    Change σ c (.act (.strike watcher)) σ c' .nothing := by
  unfold strike? at h
  split at h <;> cases h
  next granted => exact .strike watcher granted

theorem change_of_read {id : Nat} {token : Token} {d : Store.Delivered Register}
    (h : c.read? σ id token = some (d, c')) :
    Change σ c (.act (.read id token)) σ c' (.delivered d) := by
  unfold read? at h
  split at h
  · cases h
    exact .readEnd id token
  next live =>
    split at h
    next r roster item =>
      cases h
      exact .read id token (by simpa using live) item
    · split at h <;> cases h
      exact .readEnd id token

/-- Every event goes one of these ways. -/
theorem change_of_effect {e : Event} (h : e.effect? σ c = some (σ', c', o)) :
    Change σ c e σ' c' o := by
  cases e with
  | fire t =>
    cases h
    exact .fire t
  | act a =>
    obtain ⟨⟨t, shown⟩, taken, same⟩ := Option.map_eq_some_iff.1 h
    cases same
    cases a with
    | ask client access =>
      cases taken
      exact .ask client access
    | begin client =>
      obtain ⟨t, begun, same⟩ := Option.map_eq_some_iff.1 taken
      cases same
      exact change_of_begin begun
    | proceed client =>
      obtain ⟨t, proceeded, same⟩ := Option.map_eq_some_iff.1 taken
      cases same
      exact change_of_proceed proceeded
    | giveUp client =>
      obtain ⟨t, passed, same⟩ := Option.map_eq_some_iff.1 taken
      cases same
      exact change_of_giveUp passed
    | resolve client =>
      obtain ⟨⟨r, t⟩, resolved, same⟩ := Option.map_eq_some_iff.1 taken
      cases same
      exact change_of_resolve resolved
    | abandon client =>
      cases taken
      exact .abandon client
    | wake id =>
      obtain ⟨t, woken, same⟩ := Option.map_eq_some_iff.1 taken
      cases same
      exact change_of_wake woken
    | strike watcher =>
      obtain ⟨t, struck, same⟩ := Option.map_eq_some_iff.1 taken
      cases same
      exact change_of_strike struck
    | read id token =>
      obtain ⟨⟨d, t⟩, read, same⟩ := Option.map_eq_some_iff.1 taken
      cases same
      exact change_of_read read
    | close id =>
      cases taken
      exact .close id
    | retain =>
      cases taken
      exact .retain
    | release =>
      cases taken
      exact .release

end Inversion

/-- What holds after a step of a run still holds at its end if all later steps keep it. -/
theorem Run.since {config : CatalogConfig} {before later : Trace} {st : Step} {σ : Signals}
    {c : Catalog} {P : Signals → Catalog → Prop} (run : Run config (before ++ st :: later) σ c)
    (first : ∀ σ, Run config before st.signals st.catalog →
      Change st.signals st.catalog st.event σ st.next st.output → P σ st.next)
    (next : ∀ tr σ σ' c c' e o, Run config tr σ c → e.Permitted c → Change σ c e σ' c' o →
      P σ c → P σ' c') : P σ c := by
  induction later using List.reverseRecOn generalizing σ c with
  | nil =>
    obtain ⟨earlier, -, happened, rfl⟩ := run.last
    exact first σ earlier (change_of_effect happened)
  | append_singleton later last ih =>
    rw [← List.cons_append, ← List.append_assoc] at run
    obtain ⟨earlier, permitted, happened, rfl⟩ := run.last
    exact next _ _ _ _ _ _ _ earlier permitted (change_of_effect happened) (ih earlier)

end Telemetry.Catalog
