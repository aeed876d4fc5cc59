import Telemetry.Proofs.Catalog.Index

/-!
# What subscribers of a catalog are told

A subscriber is told of the accepted registers that a catalog knows when it subscribes, and then of
each one that is new or changed. An addition changes the catalog before it announces, so one that is
given up leaves registers that not everybody was told of, and nobody will be: to add them again
changes nothing. Under the blocking policy this is the only way to miss a register.

## Main results

* `Run.untold_iff_forsaken`: which of its registers a catalog has not told a subscriber of.
-/

namespace Telemetry.Catalog

open Register

namespace Step

/-- A client gets the subscription that it asked for. -/
structure Grants (st : Step) (client : Nat) (filter : RegisterFilter) (token : Token) (id : Nat) :
    Prop where
  event : st.event = .act (.resolve client)
  granted : st.catalog.granted? (.client client) = some (.subscribe filter token)
  output : st.output = .reply (.subscribed id token)

/-- A client gives up before a subscriber that wants the register under way had its turn. -/
def Forsakes (st : Step) (id : Nat) (r : Register) : Prop :=
  ∃ client left d, st.event = .act (.abandon client) ∧
    st.catalog.holder = some ⟨client, left, some d⟩ ∧ d.item = r ∧
    ∃ s ∈ d.rest, s.accepts r = true ∧ s.id = id

/-- Announcements are cut for a subscription by those who give up. -/
theorem cut_logged_iff (st : Step) (id n : Nat) (r : Register) :
    (∃ e ∈ st.act.logged id n, e.update.1 = r ∧ e.fate = .cut) ↔ st.Forsakes id r := by
  constructor
  · rintro ⟨e, member, rfl, cut⟩
    unfold Step.act at member
    split at member
    · split at member <;> cases member
    · split at member
      · split at member <;> cases member
      next d _ =>
        split at member
        next s rest first =>
          cases fate : st.catalog.roster.fate? st.signals st.catalog.config.overflow d s with
          | none =>
            rw [fate] at member
            cases member
          | some settled =>
            rw [fate] at member
            obtain ⟨-, rfl⟩ : s.id = id ∧ e = _ := by simpa [Desk.Act.logged] using member
            obtain rfl : settled = .cut := cut
            exact absurd fate Roster.fate?_ne_cut
        · cases member
      · cases member
    next client event =>
      split at member
      next owner left d holder =>
        split at member
        next own =>
          subst own
          obtain ⟨⟨s, ⟨left_out, accepts⟩, rfl⟩, rfl⟩ :
              (∃ s, (s ∈ d.rest ∧ s.accepts d.item = true) ∧ s.id = id) ∧
                e = ⟨(d.item, n - 1), .cut⟩ := by simpa [Desk.Act.logged] using member
          exact ⟨owner, left, d, event, holder, rfl, s, left_out, accepts, rfl⟩
        · cases member
      · cases member
    · split at member <;> cases member
    · cases member
  · rintro ⟨client, left, d, event, holder, rfl, s, left_out, accepts, rfl⟩
    have act : st.act =
        .cut d.item ((d.rest.filter fun s => s.accepts d.item).map Subscriber.id) := by
      simp only [Step.act, event, holder, if_true]
    refine ⟨⟨(d.item, n - 1), .cut⟩, ?_, rfl, rfl⟩
    have waits : s.id ∈ (d.rest.filter fun s => s.accepts d.item).map Subscriber.id :=
      List.mem_map.2 ⟨s, List.mem_filter.2 ⟨left_out, accepts⟩, rfl⟩
    simp [act, Desk.Act.logged, waits]

end Step

namespace Trace

theorem announced_append (tr more : Trace) :
    announced (tr ++ more) = announced tr ++ announced more := by
  simp only [announced, history, List.map_append, Desk.published_append]

/-- What became of the last announcement under a name for a subscription. -/
def lastNews? (id : Nat) (name : String) (tr : Trace) : Option (Desk.Entry Register) :=
  (entries id tr).reverse.find? fun e => e.update.1.name == name

theorem latest?_entries (id : Nat) (name : String) (tr : Trace) :
    latest? name ((entries id tr).map fun e => e.update.1) =
      (lastNews? id name tr).map fun e => e.update.1 := by
  rw [latest?, ← List.map_reverse, List.find?_map]
  rfl

theorem latest?_kept {id : Nat} {name : String} {tr : Trace} {e : Desk.Entry Register}
    (last : lastNews? id name tr = some e) (kept : e.fate.isKept = true) :
    latest? name (Desk.kept (entries id tr)) = some e.update.1 := by
  have found := find?_filter_eq_some (p := fun e => e.fate.isKept) last kept
  rw [latest?, Desk.kept, ← List.map_reverse, ← List.filter_reverse, List.find?_map]
  exact congrArg (Option.map fun e => e.update.1) found

theorem entries_snoc (id : Nat) (tr : Trace) (st : Step) :
    entries id (tr ++ [st]) = entries id tr ++ st.act.logged id tr.announced.length := by
  simp only [entries, history, announced, List.map_append]
  exact Desk.log_snoc _ _ _

/-- The announcements that were cut for a subscription are those that were given up. -/
theorem cut_iff (tr : Trace) (id : Nat) (r : Register) :
    (∃ e ∈ tr.entries id, e.update.1 = r ∧ e.fate = .cut) ↔ ∃ st ∈ tr, st.Forsakes id r := by
  induction tr using List.reverseRecOn with
  | nil => simp [entries, history]
  | append_singleton tr st ih =>
    simp only [entries_snoc, List.mem_append, or_and_right, exists_or, ih, List.mem_singleton,
      exists_eq_left, Step.cut_logged_iff]

end Trace

section Grants

variable {config : CatalogConfig} {before later : Trace} {st : Step} {σ : Signals} {c : Catalog}
  {client id : Nat} {filter : RegisterFilter} {token : Token}

/-- A subscription that a client gets is a grant at the desk. -/
theorem Run.granted (run : Run config (before ++ st :: later) σ c)
    (grants : st.Grants client filter token id) :
    (st.catalog.grantOf filter token, before.announced.length) ∈
        Desk.grants (Trace.history (before ++ st :: later)) ∧
      Trace.announced (before ++ st :: later) = before.announced ++ Trace.announced later ∧
      st.catalog.roster.nextId = id := by
  have act : st.act = .enroll (st.catalog.grantOf filter token) := by
    simp only [Step.act, grants.event, grants.granted, grants.output]
  refine ⟨?_, ?_, ?_⟩
  · rw [Trace.history, List.map_append, List.map_cons, act]
    exact Desk.mem_grants _ _ _
  · rw [List.append_cons, Trace.announced_append, Trace.announced_append]
    simp [Trace.announced, Trace.history, act, Desk.published, Desk.Act.published]
  · obtain ⟨σ', -, happened⟩ := run.at_step
    obtain ⟨event, granted, output⟩ := grants
    obtain ⟨σ₀, t, e, o, t'⟩ := st
    change e = _ at event
    change o = _ at output
    subst event
    have change : Change σ₀ t (.act (.resolve client)) σ' t' o := change_of_effect happened
    cases change with
    | look _ asked => cases asked.symm.trans granted
    | grant => cases output; rfl
    | refuse => cases output
    | done => cases output

/-- A register that a catalog knows was announced last under its name since a subscription began, or
it was known then and nothing was announced under its name. -/
theorem Run.announced_or_known (run : Run config (before ++ st :: later) σ c)
    (grants : st.Grants client filter token id) {r : Register} (known : r ∈ c.registers) :
    latest? r.name (Trace.announced later) = some r ∨
      latest? r.name (Trace.announced later) = none ∧ r ∈ st.catalog.registers := by
  obtain ⟨-, announced, -⟩ := run.granted grants
  obtain ⟨_, earlier, -⟩ := run.at_step
  have last := run.named?_eq_latest? r.name
  rw [run.indexed.named?_eq_some.2 ⟨known, rfl⟩, announced, latest?_append,
    ← earlier.named?_eq_latest?] at last
  cases since : latest? r.name (Trace.announced later) with
  | some s =>
    rw [since] at last
    exact .inl last.symm
  | none =>
    rw [since] at last
    exact .inr ⟨rfl, (earlier.indexed.named?_eq_some.1 last.symm).1⟩

/-- As long as the reader is there, it has got what was put into its queue, or it will. -/
theorem Run.items_kept (run : Run config (before ++ st :: later) σ c)
    (grants : st.Grants client filter token id) (reader : c.roster.isClosed id = false) :
    Trace.received id (before ++ st :: later) ++ c.roster.queued id =
      filter.filter st.catalog.registers ++
        Desk.kept (Trace.entries id (before ++ st :: later)) := by
  obtain ⟨granted, -, rfl⟩ := run.granted grants
  rw [← Trace.received_history]
  exact (run.desk.conveyed granted).items reader

/-- While nobody holds the lock, there is an entry for each accepted announcement. -/
theorem Run.entries_complete (run : Run config (before ++ st :: later) σ c)
    (grants : st.Grants client filter token id) (unlocked : c.holder = none)
    (goes_on : σ.isCancelled token = false) (reader : c.roster.isClosed id = false) :
    (Trace.entries id (before ++ st :: later)).map (fun e => e.update.1) =
      (Trace.announced later).filter filter.accepts := by
  obtain ⟨granted, announced, rfl⟩ := run.granted grants
  have idle : c.desk.delivery = none := by simp [Catalog.desk, unlocked]
  have complete := congrArg (List.map Prod.fst)
    ((run.desk.conveyed granted).complete ⟨goes_on, reader⟩)
  rw [Desk.pending_of_idle idle, List.append_nil, List.map_map, Desk.map_fst_accepted] at complete
  refine complete.trans ?_
  rw [show Desk.published _ = _ from announced, List.drop_left]
  rfl

/-- Under the blocking policy an announcement reaches a subscriber unless it was cut. -/
theorem Run.kept_iff (run : Run config (before ++ st :: later) σ c)
    (policy : config.overflow = .block) (grants : st.Grants client filter token id) :
    ∀ e ∈ Trace.entries id (before ++ st :: later), e.fate.isKept = true ↔ e.fate ≠ .cut := by
  intro e member
  obtain ⟨granted, -, rfl⟩ := run.granted grants
  have suits := (run.desk.conveyed granted).fates e member
  cases fate : e.fate with
  | kept n => simp [Fate.isKept]
  | lost n => simp [fate, Fate.Suits, policy] at suits
  | cut => simp [Fate.isKept]

/-- A register that a catalog knows and a subscriber was not told of was announced to others. -/
theorem Run.mem_entries (run : Run config (before ++ st :: later) σ c)
    (grants : st.Grants client filter token id) (unlocked : c.holder = none)
    (goes_on : σ.isCancelled token = false) (reader : c.roster.isClosed id = false) {r : Register}
    (known : r ∈ c.registers) (wanted : filter.accepts r = true)
    (unknown : r ∉ filter.filter st.catalog.registers) :
    ∃ e ∈ Trace.entries id (before ++ st :: later), e.update.1 = r := by
  have complete := run.entries_complete grants unlocked goes_on reader
  rcases run.announced_or_known grants known with last | ⟨-, early⟩
  · have announced := List.mem_filter.2 ⟨(mem_of_latest? last).1, wanted⟩
    rw [← complete] at announced
    exact List.mem_map.1 announced
  · exact absurd (List.mem_filter.2 ⟨early, wanted⟩) unknown

/-- The last that a subscriber was told under a name is what the catalog knows, unless the last
announcement was cut. -/
theorem Run.latest?_told (run : Run config (before ++ st :: later) σ c)
    (policy : config.overflow = .block) (grants : st.Grants client filter token id)
    (unlocked : c.holder = none) (goes_on : σ.isCancelled token = false)
    (reader : c.roster.isClosed id = false) {r : Register} (known : r ∈ c.registers)
    (wanted : filter.accepts r = true)
    (whole : ∀ e ∈ Trace.lastNews? id r.name (before ++ st :: later), e.fate ≠ .cut) :
    latest? r.name (filter.filter st.catalog.registers ++
      Desk.kept (Trace.entries id (before ++ st :: later))) = some r := by
  have complete := run.entries_complete grants unlocked goes_on reader
  rw [latest?_append]
  rcases run.announced_or_known grants known with last | ⟨silent, early⟩
  · have told := latest?_filter last wanted
    rw [← complete, Trace.latest?_entries] at told
    obtain ⟨e, final, rfl⟩ := Option.map_eq_some_iff.1 told
    have member := List.mem_reverse.1 (List.mem_of_find?_eq_some final)
    have kept := (run.kept_iff policy grants e member).2 (whole e final)
    rw [Trace.latest?_kept final kept]
    rfl
  · obtain ⟨_, earlier, -⟩ := run.at_step
    have replayed : latest? r.name (filter.filter st.catalog.registers) = some r := by
      refine latest?_filter ?_ wanted
      rw [earlier.indexed.latest?_registers]
      exact earlier.indexed.named?_eq_some.2 ⟨early, rfl⟩
    have none_since :
        latest? r.name (Desk.kept (Trace.entries id (before ++ st :: later))) = none := by
      rw [latest?_eq_none]
      intro s member
      obtain ⟨e, kept, rfl⟩ := List.mem_map.1 member
      have announced : e.update.1 ∈ (Trace.announced later).filter filter.accepts :=
        complete ▸ List.mem_map.2 ⟨e, List.mem_of_mem_filter kept, rfl⟩
      exact latest?_eq_none.1 silent _ (List.mem_of_mem_filter announced)
    rw [none_since, replayed]
    rfl

/-- Under the blocking policy, while nobody holds the lock, there is one way in which a live
subscription can miss a register that the catalog knows and it accepts: the register was not in its
replay, and each time that it was announced since, the client that added it gave up before the turn
of the subscriber. What the subscription was told last under a name is up to date, unless that
happened to the last announcement under the name. -/
theorem Run.untold_iff_forsaken (run : Run config (before ++ st :: later) σ c)
    (policy : config.overflow = .block) (grants : st.Grants client filter token id)
    (unlocked : c.holder = none) (goes_on : σ.isCancelled token = false)
    (reader : c.roster.isClosed id = false) :
    let tr : Trace := before ++ st :: later
    let replayed := filter.filter st.catalog.registers
    let told := tr.received id ++ c.roster.queued id
    (tr.entries id).map (fun e => e.update.1) = (Trace.announced later).filter filter.accepts ∧
    (∀ e ∈ tr.entries id, e.fate.isKept = true ↔ e.fate ≠ .cut) ∧
    (∀ r, (∃ e ∈ tr.entries id, e.update.1 = r ∧ e.fate = .cut) ↔ ∃ st' ∈ tr, st'.Forsakes id r) ∧
    told = replayed ++ Desk.kept (tr.entries id) ∧
    ∀ r ∈ c.registers, filter.accepts r = true →
      (r ∉ told ↔ r ∉ replayed ∧ (∃ st' ∈ tr, st'.Forsakes id r) ∧
        ∀ e ∈ tr.entries id, e.update.1 = r → e.fate = .cut) ∧
      ((∀ e ∈ tr.lastNews? id r.name, e.fate ≠ .cut) → latest? r.name told = some r) := by
  intro tr replayed told
  have items : told = replayed ++ Desk.kept (tr.entries id) := run.items_kept grants reader
  have kept_iff := run.kept_iff policy grants
  refine ⟨run.entries_complete grants unlocked goes_on reader, kept_iff, tr.cut_iff id, items, ?_⟩
  intro r known wanted
  have untold : r ∉ told ↔ r ∉ replayed ∧ ∀ e ∈ tr.entries id, e.update.1 = r → e.fate = .cut := by
    have missed : r ∉ Desk.kept (tr.entries id) ↔
        ∀ e ∈ tr.entries id, e.update.1 = r → e.fate = .cut := by
      simp only [Desk.kept, List.mem_map, List.mem_filter, not_exists, not_and, and_imp]
      refine forall₂_congr fun e member => ?_
      rw [kept_iff e member]
      tauto
    rw [items, List.mem_append, not_or, missed]
  refine ⟨untold.trans (and_congr_right fun unknown => ?_), fun whole => ?_⟩
  · refine ⟨fun all_cut => ⟨?_, all_cut⟩, And.right⟩
    obtain ⟨e, member, same⟩ :=
      run.mem_entries grants unlocked goes_on reader known wanted unknown
    exact (tr.cut_iff id r).1 ⟨e, member, same, all_cut e member same⟩
  · rw [items]
    exact run.latest?_told policy grants unlocked goes_on reader known wanted whole

end Grants

/-! ## An addition that is given up -/

section GivingUp

variable {config : CatalogConfig} {client id : Nat}

/-- A run in which a client gets the subscription that it asked for. -/
theorem exists_grant_of_play? {events rest : List Event} {now : Trace × Signals × Catalog}
    {filter : RegisterFilter} {token : Token}
    (asked : (play? events (fresh config)).bind (fun now =>
      now.2.2.granted? (.client client)) = some (.subscribe filter token))
    (replied : (play? events (fresh config)).bind (fun now =>
      (now.2.2.resolve? client).map Prod.fst) = some (.subscribed id token))
    (played : play? (events ++ .act (.resolve client) :: rest) (fresh config) = some now) :
    ∃ before st later, now.1 = before ++ st :: later ∧
      play? events (fresh config) = some (before, st.signals, st.catalog) ∧
      st.Grants client filter token id := by
  obtain ⟨before, st, later, trace, event, begun⟩ := exists_step_of_play? played
  rw [begun, Option.bind_some] at asked replied
  obtain ⟨⟨reply, c'⟩, resolved, rfl⟩ := Option.map_eq_some_iff.1 replied
  have run := Run.of_play? played
  rw [trace] at run
  obtain ⟨σ', -, happened⟩ := run.at_step
  simp only [event, Event.effect?, act?, resolved, Option.map_some, Option.some.injEq,
    Prod.mk.injEq] at happened
  exact ⟨before, st, later, trace, begun, event, asked, happened.2.2.symm⟩

def voltage : Register :=
  .number "Meter" "Voltage"

def current : Register :=
  .number "Meter" "Current"

/-- Two clients subscribe, each to everything. The answer to the second is to come. -/
def subscribing : List Event :=
  [.act (.ask 0 (.subscribe .all ⟨[0]⟩)), .act (.resolve 0), .act (.ask 1 (.subscribe .all ⟨[1]⟩))]

/-- Two registers are to be added. -/
def adding : List Event :=
  [.act (.ask 2 (.add [voltage, current])), .act (.begin 2)]

/-- The first register is announced, and only the second subscriber reads it. -/
def announcing : List Event :=
  [.act (.proceed 2), .act (.proceed 2), .act (.proceed 2), .act (.read 1 ⟨[1]⟩)]

/-- The announcement of the second register is blocked, and its client gives up. -/
def givingUp : List Event :=
  [.act (.proceed 2), .act (.abandon 2)]

def addThenGiveUp : List Event :=
  subscribing ++ .act (.resolve 1) ::
    (adding ++ .act (.proceed 2) :: (announcing ++ .act (.proceed 2) :: givingUp))

theorem play?_addThenGiveUp :
    (play? addThenGiveUp (fresh { subscriberCapacity := 1 })).map (fun now =>
      (now.2.2.holder.isSome, now.2.1.isCancelled ⟨[1]⟩, now.2.2.roster.isClosed 1,
        now.2.2.registers, now.1.received 1 ++ now.2.2.roster.queued 1)) =
      some (false, false, false, [voltage, current], [voltage]) := by
  rw [play?_fresh]
  decide +kernel

theorem current_forsaken :
    ∃ (before : Trace) (st : Step) (later : Trace) (σ : Signals) (c : Catalog),
      Run { subscriberCapacity := 1 } (before ++ st :: later) σ c ∧
      st.Grants 1 .all ⟨[1]⟩ 1 ∧ c.holder = none ∧ current ∈ c.registers ∧
      current ∉ Trace.received 1 (before ++ st :: later) ++ c.roster.queued 1 ∧
      ∃ st' ∈ before ++ st :: later, st'.Forsakes 1 current := by
  obtain ⟨⟨tr, σ, c⟩, played, ends⟩ := Option.map_eq_some_iff.1 play?_addThenGiveUp
  simp only [Prod.mk.injEq, Option.isSome_eq_false_iff, Option.isNone_iff_eq_none] at ends
  obtain ⟨unlocked, goes_on, reader, registers, told⟩ := ends
  have run := Run.of_play? played
  have asked : (play? subscribing (fresh { subscriberCapacity := 1 })).bind (fun now =>
      now.2.2.granted? (.client 1)) = some (.subscribe .all ⟨[1]⟩) := rfl
  have replied : (play? subscribing (fresh { subscriberCapacity := 1 })).bind (fun now =>
      (now.2.2.resolve? 1).map Prod.fst) = some (.subscribed 1 ⟨[1]⟩) := rfl
  obtain ⟨before, st, later, trace, -, grants⟩ := exists_grant_of_play? asked replied played
  obtain rfl : tr = _ := trace
  have known : current ∈ c.registers := by rw [registers]; simp
  have untold : current ∉ Trace.received 1 (before ++ st :: later) ++ c.roster.queued 1 := by
    rw [told]
    decide
  have exactly := run.untold_iff_forsaken rfl grants unlocked goes_on reader
  have forsaken := ((exactly.2.2.2.2 current known rfl).1.1 untold).2.1
  exact ⟨before, st, later, σ, c, run, grants, unlocked, known, untold, forsaken⟩

end GivingUp

end Telemetry.Catalog
