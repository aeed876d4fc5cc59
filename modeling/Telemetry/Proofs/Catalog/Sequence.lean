import Telemetry.Proofs.Catalog.Announcement
import Telemetry.Proofs.Catalog.Roll

/-!
# What a catalog announces, and in which order

Whoever adds registers keeps the lock until all of them have had their turn, so the registers that
are offered to a catalog come in the order in which the lock is granted, and those of one addition
stay together. Unless an addition is broken off, the registers of a catalog are the roll of what was
offered, and what it announces is the news in it; while somebody holds the lock, the rest of the
addition is still to come. Nobody looks at a catalog meanwhile, so nobody sees a part of an
addition.

## Main definitions

* `Trace.offered`: the registers that were offered, in the order of the lock.
* `Trace.Unbroken`: no addition is broken off.
* `Catalog.tell`: the answer to a question about a roll.

## Main results

* `Change.rolls`, `Run.rolled`: a catalog follows the roll.
* `Run.announces_news`: what a subscription is told, and what those who look are told.
-/

namespace Telemetry.Catalog

open Register

/-- What is still to be put of the addition that holds the lock. -/
def remaining (c : Catalog) : List Register :=
  (c.holder.map Addition.left).getD []

/-- The answer to a question about the registers of a roll. Who subscribes is no such question. -/
def tell (known : List Register) : Query → Option Reply
  | .all => some (.registers known)
  | .named name => some (.register (latest? name known))
  | .filtered filter => some (.registers (known.filter filter.accepts))
  | .size => some (.count known.length)
  | .subscribers => none

namespace Step

/-- The registers for which a client gets the lock now. -/
def offered (st : Step) : List Register :=
  match st.event with
  | .act (.begin client) =>
    match st.catalog.granted? (.client client) with
    | some (.add registers) => registers
    | _ => []
  | _ => []

/-- A client gives up the addition for which it holds the lock. -/
def Breaks (st : Step) : Prop :=
  ∃ client a, st.event = .act (.abandon client) ∧ st.catalog.holder = some a ∧ a.client = client

/-- A client gets the answer to a question. -/
structure Looks (st : Step) (client : Nat) (query : Query) : Prop where
  event : st.event = .act (.resolve client)
  granted : st.catalog.granted? (.client client) = some (.look query)

/-- A step takes registers and announces them as a roll does. -/
structure Rolls (st : Step) : Prop where
  roll : st.next.remaining.foldl enlist st.next.registers =
    (st.catalog.remaining ++ st.offered).foldl enlist st.catalog.registers
  news : st.act.published ++ news st.next.registers st.next.remaining =
    news st.catalog.registers (st.catalog.remaining ++ st.offered)

theorem breaks_of_forsakes {st : Step} {id : Nat} {r : Register} (forsakes : st.Forsakes id r) :
    st.Breaks := by
  obtain ⟨client, left, d, event, holder, -⟩ := forsakes
  exact ⟨client, _, event, holder, rfl⟩

end Step

namespace Trace

/-- All registers that were offered. Those of one addition stand together, and additions stand in
the order in which they got the lock. -/
def offered (tr : Trace) : List Register :=
  tr.flatMap Step.offered

/-- No addition is broken off. -/
def Unbroken (tr : Trace) : Prop :=
  ∀ st ∈ tr, ¬ st.Breaks

@[simp] theorem offered_nil : offered [] = [] := rfl

theorem offered_append (tr more : Trace) : offered (tr ++ more) = offered tr ++ offered more :=
  List.flatMap_append

theorem offered_snoc (tr : Trace) (st : Step) :
    offered (tr ++ [st]) = offered tr ++ st.offered := by
  simp [offered]

theorem announced_snoc (tr : Trace) (st : Step) :
    announced (tr ++ [st]) = announced tr ++ st.act.published := by
  simp [announced, history, Desk.published]

end Trace

/-! ## Steps -/

section Steps

variable {σ σ' : Signals} {c c' : Catalog} {e : Event} {o : Output}

theorem offered_eq_nil (apart : ∀ client, e ≠ .act (.begin client)) :
    Step.offered ⟨σ, c, e, o, c'⟩ = [] := by
  unfold Step.offered
  split
  next client is => exact absurd is (apart client)
  · rfl

/-- A step that neither takes registers nor puts any. -/
theorem Step.Rolls.of_quiet (silent : (Step.act ⟨σ, c, e, o, c'⟩).published = [])
    (apart : ∀ client, e ≠ .act (.begin client)) (registers : c'.registers = c.registers)
    (remaining : c'.remaining = c.remaining) : Step.Rolls ⟨σ, c, e, o, c'⟩ where
  roll := by rw [offered_eq_nil apart, List.append_nil, registers, remaining]
  news := by
    rw [offered_eq_nil apart, List.append_nil, registers, remaining, silent, List.nil_append]

theorem remaining_of_holder {a : Addition} (holder : c.holder = some a) : c.remaining = a.left := by
  simp [remaining, holder]

theorem remaining_of_free (free : c.holder = none) : c.remaining = [] := by
  simp [remaining, free]

/-- Whoever does not hold the lock breaks nothing off. -/
theorem remaining_abandon {client : Nat}
    (whole : ¬ Step.Breaks ⟨σ, c, .act (.abandon client), o, c.abandon client⟩) :
    (c.abandon client).remaining = c.remaining := by
  cases holder : c.holder with
  | none => simp [remaining, abandon, holder]
  | some a =>
    have other : a.client ≠ client := fun own => whole ⟨client, a, rfl, holder, own⟩
    simp [remaining, abandon, holder, Option.filter, other]

/-- A step takes the registers of an addition, or puts the next one, or does neither. -/
theorem Change.rolls (h : Change σ c e σ' c' o) (indexed : c.Indexed)
    (whole : ¬ Step.Breaks ⟨σ, c, e, o, c'⟩) : Step.Rolls ⟨σ, c, e, o, c'⟩ := by
  cases h with
  | begin client granted =>
    have free := remaining_of_free (granted?_eq_some granted).1
    constructor <;> simp only [Step.offered, granted, free, List.nil_append] <;> rfl
  | @pass client r left holder known =>
    have same : enlist c.registers r = c.registers := by
      rw [← indexed.registers_put, put_of_named? known]
    have known : latest? r.name c.registers = some r := (indexed.latest?_registers _).trans known
    have silent : (Step.act ⟨σ, c, .act (.proceed client), .nothing,
        { c with holder := some ⟨client, left, none⟩ }⟩).published = [] := by
      simp [Step.act, holder, put_fst, ← indexed.latest?_registers, known, Desk.Act.published]
    constructor
    · rw [remaining_of_holder holder, offered_eq_nil (by simp)]
      simp only [List.append_nil, List.foldl_cons, same]
      rfl
    · rw [silent, remaining_of_holder holder, offered_eq_nil (by simp)]
      simp only [List.append_nil, List.nil_append, news, known, same, if_true]
      rfl
  | @announce client r left holder unknown =>
    have put := indexed.registers_put r
    have unknown : latest? r.name c.registers ≠ some r := by
      rwa [indexed.latest?_registers]
    have told : (Step.act ⟨σ, c, .act (.proceed client), .nothing, { (c.put r).2 with
        holder := some ⟨client, left, some (c.roster.deliver r)⟩ }⟩).published = [r] := by
      simp [Step.act, holder, put_fst, ← indexed.latest?_registers, unknown, Desk.Act.published]
    constructor
    · rw [remaining_of_holder holder, offered_eq_nil (by simp)]
      simp only [List.append_nil, List.foldl_cons, put]
      rfl
    · rw [told, remaining_of_holder holder, offered_eq_nil (by simp)]
      simp only [List.append_nil, news, unknown, if_false, put]
      rfl
  | @deliver client left d d' roster holder served =>
    refine .of_quiet ?_ (by simp) rfl (remaining_of_holder holder).symm
    obtain ⟨s, rest, first⟩ := Roster.first_of_serve? served
    simp [Step.act, holder, first, Desk.Act.published]
  | finish holder served =>
    refine .of_quiet ?_ (by simp) rfl (remaining_of_holder holder).symm
    simp [Step.act, holder, served, Desk.Act.published]
  | giveUp holder =>
    exact .of_quiet (published_eq_nil (by simp)) (by simp) rfl (remaining_of_holder holder).symm
  | done holder =>
    exact .of_quiet (published_eq_nil (by simp)) (by simp) rfl (remaining_of_holder holder).symm
  | abandon client =>
    exact .of_quiet (published_eq_nil (by simp)) (by simp) rfl (remaining_abandon whole)
  | strike | release =>
    obtain ⟨roster, frame⟩ := forget_frame _
    rw [frame]
    exact .of_quiet (published_eq_nil (by simp)) (by simp) rfl rfl
  | _ => exact .of_quiet (published_eq_nil (by simp)) (by simp) rfl rfl

end Steps

/-! ## Runs -/

section Runs

variable {config : CatalogConfig} {tr before later : Trace} {st : Step} {σ : Signals} {c : Catalog}
  {client id : Nat} {filter : RegisterFilter} {token : Token} {query : Query}

/-- The registers of a catalog are the roll of what was offered, and it has announced the news, but
for what is still to come of an addition. -/
theorem Run.rolled (run : Run config tr σ c) (whole : tr.Unbroken) :
    roll tr.offered = c.remaining.foldl enlist c.registers ∧
      news [] tr.offered = tr.announced ++ news c.registers c.remaining := by
  induction run with
  | start => exact ⟨rfl, rfl⟩
  | @step tr σ σ' c c' o run e permitted happened ih =>
    obtain ⟨rolled, told⟩ := ih fun st member => whole st (List.mem_append_left _ member)
    have last : ¬ Step.Breaks ⟨σ, c, e, o, c'⟩ := whole _ (List.mem_append_right _ (by simp))
    have rolls := (change_of_effect happened).rolls run.indexed last
    constructor
    · rw [Trace.offered_snoc, roll_append, rolled, ← List.foldl_append]
      exact rolls.roll.symm
    · calc news [] (Trace.offered (tr ++ [⟨σ, c, e, o, c'⟩]))
          = news [] tr.offered ++
              news (roll tr.offered) (Step.offered ⟨σ, c, e, o, c'⟩) := by
            rw [Trace.offered_snoc, news_append]
            rfl
        _ = tr.announced ++
              news c.registers (c.remaining ++ Step.offered ⟨σ, c, e, o, c'⟩) := by
            rw [told, rolled, List.append_assoc, ← news_append]
        _ = Trace.announced (tr ++ [⟨σ, c, e, o, c'⟩]) ++ news c'.registers c'.remaining := by
            rw [Trace.announced_snoc, List.append_assoc, ← rolls.news]

/-- While nobody holds the lock, a catalog has the roll of what was offered. -/
theorem Run.registers_eq_roll (run : Run config tr σ c) (whole : tr.Unbroken)
    (free : c.holder = none) : c.registers = roll tr.offered := by
  rw [(run.rolled whole).1, remaining_of_free free]
  rfl

/-- While nobody holds the lock, a catalog has announced the news in what was offered. -/
theorem Run.announced_eq_news (run : Run config tr σ c) (whole : tr.Unbroken)
    (free : c.holder = none) : tr.announced = news [] tr.offered := by
  rw [(run.rolled whole).2, remaining_of_free free]
  exact (List.append_nil _).symm

theorem Trace.Unbroken.left {tr more : Trace} (whole : Unbroken (tr ++ more)) : tr.Unbroken :=
  fun st member => whole st (List.mem_append_left _ member)

/-- Whoever gets a subscription or an answer does so while nobody holds the lock, so it is about
whole additions only. -/
theorem Run.registers_at_step (run : Run config (before ++ st :: later) σ c)
    (whole : Trace.Unbroken (before ++ st :: later)) {party : Party} {access : Access}
    (granted : st.catalog.granted? party = some access) :
    st.catalog.registers = roll before.offered := by
  obtain ⟨_, earlier, -⟩ := run.at_step
  exact earlier.registers_eq_roll whole.left (granted?_eq_some granted).1

/-- What was announced since somebody subscribed is the news in what was offered since. -/
theorem Run.announced_since (run : Run config (before ++ st :: later) σ c)
    (whole : Trace.Unbroken (before ++ st :: later)) (grants : st.Grants client filter token id)
    (free : c.holder = none) :
    Trace.announced later = news (roll before.offered) (Trace.offered later) := by
  obtain ⟨_, earlier, -⟩ := run.at_step
  have first := earlier.announced_eq_news whole.left (granted?_eq_some grants.granted).1
  have all := run.announced_eq_news whole free
  have silent : st.offered = [] := by simp [Step.offered, grants.event]
  rw [(run.granted grants).2.1, List.append_cons, Trace.offered_append, Trace.offered_snoc, silent,
    List.append_nil, news_append, first] at all
  exact List.append_cancel_left all

/-- The queue of a new subscription holds the accepted registers of whole additions. -/
theorem Run.replayed (run : Run config (before ++ st :: later) σ c)
    (whole : Trace.Unbroken (before ++ st :: later)) (grants : st.Grants client filter token id) :
    st.next.roster.queued id = (roll before.offered).filter filter.accepts := by
  obtain ⟨σ', earlier, happened⟩ := run.at_step
  have registers := run.registers_at_step whole grants.granted
  have fresh := earlier.desk.registered.fresh
  obtain ⟨event, granted, output⟩ := grants
  obtain ⟨σ₀, t, e, o, t'⟩ := st
  change e = _ at event
  change o = _ at output
  subst event
  have change : Change σ₀ t (.act (.resolve client)) σ' t' o := change_of_effect happened
  cases change with
  | look _ asked => cases asked.symm.trans granted
  | grant _ asked =>
    cases output
    cases asked.symm.trans granted
    rw [← registers]
    exact Roster.queued_enroll fresh
  | refuse => cases output
  | done => cases output

/-- Whoever looks is told of what the catalog has. -/
theorem Run.answered (run : Run config (before ++ st :: later) σ c) (looks : st.Looks client query)
    {reply : Reply} (answer : tell st.catalog.registers query = some reply) :
    st.output = .reply reply := by
  obtain ⟨σ', earlier, happened⟩ := run.at_step
  have indexed := earlier.indexed
  obtain ⟨event, granted⟩ := looks
  obtain ⟨σ₀, t, e, o, t'⟩ := st
  change e = _ at event
  subst event
  have change : Change σ₀ t (.act (.resolve client)) σ' t' o := change_of_effect happened
  cases change with
  | look _ asked =>
    cases asked.symm.trans granted
    cases query with
    | named name =>
      cases answer
      exact congrArg (fun r => Output.reply (.register r)) (indexed.latest?_registers name).symm
    | subscribers => cases answer
    | _ => cases answer; rfl
  | grant _ asked | refuse _ asked => cases asked.symm.trans granted
  | done holder => cases holder.symm.trans (granted?_eq_some granted).1

/-- Whoever looks is told of the roll of what was offered. -/
theorem Run.told (run : Run config (before ++ st :: later) σ c)
    (whole : Trace.Unbroken (before ++ st :: later)) (looks : st.Looks client query) {reply : Reply}
    (answer : tell (roll before.offered) query = some reply) : st.output = .reply reply := by
  rw [← run.registers_at_step whole looks.granted] at answer
  exact run.answered looks answer

/-- Under the blocking policy, as long as no addition is broken off: while nobody holds the lock, a
subscription that goes on has been told of the accepted registers that were there when it began, in
the order of discovery, and then of the accepted news in what was offered since, in the order of the
lock. What it had at once, and what those are told who look, is about whole additions only. -/
theorem Run.announces_news (run : Run config tr σ c) (policy : config.overflow = .block)
    (whole : tr.Unbroken) :
    (∀ before st later client filter token id, tr = before ++ st :: later →
      st.Grants client filter token id →
        st.next.roster.queued id = (roll (Trace.offered before)).filter filter.accepts ∧
        (σ.isCancelled token = false → c.roster.isClosed id = false → c.holder = none →
          tr.received id ++ c.roster.queued id =
            (roll (Trace.offered before)).filter filter.accepts ++
              (news (roll (Trace.offered before)) (Trace.offered later)).filter filter.accepts)) ∧
    ∀ before st later client query reply, tr = before ++ st :: later → st.Looks client query →
      tell (roll (Trace.offered before)) query = some reply → st.output = .reply reply := by
  refine ⟨?_, ?_⟩
  · rintro before st later client filter token id rfl grants
    refine ⟨run.replayed whole grants, fun goes_on reader free => ?_⟩
    have kept : Desk.kept (Trace.entries id (before ++ st :: later)) =
        (Trace.entries id (before ++ st :: later)).map fun e => e.update.1 := by
      rw [Desk.kept, List.filter_eq_self.2]
      intro e member
      refine (run.kept_iff policy grants e member).2 fun cut => ?_
      obtain ⟨broken, member, forsakes⟩ := (Trace.cut_iff _ id _).1 ⟨e, member, rfl, cut⟩
      exact whole broken member (Step.breaks_of_forsakes forsakes)
    rw [run.items_kept grants reader, kept, run.entries_complete grants free goes_on reader,
      run.announced_since whole grants free, run.registers_at_step whole grants.granted]
    rfl
  · rintro before st later client query reply rfl looks answer
    exact run.told whole looks answer

end Runs

/-! ## A register that changes -/

section Adding

variable {config : CatalogConfig} {events : List Event} {now : Trace × Signals × Catalog}

/-- Nothing is broken off if nobody gives up. -/
theorem unbroken_of_play? (played : play? events (fresh config) = some now)
    (patient : ∀ e ∈ events, ∀ client, e ≠ .act (.abandon client)) : now.1.Unbroken := by
  obtain ⟨more, trace, rfl⟩ := events_of_play? played
  rintro st member ⟨client, a, event, -⟩
  rw [trace] at member
  exact patient _ (List.mem_map.2 ⟨st, by simpa [fresh] using member, rfl⟩) client event

def power : Register :=
  .number "Meter" "Power"

/-- The voltage with its unit. -/
def inVolts : Register :=
  voltage.withUnit "V"

def voltageOnly : RegisterFilter :=
  .names ["Voltage"]

/-- Two registers are added while nobody subscribes. -/
def addTwo : List Event :=
  adding ++ [.act (.proceed 2), .act (.proceed 2), .act (.proceed 2), .act (.proceed 2),
    .act (.resolve 2)]

/-- A client asks for a subscription to one of them. -/
def followVoltage : List Event :=
  addTwo ++ [.act (.ask 0 (.subscribe voltageOnly ⟨[0]⟩))]

/-- It is granted. Then the other register is added again, this one changes, and one more is new;
somebody asks for the registers with its name. -/
def changeVoltage : List Event :=
  followVoltage ++ .act (.resolve 0) ::
    [.act (.ask 3 (.add [current, inVolts, power])), .act (.begin 3), .act (.proceed 3),
      .act (.proceed 3), .act (.proceed 3), .act (.proceed 3), .act (.read 0 ⟨[0]⟩),
      .act (.proceed 3), .act (.proceed 3), .act (.proceed 3), .act (.resolve 3),
      .act (.ask 4 (.look (.filtered voltageOnly)))]

/-- A question is answered among given events. -/
theorem exists_look_of_play? {rest : List Event} {client : Nat} {query : Query}
    (asked : (play? events (fresh config)).bind (fun now =>
      now.2.2.granted? (.client client)) = some (.look query))
    (played : play? (events ++ .act (.resolve client) :: rest) (fresh config) = some now) :
    ∃ before st later, now.1 = before ++ st :: later ∧
      play? events (fresh config) = some (before, st.signals, st.catalog) ∧
      st.Looks client query := by
  obtain ⟨before, st, later, trace, event, begun⟩ := exists_step_of_play? played
  rw [begun, Option.bind_some] at asked
  exact ⟨before, st, later, trace, begun, event, asked⟩

theorem play?_followVoltage :
    (play? followVoltage (fresh {})).map (fun now => now.2.2.registers) =
      some [voltage, current] := by
  rw [play?_fresh]
  decide +kernel

theorem play?_changeVoltage :
    (play? changeVoltage (fresh {})).map (fun now => now.2.2.registers) =
      some [inVolts, current, power] := by
  rw [play?_fresh]
  decide +kernel

theorem change_told_after_replay :
    ∃ (before : Trace) (st : Step) (later : Trace) (σ : Signals) (c : Catalog),
      Run {} (before ++ st :: later) σ c ∧ Trace.Unbroken (before ++ st :: later) ∧
      st.Grants 0 voltageOnly ⟨[0]⟩ 0 ∧ σ.isCancelled ⟨[0]⟩ = false ∧
      c.roster.isClosed 0 = false ∧ c.holder = none ∧
      roll before.offered = [voltage, current] ∧ st.next.roster.queued 0 = [voltage] ∧
      Trace.received 0 (before ++ st :: later) ++ c.roster.queued 0 = [voltage, inVolts] ∧
      [voltage, inVolts] = [voltage] ++
        (news [voltage, current] (Trace.offered later)).filter voltageOnly.accepts ∧
      ∃ (earlier : Trace) (look : Step) (rest : Trace),
        before ++ st :: later = earlier ++ look :: rest ∧ look.Looks 4 (.filtered voltageOnly) ∧
        roll earlier.offered = [inVolts, current, power] ∧
        look.output = .reply (.registers [inVolts]) := by
  have ends : (play? (changeVoltage ++ .act (.resolve 4) :: []) (fresh {})).map (fun now =>
      (now.2.2.holder.isSome, now.2.1.isCancelled ⟨[0]⟩, now.2.2.roster.isClosed 0,
        now.1.received 0 ++ now.2.2.roster.queued 0)) =
      some (false, false, false, [voltage, inVolts]) := by
    rw [play?_fresh]
    decide +kernel
  have asked : (play? followVoltage (fresh {})).bind (fun now =>
      now.2.2.granted? (.client 0)) = some (.subscribe voltageOnly ⟨[0]⟩) := by
    rw [play?_fresh]
    rfl
  have replied : (play? followVoltage (fresh {})).bind (fun now =>
      (now.2.2.resolve? 0).map Prod.fst) = some (.subscribed 0 ⟨[0]⟩) := by
    rw [play?_fresh]
    rfl
  have looks : (play? changeVoltage (fresh {})).bind (fun now =>
      now.2.2.granted? (.client 4)) = some (.look (.filtered voltageOnly)) := by
    rw [play?_fresh]
    rfl
  obtain ⟨⟨tr, σ, c⟩, played, ends⟩ := Option.map_eq_some_iff.1 ends
  simp only [Prod.mk.injEq, Option.isSome_eq_false_iff, Option.isNone_iff_eq_none] at ends
  obtain ⟨free, goes_on, reader, told⟩ := ends
  have whole : Trace.Unbroken tr := unbroken_of_play? played
    (by simp [changeVoltage, followVoltage, addTwo, adding])
  obtain ⟨earlier, look, rest, split, begun', looks⟩ := exists_look_of_play? looks played
  rw [changeVoltage, List.append_assoc] at played
  obtain ⟨before, st, later, trace, begun, grants⟩ := exists_grant_of_play? asked replied played
  have run : Run {} tr σ c := .of_play? played
  have registers : st.catalog.registers = [voltage, current] := by
    simpa [begun] using play?_followVoltage
  have changed : look.catalog.registers = [inVolts, current, power] := by
    simpa [begun'] using play?_changeVoltage
  have rolled : roll earlier.offered = [inVolts, current, power] := by
    rw [show tr = earlier ++ look :: rest from split] at run whole
    rw [← run.registers_at_step whole looks.granted, changed]
  obtain ⟨announces, tells⟩ := run.announces_news rfl whole
  have answer := tells earlier look rest 4 _ _ split looks rfl
  obtain rfl : tr = before ++ st :: later := trace
  have rolled' : roll before.offered = [voltage, current] := by
    rw [← run.registers_at_step whole grants.granted, registers]
  obtain ⟨replayed, all⟩ := announces before st later 0 voltageOnly ⟨[0]⟩ 0 rfl grants
  have all := told.symm.trans (all goes_on reader free)
  rw [rolled'] at replayed all
  rw [rolled] at answer
  exact ⟨before, st, later, σ, c, run, whole, grants, goes_on, reader, free, rolled', replayed,
    told, all, earlier, look, rest, split, looks, rolled, answer⟩

end Adding

end Telemetry.Catalog
