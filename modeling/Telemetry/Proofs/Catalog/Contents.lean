import Telemetry.Proofs.Catalog.Sequence

/-!
# What a catalog has

A catalog lists each name once, in the order in which the names first had their turn, with the last
register that had its turn under the name. It does so at every moment, whoever gives up what: an
addition that is broken off has put some of its registers and not the rest. The index tells the
place of each name and of no other, and places never change.

## Main definitions

* `Register.listing`: what some registers come to, name by name.
* `Trace.added`: the registers that had their turn.

## Main results

* `Register.roll_eq_listing`: offering registers one after the other comes to their listing.
* `Change.adds`, `Run.registers_eq_listing`: a catalog is the listing of what was added.
* `Change.readds`, `Run.unchanged_since`: to add what is there changes nothing.
* `Run.represents`: all of it.
-/

namespace Telemetry

namespace Register

/-- Each name once, in the order in which names appear, with the last register that has it. -/
def listing (added : List Register) : List Register :=
  (added.map Register.name).eraseDups.filterMap fun name => latest? name added

section Listings

variable {known : List Register} {r : Register}

theorem latest?_of_mem (distinct : (known.map Register.name).Nodup) (member : r ∈ known) :
    latest? r.name known = some r := by
  cases last : latest? r.name known with
  | none => exact absurd rfl (latest?_eq_none.1 last r member)
  | some s =>
    obtain ⟨there, same⟩ := mem_of_latest? last
    rw [List.inj_on_of_nodup_map distinct there member same]

/-- Registers with names of their own are found one by one. -/
theorem filterMap_latest? (distinct : (known.map Register.name).Nodup) :
    (known.map Register.name).filterMap (fun name => latest? name known) = known := by
  have found : ∀ r ∈ known, latest? r.name known = some r :=
    fun r member => latest?_of_mem distinct member
  rw [List.filterMap_map]
  exact (List.filterMap_congr found).trans List.filterMap_some

theorem nodup_eraseDups {α : Type} [BEq α] [LawfulBEq α] (l : List α) : l.eraseDups.Nodup := by
  induction l using List.reverseRecOn with
  | nil => simp
  | append_singleton l a ih =>
    rw [eraseDups_concat]
    split
    next => exact ih
    next new =>
      exact List.nodup_append.2 ⟨ih, List.nodup_singleton a, fun b member c last same =>
        new (List.mem_eraseDups.1 (List.mem_singleton.1 last ▸ same ▸ member))⟩

theorem nodup_map_name_roll (added : List Register) : ((roll added).map Register.name).Nodup := by
  rw [map_name_roll]
  exact nodup_eraseDups _

/-- Offering registers one after the other comes to their listing. -/
theorem roll_eq_listing (added : List Register) : roll added = listing added := by
  calc roll added
      = ((roll added).map Register.name).filterMap fun name => latest? name (roll added) :=
        (filterMap_latest? (nodup_map_name_roll added)).symm
    _ = listing added := by
        simp only [map_name_roll, latest?_roll]
        rfl

end Listings

end Register

namespace Catalog

open Register

/-- The register that has its turn in an addition. -/
def Step.added (st : Step) : List Register :=
  match st.event, st.catalog.holder with
  | .act (.proceed _), some ⟨_, r :: _, none⟩ => [r]
  | _, _ => []

namespace Trace

/-- All registers that had their turn, in order. -/
def added (tr : Trace) : List Register :=
  tr.flatMap Step.added

theorem added_snoc (tr : Trace) (st : Step) : added (tr ++ [st]) = added tr ++ st.added := by
  simp [added]

end Trace

/-! ## Steps -/

section Steps

variable {σ σ' : Signals} {c c' : Catalog} {e : Event} {o : Output}

theorem added_eq_nil (apart : ∀ client, e ≠ .act (.proceed client)) :
    Step.added ⟨σ, c, e, o, c'⟩ = [] := by
  unfold Step.added
  split
  next client _ _ _ is _ => exact absurd is (apart client)
  · rfl

/-- A step lists the register that has its turn. -/
theorem Change.adds (h : Change σ c e σ' c' o) (indexed : c.Indexed) :
    c'.registers = (Step.added ⟨σ, c, e, o, c'⟩).foldl enlist c.registers := by
  cases h with
  | @pass client r left holder known =>
    have same : enlist c.registers r = c.registers := by
      rw [← indexed.registers_put, put_of_named? known]
    simp only [Step.added, holder, List.foldl_cons, List.foldl_nil, same]
  | @announce client r left holder news =>
    simp only [Step.added, holder, List.foldl_cons, List.foldl_nil, indexed.registers_put]
  | deliver holder | finish holder =>
    simp only [Step.added, holder, List.foldl_nil]
  | strike | release =>
    obtain ⟨roster, frame⟩ := forget_frame _
    rw [frame, added_eq_nil (by simp)]
    rfl
  | _ =>
    rw [added_eq_nil (by simp)]
    rfl

/-- What has its turn was to come, and the rest is still to come, unless it is given up. -/
theorem Change.takes_turns (h : Change σ c e σ' c' o) (whole : ¬ Step.Breaks ⟨σ, c, e, o, c'⟩) :
    Step.added ⟨σ, c, e, o, c'⟩ ++ c'.remaining =
      c.remaining ++ Step.offered ⟨σ, c, e, o, c'⟩ := by
  cases h with
  | begin client granted =>
    have free := remaining_of_free (granted?_eq_some granted).1
    rw [added_eq_nil (by simp), free]
    simp only [Step.offered, granted]
    rfl
  | pass holder | announce holder =>
    rw [offered_eq_nil (by simp), remaining_of_holder holder]
    simp only [Step.added, holder]
    exact (List.append_nil _).symm
  | deliver holder | finish holder =>
    rw [offered_eq_nil (by simp), remaining_of_holder holder]
    simp only [Step.added, holder]
    exact (List.append_nil _).symm
  | giveUp holder | done holder =>
    rw [added_eq_nil (by simp), offered_eq_nil (by simp), remaining_of_holder holder]
    exact (List.append_nil _).symm
  | abandon client =>
    rw [added_eq_nil (by simp), offered_eq_nil (by simp), List.append_nil]
    exact remaining_abandon whole
  | strike | release =>
    obtain ⟨roster, frame⟩ := forget_frame _
    rw [frame, added_eq_nil (by simp), offered_eq_nil (by simp)]
    exact (List.append_nil _).symm
  | _ =>
    rw [added_eq_nil (by simp), offered_eq_nil (by simp)]
    exact (List.append_nil _).symm

/-- Names stay at their places. -/
theorem Change.names_le (h : Change σ c e σ' c' o) (indexed : c.Indexed) :
    c.registers.map Register.name <+: c'.registers.map Register.name := by
  rcases h.registers_eq with ⟨-, registers, -⟩ | ⟨r, -, registers, -⟩
  · rw [registers]
  · rw [registers, indexed.registers_put, map_name_enlist]
    split
    · exact List.prefix_rfl
    · exact List.prefix_append _ _

/-- A part of what is to come stays to come, and nothing else comes but what is offered. -/
theorem Change.remaining_subset (h : Change σ c e σ' c' o) :
    c'.remaining ⊆ c.remaining ++ Step.offered ⟨σ, c, e, o, c'⟩ := by
  by_cases breaks : Step.Breaks ⟨σ, c, e, o, c'⟩
  · obtain ⟨client, a, event, holder, own⟩ := breaks
    obtain rfl : e = .act (.abandon client) := event
    cases h
    have holder : c.holder = some a := holder
    have free : (c.abandon client).holder = none := by
      change c.holder.filter (fun a => a.client != client) = none
      simp [holder, own, Option.filter]
    rw [remaining_of_free free]
    exact List.nil_subset _
  · rw [← h.takes_turns breaks]
    exact List.subset_append_right _ _

/-- To add a register that is there changes nothing and announces nothing. -/
theorem Change.readds (h : Change σ c e σ' c' o) (indexed : c.Indexed)
    (known : ∀ r ∈ c.remaining, r ∈ c.registers) :
    c'.registers = c.registers ∧ c'.index = c.index ∧
      (Step.act ⟨σ, c, e, o, c'⟩).published = [] := by
  cases h with
  | @announce client r left holder news =>
    have there : r ∈ c.registers := known r (by simp [remaining_of_holder holder])
    exact absurd (indexed.named?_eq_some.2 ⟨there, rfl⟩) news
  | pass holder known =>
    exact ⟨rfl, rfl, by simp [Step.act, holder, put_fst, known, Desk.Act.published]⟩
  | @deliver client left d d' roster holder served =>
    obtain ⟨s, rest, first⟩ := Roster.first_of_serve? served
    exact ⟨rfl, rfl, by simp [Step.act, holder, first, Desk.Act.published]⟩
  | finish holder served =>
    exact ⟨rfl, rfl, by simp [Step.act, holder, served, Desk.Act.published]⟩
  | strike | release =>
    obtain ⟨roster, frame⟩ := forget_frame _
    rw [frame]
    exact ⟨rfl, rfl, rfl⟩
  | _ => exact ⟨rfl, rfl, published_eq_nil (by simp)⟩

end Steps

/-! ## Runs -/

section Runs

variable {config : CatalogConfig} {tr before later : Trace} {st : Step} {σ : Signals} {c : Catalog}
  {client : Nat} {query : Query}

/-- A catalog is the listing of the registers that had their turn. -/
theorem Run.registers_eq_listing (run : Run config tr σ c) : c.registers = listing tr.added := by
  rw [← roll_eq_listing]
  induction run with
  | start => rfl
  | @step tr σ σ' c c' o run e permitted happened ih =>
    rw [Trace.added_snoc, roll_append, ← ih]
    exact (change_of_effect happened).adds run.indexed

/-- Unless an addition is broken off, all that was offered has had its turn or is still to come. -/
theorem Run.added_remaining (run : Run config tr σ c) (whole : tr.Unbroken) :
    tr.added ++ c.remaining = tr.offered := by
  induction run with
  | start => rfl
  | @step tr σ σ' c c' o run e permitted happened ih =>
    have last : ¬ Step.Breaks ⟨σ, c, e, o, c'⟩ := whole _ (List.mem_append_right _ (by simp))
    have turns := (change_of_effect happened).takes_turns last
    rw [Trace.added_snoc, Trace.offered_snoc, List.append_assoc, turns, ← List.append_assoc,
      ih whole.left]

theorem Run.added_eq_offered (run : Run config tr σ c) (whole : tr.Unbroken)
    (free : c.holder = none) : tr.added = tr.offered := by
  rw [← run.added_remaining whole, remaining_of_free free, List.append_nil]

/-- Names stay at their places. -/
theorem Run.names_le (run : Run config (before ++ st :: later) σ c) :
    st.catalog.registers.map Register.name <+: c.registers.map Register.name := by
  refine run.since (P := fun _ c => _ <+: c.registers.map Register.name) ?_ ?_
  · intro σ earlier change
    exact change.names_le earlier.indexed
  · intro _ _ _ _ _ _ _ earlier _ change so_far
    exact so_far.trans (change.names_le earlier.indexed)

theorem getElem?_of_names_le {known more : List Register} {place : Nat} {r : Register}
    (le : known.map Register.name <+: more.map Register.name) (stands : known[place]? = some r) :
    ∃ s, more[place]? = some s ∧ s.name = r.name := by
  obtain ⟨others, same⟩ := le
  have named : (known.map Register.name)[place]? = some r.name := by simp [stands]
  have stays : (more.map Register.name)[place]? = some r.name := by
    rw [← same, List.getElem?_append_left (List.getElem?_eq_some_iff.1 named).1, named]
  simpa using stays

/-- A name that is indexed stays indexed at its place. -/
theorem Run.index_le (run : Run config (before ++ st :: later) σ c) {name : String} {place : Nat}
    (there : st.catalog.index[name]? = some place) : c.index[name]? = some place := by
  obtain ⟨_, earlier, -⟩ := run.at_step
  obtain ⟨r, stands, rfl⟩ := (earlier.indexed name place).1 there
  exact (run.indexed r.name place).2 (getElem?_of_names_le run.names_le stands)

/-- While only registers are offered that are there, a catalog stays as it is and announces
nothing. -/
theorem Run.unchanged_since (run : Run config (before ++ st :: later) σ c)
    (free : st.catalog.holder = none)
    (known : ∀ r ∈ Trace.offered (st :: later), r ∈ st.catalog.registers) :
    c.registers = st.catalog.registers ∧ c.index = st.catalog.index ∧
      Trace.announced (st :: later) = [] := by
  suffices c.registers = st.catalog.registers ∧ c.index = st.catalog.index ∧
      Trace.announced (st :: later) = [] ∧ ∀ r ∈ c.remaining, r ∈ st.catalog.registers by
    tauto
  induction later using List.reverseRecOn generalizing σ c with
  | nil =>
    obtain ⟨earlier, -, happened, rfl⟩ := run.last
    have change := change_of_effect happened
    have idle := remaining_of_free free
    obtain ⟨registers, index, silent⟩ := change.readds earlier.indexed (by simp [idle])
    refine ⟨registers, index, (Trace.announced_snoc [] st).trans silent, fun r later => ?_⟩
    have offered := change.remaining_subset later
    rw [idle, List.nil_append] at offered
    exact known r (by simpa [Trace.offered] using offered)
  | append_singleton later last ih =>
    rw [← List.cons_append] at known ⊢
    rw [← List.cons_append, ← List.append_assoc] at run
    obtain ⟨earlier, -, happened, rfl⟩ := run.last
    have change := change_of_effect happened
    rw [Trace.offered_snoc] at known
    obtain ⟨registers, index, silent, coming⟩ :=
      ih earlier fun r member => known r (List.mem_append_left _ member)
    obtain ⟨registers', index', silent'⟩ :=
      change.readds earlier.indexed fun r member => registers ▸ coming r member
    refine ⟨registers'.trans registers, index'.trans index, ?_, fun r later => ?_⟩
    · rw [Trace.announced_snoc, silent, silent']
      rfl
    · rcases List.mem_append.1 (change.remaining_subset later) with before | offered
      · exact coming r before
      · exact known r (List.mem_append_right _ offered)

/-- At every moment of every run, whoever gives up what: the index tells the place of each name and
of no other, each name occurs once, names stay at their places, and a catalog lists each name that
had its turn, in the order of their first turns, with the last register under it. That is what those
are told who look, and unless an addition is broken off it is about all that was offered, however it
was split into additions. To add what is there, in any order and as often as one likes, changes
nothing and announces nothing. -/
theorem Run.represents (run : Run config tr σ c) :
    c.Indexed ∧ (c.registers.map Register.name).Nodup ∧ c.registers = listing tr.added ∧
    (tr.Unbroken → c.holder = none → tr.added = tr.offered) ∧
    (∀ before st later, tr = before ++ st :: later →
      st.catalog.registers.map Register.name <+: c.registers.map Register.name ∧
      ∀ (name : String) (place : Nat),
        st.catalog.index[name]? = some place → c.index[name]? = some place) ∧
    (∀ before st later client query, tr = before ++ st :: later → st.Looks client query →
      (Trace.Unbroken before → Trace.added before = Trace.offered before) ∧
      ∀ reply, tell (listing (Trace.added before)) query = some reply →
        st.output = .reply reply) ∧
    ∀ before st later, tr = before ++ st :: later → st.catalog.holder = none →
      (∀ r ∈ Trace.offered (st :: later), r ∈ st.catalog.registers) →
      c.registers = st.catalog.registers ∧ c.index = st.catalog.index ∧
        Trace.announced (st :: later) = [] := by
  have listed := run.registers_eq_listing
  refine ⟨run.indexed, ?_, listed, run.added_eq_offered, ?_, ?_, ?_⟩
  · rw [listed, ← roll_eq_listing]
    exact nodup_map_name_roll _
  · rintro before st later rfl
    exact ⟨run.names_le, fun name place => run.index_le⟩
  · rintro before st later client query rfl looks
    obtain ⟨_, earlier, -⟩ := run.at_step
    have free := (granted?_eq_some looks.granted).1
    refine ⟨fun whole => earlier.added_eq_offered whole free, fun reply answer => ?_⟩
    rw [← earlier.registers_eq_listing] at answer
    exact run.answered looks answer
  · rintro before st later rfl free known
    exact run.unchanged_since free known

end Runs

/-! ## Registers that are added twice -/

section Again

/-- Of two registers that a client has added, somebody asks for those with one name. -/
def lookForVoltage : List Event :=
  addTwo ++ [.act (.ask 4 (.look (.filtered voltageOnly)))]

/-- The question is answered, and then both are added again, one of them twice. -/
def addAgain : List Event :=
  [.act (.ask 3 (.add [current, voltage, current])), .act (.begin 3), .act (.proceed 3),
    .act (.proceed 3), .act (.proceed 3), .act (.resolve 3)]

theorem play?_lookForVoltage :
    (play? lookForVoltage (fresh {})).map (fun now => now.2.2.registers) =
      some [voltage, current] := by
  rw [play?_fresh]
  decide +kernel

theorem two_added_again :
    ∃ (before : Trace) (st : Step) (later : Trace) (σ : Signals) (c : Catalog),
      Run {} (before ++ st :: later) σ c ∧ st.catalog.holder = none ∧
      Trace.offered (st :: later) = [current, voltage, current] ∧
      c.registers = [voltage, current] ∧ c.registers = st.catalog.registers ∧
      Trace.announced (st :: later) = [] ∧
      ∃ (earlier : Trace) (look : Step) (rest : Trace),
        before ++ st :: later = earlier ++ look :: rest ∧ look.Looks 4 (.filtered voltageOnly) ∧
        listing earlier.added = [voltage, current] ∧
        look.output = .reply (.registers [voltage]) := by
  have ends : (play? (lookForVoltage ++ .act (.resolve 4) :: addAgain) (fresh {})).map
      (fun now => (now.2.2.registers, Trace.offered (now.1.drop 9))) =
        some ([voltage, current], [current, voltage, current]) := by
    rw [play?_fresh]
    decide +kernel
  have idle : (play? (lookForVoltage ++ [.act (.resolve 4)]) (fresh {})).map (fun now =>
      (now.1.length, now.2.2.holder.isSome, now.2.2.registers)) =
        some (9, false, [voltage, current]) := by
    rw [play?_fresh]
    decide +kernel
  have looks : (play? lookForVoltage (fresh {})).bind (fun now =>
      now.2.2.granted? (.client 4)) = some (.look (.filtered voltageOnly)) := by
    rw [play?_fresh]
    rfl
  obtain ⟨⟨tr, σ, c⟩, played, ends⟩ := Option.map_eq_some_iff.1 ends
  obtain ⟨registers, offered⟩ := Prod.mk.inj ends
  have run : Run {} tr σ c := .of_play? played
  obtain ⟨-, -, -, -, -, tells, readds⟩ := run.represents
  obtain ⟨earlier, look, rest, split, begun, looks⟩ := exists_look_of_play? looks played
  rw [List.append_cons, addAgain] at played
  obtain ⟨before, st, later, trace, -, begun'⟩ := exists_step_of_play? played
  simp only [begun', Option.map_some, Option.some.injEq, Prod.mk.injEq, Option.isSome_eq_false_iff,
    Option.isNone_iff_eq_none] at idle
  obtain ⟨length, free, known⟩ := idle
  obtain rfl : tr = before ++ st :: later := trace
  have again : Trace.offered (st :: later) = [current, voltage, current] := by
    have offered : Trace.offered ((before ++ st :: later).drop 9) = _ := offered
    rwa [← length, List.drop_left] at offered
  have unchanged := readds before st later rfl free (by simp [again, known])
  have listed : listing earlier.added = [voltage, current] := by
    rw [show before ++ st :: later = earlier ++ look :: rest from split] at run
    obtain ⟨_, earlier_run, -⟩ := run.at_step
    rw [← earlier_run.registers_eq_listing]
    simpa [begun] using play?_lookForVoltage
  have answer := (tells earlier look rest 4 _ split looks).2 _ rfl
  rw [listed] at answer
  exact ⟨before, st, later, σ, c, run, free, again, registers, unchanged.1, unchanged.2.2,
    earlier, look, rest, split, looks, listed, answer⟩

end Again

end Catalog

end Telemetry
