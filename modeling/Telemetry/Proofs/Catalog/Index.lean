import Std.Data.HashMap.Lemmas
import Telemetry.Proofs.Catalog.Delivery

/-!
# What a catalog knows

The index of a catalog tells where the register with each name stands, so a catalog has one register
under a name: the one that was announced last under it. Whatever happens to a catalog happens in the
same way without the index, if names are looked for among the registers.

## Main definitions

* `Catalog.Indexed`: the index tells where registers stand.
* `Catalog.actListed?`, `playListed?`: steps without the index.

## Main results

* `Indexed.named?_put`: what is put into a catalog is found.
* `Run.named?_eq_latest?`: a catalog knows what was announced last.
* `Indexed.act?_eq`, `play?_fresh`: steps are the same without the index.
-/

namespace Telemetry

namespace Register

/-- The last of some registers that has the name. -/
def latest? (name : String) (l : List Register) : Option Register :=
  l.reverse.find? fun r => r.name == name

section Latest

variable {name : String} {r : Register} {l : List Register}

@[simp] theorem latest?_nil : latest? name [] = none := rfl

@[simp, grind =] theorem latest?_append (l l' : List Register) :
    latest? name (l ++ l') = (latest? name l').or (latest? name l) := by
  simp [latest?, List.find?_append]

@[simp, grind =] theorem latest?_singleton :
    latest? name [r] = if r.name = name then some r else none := by
  by_cases same : r.name = name <;> simp [latest?, same]

theorem mem_of_latest? (h : latest? name l = some r) : r ∈ l ∧ r.name = name := by
  have member := List.mem_of_find?_eq_some h
  have named := List.find?_some h
  exact ⟨List.mem_reverse.1 member, by simpa using named⟩

theorem latest?_eq_none : latest? name l = none ↔ ∀ r ∈ l, r.name ≠ name := by
  simp [latest?]

/-- What is found first is found first among fewer, if it is one of them. -/
theorem find?_filter_eq_some {α : Type} {p q : α → Bool} {l : List α} {a : α}
    (found : l.find? q = some a) (picked : p a = true) : (l.filter p).find? q = some a := by
  induction l with
  | nil => cases found
  | cons b l ih => grind

theorem latest?_filter {p : Register → Bool} (last : latest? name l = some r)
    (accepted : p r = true) : latest? name (l.filter p) = some r := by
  rw [latest?, ← List.filter_reverse]
  exact find?_filter_eq_some last accepted

end Latest

end Register

namespace Catalog

open Register

/-- The index of a catalog tells where the register with each name stands. -/
def Indexed (c : Catalog) : Prop :=
  ∀ (name : String) (place : Nat),
    c.index[name]? = some place ↔ ∃ r : Register, c.registers[place]? = some r ∧ r.name = name

section Indexes

variable {c : Catalog} {name : String} {r : Register}

theorem Indexed.named?_eq_some (indexed : c.Indexed) :
    c.named? name = some r ↔ r ∈ c.registers ∧ r.name = name := by
  unfold named?
  constructor
  · intro found
    obtain ⟨place, there, stands⟩ := Option.bind_eq_some_iff.1 found
    obtain ⟨s, stands', named⟩ := (indexed name place).1 there
    cases stands.symm.trans stands'
    exact ⟨List.mem_of_getElem? stands, named⟩
  · rintro ⟨member, named⟩
    obtain ⟨place, stands⟩ := List.mem_iff_getElem?.1 member
    have there := (indexed name place).2 ⟨r, stands, named⟩
    rw [there]
    exact stands

/-- A catalog has one register under a name. -/
theorem Indexed.latest?_registers (indexed : c.Indexed) (name : String) :
    latest? name c.registers = c.named? name := by
  cases last : latest? name c.registers with
  | some r => exact (indexed.named?_eq_some.2 (mem_of_latest? last)).symm
  | none =>
    cases found : c.named? name with
    | none => rfl
    | some r =>
      obtain ⟨member, named⟩ := indexed.named?_eq_some.1 found
      exact absurd named (latest?_eq_none.1 last r member)

theorem Indexed.put (indexed : c.Indexed) (r : Register) : (c.put r).2.Indexed := by
  unfold Catalog.put
  split
  next place there =>
    split
    · exact indexed
    · intro name p
      obtain ⟨s, stands, named⟩ := (indexed _ _).1 there
      have before := indexed name p
      grind
  next missing =>
    intro name p
    have before := indexed name p
    have others := fun p => indexed r.name p
    dsimp only
    grind

/-- What is put into a catalog is found under its name, and the rest is found as before. -/
theorem Indexed.named?_put (indexed : c.Indexed) (r : Register) (name : String) :
    (c.put r).2.named? name = if r.name = name then some r else c.named? name := by
  have places := indexed name
  have own := indexed r.name
  unfold Catalog.put named?
  split
  next place there =>
    obtain ⟨s, stands, named⟩ := (own place).1 there
    split
    · grind
    · grind
  next missing =>
    grind

end Indexes

section Steps

variable {σ σ' : Signals} {c c' : Catalog} {e : Event} {o : Output}

/-- Nothing is announced but by one who adds registers. -/
theorem published_eq_nil (apart : ∀ client, e ≠ .act (.proceed client)) :
    (Step.act ⟨σ, c, e, o, c'⟩).published = [] := by
  unfold Step.act
  split
  · split <;> rfl
  next client is => exact absurd is (apart client)
  · split
    · split <;> rfl
    · rfl
  · split <;> rfl
  · rfl

/-- The registers of a catalog change only by what is announced. -/
theorem Change.registers_eq (h : Change σ c e σ' c' o) :
    (Step.act ⟨σ, c, e, o, c'⟩).published = [] ∧ c'.registers = c.registers ∧ c'.index = c.index ∨
      ∃ r, (Step.act ⟨σ, c, e, o, c'⟩).published = [r] ∧
        c'.registers = (c.put r).2.registers ∧ c'.index = (c.put r).2.index := by
  cases h with
  | pass holder known =>
    exact .inl ⟨by simp [Step.act, holder, put_fst, known, Desk.Act.published], rfl, rfl⟩
  | @announce client r left holder news =>
    exact .inr ⟨r, by simp [Step.act, holder, put_fst, news, Desk.Act.published], rfl, rfl⟩
  | @deliver client left d d' roster holder =>
    refine .inl ⟨?_, rfl, rfl⟩
    cases first : d.rest <;> simp [Step.act, holder, first, Desk.Act.published]
  | finish holder served =>
    exact .inl ⟨by simp [Step.act, holder, served, Desk.Act.published], rfl, rfl⟩
  | strike | release =>
    obtain ⟨roster, frame⟩ := forget_frame _
    rw [frame]
    exact .inl ⟨rfl, rfl, rfl⟩
  | _ => exact .inl ⟨published_eq_nil (by simp), rfl, rfl⟩

theorem Change.indexed (h : Change σ c e σ' c' o) (indexed : c.Indexed) : c'.Indexed := by
  unfold Indexed
  rcases h.registers_eq with ⟨-, registers, index⟩ | ⟨r, -, registers, index⟩
  · rw [registers, index]
    exact indexed
  · rw [registers, index]
    exact indexed.put r

/-- What a catalog has under a name is what was announced last under it. -/
theorem Change.named?_eq (h : Change σ c e σ' c' o) (indexed : c.Indexed) (name : String) :
    c'.named? name =
      (latest? name (Step.act ⟨σ, c, e, o, c'⟩).published).or (c.named? name) := by
  rcases h.registers_eq with ⟨silent, registers, index⟩ | ⟨r, announced, registers, index⟩
  · rw [silent, named?, registers, index]
    rfl
  · have put : c'.named? name = (c.put r).2.named? name := by
      rw [named?, registers, index]
      rfl
    rw [put, indexed.named?_put, announced, latest?_singleton]
    split <;> rfl

end Steps

section Runs

variable {config : CatalogConfig} {tr : Trace} {σ : Signals} {c : Catalog}

theorem indexed_ofConfig (config : CatalogConfig) : (ofConfig config).Indexed := by
  intro name place
  simp [ofConfig]

theorem Run.indexed (run : Run config tr σ c) : c.Indexed := by
  induction run with
  | start => exact indexed_ofConfig config
  | step run e permitted happened ih => exact (change_of_effect happened).indexed ih

/-- A catalog knows what was announced last under each name. -/
theorem Run.named?_eq_latest? (run : Run config tr σ c) (name : String) :
    c.named? name = latest? name tr.announced := by
  induction run with
  | start => simp [ofConfig, named?, Trace.announced, Trace.history]
  | @step tr σ σ' c c' o run e permitted happened ih =>
    have now := (change_of_effect happened).named?_eq run.indexed name
    have more : Trace.announced (tr ++ [⟨σ, c, e, o, c'⟩]) =
        tr.announced ++ (Step.act ⟨σ, c, e, o, c'⟩).published := by
      rw [Trace.announced, Trace.history, List.map_append]
      exact Desk.published_snoc _ _
    rw [more, latest?_append, now, ih]

end Runs

/-! ## Steps without the index -/

/-- The place of the register with a name, looked for among the registers. -/
def place? (name : String) (c : Catalog) : Option Nat :=
  c.registers.findIdx? fun r => r.name == name

/-- Puts a register where the place of its name is known, or last. -/
def putAt (place : Option Nat) (r : Register) (c : Catalog) : Bool × Catalog :=
  match place with
  | some place =>
    if c.registers[place]? = some r then (false, c)
    else (true, { c with registers := c.registers.set place r })
  | none =>
    (true, { c with
      registers := c.registers ++ [r]
      index := c.index.insert r.name c.registers.length })

/-- The effect of a step, without the index. -/
def actListed? (σ : Signals) (a : Action) (c : Catalog) : Option (Catalog × Output) :=
  match a, c.holder with
  | .proceed client, some ⟨owner, r :: left, none⟩ =>
    if owner != client then none
    else
      let (changed, c) := c.putAt (c.place? r.name) r
      let delivery := if changed then some (c.roster.deliver r) else none
      some ({ c with holder := some ⟨owner, left, delivery⟩ }, .nothing)
  | a, _ => c.act? σ a

def Event.effectListed? (σ : Signals) (c : Catalog) :
    Event → Option (Signals × Catalog × Output)
  | act a => (c.actListed? σ a).map fun (c, o) => (σ, c, o)
  | e => e.effect? σ c

/-- Lets events happen one after the other, without the index. -/
def playListed? : List Event → Trace × Signals × Catalog → Option (Trace × Signals × Catalog)
  | [], now => some now
  | e :: rest, (tr, σ, c) =>
    if e.Permitted c then
      (e.effectListed? σ c).bind fun (σ', c', o) =>
        playListed? rest (tr ++ [⟨σ, c, e, o, c'⟩], σ', c')
    else none

section Listed

variable {config : CatalogConfig} {tr : Trace} {σ : Signals} {c : Catalog}

theorem Indexed.index_eq (indexed : c.Indexed) (name : String) :
    c.index[name]? = c.place? name := by
  cases found : c.place? name with
  | some place =>
    obtain ⟨less, named, -⟩ := List.findIdx?_eq_some_iff_getElem.1 found
    exact (indexed name place).2 ⟨_, List.getElem?_eq_getElem less, by simpa using named⟩
  | none =>
    rw [Option.eq_none_iff_forall_ne_some]
    intro place there
    obtain ⟨r, stands, named⟩ := (indexed name place).1 there
    have other := List.findIdx?_eq_none_iff.1 found r (List.mem_of_getElem? stands)
    simp [named] at other

theorem Indexed.put_eq (indexed : c.Indexed) (r : Register) :
    c.put r = c.putAt (c.place? r.name) r := by
  rw [Catalog.put, indexed.index_eq]
  rfl

theorem Indexed.act?_eq (indexed : c.Indexed) (a : Action) : c.act? σ a = c.actListed? σ a := by
  unfold actListed?
  split
  next client owner r left holder =>
    simp only [act?, proceed?, holder, indexed.put_eq]
    split <;> rfl
  · rfl

theorem Indexed.effect?_eq (indexed : c.Indexed) (e : Event) :
    e.effect? σ c = e.effectListed? σ c := by
  cases e with
  | act a => rw [Event.effect?, indexed.act?_eq, Event.effectListed?]
  | fire t => rfl

/-- In a run, events have the same effect without the index. -/
theorem Run.play?_eq (run : Run config tr σ c) (events : List Event) :
    play? events (tr, σ, c) = playListed? events (tr, σ, c) := by
  induction events generalizing tr σ c with
  | nil => rfl
  | cons e rest ih =>
    rw [play?, playListed?, ← run.indexed.effect?_eq]
    split
    next permitted =>
      cases happened : e.effect? σ c with
      | none => rfl
      | some next =>
        obtain ⟨σ', c', o⟩ := next
        exact ih (run.step e permitted happened)
    · rfl

theorem play?_fresh (config : CatalogConfig) (events : List Event) :
    play? events (fresh config) = playListed? events (fresh config) :=
  (Run.start {}).play?_eq events

end Listed

end Catalog

end Telemetry
