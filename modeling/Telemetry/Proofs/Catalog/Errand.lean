import Telemetry.Proofs.Catalog.Delivery

/-!
# What a catalog holds for its clients

A client either stands in line for the lock or holds it, and once it has its answer nothing is held
for it any more. What it is told fits what it stood in line for.

## Main definitions

* `Catalog.Free`: nothing is held for a client.
* `Catalog.Hosts`: whatever is held for clients is what they want.

## Main results

* `Change.hosts`, `Change.resolves`: what each event does to the clients.
-/

namespace Telemetry.Catalog

/-- Nothing is held for a client. -/
structure Free (c : Catalog) (client : Nat) : Prop where
  line : ∀ access, (.client client, access) ∉ c.line
  holder : ∀ a, c.holder = some a → a.client ≠ client

/-- Whatever a catalog holds for clients is what they want. -/
structure Hosts (wants : Nat → Access → Prop) (c : Catalog) : Prop where
  line : ∀ n access, (.client n, access) ∈ c.line → wants n access
  holder : ∀ a, c.holder = some a → ∃ registers, wants a.client (.add registers)
  /-- Whoever holds the lock stands in line no more. -/
  apart : ∀ a, c.holder = some a → ∀ access, (.client a.client, access) ∉ c.line

section Leaving

variable {c : Catalog} {wants wants' : Nat → Access → Prop} {client : Nat}

theorem not_mem_leave (c : Catalog) (client : Nat) (access : Access) :
    (.client client, access) ∉ (c.leave (.client client)).line := by
  simp [leave]

theorem Hosts.leave (hosts : Hosts wants c) (party : Party) : Hosts wants (c.leave party) where
  line n access waits := hosts.line n access (List.mem_of_mem_filter waits)
  holder := hosts.holder
  apart a holder access waits := hosts.apart a holder access (List.mem_of_mem_filter waits)

theorem Hosts.congr {c' : Catalog} (hosts : Hosts wants c) (line : c'.line = c.line)
    (holder : c'.holder = c.holder) : Hosts wants c' where
  line := line ▸ hosts.line
  holder := holder ▸ hosts.holder
  apart := line ▸ holder ▸ hosts.apart

theorem Hosts.forget (hosts : Hosts wants c) : Hosts wants c.forget := by
  obtain ⟨roster, frame⟩ := c.forget_frame
  rw [frame]
  exact hosts.congr rfl rfl

/-- The holder goes on with its addition. -/
theorem Hosts.proceed {c' : Catalog} {left left' : List Register}
    {d d' : Option (Delivery Register)} (hosts : Hosts wants c)
    (holder : c.holder = some ⟨client, left, d⟩) (line : c'.line = c.line)
    (holder' : c'.holder = some ⟨client, left', d'⟩) : Hosts wants c' where
  line := line ▸ hosts.line
  holder a holds := by
    cases holder'.symm.trans holds
    exact hosts.holder ⟨client, left, d⟩ holder
  apart a holds := by
    cases holder'.symm.trans holds
    exact line ▸ hosts.apart ⟨client, left, d⟩ holder

/-- Nothing is held for a client that wants nothing. -/
theorem Hosts.free (hosts : Hosts wants c) (idle : ∀ access, ¬ wants client access) :
    c.Free client where
  line access waits := idle access (hosts.line client access waits)
  holder a holds := by
    rintro rfl
    obtain ⟨registers, wanted⟩ := hosts.holder a holds
    exact idle _ wanted

/-- A client for which nothing is held may want anything. -/
theorem Hosts.alter (hosts : Hosts wants c)
    (keeps : ∀ n access, ¬ c.Free n → wants n access → wants' n access) : Hosts wants' c where
  line n access waits :=
    keeps n access (fun free => free.line access waits) (hosts.line n access waits)
  holder a holds := by
    obtain ⟨registers, wanted⟩ := hosts.holder a holds
    exact ⟨registers, keeps _ _ (fun free => free.holder a holds rfl) wanted⟩
  apart := hosts.apart

end Leaving

section Steps

variable {σ σ' : Signals} {c c' : Catalog} {e : Event} {o : Output}
  {wants : Nat → Access → Prop} {client : Nat}

/-- Whoever asks has nothing else under way and wants what it asks for. -/
theorem Change.hosts (h : Change σ c e σ' c' o) (hosts : Hosts wants c)
    (asks : ∀ n access, e = .act (.ask n access) → c.Free n ∧ wants n access) :
    Hosts wants c' := by
  cases h with
  | ask n access =>
    obtain ⟨free, wanted⟩ := asks n access rfl
    refine ⟨fun k wish waits => ?_, hosts.holder, fun a holds wish waits => ?_⟩
    · rcases List.mem_append.1 waits with before | last
      · exact hosts.line k wish before
      · cases List.mem_singleton.1 last
        exact wanted
    · rcases List.mem_append.1 waits with before | last
      · exact hosts.apart a holds wish before
      · cases List.mem_singleton.1 last
        exact free.holder a holds rfl
  | begin n granted =>
    obtain ⟨-, waits⟩ := granted?_eq_some granted
    refine ⟨(hosts.leave _).line, fun a holds => ?_, fun a holds access => ?_⟩
    · cases holds
      exact ⟨_, hosts.line n _ waits⟩
    · cases holds
      exact not_mem_leave c n access
  | @announce n r left holder =>
    obtain ⟨registers, index, frame⟩ := c.put_frame r
    rw [frame]
    exact hosts.proceed holder rfl rfl
  | pass holder | deliver holder | finish holder | giveUp holder =>
    exact hosts.proceed holder rfl rfl
  | look | refuse => exact hosts.leave _
  | grant => exact (hosts.leave _).congr rfl rfl
  | done => exact ⟨hosts.line, nofun, nofun⟩
  | abandon n =>
    have still {a : Addition} (holds : (c.abandon n).holder = some a) : c.holder = some a :=
      (Option.filter_eq_some_iff.1 holds).1
    exact ⟨(hosts.leave _).line, fun a holds => hosts.holder a (still holds),
      fun a holds => (hosts.leave _).apart a (still holds)⟩
  | wake =>
    refine ⟨fun k wish waits => ?_, hosts.holder, fun a holds wish waits => ?_⟩
    · rcases List.mem_append.1 waits with before | last
      · exact hosts.line k wish before
      · cases List.mem_singleton.1 last
    · rcases List.mem_append.1 waits with before | last
      · exact hosts.apart a holds wish before
      · cases List.mem_singleton.1 last
  | sleep => exact hosts.congr rfl rfl
  | @strike _ id =>
    exact Hosts.forget (Hosts.congr (hosts.leave (.watcher id)) rfl rfl)
  | release => exact Hosts.forget (Hosts.congr hosts rfl rfl)
  | read | retain => exact hosts.congr rfl rfl
  | close => exact hosts.congr rfl rfl
  | _ => exact hosts

/-- A client that has its answer has nothing under way, and a subscription is what it wanted. -/
theorem Change.resolves (h : Change σ c (.act (.resolve client)) σ' c' o)
    (hosts : Hosts wants c) :
    c'.Free client ∧ ∃ r, o = .reply r ∧ ∀ id token, r = .subscribed id token →
      ∃ filter : RegisterFilter, wants client (.subscribe filter token) ∧ id = c.roster.nextId ∧
        ∃ initial extra, c'.roster = c.roster.enroll filter.accepts token initial extra := by
  have leaves {c' : Catalog} (free : c.holder = none)
      (line : c'.line = (c.leave (.client client)).line) (holder : c'.holder = c.holder) :
      c'.Free client :=
    ⟨fun access => line ▸ not_mem_leave c client access, by simp [holder, free]⟩
  cases h with
  | look _ granted =>
    refine ⟨leaves (granted?_eq_some granted).1 rfl rfl, _, rfl, fun id token same => ?_⟩
    rename_i query
    cases query <;> cases same
  | grant _ granted =>
    obtain ⟨free, waits⟩ := granted?_eq_some granted
    refine ⟨leaves free rfl rfl, _, rfl, ?_⟩
    rintro id token ⟨⟩
    exact ⟨_, hosts.line _ _ waits, rfl, _, _, rfl⟩
  | refuse _ granted => exact ⟨leaves (granted?_eq_some granted).1 rfl rfl, _, rfl, nofun⟩
  | done holder => exact ⟨⟨hosts.apart _ holder, nofun⟩, _, rfl, nofun⟩

end Steps

end Telemetry.Catalog
