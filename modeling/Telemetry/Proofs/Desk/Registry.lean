import Mathlib.Data.List.Nodup
import Telemetry.Proofs.Desk

/-!
# Who is on the roster

The subscribers on a roster are some of those whose subscription was granted, in the order in which
they came, and each grant has a queue of its own. A subscriber is struck off only if its
subscription is cancelled or its reader is gone.

## Main definitions

* `Desk.Registered`: roster, queues and delivery fit the history.
* `Desk.Attended`: whoever is live is on the roster.
-/

namespace Telemetry.Desk

open scoped List

variable {α : Type}

/-- Roster, queues and delivery of a desk fit its history. -/
structure Registered (overflow : Overflow) (h : History α) (x : Desk α) : Prop where
  ascending : (grants h).Pairwise fun p q => p.1.id < q.1.id
  known : ∀ p ∈ grants h, p.1.id < x.roster.nextId ∧ p.2 ≤ (published h).length
  subscribers : x.roster.subscribers <+ (grants h).map fun p => p.1.subscriber
  shape : x.roster.shape = (grants h).map fun p => (p.1.id, p.1.capacity)
  fits : x.roster.Fits
  rest : ∀ d, x.delivery = some d → d.rest <:+ x.roster.subscribers
  wanted : ∀ d s rest, x.delivery = some d → d.rest = s :: rest → d.blocked = true →
    s.accepts d.item = true
  unknown : ∀ id, x.roster.nextId ≤ id → received id h = [] ∧ log id h = []

section Facts

variable {overflow : Overflow} {h : History α} {x : Desk α} {d : Delivery α} {s s' : Subscriber α}
  {p q : Grant α × Nat}

theorem Registered.distinct (reg : Registered overflow h x) :
    ((grants h).map fun p => p.1.id).Nodup :=
  List.pairwise_map.2 (reg.ascending.imp Nat.ne_of_lt)

/-- Grants have numbers of their own. -/
theorem Registered.grant_eq (reg : Registered overflow h x) (granted : p ∈ grants h)
    (granted' : q ∈ grants h) (same : p.1.id = q.1.id) : p = q :=
  List.inj_on_of_nodup_map reg.distinct granted granted' same

theorem Registered.exists_grant (reg : Registered overflow h x) (on : s ∈ x.roster.subscribers) :
    ∃ p ∈ grants h, p.1.subscriber = s :=
  List.mem_map.1 (reg.subscribers.subset on)

theorem Registered.mem_of_rest (reg : Registered overflow h x) (delivering : x.delivery = some d)
    (member : s ∈ d.rest) : s ∈ x.roster.subscribers :=
  (reg.rest d delivering).subset member

theorem Registered.subscriber_lt (reg : Registered overflow h x) (on : s ∈ x.roster.subscribers) :
    s.id < x.roster.nextId := by
  obtain ⟨p, granted, rfl⟩ := reg.exists_grant on
  exact (reg.known p granted).1

/-- The subscriber with the number of a grant is that of the grant. -/
theorem Registered.eq_subscriber (reg : Registered overflow h x) (granted : p ∈ grants h)
    (on : s ∈ x.roster.subscribers) (same : s.id = p.1.id) : s = p.1.subscriber := by
  obtain ⟨q, granted', rfl⟩ := reg.exists_grant on
  rw [reg.grant_eq granted' granted same]

theorem Registered.exists_outbox (reg : Registered overflow h x) (granted : p ∈ grants h) :
    ∃ b, x.roster.outbox? p.1.id = some b ∧ b.capacity = p.1.capacity := by
  refine Roster.exists_of_shape (reg.shape ▸ List.mem_map.2 ⟨p, granted, rfl⟩) ?_
  rw [reg.shape, List.map_map]
  exact reg.distinct

theorem Registered.outbox_lt (reg : Registered overflow h x) {id : Nat} {b : Outbox α}
    (there : x.roster.outbox? id = some b) : id < x.roster.nextId := by
  have member := Roster.shape_of_outbox? there
  rw [reg.shape] at member
  obtain ⟨p, granted, same⟩ := List.mem_map.1 member
  obtain ⟨rfl, -⟩ := Prod.mk.inj same
  exact (reg.known p granted).1

theorem Registered.fresh (reg : Registered overflow h x) :
    x.roster.outbox? x.roster.nextId = none := by
  cases there : x.roster.outbox? x.roster.nextId with
  | none => rfl
  | some b => exact absurd (reg.outbox_lt there) (Nat.lt_irrefl _)

/-- A queue without room holds as many items as its grant says. -/
theorem Registered.full (reg : Registered overflow h x) (on : s ∈ x.roster.subscribers)
    (full : x.roster.hasRoom s.id = false) :
    ∃ p ∈ grants h, p.1.subscriber = s ∧ ∃ b, x.roster.outbox? s.id = some b ∧
      b.items.length = p.1.capacity := by
  obtain ⟨p, granted, rfl⟩ := reg.exists_grant on
  obtain ⟨b, there, capacity⟩ := reg.exists_outbox granted
  have there : x.roster.outbox? p.1.subscriber.id = some b := there
  have le := (reg.fits _ b there).1
  have ge : ¬ b.items.length < b.capacity := by
    simpa [Roster.hasRoom, there, Outbox.hasRoom] using full
  exact ⟨p, granted, rfl, b, there, by omega⟩

end Facts

/-! ## Steps -/

section Steps

variable {σ σ' : Signals} {overflow : Overflow} {h : History α} {x x' : Desk α} {a : Act α}

theorem Change.nextId_le (change : x.Change σ overflow a x') :
    x.roster.nextId ≤ x'.roster.nextId := by
  cases change with
  | enroll | skip => exact Nat.le_succ _
  | turn delivering first turn => cases turn <;> exact Nat.le_refl _
  | read item =>
    obtain ⟨b, rest, -, -, rfl⟩ := Roster.read?_eq_some item
    exact Nat.le_refl _
  | _ => exact Nat.le_refl _

/-- What a turn leaves of a delivery and of the subscribers. -/
theorem Turn.rest {r r' : Roster α} {d d' : Delivery α} {s : Subscriber α} {fate : Option Fate}
    (turn : r.Turn σ overflow d s fate d' r') :
    r'.subscribers = r.subscribers ∧
      (d'.rest = d.rest.tail ∧ d'.blocked = false ∨
        d' = { d with blocked := true } ∧ s.accepts d.item = true) := by
  cases turn with
  | block wanted => exact ⟨rfl, .inr ⟨rfl, wanted⟩⟩
  | _ => exact ⟨rfl, .inl ⟨rfl, rfl⟩⟩

theorem Change.grants_eq (change : x.Change σ overflow a x') (n : Nat) :
    (a.granted n = [] ∧ x'.roster.shape = x.roster.shape ∧
      x'.roster.subscribers <+ x.roster.subscribers) ∨
    ∃ g : Grant α, a.granted n = [(g, n)] ∧ g.id = x.roster.nextId ∧
      x'.roster.nextId = x.roster.nextId + 1 ∧
      x'.roster.shape = x.roster.shape ++ [(g.id, g.capacity)] ∧
      x'.roster.subscribers = x.roster.subscribers ++ [g.subscriber] := by
  cases change with
  | enroll accepts token initial extra =>
    exact .inr ⟨_, rfl, rfl, rfl, Roster.shape_enroll .., rfl⟩
  | turn delivering first turn =>
    exact .inl ⟨rfl, turn.shape, (Turn.rest turn).1 ▸ List.Sublist.refl _⟩
  | finish | strike => exact .inl ⟨rfl, Roster.shape_remove _ _, List.filter_sublist⟩
  | clear => exact .inl ⟨rfl, Roster.shape_clear _, List.nil_sublist _⟩
  | read item =>
    obtain ⟨b, rest, -, -, rfl⟩ := Roster.read?_eq_some item
    exact .inl ⟨rfl, Roster.shape_read item, List.Sublist.refl _⟩
  | close => exact .inl ⟨rfl, Roster.shape_updateOutbox fun _ => rfl, List.Sublist.refl _⟩
  | _ => exact .inl ⟨rfl, rfl, List.Sublist.refl _⟩

theorem Change.fits (change : x.Change σ overflow a x') (fits : x.roster.Fits) :
    x'.roster.Fits := by
  cases change with
  | enroll => exact Roster.fits_enroll fits
  | turn delivering first turn =>
    cases turn with
    | keep opened room => exact Roster.fits_push room opened fits
    | _ => exact fits
  | finish | strike => exact Roster.fits_remove _ fits
  | clear => exact Roster.fits_clear fits
  | read item => exact Roster.fits_read item fits
  | close => exact Roster.fits_close fits
  | _ => exact fits

theorem Change.rest (change : x.Change σ overflow a x')
    (rest : ∀ d, x.delivery = some d → d.rest <:+ x.roster.subscribers) :
    ∀ d, x'.delivery = some d → d.rest <:+ x'.roster.subscribers := by
  intro d' delivering'
  cases change with
  | publish => cases delivering'; exact List.suffix_rfl
  | turn delivering first turn =>
    cases delivering'
    have before := rest _ delivering
    obtain ⟨same, ⟨tail, -⟩ | ⟨rfl, -⟩⟩ := Turn.rest turn
    · rw [same, tail]
      exact (List.tail_suffix _).trans before
    · rw [same]
      exact before
  | giveUp delivering =>
    cases delivering'
    exact (List.tail_suffix _).trans (rest _ delivering)
  | finish | cut => cases delivering'
  | enroll _ _ _ _ idle | strike _ idle | clear idle =>
    cases idle.symm.trans delivering'
  | read item =>
    obtain ⟨b, rest', -, -, rfl⟩ := Roster.read?_eq_some item
    exact rest _ delivering'
  | _ => exact rest _ delivering'

theorem Change.wanted (change : x.Change σ overflow a x')
    (wanted : ∀ d s rest, x.delivery = some d → d.rest = s :: rest → d.blocked = true →
      s.accepts d.item = true) :
    ∀ d s rest, x'.delivery = some d → d.rest = s :: rest → d.blocked = true →
      s.accepts d.item = true := by
  intro d' s' rest' delivering' first' blocked
  cases change with
  | publish => cases delivering'; cases blocked
  | turn delivering first turn =>
    cases delivering'
    obtain ⟨-, ⟨-, free⟩ | ⟨rfl, accepts⟩⟩ := Turn.rest turn
    · cases free.symm.trans blocked
    · cases first.symm.trans first'
      exact accepts
  | giveUp => cases delivering'; cases blocked
  | finish | cut => cases delivering'
  | _ => exact wanted _ _ _ delivering' first' blocked

/-- Nothing is read or settled for a subscription that was not granted. -/
theorem Change.unknown (change : x.Change σ overflow a x') (reg : Registered overflow h x)
    {id : Nat} (beyond : x.roster.nextId ≤ id) (n : Nat) :
    a.received id = [] ∧ a.logged id n = [] := by
  cases change with
  | @turn d d' s rest fate roster delivering first turn =>
    have below := reg.subscriber_lt (reg.mem_of_rest delivering (by simp [first] : s ∈ d.rest))
    refine ⟨rfl, ?_⟩
    cases fate <;> simp [Act.logged, Nat.ne_of_lt (Nat.lt_of_lt_of_le below beyond)]
  | @cut d delivering =>
    refine ⟨rfl, if_neg fun member => ?_⟩
    obtain ⟨s, wants, rfl⟩ := List.mem_map.1 member
    have below := reg.subscriber_lt (reg.mem_of_rest delivering (List.mem_of_mem_filter wants))
    exact absurd below (Nat.not_lt.2 beyond)
  | read item =>
    obtain ⟨b, rest, there, -, -⟩ := Roster.read?_eq_some item
    have below := reg.outbox_lt there
    exact ⟨if_neg (Nat.ne_of_lt (Nat.lt_of_lt_of_le below beyond)), rfl⟩
  | _ => exact ⟨rfl, rfl⟩

theorem Change.registered (change : x.Change σ overflow a x') (reg : Registered overflow h x) :
    Registered overflow (h ++ [a]) x' where
  ascending := by
    rw [grants_snoc]
    rcases change.grants_eq (published h).length with ⟨none, -⟩ | ⟨g, one, id, -⟩
    · simpa [none] using reg.ascending
    · rw [one]
      refine List.pairwise_append.2 ⟨reg.ascending, List.pairwise_singleton _ _, ?_⟩
      intro p granted q last
      obtain rfl := List.mem_singleton.1 last
      exact id ▸ (reg.known p granted).1
  known := by
    intro p granted
    have le := change.nextId_le
    rw [grants_snoc] at granted
    rw [published_snoc, List.length_append]
    rcases List.mem_append.1 granted with old | new
    · obtain ⟨below, since⟩ := reg.known p old
      omega
    · rcases change.grants_eq (published h).length with ⟨none, -⟩ | ⟨g, one, id, next, -⟩
      · simp [none] at new
      · rw [one] at new
        obtain rfl := List.mem_singleton.1 new
        dsimp only
        omega
  subscribers := by
    rw [grants_snoc, List.map_append]
    rcases change.grants_eq (published h).length with ⟨none, -, fewer⟩ | ⟨g, one, -, -, -, more⟩
    · simpa [none] using fewer.trans reg.subscribers
    · rw [one, more]
      exact reg.subscribers.append_right _
  shape := by
    rw [grants_snoc, List.map_append]
    rcases change.grants_eq (published h).length with ⟨none, same, -⟩ | ⟨g, one, -, -, more, -⟩
    · simpa [none] using same.trans reg.shape
    · rw [one, more, reg.shape]
      rfl
  fits := change.fits reg.fits
  rest := change.rest reg.rest
  wanted := change.wanted reg.wanted
  unknown := by
    intro id beyond
    have before := Nat.le_trans change.nextId_le beyond
    obtain ⟨received, logged⟩ := change.unknown reg before (published h).length
    rw [received_snoc, log_snoc, received, logged, (reg.unknown id before).1,
      (reg.unknown id before).2]
    exact ⟨rfl, rfl⟩

/-- Deliveries are blocked only if the policy says so. -/
theorem Change.policy (change : x.Change σ overflow a x')
    (policy : ∀ d, x.delivery = some d → d.blocked = true → overflow = .block) :
    ∀ d, x'.delivery = some d → d.blocked = true → overflow = .block := by
  intro d' delivering' blocked
  cases change with
  | publish => cases delivering'; cases blocked
  | turn delivering first turn =>
    cases delivering'
    cases turn with
    | block wanted policy => exact policy
    | _ => cases blocked
  | giveUp => cases delivering'; cases blocked
  | finish | cut => cases delivering'
  | _ => exact policy _ delivering' blocked

/-! ## Live subscriptions -/

/-- A subscription is not cancelled, and its reader is there. -/
structure Live (σ : Signals) (x : Desk α) (g : Grant α) : Prop where
  token : σ.isCancelled g.token = false
  reader : x.roster.isClosed g.id = false

theorem Change.isClosed (change : x.Change σ overflow a x') {id : Nat}
    (closed : x.roster.isClosed id = true) : x'.roster.isClosed id = true := by
  cases change with
  | enroll =>
    obtain ⟨b, there, shut⟩ := (Option.any_eq_true _ _).1 closed
    simp [Roster.isClosed, Roster.outbox?_enroll, there, shut]
  | turn delivering first turn =>
    cases turn with
    | keep => simpa using closed
    | _ => exact closed
  | finish | strike | clear => simpa using closed
  | read item => simpa [Roster.isClosed_read item] using closed
  | close => exact Roster.isClosed_close_of_isClosed closed
  | _ => exact closed

/-- Whoever is live was live before. -/
theorem Change.live (change : x.Change σ overflow a x') (grows : σ.Grows σ') {g : Grant α}
    (live : Live σ' x' g) : Live σ x g where
  token := by
    by_contra cancelled
    have still := grows _ (by simpa using cancelled)
    exact absurd (live.token.symm.trans still) (by simp)
  reader := by
    by_contra closed
    have still := change.isClosed (by simpa using closed)
    exact absurd (live.reader.symm.trans still) (by simp)

/-- Live subscriptions are on the roster, and only others were found to be gone. -/
structure Attended (h : History α) (σ : Signals) (x : Desk α) : Prop where
  there : x.ended = false → ∀ p ∈ grants h, Live σ x p.1 → p.1.subscriber ∈ x.roster.subscribers
  gone : ∀ d, x.delivery = some d → ∀ p ∈ grants h, p.1.id ∈ d.gone → ¬ Live σ x p.1

/-- A subscriber that is cancelled, or whose reader is gone, has no live subscription. -/
theorem Registered.not_live (reg : Registered overflow h x) {s : Subscriber α}
    (on : s ∈ x.roster.subscribers) {p : Grant α × Nat} (granted : p ∈ grants h)
    (same : p.1.id = s.id) (gone : x.roster.isClosed s.id = true ∨ σ.isCancelled s.token = true) :
    ¬ Live σ x p.1 := by
  intro live
  obtain rfl := reg.eq_subscriber granted on same.symm
  rcases gone with closed | cancelled
  · exact absurd (live.reader.symm.trans closed) (by simp)
  · exact absurd (live.token.symm.trans cancelled) (by simp)

theorem Change.there (change : x.Change σ overflow a x') (reg : Registered overflow h x)
    (att : Attended h σ x) (going : x'.ended = false) {p : Grant α × Nat} (granted : p ∈ grants h)
    (live : Live σ x p.1) : p.1.subscriber ∈ x'.roster.subscribers := by
  have on (before : x.ended = false) := att.there before p granted live
  cases change with
  | enroll => exact List.mem_append_left _ (on going)
  | turn delivering first turn =>
    rw [(Turn.rest turn).1]
    exact on going
  | finish delivering =>
    have spared : p.1.id ∉ _ := fun member => att.gone _ delivering p granted member live
    exact List.mem_filter.2 ⟨on going, by simpa [Grant.subscriber] using spared⟩
  | strike id idle gone =>
    refine List.mem_filter.2 ⟨on going, ?_⟩
    by_cases same : p.1.id = id
    · have cancelled := gone _ (on going) same
      exact absurd live (reg.not_live (on going) granted rfl (.inr cancelled))
    · simpa [Grant.subscriber] using same
  | clear => cases going
  | read item =>
    obtain ⟨b, rest, -, -, rfl⟩ := Roster.read?_eq_some item
    exact on going
  | _ => exact on going

theorem Change.gone (change : x.Change σ overflow a x') (reg : Registered overflow h x)
    (att : Attended h σ x) {d : Delivery α} (delivering' : x'.delivery = some d) {p : Grant α × Nat}
    (granted : p ∈ grants h) (member : p.1.id ∈ d.gone) : ¬ Live σ x p.1 := by
  cases change with
  | publish => cases delivering'; cases member
  | @turn d₀ _ s rest _ _ delivering first turn =>
    cases delivering'
    have on := reg.mem_of_rest delivering (by simp [first] : s ∈ d₀.rest)
    cases turn with
    | strike gone =>
      rcases List.mem_append.1 member with before | last
      · exact att.gone _ delivering p granted before
      · exact reg.not_live on granted (List.mem_singleton.1 last) gone
    | _ => exact att.gone _ delivering p granted member
  | @giveUp d₀ s rest delivering first cancelled =>
    cases delivering'
    have on := reg.mem_of_rest delivering (by simp [first] : s ∈ d₀.rest)
    rcases List.mem_append.1 member with before | last
    · exact att.gone _ delivering p granted before
    · exact reg.not_live on granted (List.mem_singleton.1 last) (.inr cancelled)
  | finish | cut => cases delivering'
  | _ => exact att.gone _ delivering' p granted member

theorem Change.attended (change : x.Change σ overflow a x') (grows : σ.Grows σ')
    (reg : Registered overflow h x) (att : Attended h σ x) : Attended (h ++ [a]) σ' x' where
  there := by
    intro going p granted live
    rw [grants_snoc] at granted
    rcases List.mem_append.1 granted with old | new
    · exact change.there reg att going old (change.live grows live)
    · rcases change.grants_eq (published h).length with ⟨none, -⟩ | ⟨g, one, -, -, -, more⟩
      · simp [none] at new
      · rw [one] at new
        obtain rfl := List.mem_singleton.1 new
        simp [more]
  gone := by
    intro d delivering p granted member live
    rw [grants_snoc] at granted
    rcases List.mem_append.1 granted with old | new
    · exact change.gone reg att delivering old member (change.live grows live)
    · cases change with
      | enroll _ _ _ _ idle => cases idle.symm.trans delivering
      | _ => cases new

/-! ## Runs -/

theorem Run.registered (run : Run overflow h σ x) : Registered overflow h x := by
  induction run with
  | start σ nextId =>
    refine ⟨.nil, ?_, .slnil, rfl, ?_, ?_, ?_, ?_⟩ <;> simp [Roster.Fits, Roster.outbox?]
  | step run change grows ih => exact change.registered ih

theorem Run.policy (run : Run overflow h σ x) {d : Delivery α} (delivering : x.delivery = some d)
    (blocked : d.blocked = true) : overflow = .block := by
  induction run generalizing d with
  | start σ nextId => cases delivering
  | step run change grows ih =>
    exact change.policy (fun d => ih (d := d)) d delivering blocked

theorem Run.attended (run : Run overflow h σ x) : Attended h σ x := by
  induction run with
  | start σ nextId => exact ⟨by simp, by simp⟩
  | step run change grows ih => exact change.attended grows run.registered ih

end Steps

end Telemetry.Desk
