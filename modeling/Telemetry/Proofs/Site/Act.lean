import Telemetry.Proofs.Site.Run
import Telemetry.Proofs.Store.Ledger
import Telemetry.Proofs.Store.Delivery

/-!
# Steps at a site

What steps at stores and catalogs leave alone, and what readers and tasks make of what they are told.

## Main results

* `Site.read?_store`, `Site.read?_catalog`: what a reader is told.
* `Site.Happens.result?`: results are final.
* `Site.respondWith_of_ok`, `Site.respondWith_of_error`: what a task does with a response.
-/

namespace Telemetry

/-- A step by which the owner takes no turn and nobody reads. -/
def Store.Action.isQuiet : Store.Action → Bool
  | .owner _ | .read _ _ => false
  | _ => true

/-- A step by which nobody asks, leaves or gives up a handle. -/
def Catalog.Action.isQuiet : Catalog.Action → Bool
  | .ask _ _ | .close _ | .release => false
  | _ => true

theorem Store.Step.updates_of_quiet {σ : Signals} {s s' : Store} {a : Store.Action}
    {o : Store.Output} (quiet : a.isQuiet = true) :
    Store.Step.updates ⟨σ, s, .act a, o, s'⟩ = [] := by
  cases a with
  | owner => cases quiet
  | _ => rfl

theorem Store.Step.received_of_quiet {σ : Signals} {s s' : Store} {a : Store.Action}
    {o : Store.Output} (quiet : a.isQuiet = true) (id : Nat) :
    Store.Step.received id ⟨σ, s, .act a, o, s'⟩ = [] := by
  cases a with
  | read => cases quiet
  | _ => rfl

/-- A reader whose subscription goes on gets an item or waits. -/
theorem Store.item_of_read {σ σ' : Signals} {s s' : Store} {id : Nat} {token : Token}
    {o : Store.Output} (goes_on : σ.isCancelled token = false)
    (more : s.roster.isExhausted id = false)
    (acts : s.act? σ (.read id token) = some (σ', s', o)) : ∃ v, o = .delivered (.item v) := by
  obtain ⟨⟨d, t⟩, read, same⟩ := Option.map_eq_some_iff.1 acts
  cases same
  unfold read? at read
  rw [if_neg (by simp [goes_on])] at read
  split at read
  next v roster _ =>
    cases read
    exact ⟨v, rfl⟩
  · rw [if_neg (by simp [more])] at read
    cases read

namespace Site

section Acts

variable {x x' : Site} {k n : Nat} {t : Task}

theorem tasks_storeAct? {a : Store.Action} {o : Store.Output}
    (acted : x.storeAct? k a = some (o, x')) : x'.tasks = x.tasks := by
  obtain ⟨s, σ, s', -, -, rfl⟩ := storeAct?_eq_some.1 acted
  rfl

theorem tasks_catalogAct? {a : Catalog.Action} {o : Catalog.Output}
    (acted : x.catalogAct? k a = some (o, x')) :
    x'.tasks = x.tasks ∧ x'.signals = x.signals := by
  obtain ⟨c, c', -, -, rfl⟩ := catalogAct?_eq_some.1 acted
  exact ⟨rfl, rfl⟩

/-- A step that is possible happens. -/
theorem storeAct_cases (k : Nat) (a : Store.Action) (x : Site) :
    x.storeAct k a = x ∨ ∃ o, x.storeAct? k a = some (o, x.storeAct k a) := by
  cases acted : x.storeAct? k a with
  | none => exact .inl (by rw [storeAct, acted]; rfl)
  | some result =>
    obtain ⟨o, y⟩ := result
    exact .inr ⟨o, by rw [storeAct, acted]; rfl⟩

/-- A step that is possible happens. -/
theorem catalogAct_cases (k : Nat) (a : Catalog.Action) (x : Site) :
    x.catalogAct k a = x ∨ ∃ o, x.catalogAct? k a = some (o, x.catalogAct k a) := by
  cases acted : x.catalogAct? k a with
  | none => exact .inl (by rw [catalogAct, acted]; rfl)
  | some result =>
    obtain ⟨o, y⟩ := result
    exact .inr ⟨o, by rw [catalogAct, acted]; rfl⟩

/-- It does not matter to a subscription that ends what a task does. -/
theorem setTask_drop (s : Subscription) (x : Site) (n : Nat) (t : Task) :
    (x.drop s).setTask n t = (x.setTask n t).drop s := by
  obtain ⟨feed, id, token, isOpen⟩ := s
  cases isOpen with
  | false => rfl
  | true =>
    cases feed with
    | store k =>
      simp only [drop, fire, setTask, storeAct, Site.storeAct?, if_true]
      cases x.stores[k]? <;> rfl
    | catalog k =>
      simp only [drop, fire, setTask, catalogAct, Site.catalogAct?, if_true]
      cases x.catalogs[k]? <;> rfl

section Opening

variable {parent : Token} (goes_on :
  (x.signals.child parent).2.isCancelled (x.signals.child parent).1 = false)

include goes_on

/-- A task subscribes to a store below a token that goes on. -/
theorem make_subscribe (filter : ValueFilter) (replay : Bool) :
    x.make n t (.subscribe k filter replay parent) =
      { x.setTask n { t with status := .waiting (.subscribe k filter replay parent) } with
        signals := (x.signals.child parent).2 }.storeAct k
          (.ask n (.subscribe filter replay (x.signals.child parent).1)) := by
  unfold make openBelow
  dsimp only
  rw [if_neg (by simpa [setTask] using goes_on)]
  rfl

/-- A task follows a catalog below a token that goes on. -/
theorem make_follow (filter : RegisterFilter) :
    x.make n t (.follow k filter parent) =
      { x.setTask n { t with status := .waiting (.follow k filter parent) } with
        signals := (x.signals.child parent).2 }.catalogAct k
          (.ask n (.subscribe filter (x.signals.child parent).1)) := by
  unfold make openBelow
  dsimp only
  rw [if_neg (by simpa [setTask] using goes_on)]
  rfl

end Opening

theorem respondWith_of_ok {noise : String → Float} {time : Timestamp} {r : Response} {role : Role}
    {call : Call} (resumed : t.role.resume noise time x.clock r = (role, .ok call)) :
    x.respondWith noise time n t r = x.setTask n { t with role, status := .ready call } := by
  rw [respondWith, resumed]

theorem respondWith_of_error {noise : String → Float} {time : Timestamp} {r : Response}
    {role : Role} {result : Result}
    (resumed : t.role.resume noise time x.clock r = (role, .error result)) :
    x.respondWith noise time n t r =
      ((role.owned.foldl (fun x s => x.drop s) x).setTask n
        { t with role, status := .finished result }).releaseAll t := by
  rw [respondWith, resumed]

/-! ## Tasks -/

@[simp] theorem tasks_storeAct (k : Nat) (a : Store.Action) (x : Site) :
    (x.storeAct k a).tasks = x.tasks := by
  rcases storeAct_cases k a x with same | ⟨o, acted⟩
  · rw [same]
  · exact tasks_storeAct? acted

@[simp] theorem tasks_catalogAct (k : Nat) (a : Catalog.Action) (x : Site) :
    (x.catalogAct k a).tasks = x.tasks := by
  rcases catalogAct_cases k a x with same | ⟨o, acted⟩
  · rw [same]
  · exact (tasks_catalogAct? acted).1

@[simp] theorem tasks_drop (s : Subscription) (x : Site) : (x.drop s).tasks = x.tasks := by
  have fired : (x.fire s.token).tasks = x.tasks := rfl
  unfold drop
  split
  · split <;> simp [fired]
  · exact fired

theorem tasks_foldl {α : Type} {f : Site → α → Site} (same : ∀ x a, (f x a).tasks = x.tasks)
    (l : List α) (x : Site) : (l.foldl f x).tasks = x.tasks := by
  induction l generalizing x with
  | nil => rfl
  | cons a l ih => rw [List.foldl_cons, ih, same]

@[simp] theorem tasks_releaseAll (t : Task) (x : Site) : (x.releaseAll t).tasks = x.tasks := by
  rw [releaseAll, tasks_foldl (fun _ _ => tasks_catalogAct ..),
    tasks_foldl (fun _ _ => tasks_storeAct ..)]

@[simp] theorem tasks_holdAll (t : Task) (x : Site) : (x.holdAll t).tasks = x.tasks := by
  rw [holdAll, tasks_foldl (fun _ _ => tasks_catalogAct ..),
    tasks_foldl (fun _ _ => tasks_storeAct ..)]

section Others

variable {m : Nat} (other : m ≠ n)

include other

theorem tasks_setTask_of_ne : (x.setTask n t).tasks[m]? = x.tasks[m]? := by
  simp [setTask, Ne.symm other]

/-- A task that is told something leaves others as they are. -/
theorem tasks_respondWith_of_ne (noise : String → Float) (time : Timestamp) (r : Response) :
    (x.respondWith noise time n t r).tasks[m]? = x.tasks[m]? := by
  unfold respondWith
  split
  · exact tasks_setTask_of_ne other
  · rw [tasks_releaseAll, tasks_setTask_of_ne other, tasks_foldl fun _ _ => tasks_drop ..]

/-- A task that makes its call leaves others as they are. -/
theorem tasks_make_of_ne (c : Call) : (x.make n t c).tasks[m]? = x.tasks[m]? := by
  have waiting := tasks_setTask_of_ne (x := x) (t := { t with status := .waiting c }) other
  cases c with
  | fill | ask | look | add => rw [make, ← waiting]; simp
  | receive | await | receiveAny => exact waiting
  | subscribe | follow =>
    unfold make openBelow
    dsimp only
    split
    next opened =>
      split at opened <;> cases opened
      rw [respond, tasks_respondWith_of_ne other]
      exact waiting
    next opened =>
      split at opened <;> cases opened
      simp only [tasks_storeAct, tasks_catalogAct]
      exact waiting

end Others

/-- What a reader of a store is told. -/
theorem read?_store {s : Subscription} (feed : s.feed = .store k) {r : Response}
    (read : x.read? s = some (r, x')) :
    (∃ v, r = .item (.value v) ∧
      x.storeAct? k (.read s.id s.token) = some (.delivered (.item v), x')) ∨
    r = .ended ∧ ∃ o, x.storeAct? k (.read s.id s.token) = some (o, x') ∧
      ∀ v, o ≠ .delivered (.item v) := by
  unfold read? at read
  rw [feed] at read
  dsimp only at read
  split at read
  next v y acted =>
    cases read
    exact .inl ⟨v, rfl, acted⟩
  next o y other acted =>
    cases read
    refine .inr ⟨rfl, o, acted, fun v same => ?_⟩
    subst same
    exact other v rfl
  · cases read

/-- What a reader of a catalog is told. -/
theorem read?_catalog {s : Subscription} (feed : s.feed = .catalog k) {r : Response}
    (read : x.read? s = some (r, x')) :
    r.values = [] ∧ ∃ o, x.catalogAct? k (.read s.id s.token) = some (o, x') := by
  unfold read? at read
  rw [feed] at read
  dsimp only at read
  split at read
  next acted =>
    cases read
    exact ⟨rfl, _, acted⟩
  next acted =>
    cases read
    exact ⟨rfl, _, acted⟩
  · cases read

/-- Whoever hears something leaves all tasks as they are. -/
theorem Hears.tasks {c : Call} {r : Response} (hears : x.Hears n c r x') : x'.tasks = x.tasks := by
  have unread {s : Subscription} {r : Response} (read : x.read? s = some (r, x')) :
      x'.tasks = x.tasks := by
    cases feed : s.feed with
    | store k =>
      rcases read?_store feed read with ⟨v, -, acted⟩ | ⟨-, o, acted, -⟩
      · exact tasks_storeAct? acted
      · exact tasks_storeAct? acted
    | catalog k =>
      obtain ⟨-, o, acted⟩ := read?_catalog feed read
      exact (tasks_catalogAct? acted).1
  cases hears with
  | store _ answered => exact tasks_storeAct? answered
  | catalog _ answered => exact (tasks_catalogAct? answered).1
  | receive read | command _ _ read | first _ read | other _ _ read => exact unread read
  | tick | cancelled => rfl

/-- The result of a task is final. -/
theorem Happens.result? {e : Event} (happened : x.Happens e x') {result : Result}
    (is : x.result? n = some result) : x'.result? n = some result := by
  have keeps (same : x'.tasks[n]? = x.tasks[n]?) : x'.result? n = some result := by
    rwa [Site.result?, same]
  have other {m : Nat} {t : Task} (there : x.tasks[m]? = some t)
      (unsettled : ∀ result, t.status ≠ .finished result) : n ≠ m := by
    rintro rfl
    unfold Site.result? at is
    split at is
    next found =>
      cases there.symm.trans found
      exact unsettled _ rfl
    · cases is
  cases happened with
  | own acted | watchStore _ acted | enter _ _ _ acted =>
    exact keeps (by rw [tasks_storeAct? acted])
  | watchCatalog _ acted | drive _ _ _ _ acted =>
    exact keeps (by rw [(tasks_catalogAct? acted).1])
  | call there ready =>
    exact keeps (tasks_make_of_ne (other there fun _ => by simp [ready]) _)
  | hear noise time there waits hears =>
    refine keeps ?_
    rw [tasks_respondWith_of_ne (other there fun _ => by simp [waits]), hears.tasks]
  | pass | cancel => exact is

end Acts

end Site

end Telemetry
