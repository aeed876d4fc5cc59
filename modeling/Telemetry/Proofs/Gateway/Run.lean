import Telemetry.Proofs.Gateway.Duty
import Telemetry.Proofs.Site.Act

/-!
# A gateway at work

Whatever happens at the site of a gateway, short of a signal from outside, keeps what is known of its
parts and its tasks.

## Main definitions

* `Crew.Runs`: all that is known of a gateway at work.

## Main results

* `Crew.Runs.happens`: what each event keeps.
-/

namespace Telemetry

/-- As long as somebody holds a store its steps fire no signals. -/
theorem Site.Holding.signals_eq {stores catalogs : List Nat} {x x' : Site} {k : Nat}
    (holding : Site.Holding stores catalogs x)
    {a : Store.Action} {o : Store.Output} (acted : x.storeAct? k a = some (o, x')) :
    x'.signals = x.signals := by
  obtain ⟨s, σ, s', there, acts, rfl⟩ := Site.storeAct?_eq_some.1 acted
  have change := Store.change_of_effect (e := .act a) acts
  exact change.signals_eq (Nat.lt_of_le_of_lt (Nat.zero_le _) (holding.lt_store there))

namespace Gateway

open Site (Call Task Response Waits Holding Free)

namespace Crew

/-- All that is known of a gateway at work, where some parts are held for one more task. -/
structure Runs (g : Crew) (updates : List Value) (got : Nat → List Value)
    (stores catalogs : List Nat) (x : Site) : Prop where
  parts : g.Parts updates got x
  mans : g.Mans got x
  holding : Holding stores catalogs x

section Acts

variable {g : Crew} {updates : List Value} {got : Nat → List Value} {x x' : Site}
  {stores catalogs : List Nat} {k n : Nat}

/-- What a store does on its own, or for a task that asks something of it. -/
theorem Parts.quiet (parts : g.Parts updates got x) (holding : Holding stores catalogs x)
    {a : Store.Action} {o : Store.Output} (acted : x.storeAct? k a = some (o, x'))
    (quiet : a.isQuiet = true)
    (permits : ∀ s, x.stores[k]? = some s → g.Permits x.signals x.tasks k s a) :
    g.Parts updates got x' := by
  refine parts.storeAct holding acted permits (fun _ s s' _ => ⟨?_, fun n values _ => ?_⟩)
    fun _ => ⟨rfl, fun _ _ _ => rfl⟩
  · rw [Store.Step.updates_of_quiet quiet, List.append_nil]
  · rw [Store.Step.received_of_quiet quiet, List.append_nil]

theorem Runs.storeAct? (runs : g.Runs updates got stores catalogs x) {a : Store.Action}
    {o : Store.Output} (acted : x.storeAct? k a = some (o, x')) (quiet : a.isQuiet = true)
    (keeps : a ≠ .release)
    (permits : ∀ s, x.stores[k]? = some s → g.Permits x.signals x.tasks k s a) :
    g.Runs updates got stores catalogs x' where
  parts := runs.parts.quiet runs.holding acted quiet permits
  mans := runs.mans.congr (Site.tasks_storeAct? acted)
    (Nat.le_of_eq (by rw [runs.holding.signals_eq acted]))
  holding := runs.holding.storeAct? acted keeps

theorem Runs.storeAct (runs : g.Runs updates got stores catalogs x) {a : Store.Action}
    (quiet : a.isQuiet = true) (keeps : a ≠ .release)
    (permits : ∀ s, x.stores[k]? = some s → g.Permits x.signals x.tasks k s a) :
    g.Runs updates got stores catalogs (x.storeAct k a) := by
  rcases Site.storeAct_cases k a x with same | ⟨o, acted⟩
  · rwa [same]
  · exact runs.storeAct? acted quiet keeps permits

theorem Runs.catalogAct? (runs : g.Runs updates got stores catalogs x) {a : Catalog.Action}
    {o : Catalog.Output} (acted : x.catalogAct? k a = some (o, x')) (keeps : a ≠ .release)
    (stays : ∀ id, a ≠ .close id)
    (asks : ∀ c n access, x.catalogs[k]? = some c → a = .ask n access →
      c.Free n ∧ g.Wants x.signals x.tasks k n access) :
    g.Runs updates got stores catalogs x' where
  parts := runs.parts.catalogAct runs.holding acted (fun same => absurd same keeps) stays asks
  mans := runs.mans.congr (Site.tasks_catalogAct? acted).1
    (Nat.le_of_eq (by rw [(Site.tasks_catalogAct? acted).2]))
  holding := runs.holding.catalogAct? acted keeps

/-- What a catalog does on its own, or for a task that it has heard of before. -/
theorem Runs.catalogQuiet? (runs : g.Runs updates got stores catalogs x) {a : Catalog.Action}
    {o : Catalog.Output} (acted : x.catalogAct? k a = some (o, x')) (quiet : a.isQuiet = true) :
    g.Runs updates got stores catalogs x' := by
  refine runs.catalogAct? acted ?_ ?_ ?_
  · rintro rfl
    cases quiet
  · rintro id rfl
    cases quiet
  · rintro c n access - rfl
    cases quiet

theorem Runs.catalogAct (runs : g.Runs updates got stores catalogs x) {a : Catalog.Action}
    (keeps : a ≠ .release) (stays : ∀ id, a ≠ .close id)
    (asks : ∀ c n access, x.catalogs[k]? = some c → a = .ask n access →
      c.Free n ∧ g.Wants x.signals x.tasks k n access) :
    g.Runs updates got stores catalogs (x.catalogAct k a) := by
  rcases Site.catalogAct_cases k a x with same | ⟨o, acted⟩
  · rwa [same]
  · exact runs.catalogAct? acted keeps stays asks

/-! ## Handles -/

theorem Runs.releaseStore (runs : g.Runs updates got (k :: stores) catalogs x) :
    g.Runs updates got stores catalogs (x.storeAct k .release) := by
  have holding := runs.holding.releaseStore
  rcases Site.storeAct_cases k .release x with same | ⟨o, acted⟩
  · rw [same] at holding ⊢
    exact ⟨runs.parts, runs.mans, holding⟩
  · exact ⟨runs.parts.quiet runs.holding acted rfl fun _ _ => trivial,
      runs.mans.congr (Site.tasks_storeAct? acted)
        (Nat.le_of_eq (by rw [runs.holding.signals_eq acted])), holding⟩

theorem Runs.releaseCatalog (runs : g.Runs updates got stores (k :: catalogs) x) :
    g.Runs updates got stores catalogs (x.catalogAct k .release) := by
  have holding := runs.holding.releaseCatalog
  rcases Site.catalogAct_cases k .release x with same | ⟨o, acted⟩
  · rw [same] at holding ⊢
    exact ⟨runs.parts, runs.mans, holding⟩
  · exact ⟨runs.parts.catalogAct runs.holding acted (fun _ => List.mem_cons_self) (by simp) (by simp),
      runs.mans.congr (Site.tasks_catalogAct? acted).1
        (Nat.le_of_eq (by rw [(Site.tasks_catalogAct? acted).2])), holding⟩

theorem Runs.releaseAll {t : Task} (runs : g.Runs updates got t.stores t.catalogs x) :
    g.Runs updates got [] [] (x.releaseAll t) := by
  have released (ks : List Nat) {x : Site} (runs : g.Runs updates got ks t.catalogs x) :
      g.Runs updates got [] t.catalogs (ks.foldl (fun x n => x.storeAct n .release) x) := by
    induction ks generalizing x with
    | nil => exact runs
    | cons k ks ih => exact ih runs.releaseStore
  have released' (ks : List Nat) {x : Site} (runs : g.Runs updates got [] ks x) :
      g.Runs updates got [] [] (ks.foldl (fun x n => x.catalogAct n .release) x) := by
    induction ks generalizing x with
    | nil => exact runs
    | cons k ks ih => exact ih runs.releaseCatalog
  exact released' _ (released _ runs)

theorem Runs.retainStore (runs : g.Runs updates got stores catalogs x) (k : Nat) :
    g.Runs updates got (k :: stores) catalogs (x.storeAct k .retain) := by
  have kept := runs.storeAct (k := k) (a := .retain) rfl nofun fun _ _ => trivial
  exact ⟨kept.parts, kept.mans, runs.holding.retainStore k⟩

theorem Runs.retainCatalog (runs : g.Runs updates got stores catalogs x) (k : Nat) :
    g.Runs updates got stores (k :: catalogs) (x.catalogAct k .retain) := by
  have kept := runs.catalogAct (k := k) (a := .retain) (by simp) (by simp) (by simp)
  exact ⟨kept.parts, kept.mans, runs.holding.retainCatalog k⟩

/-- What a task holds is held for it before it is there. -/
theorem Runs.holdAll (runs : g.Runs updates got [] [] x) (t : Task) :
    g.Runs updates got t.stores.reverse t.catalogs.reverse (x.holdAll t) := by
  have retained (ks : List Nat) {x : Site} {stores : List Nat}
      (runs : g.Runs updates got stores [] x) : g.Runs updates got (ks.reverse ++ stores) []
        (ks.foldl (fun x n => x.storeAct n .retain) x) := by
    induction ks generalizing x stores with
    | nil => exact runs
    | cons k ks ih =>
      rw [List.reverse_cons, List.append_assoc]
      exact ih (runs.retainStore k)
  have retained' (ks : List Nat) {x : Site} {stores catalogs : List Nat}
      (runs : g.Runs updates got stores catalogs x) :
      g.Runs updates got stores (ks.reverse ++ catalogs)
        (ks.foldl (fun x n => x.catalogAct n .retain) x) := by
    induction ks generalizing x catalogs with
    | nil => exact runs
    | cons k ks ih =>
      rw [List.reverse_cons, List.append_assoc]
      exact ih (runs.retainCatalog k)
  have held := retained' t.catalogs (retained t.stores runs)
  rwa [List.append_nil, List.append_nil] at held

/-! ## Signals -/

/-- A subscription to commands ends. -/
theorem Runs.drop (runs : g.Runs updates got stores catalogs x) {s : Subscription}
    (commands : g.Commands x.signals s) (marked : g.mark ≠ none) :
    g.Runs updates got stores catalogs (x.drop s) := by
  have fired : g.Runs updates got stores catalogs (x.fire s.token) := by
    refine ⟨runs.parts.signals ?_ ?_ ?_, runs.mans.congr rfl ?_, runs.holding.congr rfl rfl rfl⟩
    · exact runs.parts.calm.fire (commands.2.frees marked)
    · exact Signals.grows_fire _ _
    · exact Nat.le_of_eq (next_fire _ _).symm
    · exact Nat.le_of_eq (next_fire _ _).symm
  unfold Site.drop
  rw [commands.1]
  dsimp only
  split
  · exact fired.storeAct rfl nofun fun _ _ => Nat.one_ne_zero
  · exact fired

/-- A new token below the root. -/
theorem Runs.child (runs : g.Runs updates got stores catalogs x) :
    g.Runs updates got stores catalogs { x with signals := (x.signals.child g.root).2 } where
  parts :=
    runs.parts.signals (runs.parts.calm.child _) (fun _ cancelled => cancelled) (Nat.le_succ _)
  mans := runs.mans.congr rfl (Nat.le_succ _)
  holding := runs.holding.congr rfl rfl rfl

end Acts

/-! ## Responses -/

/-- What a task may be told that is there for some purpose. -/
inductive Suits (g : Crew) (x : Site) (n : Nat) (r : Response) : Post → Prop
  | opener {call : Call} (obtains : ∀ s, r = .subscribed s → g.Obtains x n call s) :
      Suits g x n r (.opener call)
  | forwarder {values : Subscription} {registers : List Subscription} (i : Item)
      (item : r = .item i) : Suits g x n r (.forwarder values registers)
  | device {catalog : Nat} (own : ∀ s, r = .subscribed s → g.Commands x.signals s) :
      Suits g x n r (.device catalog)

section Responses

variable {g : Crew} {updates : List Value} {got got' : Nat → List Value} {x x' : Site}
  {n : Nat} {t : Task} {c : Call} {p : Post} {r : Response}

/-- A task makes its next call. -/
theorem Runs.setTask {stores catalogs : List Nat} (parts : g.Parts updates got' x)
    (mans : g.Mans got x) (holding : Holding stores catalogs x) (there : x.tasks[n]? = some t)
    (calls : t.Calls c) (free : x.Free n) (same : ∀ m, m ≠ n → got' m = got m)
    {role : Site.Role} {status : Site.Status} {c' : Call}
    (goes_on : status = .ready c' ∨ status = .waiting c')
    (duty : ∀ p, g.posts[n]? = some p → g.Duty x.signals (got' n) { t with role, status } p) :
    g.Runs updates got' stores catalogs (x.setTask n { t with role, status }) where
  parts := by
    refine parts.setTask free _ (Site.result?_of_calls there calls) fun call s _ finished => ?_
    rcases goes_on with ready | waits
    · cases ready.symm.trans finished
    · cases waits.symm.trans finished
  mans := mans.setTask there same duty
  holding := by
    refine holding.setTask there fun parts which => ?_
    have held : t.holds parts = parts t := by
      rcases calls with ready | waits
      · rw [Task.holds, ready]
      · rw [Task.holds, waits]
    have held' : ({ t with role, status } : Task).holds parts = parts { t with role, status } := by
      rcases goes_on with rfl | rfl <;> rfl
    rw [held, held']
    rcases which with rfl | rfl <;> rfl

/-- A task ends. -/
theorem Runs.endTask (parts : g.Parts updates got' x) (mans : g.Mans got x)
    (holding : Holding [] [] x) (there : x.tasks[n]? = some t) (calls : t.Calls c)
    (free : x.Free n) (same : ∀ m, m ≠ n → got' m = got m) {role : Site.Role}
    {result : Site.Result}
    (duty : ∀ p, g.posts[n]? = some p →
      g.Duty x.signals (got' n) { t with role, status := .finished result } p)
    (obtains : ∀ call s, g.posts[n]? = some (.opener call) →
      result = .responses [.subscribed s] → g.Obtains x n call s) :
    g.Runs updates got' t.stores t.catalogs
      (x.setTask n { t with role, status := .finished result }) where
  parts := by
    refine parts.setTask free _ (Site.result?_of_calls there calls)
      fun call s post finished => obtains call s post ?_
    exact Site.Status.finished.inj finished
  mans := mans.setTask there same duty
  holding := holding.endTask there calls fun _ => rfl

/-- A device that ends gives up its subscription and all that it holds. -/
theorem Runs.dropCommands {t' : Task} {commands : Option Subscription}
    (ended : g.Runs updates got t.stores t.catalogs (x.setTask n t')) (marked : g.mark ≠ none)
    (own : ∀ s, commands = some s → g.Commands x.signals s) :
    g.Runs updates got [] []
      (((commands.toList.foldl (fun x s => x.drop s) x).setTask n t').releaseAll t) := by
  cases commands with
  | none => exact ended.releaseAll
  | some s =>
    have dropped := ended.drop (own s rfl) marked
    -- The drop leaves tasks alone, so the task may as well have ended before it.
    rw [← Site.setTask_drop] at dropped
    exact dropped.releaseAll

/-- A task that is told something makes its next call or ends. -/
theorem Runs.respond (parts : g.Parts updates got' x) (mans : g.Mans got x)
    (holding : Holding [] [] x) (there : x.tasks[n]? = some t) (waits : t.status = .waiting c)
    (free : x.Free n) (post : g.posts[n]? = some p) (suits : g.Suits x n r p)
    (counts : ∀ m, got' m = got m ++ if n = m then r.values else []) (noise : String → Float)
    (time : Timestamp) : g.Runs updates got' [] [] (x.respondWith noise time n t r) := by
  have same (m : Nat) (other : m ≠ n) : got' m = got m := by
    rw [counts, if_neg (Ne.symm other), List.append_nil]
  have calls : t.Calls c := .inr waits
  cases mans.duty n t p there post with
  | opened finished | rests _ finished => exact absurd finished calls.not_finished
  | opens role =>
    cases suits with
    | opener obtains =>
    rw [Site.respondWith_of_error (by rw [role]; exact Site.Role.resume_opener r)]
    refine Runs.releaseAll (Runs.endTask parts mans holding there calls free same ?_ ?_)
    · intro q post'
      cases post.symm.trans post'
      exact .opened ⟨_, rfl⟩
    · intro call s post' is
      cases post.symm.trans post'
      cases is
      exact obtains s rfl
  | forwards role =>
    cases suits with
    | forwarder i item =>
    subst item
    rw [Site.respondWith_of_ok (by rw [role]; exact Site.Role.resume_forwarder _ _ _ i)]
    refine Runs.setTask parts mans holding there calls free same (.inl rfl) fun q post' => ?_
    cases post.symm.trans post'
    refine .forwards ?_ (.inl rfl)
    rw [counts n, if_pos rfl, List.length_append]
  | @drives catalog commands loop _ marked role _ _ own =>
    cases suits with
    | device gets =>
    have own' (s : Subscription) (is : r.commands commands = some s) :
        g.Commands x.signals s := by
      unfold Response.commands at is
      split at is
      next => exact gets s (by rw [Option.some.inj is])
      · exact own s is
    obtain ⟨loop', ⟨call, resumed⟩ | ⟨ending, resumed⟩⟩ :=
      Site.Role.resume_device noise time x.clock ⟨0, 1, catalog, g.root⟩ commands loop r
    · rw [Site.respondWith_of_ok (by rw [role]; exact resumed)]
      refine Runs.setTask parts mans holding there calls free same (.inl rfl) fun q post' => ?_
      cases post.symm.trans post'
      exact .drives marked rfl (.inl rfl)
        (drives_deviceCall (fun s is => (own' s is).1) _ _ _) own'
    · rw [Site.respondWith_of_error (by rw [role]; exact resumed)]
      have ended : g.Runs updates got' t.stores t.catalogs
          (x.setTask n { t with
            role := .device ⟨0, 1, catalog, g.root⟩ (r.commands commands) loop'
            status := .finished (.device ending) }) := by
        refine Runs.endTask parts mans holding there calls free same (fun q post' => ?_)
          fun call s _ is => by cases is
        cases post.symm.trans post'
        exact .rests marked ⟨_, rfl⟩
      exact ended.dropCommands marked own'

/-! ## Calls -/

/-- A call that is made is under way. -/
theorem Duty.waiting {σ : Signals} {values : List Value} (duty : g.Duty σ values t p)
    (ready : t.status = .ready c) : g.Duty σ values { t with status := .waiting c } p := by
  cases duty with
  | opened finished | rests _ finished =>
    exact absurd finished (Task.Calls.not_finished (.inl ready))
  | opens role calls unmarked =>
    obtain rfl := calls.eq_of_ready ready
    exact .opens role (.inr rfl) unmarked
  | forwards role calls =>
    obtain rfl := calls.eq_of_ready ready
    exact .forwards role (.inr rfl)
  | drives marked role calls drives own =>
    obtain rfl := calls.eq_of_ready ready
    exact .drives marked role (.inr rfl) drives own

/-- Whoever is about to make a call waits on it next, and nothing is held for it yet. -/
theorem Runs.waiting (runs : g.Runs updates got [] [] x) (there : x.tasks[n]? = some t)
    (ready : t.status = .ready c) :
    g.Runs updates got [] [] (x.setTask n { t with status := .waiting c }) ∧ x.Free n ∧
      Waits (x.setTask n { t with status := .waiting c }).tasks n c := by
  have free : x.Free n := runs.parts.free fun c' waits => by
    obtain ⟨t', there', status⟩ := waits
    cases there.symm.trans there'
    cases ready.symm.trans status
  refine ⟨?_, free, _, Site.getElem?_setIfInBounds_of_getElem? there, rfl⟩
  refine Runs.setTask runs.parts runs.mans runs.holding there (.inl ready) free (fun _ _ => rfl)
    (.inr rfl) fun q post => ?_
  exact (runs.mans.duty n t q there post).waiting ready

/-- A task subscribes to the state store before devices start, or to the other one later. -/
theorem Runs.subscribe (runs : g.Runs updates got [] [] x) (there : x.tasks[n]? = some t) {k : Nat}
    {filter : ValueFilter} {replay : Bool}
    (ready : t.status = .ready (.subscribe k filter replay g.root)) (iff : k = 0 ↔ g.mark = none) :
    g.Runs updates got [] [] (x.make n t (.subscribe k filter replay g.root)) := by
  obtain ⟨waiting, free, waits⟩ := runs.waiting there ready
  rw [Site.make_subscribe runs.parts.calm.isCancelled_child]
  refine waiting.child.storeAct rfl (by simp) fun s found => ⟨free.stores k s found, ?_⟩
  exact ⟨filter, replay, _, rfl, waits, runs.parts.calm.issues, iff⟩

/-- A task follows a catalog. -/
theorem Runs.follow (runs : g.Runs updates got [] [] x) (there : x.tasks[n]? = some t) {k : Nat}
    {filter : RegisterFilter} (ready : t.status = .ready (.follow k filter g.root)) :
    g.Runs updates got [] [] (x.make n t (.follow k filter g.root)) := by
  obtain ⟨waiting, free, waits⟩ := runs.waiting there ready
  rw [Site.make_follow runs.parts.calm.isCancelled_child]
  refine waiting.child.catalogAct (by simp) (by simp) fun c m access found same => ?_
  cases same
  exact ⟨free.catalogs k c found, .inr ⟨filter, _, rfl, waits, runs.parts.calm.issues⟩⟩

/-- A task makes its call. -/
theorem Runs.make (runs : g.Runs updates got [] [] x) (there : x.tasks[n]? = some t)
    (ready : t.status = .ready c) : g.Runs updates got [] [] (x.make n t c) := by
  obtain ⟨p, post⟩ := runs.mans.exists_post there
  obtain ⟨waiting, free, waits⟩ := runs.waiting there ready
  cases runs.mans.duty n t p there post with
  | opened finished | rests _ finished =>
    exact absurd finished (Task.Calls.not_finished (.inl ready))
  | opens _ calls unmarked =>
    obtain rfl := calls.eq_of_ready ready
    cases runs.parts.openers n _ post with
    | values => exact runs.subscribe there ready (by simp [unmarked])
    | registers => exact runs.follow there ready
  | forwards _ calls =>
    obtain rfl := calls.eq_of_ready ready
    exact waiting
  | drives marked _ calls drives =>
    obtain rfl := calls.eq_of_ready ready
    cases drives with
    | @add registers =>
      refine waiting.catalogAct (by simp) (by simp) fun c m access found same => ?_
      cases same
      exact ⟨free.catalogs _ c found, .inl ⟨registers, rfl, waits⟩⟩
    | fill k v =>
      exact waiting.storeAct rfl (by simp) fun s found => ⟨free.stores k s found, waits, marked⟩
    | subscribe => exact runs.subscribe there ready (by simp [marked])
    | await => exact waiting

/-! ## Answers -/

/-- Whoever hears nothing of values has got what it had. -/
theorem Runs.told (runs : g.Runs updates got [] [] x') (there : x'.tasks[n]? = some t)
    (waits : t.status = .waiting c) (free : x'.Free n) (post : g.posts[n]? = some p)
    (suits : g.Suits x' n r p) (silent : r.values = []) (noise : String → Float)
    (time : Timestamp) : g.Runs updates got [] [] (x'.respondWith noise time n t r) :=
  Runs.respond runs.parts runs.mans runs.holding there waits free post suits
    (fun m => by simp [silent]) noise time

/-- A task is told of the subscription that a store gave it. -/
theorem Told.suits {k : Nat} {s' : Store} {reply : Reply}
    (told : g.Told x.signals x.tasks k s' n reply) (runs : g.Runs updates got [] [] x)
    (signals : x'.signals = x.signals) (found : x'.stores[k]? = some s')
    (there : x.tasks[n]? = some t) (waits : t.status = .waiting c)
    (post : g.posts[n]? = some p) : g.Suits x' n (Site.storeResponse k (.ok reply)) p := by
  obtain ⟨filter, replay, id, token, rfl, waits', issues, iff, listed⟩ := told
  obtain rfl := Waits.eq ⟨t, there, waits⟩ waits'
  have gets {s : Subscription} (is : Response.subscribed ⟨.store k, id, token, true⟩ =
      .subscribed s) : s = ⟨.store k, id, token, true⟩ := (Response.subscribed.inj is).symm
  cases runs.mans.duty n t p there post with
  | opened finished | rests _ finished =>
    exact absurd finished (Task.Calls.not_finished (.inr waits))
  | opens _ calls unmarked =>
    obtain rfl := calls.eq_of_waiting waits
    refine .opener fun s is => ?_
    obtain rfl := gets is
    obtain ⟨lists, new⟩ := listed (iff.2 unmarked)
    refine ⟨.store rfl found lists, ?_, fun _ => new⟩
    rw [signals]
    exact issues.keeps runs.parts.calm unmarked
  | forwards _ calls => cases calls.eq_of_waiting waits
  | drives _ _ calls drives =>
    obtain rfl := calls.eq_of_waiting waits
    cases drives
    refine .device fun s is => ?_
    obtain rfl := gets is
    exact ⟨rfl, signals ▸ issues⟩

/-- A task has the answer of a store. -/
theorem Runs.hearStore {k : Nat} {answer : Except Error Reply} (runs : g.Runs updates got [] [] x)
    (there : x.tasks[n]? = some t) (waits : t.status = .waiting c) (goes : k ∈ c.stores)
    (answered : x.storeAct? k (.resolve n) = some (.result answer, x')) (noise : String → Float)
    (time : Timestamp) :
    g.Runs updates got [] [] (x'.respondWith noise time n t (Site.storeResponse k answer)) := by
  obtain ⟨p, post⟩ := runs.mans.exists_post there
  obtain ⟨-, free, told⟩ :=
    runs.parts.resolveStore runs.holding ⟨t, there, waits⟩ goes answered
  have runs' := runs.storeAct? answered rfl nofun fun _ _ => trivial
  have there' : x'.tasks[n]? = some t := by rw [Site.tasks_storeAct? answered, there]
  refine runs'.told there' waits free post ?_ (by unfold Site.storeResponse; split <;> rfl)
    noise time
  have silent (other : ∀ s, Site.storeResponse k answer ≠ .subscribed s) :
      g.Suits x' n (Site.storeResponse k answer) p := by
    cases runs'.mans.duty n t p there' post with
    | opened | opens => exact .opener fun s is => absurd is (other s)
    | rests | drives => exact .device fun s is => absurd is (other s)
    | forwards _ calls =>
      cases calls.eq_of_waiting waits
      cases goes
  cases answer with
  | error e => exact silent nofun
  | ok reply =>
    rcases told reply rfl with rfl | ⟨s', found, told⟩
    · exact silent nofun
    · exact told.suits runs (runs.holding.signals_eq answered) found there waits post

/-- A task has the answer of a catalog. -/
theorem Runs.hearCatalog {k : Nat} {answer : Catalog.Reply} (runs : g.Runs updates got [] [] x)
    (there : x.tasks[n]? = some t) (waits : t.status = .waiting c) (goes : k ∈ c.catalogs)
    (answered : x.catalogAct? k (.resolve n) = some (.reply answer, x')) (noise : String → Float)
    (time : Timestamp) :
    g.Runs updates got [] [] (x'.respondWith noise time n t (Site.catalogResponse k answer)) := by
  obtain ⟨p, post⟩ := runs.mans.exists_post there
  obtain ⟨-, free, given⟩ :=
    runs.parts.resolveCatalog runs.holding ⟨t, there, waits⟩ goes answered
  have runs' := runs.catalogQuiet? answered rfl
  obtain ⟨tasks, signals⟩ := Site.tasks_catalogAct? answered
  have there' : x'.tasks[n]? = some t := by rw [tasks, there]
  refine runs'.told there' waits free post ?_ (by unfold Site.catalogResponse; split <;> rfl)
    noise time
  have known {s : Subscription} (is : Site.catalogResponse k answer = .subscribed s) :
      ∃ id token, answer = .subscribed id token ∧ s = ⟨.catalog k, id, token, true⟩ := by
    unfold Site.catalogResponse at is
    split at is <;> cases is
    exact ⟨_, _, rfl, rfl⟩
  cases runs.mans.duty n t p there post with
  | opened finished | rests _ finished =>
    exact absurd finished (Task.Calls.not_finished (.inr waits))
  | opens _ calls unmarked =>
    obtain rfl := calls.eq_of_waiting waits
    refine .opener fun s is => ?_
    obtain ⟨id, token, same, rfl⟩ := known is
    obtain ⟨filter, rfl, issues, p, found, lists⟩ := given id token same
    refine ⟨.catalog rfl found lists, ?_, fun none => absurd rfl none⟩
    rw [signals]
    exact issues.keeps runs.parts.calm unmarked
  | forwards _ calls =>
    cases calls.eq_of_waiting waits
    cases goes
  | drives _ _ calls drives =>
    refine .device fun s is => ?_
    obtain ⟨id, token, same, -⟩ := known is
    obtain ⟨filter, rfl, -⟩ := given id token same
    obtain rfl := calls.eq_of_waiting waits
    cases drives

/-! ## Items -/

/-- A forwarder gets the next value. -/
theorem Runs.hearFirst {values : Subscription} {registers : List Subscription}
    (runs : g.Runs updates got [] [] x) (there : x.tasks[n]? = some t)
    (waits : t.status = .waiting (.receiveAny values registers))
    (post : g.posts[n]? = some (.forwarder values registers))
    (read : x.read? values = some (r, x'))
    (counts : ∀ m, got' m = got m ++ if n = m then r.values else []) (noise : String → Float)
    (time : Timestamp) : g.Runs updates got' [] [] (x'.respondWith noise time n t r) := by
  obtain ⟨⟨filter, replay, m, posted, result⟩, -⟩ := runs.parts.sources n values registers post
  obtain ⟨enlists, keeps, -⟩ := runs.parts.opened m _ _ posted result
  cases enlists with
  | @store _ _ _ _ _ s feed found lists =>
  have goes_on := runs.parts.calm.isCancelled keeps
  obtain ⟨h, recorded, -⟩ := (runs.parts.stores 0 s found).recorded
  -- It is on the roster and nobody ended it, so there is nothing to be read but a value.
  have more := recorded.desk.isExhausted_of_on lists.on
  rcases Site.read?_store feed read with ⟨v, rfl, acted⟩ | ⟨-, o, acted, other⟩
  · have parts : g.Parts updates got' x' := by
      refine runs.parts.storeAct runs.holding acted (fun _ _ => trivial)
        (fun _ s s' _ => ⟨(List.append_nil _).symm, fun m values' forwards => ?_⟩)
        fun nonzero => absurd rfl nonzero
      rw [counts m]
      refine congrArg (got m ++ ·) (if_congr ⟨?_, fun same => ?_⟩ rfl rfl)
      · rintro rfl
        obtain ⟨registers', post'⟩ := forwards
        cases post.symm.trans post'
        rfl
      -- No two forward the same subscription, so the others got nothing by this.
      · exact runs.mans.apart n m values values' ⟨registers, post⟩ forwards same
    have there' : x'.tasks[n]? = some t := by rw [Site.tasks_storeAct? acted, there]
    refine Runs.respond parts (runs.mans.congr (Site.tasks_storeAct? acted) ?_)
      (runs.holding.storeAct? acted nofun) there' waits (parts.free fun c' waits' => ?_) post
      (.forwarder (.value v) rfl) counts noise time
    · rw [runs.holding.signals_eq acted]
    · cases Waits.eq ⟨t, there', waits⟩ waits'
      exact ⟨rfl, rfl⟩
  · obtain ⟨p, σ, s', there, acts, -⟩ := Site.storeAct?_eq_some.1 acted
    cases found.symm.trans there
    obtain ⟨v, is⟩ := Store.item_of_read goes_on more acts
    exact absurd is (other v)

/-- A forwarder gets the next register. -/
theorem Runs.hearOther {values s : Subscription} {registers : List Subscription} {i : Item}
    (runs : g.Runs updates got [] [] x) (there : x.tasks[n]? = some t)
    (waits : t.status = .waiting (.receiveAny values registers))
    (post : g.posts[n]? = some (.forwarder values registers)) (one : s ∈ registers)
    (read : x.read? s = some (.item i, x')) (noise : String → Float) (time : Timestamp) :
    (Response.item i).values = [] ∧
      g.Runs updates got [] [] (x'.respondWith noise time n t (.item i)) := by
  obtain ⟨k, filter, m, posted, result⟩ := (runs.parts.sources n values registers post).2 s one
  cases (runs.parts.opened m _ _ posted result).enlists with
  | catalog feed =>
  obtain ⟨silent, o, acted⟩ := Site.read?_catalog feed read
  have runs' := runs.catalogQuiet? acted rfl
  have there' : x'.tasks[n]? = some t := by rw [(Site.tasks_catalogAct? acted).1, there]
  refine ⟨silent, runs'.told there' waits (runs'.parts.free fun c' waits' => ?_) post
    (.forwarder i rfl) silent noise time⟩
  cases Waits.eq ⟨t, there', waits⟩ waits'
  exact ⟨rfl, rfl⟩

/-- A device hears what it waits for. -/
theorem Runs.hearAwaited {token : Token} {due : Nat} {s : Subscription} {catalog : Nat}
    (runs : g.Runs updates got [] [] x) (there : x.tasks[n]? = some t)
    (waits : t.status = .waiting (.await token due s)) (post : g.posts[n]? = some (.device catalog))
    (feed : s.feed = .store 1) (hears : x.Hears n (.await token due s) r x')
    (counts : ∀ m, got' m = got m ++ if n = m then r.values else []) (noise : String → Float)
    (time : Timestamp) : g.Runs updates got' [] [] (x'.respondWith noise time n t r) := by
  have free {x : Site} {got : Nat → List Value} (parts : g.Parts updates got x)
      (there : x.tasks[n]? = some t) : x.Free n := parts.free fun c' waits' => by
    cases Waits.eq ⟨t, there, waits⟩ waits'
    exact ⟨rfl, rfl⟩
  have silent (is : r.values = []) : got' = got := by
    funext m
    simp [counts m, is]
  cases hears with
  | store goes => cases goes
  | catalog goes => cases goes
  | tick | cancelled =>
    rw [silent rfl]
    exact runs.told there waits (free runs.parts there) post (.device fun s is => by cases is) rfl
      noise time
  | command _ _ read =>
    have acted : ∃ o, x.storeAct? 1 (.read s.id s.token) = some (o, x') := by
      rcases Site.read?_store feed read with ⟨v, -, acted⟩ | ⟨-, o, acted, -⟩
      · exact ⟨_, acted⟩
      · exact ⟨_, acted⟩
    obtain ⟨o, acted⟩ := acted
    have parts : g.Parts updates got' x' := by
      refine runs.parts.storeAct runs.holding acted (fun _ _ => trivial) nofun
        fun _ => ⟨rfl, fun m values forwards => ?_⟩
      obtain ⟨registers, post'⟩ := forwards
      rw [counts m, if_neg, List.append_nil]
      rintro rfl
      cases post.symm.trans post'
    have there' : x'.tasks[n]? = some t := by rw [Site.tasks_storeAct? acted, there]
    refine Runs.respond parts (runs.mans.congr (Site.tasks_storeAct? acted) ?_)
      (runs.holding.storeAct? acted nofun) there' waits (free parts there') post
      (.device fun s is => by cases is) counts noise time
    rw [runs.holding.signals_eq acted]

/-- The calls that a task makes that is there for some purpose. -/
inductive Pursues (root : Token) : Post → Call → Prop
  | opener {call : Call} (opens : Opens root call) : Pursues root (.opener call) call
  | forwarder (values : Subscription) (registers : List Subscription) :
      Pursues root (.forwarder values registers) (.receiveAny values registers)
  | device {catalog : Nat} {call : Call} (drives : Drives root catalog call) :
      Pursues root (.device catalog) call

/-- Devices wait, for commands from the second store. -/
theorem Pursues.of_await {root token : Token} {due : Nat} {s : Subscription}
    (pursues : Pursues root p (.await token due s)) :
    ∃ catalog, p = .device catalog ∧ s.feed = .store 1 := by
  cases pursues with
  | opener opens => cases opens
  | device drives =>
    cases drives with
    | await _ feed => exact ⟨_, rfl, feed⟩

/-- Forwarders take items. -/
theorem Pursues.of_receiveAny {root : Token} {values : Subscription}
    {registers : List Subscription} (pursues : Pursues root p (.receiveAny values registers)) :
    p = .forwarder values registers := by
  cases pursues with
  | opener opens => cases opens
  | forwarder => rfl
  | device drives => cases drives

theorem Runs.pursues (runs : g.Runs updates got [] [] x) (there : x.tasks[n]? = some t)
    (waits : t.status = .waiting c) (post : g.posts[n]? = some p) : Pursues g.root p c := by
  cases runs.mans.duty n t p there post with
  | opened finished | rests _ finished =>
    exact absurd finished (Task.Calls.not_finished (.inr waits))
  | opens _ calls =>
    obtain rfl := calls.eq_of_waiting waits
    exact .opener (runs.parts.openers n _ post)
  | forwards _ calls =>
    obtain rfl := calls.eq_of_waiting waits
    exact .forwarder _ _
  | drives _ _ calls drives =>
    obtain rfl := calls.eq_of_waiting waits
    exact .device drives

/-- A task hears one of the things that it waits for. -/
theorem Runs.hear (runs : g.Runs updates got [] [] x) (there : x.tasks[n]? = some t)
    (waits : t.status = .waiting c) (hears : x.Hears n c r x')
    (counts : ∀ m, got' m = got m ++ if n = m then r.values else []) (noise : String → Float)
    (time : Timestamp) : g.Runs updates got' [] [] (x'.respondWith noise time n t r) := by
  obtain ⟨p, post⟩ := runs.mans.exists_post there
  have pursues := runs.pursues there waits post
  have silent (is : r.values = []) : got' = got := by
    funext m
    simp [counts m, is]
  cases hears with
  | store goes answered =>
    rw [silent (by unfold Site.storeResponse; split <;> rfl)]
    exact runs.hearStore there waits goes answered noise time
  | catalog goes answered =>
    rw [silent (by unfold Site.catalogResponse; split <;> rfl)]
    exact runs.hearCatalog there waits goes answered noise time
  | receive =>
    cases pursues with
    | opener opens => cases opens
    | device drives => cases drives
  | command token due read =>
    obtain ⟨catalog, rfl, feed⟩ := pursues.of_await
    exact runs.hearAwaited there waits post feed (.command _ _ read) counts noise time
  | tick token s late =>
    obtain ⟨catalog, rfl, feed⟩ := pursues.of_await
    exact runs.hearAwaited there waits post feed (.tick _ _ late) counts noise time
  | cancelled due s ended =>
    obtain ⟨catalog, rfl, feed⟩ := pursues.of_await
    exact runs.hearAwaited there waits post feed (.cancelled _ _ ended) counts noise time
  | first others read =>
    obtain rfl := pursues.of_receiveAny
    exact runs.hearFirst there waits post read counts noise time
  | other values one read =>
    obtain rfl := pursues.of_receiveAny
    obtain ⟨nothing, runs'⟩ := runs.hearOther there waits post one read noise time
    rwa [silent nothing]

end Responses

/-! ## Events -/

section Events

variable {g : Crew} {updates : List Value} {got : Nat → List Value} {x x' : Site}

/-- The owner of a store takes a move. -/
theorem Runs.own {k : Nat} {m : Store.Move} {o : Store.Output} (runs : g.Runs updates got [] [] x)
    (moved : x.storeAct? k (.owner m) = some (o, x')) :
    g.Runs (updates ++ Site.Step.updates 0 ⟨x, .own k m⟩) got [] [] x' where
  parts := by
    refine runs.parts.storeAct runs.holding moved (fun _ _ => trivial)
      (fun zero s s' there => ⟨?_, fun _ _ _ => (List.append_nil _).symm⟩)
      fun nonzero => ⟨?_, fun _ _ _ => rfl⟩
    · subst zero
      simp only [Site.Step.updates, there, if_true]
      rfl
    · have elsewhere : Site.Step.updates 0 ⟨x, .own k m⟩ = [] := by
        unfold Site.Step.updates
        split
        next is _ =>
          cases is
          rw [if_neg nonzero]
        · rfl
      rw [elsewhere, List.append_nil]
  mans := runs.mans.congr (Site.tasks_storeAct? moved)
    (Nat.le_of_eq (by rw [runs.holding.signals_eq moved]))
  holding := runs.holding.storeAct? moved nofun

/-- Short of a signal from outside, whatever happens keeps what is known. -/
theorem Runs.happens {e : Site.Event} (runs : g.Runs updates got [] [] x)
    (happened : x.Happens e x') (calm : ∀ t, e ≠ .cancel t) :
    g.Runs (updates ++ Site.Step.updates 0 ⟨x, e⟩)
      (fun n => got n ++ Site.Step.counted n ⟨x, e⟩) [] [] x' := by
  -- Nobody hears anything.
  have quiet {updates' : List Value} (runs' : g.Runs updates' got [] [] x')
      (updated : updates' = updates ++ Site.Step.updates 0 ⟨x, e⟩)
      (unheard : ∀ n, Site.Step.counted n ⟨x, e⟩ = []) :
      g.Runs (updates ++ Site.Step.updates 0 ⟨x, e⟩)
        (fun n => got n ++ Site.Step.counted n ⟨x, e⟩) [] [] x' := by
    simpa only [unheard, List.append_nil, ← updated] using runs'
  have still : updates = updates ++ [] := (List.append_nil _).symm
  cases happened with
  | own moved => exact quiet (runs.own moved) rfl fun _ => rfl
  | cancel t => exact absurd rfl (calm t)
  | hear noise time there waits hears =>
    simp only [Site.Step.updates, List.append_nil]
    exact runs.hear there waits hears (fun m => rfl) noise time
  | @watchStore _ a _ _ waits acted =>
    refine quiet (runs.storeAct? acted ?_ ?_ fun s _ => ?_) still fun _ => rfl
    · cases a <;> first | rfl | cases waits
    · rintro rfl
      cases waits
    · cases a <;> trivial
  | @watchCatalog _ a _ _ waits acted =>
    refine quiet (runs.catalogQuiet? acted ?_) still fun _ => rfl
    cases a <;> first | rfl | cases waits
  | call there ready => exact quiet (runs.make there ready) still fun _ => rfl
  | enter _ _ _ entered =>
    exact quiet (runs.storeAct? entered rfl nofun fun _ _ => trivial) still fun _ => rfl
  | @drive _ _ _ _ a _ _ _ _ _ drives acted =>
    refine quiet (runs.catalogQuiet? acted ?_) still fun _ => rfl
    cases a <;> first | rfl | cases drives
  | pass turns =>
    exact quiet ⟨runs.parts.pass _ turns, runs.mans.congr rfl (Nat.le_refl _),
      runs.holding.congr rfl rfl rfl⟩ still fun _ => rfl

/-- What is known at the beginning of a run is known at its end. -/
theorem Runs.run {tr : Site.Trace} (runs : g.Runs updates got [] [] x) (run : Site.Run x tr x')
    (calm : tr.Uncancelled) :
    g.Runs (updates ++ tr.updates 0) (fun n => got n ++ tr.counted n) [] [] x' := by
  refine Site.Run.induct (P := fun tr x => g.Runs (updates ++ tr.updates 0)
    (fun n => got n ++ tr.counted n) [] [] x) run calm ?_ fun tr y y' e runs quiet happened => ?_
  · simpa [Site.Trace.updates, Site.Trace.counted] using runs
  · have next := runs.happens happened quiet
    simpa [Site.Trace.updates_append, Site.Trace.counted_append, Site.Trace.updates,
      Site.Trace.counted] using next

end Events

end Crew

end Gateway

end Telemetry
