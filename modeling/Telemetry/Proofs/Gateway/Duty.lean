import Telemetry.Proofs.Gateway.Parts

/-!
# The tasks of a gateway

Each task sticks to what it is there for: an opener makes one call and is done, a forwarder takes
items and counts the values among them, and a device announces, reports and listens.

## Main definitions

* `Crew.Duty`: what a task does that is there for some purpose.
* `Crew.Mans`: every task does what it is there for.

## Main results

* `Crew.Mans.setTask`, `Crew.Mans.post`, `Crew.Mans.launch`: tasks go on, come, and wait for devices
  to start.
-/

namespace Telemetry

namespace Site

/-- A task is about to make a call, or waits on it. -/
def Task.Calls (t : Task) (c : Call) : Prop :=
  t.status = .ready c ∨ t.status = .waiting c

def Task.IsFinished (t : Task) : Prop :=
  ∃ result, t.status = .finished result

section Tasks

variable {x : Site} {n : Nat} {t : Task} {c : Call}

theorem Task.Calls.eq_of_waiting {c' : Call} (calls : t.Calls c) (waits : t.status = .waiting c') :
    c' = c := by
  rcases calls with ready | waiting
  · cases ready.symm.trans waits
  · exact (Status.waiting.inj (waiting.symm.trans waits)).symm

theorem Task.Calls.eq_of_ready {c' : Call} (calls : t.Calls c) (ready : t.status = .ready c') :
    c' = c := by
  rcases calls with ready' | waiting
  · exact (Status.ready.inj (ready'.symm.trans ready)).symm
  · cases waiting.symm.trans ready

theorem Task.Calls.not_finished (calls : t.Calls c) : ¬ t.IsFinished := by
  rintro ⟨result, finished⟩
  rcases calls with ready | waiting
  · cases ready.symm.trans finished
  · cases waiting.symm.trans finished

theorem result?_of_calls (there : x.tasks[n]? = some t) (calls : t.Calls c) :
    x.result? n = none := by
  unfold result?
  rw [there]
  obtain ⟨role, status, stores, catalogs⟩ := t
  rcases calls with ready | waiting
  · cases ready
    rfl
  · cases waiting
    rfl

/-- A task that has a result is finished. -/
theorem isFinished_of_result? {result : Result} (there : x.tasks[n]? = some t)
    (is : x.result? n = some result) : t.IsFinished := by
  unfold result? at is
  split at is
  next found =>
    cases there.symm.trans found
    exact ⟨_, rfl⟩
  · cases is

end Tasks

/-! ## What tasks do next -/

section Roles

variable {noise : String → Float} {time : Timestamp} {now : Nat}

/-- A single call is made, and its response is the result. -/
theorem Role.resume_opener (r : Response) :
    (Role.script [] []).resume noise time now r = (.script [] [r], .error (.responses [r])) := by
  cases r with
  | stored r => cases r <;> rfl
  | _ => rfl

/-- Whoever forwards goes on with the next item and counts the values. -/
theorem Role.resume_forwarder (values : Subscription) (registers : List Subscription) (count : Nat)
    (i : Item) :
    (Role.forwarder values registers count).resume noise time now (.item i) =
      (.forwarder values registers (count + (Response.item i).values.length),
        .ok (.receiveAny values registers)) := by
  cases i <;> rfl

/-- The subscription to commands that a device has after a response. -/
def Response.commands (commands : Option Subscription) : Response → Option Subscription
  | .subscribed s => some s
  | _ => commands

/-- A device makes its next call or ends. -/
theorem Role.resume_device (noise : String → Float) (time : Timestamp) (now : Nat) (w : Wiring)
    (commands : Option Subscription) (loop : Device.Loop) (r : Response) : ∃ loop',
      (∃ call, (Role.device w commands loop).resume noise time now r =
        (.device w (r.commands commands) loop',
          .ok (deviceCall w (r.commands commands) loop'.device time call))) ∨
      ∃ ending, (Role.device w commands loop).resume noise time now r =
        (.device w (r.commands commands) loop', .error (.device ending)) := by
  cases resumed : loop.resume noise time now (deviceEvent r) with
  | mk loop' next =>
    refine ⟨loop', ?_⟩
    cases next with
    | ok call =>
      refine .inl ⟨call, ?_⟩
      simp only [Role.resume, resumed]
      cases r <;> rfl
    | error ending =>
      refine .inr ⟨ending, ?_⟩
      simp only [Role.resume, resumed]
      cases r <;> rfl

end Roles

end Site

namespace Gateway

open Site (Call Task Response)

namespace Crew

/-- The calls of a device that takes its commands from the second store. -/
inductive Drives (root : Token) (catalog : Nat) : Call → Prop
  | add (registers : List Register) : Drives root catalog (.add catalog registers)
  | fill (store : Nat) (v : Value) : Drives root catalog (.fill store v)
  | subscribe (filter : ValueFilter) (replay : Bool) :
      Drives root catalog (.subscribe 1 filter replay root)
  | await (due : Nat) {s : Subscription} (feed : s.feed = .store 1) :
      Drives root catalog (.await root due s)

theorem drives_deviceCall {root : Token} {catalog : Nat} {commands : Option Subscription}
    (feed : ∀ s, commands = some s → s.feed = .store 1) (d : Device) (time : Timestamp)
    (call : Device.Call) :
    Drives root catalog (Site.Role.deviceCall ⟨0, 1, catalog, root⟩ commands d time call) := by
  cases call with
  | announce registers => exact .add registers
  | report v => exact .fill 0 v
  | listen => exact .subscribe _ true
  | consume command => exact .fill 1 _
  | await due =>
    refine .await due ?_
    cases commands with
    | none => rfl
    | some s => exact feed s rfl

/-- A subscription to commands. -/
def Commands (g : Crew) (σ : Signals) (s : Subscription) : Prop :=
  s.feed = .store 1 ∧ g.Issues σ s.token

/-- What a task does that is there for some purpose. -/
inductive Duty (g : Crew) (σ : Signals) (got : List Value) (t : Task) : Post → Prop
  | opened {call : Call} (finished : t.IsFinished) : Duty g σ got t (.opener call)
  | opens {call : Call} (role : t.role = .script [] []) (calls : t.Calls call)
      (unmarked : g.mark = none) : Duty g σ got t (.opener call)
  | forwards {values : Subscription} {registers : List Subscription}
      (role : t.role = .forwarder values registers got.length)
      (calls : t.Calls (.receiveAny values registers)) : Duty g σ got t (.forwarder values registers)
  | rests {catalog : Nat} (marked : g.mark ≠ none) (finished : t.IsFinished) :
      Duty g σ got t (.device catalog)
  | drives {catalog : Nat} {commands : Option Subscription} {loop : Device.Loop} {call : Call}
      (marked : g.mark ≠ none) (role : t.role = .device ⟨0, 1, catalog, g.root⟩ commands loop)
      (calls : t.Calls call) (drives : Drives g.root catalog call)
      (own : ∀ s, commands = some s → g.Commands σ s) : Duty g σ got t (.device catalog)

/-- Every task does what it is there for, and no two of them forward the same subscription. -/
structure Mans (g : Crew) (got : Nat → List Value) (x : Site) : Prop where
  size : x.tasks.size = g.posts.length
  duty : ∀ (n : Nat) t p, x.tasks[n]? = some t → g.posts[n]? = some p →
    g.Duty x.signals (got n) t p
  apart : ∀ m n values values', g.Forwards m values → g.Forwards n values' →
    values.id = values'.id → m = n
  later : ∀ n, g.posts.length ≤ n → got n = []

section Tasks

variable {g : Crew} {got got' : Nat → List Value} {x x' : Site} {n : Nat} {t t' : Task} {p : Post}
  {σ σ' : Signals} {values : List Value}

theorem Commands.mono {s : Subscription} (commands : g.Commands σ s) (more : σ.next ≤ σ'.next) :
    g.Commands σ' s :=
  ⟨commands.1, commands.2.mono more⟩

theorem Duty.mono (duty : g.Duty σ values t p) (more : σ.next ≤ σ'.next) :
    g.Duty σ' values t p := by
  cases duty with
  | opened finished => exact .opened finished
  | opens role calls unmarked => exact .opens role calls unmarked
  | forwards role calls => exact .forwards role calls
  | rests marked finished => exact .rests marked finished
  | drives marked role calls drives own =>
    exact .drives marked role calls drives fun s is => (own s is).mono more

theorem Duty.post (duty : g.Duty σ values t p) (q : Post) : (g.post q).Duty σ values t p := by
  cases duty with
  | opened finished => exact .opened finished
  | opens role calls unmarked => exact .opens role calls unmarked
  | forwards role calls => exact .forwards role calls
  | rests marked finished => exact .rests marked finished
  | drives marked role calls drives own => exact .drives marked role calls drives own

/-- A task is there for something. -/
theorem Mans.exists_post (mans : g.Mans got x) (there : x.tasks[n]? = some t) :
    ∃ p, g.posts[n]? = some p := by
  obtain ⟨less, -⟩ := Array.getElem?_eq_some_iff.1 there
  exact ⟨_, List.getElem?_eq_getElem (mans.size ▸ less)⟩

/-- Whatever happens to the parts, tasks do what they did. -/
theorem Mans.congr (mans : g.Mans got x) (tasks : x'.tasks = x.tasks)
    (more : x.signals.next ≤ x'.signals.next) : g.Mans got x' where
  size := by rw [tasks, mans.size]
  duty n t p there post := (mans.duty n t p (tasks ▸ there) post).mono more
  apart := mans.apart
  later := mans.later

/-- A task goes on. -/
theorem Mans.setTask (mans : g.Mans got x) (there : x.tasks[n]? = some t)
    (same : ∀ m, m ≠ n → got' m = got m)
    (duty : ∀ p, g.posts[n]? = some p → g.Duty x.signals (got' n) t' p) :
    g.Mans got' (x.setTask n t') where
  size := by
    rw [Site.setTask, Array.size_setIfInBounds, mans.size]
  duty m u p found post := by
    rcases Site.of_getElem?_setIfInBounds found with ⟨rfl, rfl⟩ | ⟨other, found⟩
    · exact duty p post
    · rw [same m other]
      exact mans.duty m u p found post
  apart := mans.apart
  later m beyond := by
    have other : m ≠ n := by
      rintro rfl
      obtain ⟨less, -⟩ := Array.getElem?_eq_some_iff.1 there
      exact Nat.not_lt.2 beyond (mans.size ▸ less)
    rw [same m other, mans.later m beyond]

/-- One more task does what it is there for. -/
theorem Mans.post (mans : g.Mans got x) (turns : List Site.Actor)
    (duty : g.Duty x.signals [] t p)
    (new : ∀ values registers, p = .forwarder values registers → g.IsNew x.tasks.size values.id) :
    (g.post p).Mans got { x with tasks := x.tasks.push t, turns } where
  size := by
    rw [Array.size_push, mans.size, Crew.post, List.length_append, List.length_singleton]
  duty m u q there post := by
    refine Duty.post ?_ p
    rw [Array.getElem?_push] at there
    split at there
    next is =>
      subst is
      cases there
      rw [mans.size, Crew.post, List.getElem?_concat_length] at post
      cases post
      rwa [mans.later _ (Nat.le_of_eq mans.size.symm)]
    next =>
      obtain ⟨less, -⟩ := Array.getElem?_eq_some_iff.1 there
      rw [Crew.post, List.getElem?_append_left (mans.size ▸ less)] at post
      exact mans.duty m u q there post
  apart m n values values' forwards forwards' same := by
    have below {i : Nat} {s : Subscription} (forwards : g.Forwards i s) : i < x.tasks.size := by
      obtain ⟨registers, post⟩ := forwards
      obtain ⟨less, -⟩ := List.getElem?_eq_some_iff.1 post
      exact mans.size ▸ less
    -- Either may be the new task. What it forwards is new to all that came before.
    rcases of_forwards_post forwards with old | ⟨rfl, registers, is⟩ <;>
      rcases of_forwards_post forwards' with old' | ⟨rfl, registers', is'⟩
    · exact mans.apart m n values values' old old' same
    · exact absurd same (new values' registers' is' m values (below old) old)
    · exact absurd same.symm (new values registers is n values' (below old') old')
    · rfl
  later m beyond := by
    rw [Crew.post, List.length_append, List.length_singleton] at beyond
    exact mans.later m (Nat.le_of_succ_le beyond)

/-- Devices start when all subscriptions are there. -/
theorem Mans.launch (mans : g.Mans got x) (unmarked : g.mark = none)
    (settled : ∀ (n : Nat) call t, g.posts[n]? = some (.opener call) → x.tasks[n]? = some t →
      t.IsFinished) : (g.launch x.signals).Mans got x where
  size := mans.size
  duty n t p there post := by
    have duty := mans.duty n t p there post
    cases duty with
    | opened finished => exact .opened finished
    | opens => exact .opened (settled n _ t post there)
    | forwards role calls => exact .forwards role calls
    | rests marked => exact absurd unmarked marked
    | drives marked => exact absurd unmarked marked
  apart := mans.apart
  later := mans.later

end Tasks

end Crew

end Gateway

end Telemetry
