import Telemetry.Proofs.Gateway.Run
import Telemetry.Gateway

/-!
# The course of a gateway

A gateway subscribes for one consumer after the other, has a task forward to each, and then starts
its devices. In between anything may happen at its site: tasks, owners and whoever else is there act
in any order.

## Main definitions

* `Gateway.subscribing`: the calls by which a consumer subscribes.
* `Gateway.Progress`, `Gateway.Course`: how far a gateway has come, and how it got there.

## Main results

* `Gateway.reaches_start`: a gateway that starts with everybody acting as soon as possible is one
  course.
-/

namespace Telemetry.Gateway

open Site (Call Task)

/-- The calls by which a consumer subscribes: to values, then to the catalogs of its devices. -/
def subscribing (m : Simulator) (token : Token) (c : ConsumerConfig) : List Call :=
  .subscribe m.state c.filter c.sendInitial token ::
    (followed m c).map fun catalog => .follow catalog (.selection c.registers) token

/-- The task that forwards to a consumer, with its subscriptions. -/
structure Forwarder where
  consumer : ConsumerConfig
  task : Nat
  values : Subscription
  registers : List Subscription

/-- How far a gateway has come. -/
structure Progress where
  forwarders : List Forwarder := []
  /-- The subscriptions that the next consumer has. -/
  opened : List Subscription := []
  /-- The task that opens one more for it. -/
  opening : Option Nat := none
  /-- How many devices had their turn to start. -/
  started : Nat := 0

/-- The token that ends a gateway. -/
def root (g : Gateway) : Token :=
  g.site.newToken.1

/-- What happened since a gateway began to run, how far it has come, and its site. -/
inductive Course (g : Gateway) : Site.Trace → Progress → Site → Prop
  | start : Course g [] {} g.site.newToken.2
  | happen {tr : Site.Trace} {p : Progress} {x x' : Site} {e : Site.Event} (course : Course g tr p x)
      (happened : x.Happens e x') : Course g (tr ++ [⟨x, e⟩]) p x'
  /-- A task opens the next subscription of the next consumer. -/
  | ask {tr : Site.Trace} {p : Progress} {x : Site} {c : ConsumerConfig} {call : Call}
      (course : Course g tr p x) (idle : p.opening = none)
      (next : g.consumers[p.forwarders.length]? = some c)
      (calls : (subscribing g.simulator g.root c)[p.opened.length]? = some call) :
      Course g tr { p with opening := some x.tasks.size } (x.spawn (.script [] []) call).2
  /-- The subscription is there. -/
  | obtain {tr : Site.Trace} {p : Progress} {x : Site} {n : Nat} {s : Subscription}
      (course : Course g tr p x) (opening : p.opening = some n)
      (result : x.result? n = some (.responses [.subscribed s])) :
      Course g tr { p with opened := p.opened ++ [s], opening := none } x
  /-- A task forwards to the next consumer, which has all its subscriptions. -/
  | forward {tr : Site.Trace} {p : Progress} {x : Site} {c : ConsumerConfig} {values : Subscription}
      {registers : List Subscription} (course : Course g tr p x) (idle : p.opening = none)
      (next : g.consumers[p.forwarders.length]? = some c) (opened : p.opened = values :: registers)
      (all : p.opened.length = (subscribing g.simulator g.root c).length) :
      Course g tr
        { p with forwarders := p.forwarders ++ [⟨c, x.tasks.size, values, registers⟩], opened := [] }
        (x.spawn (.forwarder values registers 0) (.receiveAny values registers)).2
  /-- All consumers are served, and the next device starts. -/
  | launch {tr : Site.Trace} {p : Progress} {x : Site} {d : Device} {catalog : Nat}
      (course : Course g tr p x) (idle : p.opening = none)
      (all : p.forwarders.length = g.consumers.length)
      (next : g.simulator.devices[p.started]? = some d)
      (known : g.simulator.catalog? d.name = some catalog) :
      Course g tr { p with started := p.started + 1 }
        (x.spawn (Site.Role.ofDevice d ⟨g.simulator.state, g.simulator.commands, catalog, g.root⟩
            Site.stamp).1
          (Site.Role.ofDevice d ⟨g.simulator.state, g.simulator.commands, catalog, g.root⟩
            Site.stamp).2).2
  /-- A device without a catalog does not start. -/
  | skip {tr : Site.Trace} {p : Progress} {x : Site} {d : Device} (course : Course g tr p x)
      (idle : p.opening = none) (all : p.forwarders.length = g.consumers.length)
      (next : g.simulator.devices[p.started]? = some d)
      (unknown : g.simulator.catalog? d.name = none) :
      Course g tr { p with started := p.started + 1 } x

section Courses

variable {g : Gateway} {tr more : Site.Trace} {p : Progress} {x x' : Site}

theorem Course.run (course : g.Course tr p x) (run : Site.Run x more x') :
    g.Course (tr ++ more) p x' := by
  induction run with
  | start => simpa using course
  | step run happened ih =>
    rw [← List.append_assoc]
    exact ih.happen happened

/-- A gateway comes this far without a signal from outside. -/
def Reaches (g : Gateway) (p : Progress) (x : Site) : Prop :=
  ∃ tr, g.Course tr p x ∧ tr.Uncancelled

/-- Time passes, and everybody acts as soon as possible. -/
theorem Reaches.advance (reaches : g.Reaches p x) (nanoseconds : Nat) :
    g.Reaches p (x.advance nanoseconds) := by
  obtain ⟨tr, course, calm⟩ := reaches
  obtain ⟨more, run, calm'⟩ := x.reaches_advance nanoseconds
  exact ⟨_, course.run run, calm.append calm'⟩

/-! ## Everybody acts as soon as possible -/

theorem exists_of_bind_eq_ok {α β ε : Type} {m : Except ε α} {f : α → Except ε β} {b : β}
    (bound : (m >>= f) = .ok b) : ∃ a, m = .ok a ∧ f a = .ok b := by
  cases m with
  | error => cases bound
  | ok a => exact ⟨a, rfl, bound⟩

/-- What each round keeps, given what is left to do, holds in the end. -/
theorem foldlM_induct {α β ε : Type} {f : β → α → Except ε β} (keeps : List α → β → Prop)
    (step : ∀ a l b b', keeps (a :: l) b → f b a = .ok b' → keeps l b') {l : List α} {b b' : β}
    (first : keeps l b) (done : l.foldlM f b = .ok b') : keeps [] b' := by
  induction l generalizing b with
  | nil =>
    cases done
    exact first
  | cons a l ih =>
    rw [List.foldlM_cons] at done
    obtain ⟨next, round, rest⟩ := exists_of_bind_eq_ok done
    exact ih (step a l b next first round) rest

theorem open?_eq_ok {call : Call} {s : Subscription} (opened : open? call x = .ok (s, x')) :
    x' = (x.spawn (.script [] []) call).2.settle ∧
      x'.result? x.tasks.size = some (.responses [.subscribed s]) := by
  unfold open? request? at opened
  dsimp only at opened
  split at opened
  next s' y got =>
    cases opened
    split at got
    next r result =>
      cases got
      exact ⟨rfl, result⟩
    · cases got
  · cases opened
  · cases opened

variable {fs : List Forwarder} {opened : List Subscription} {c : ConsumerConfig}

/-- One more subscription for the next consumer. -/
theorem Reaches.opens (reaches : g.Reaches ⟨fs, opened, none, 0⟩ x)
    (next : g.consumers[fs.length]? = some c) {call : Call}
    (calls : (subscribing g.simulator g.root c)[opened.length]? = some call) {s : Subscription}
    (done : open? call x = .ok (s, x')) : g.Reaches ⟨fs, opened ++ [s], none, 0⟩ x' := by
  obtain ⟨tr, course, calm⟩ := reaches
  obtain ⟨more, run, calm'⟩ := Site.reaches_settle (x.spawn (.script [] []) call).2
  obtain ⟨rfl, result⟩ := open?_eq_ok done
  exact ⟨_, ((course.ask rfl next calls).run run).obtain rfl result, calm.append calm'⟩

/-- A task forwards to the next consumer. -/
theorem Reaches.forward (reaches : g.Reaches ⟨fs, [], none, 0⟩ x)
    (next : g.consumers[fs.length]? = some c) {n : Nat}
    (forwards : Gateway.forward g.simulator g.root c x = .ok (n, x')) :
    ∃ f : Forwarder, f.consumer = c ∧ f.task = n ∧ g.Reaches ⟨fs ++ [f], [], none, 0⟩ x' := by
  obtain ⟨⟨values, y⟩, first, rest⟩ := exists_of_bind_eq_ok forwards
  obtain ⟨⟨registers, z⟩, others, last⟩ := exists_of_bind_eq_ok rest
  have has : g.Reaches ⟨fs, [values], none, 0⟩ y := reaches.opens next rfl first
  -- What is left are the last of the calls.
  obtain ⟨⟨tr, course, calm⟩, done, all, length⟩ := foldlM_induct
    (fun (l : List Nat) (b : List Subscription × Site) =>
      g.Reaches ⟨fs, values :: b.1, none, 0⟩ b.2 ∧ ∃ done : List Call,
        subscribing g.simulator g.root c = done ++ l.map
          (fun catalog => .follow catalog (.selection c.registers) g.root) ∧
          done.length = b.1.length + 1)
    (by
      rintro catalog l ⟨subs, y⟩ b ⟨reaches, done, calls, length⟩ round
      obtain ⟨⟨s, z⟩, opened, same⟩ := exists_of_bind_eq_ok round
      cases same
      have call : (subscribing g.simulator g.root c)[(values :: subs).length]? =
          some (.follow catalog (.selection c.registers) g.root) := by
        rw [calls, List.length_cons, ← length, List.getElem?_append_right (Nat.le_refl _),
          Nat.sub_self]
        rfl
      refine ⟨reaches.opens next call opened,
        done ++ [.follow catalog (.selection c.registers) g.root], ?_, ?_⟩
      · rw [calls, List.map_cons, List.append_assoc]
        rfl
      · rw [List.length_append, List.length_append, length]
        rfl)
    ⟨has, [_], rfl, rfl⟩ others
  cases last
  rw [List.map_nil, List.append_nil] at all
  exact ⟨⟨c, _, values, registers⟩, rfl, rfl, _,
    course.forward rfl next rfl (by rw [all, length, List.length_cons]), calm⟩

/-- A task forwards to each consumer. -/
theorem Reaches.forwardAll (reaches : g.Reaches {} x) {tasks : List (String × Nat)}
    (forwards : Gateway.forwardAll g.simulator g.root g.consumers x = .ok (tasks, x')) :
    ∃ fs : List Forwarder, fs.map Forwarder.consumer = g.consumers ∧
      tasks = fs.map (fun f => (f.consumer.name, f.task)) ∧
      g.Reaches ⟨fs, [], none, 0⟩ x' := by
  obtain ⟨fs, all, same, reaches⟩ := foldlM_induct
    (fun (l : List ConsumerConfig) (b : List (String × Nat) × Site) =>
      ∃ fs : List Forwarder, fs.map Forwarder.consumer ++ l = g.consumers ∧
        b.1 = fs.map (fun f => (f.consumer.name, f.task)) ∧ g.Reaches ⟨fs, [], none, 0⟩ b.2)
    (by
      rintro c l ⟨tasks, y⟩ b ⟨fs, all, rfl, reaches⟩ round
      obtain ⟨⟨n, z⟩, forwards, same⟩ := exists_of_bind_eq_ok round
      cases same
      have next : g.consumers[fs.length]? = some c := by
        rw [← all, List.getElem?_append_right (by rw [List.length_map]), List.length_map,
          Nat.sub_self]
        rfl
      obtain ⟨f, rfl, rfl, reaches⟩ := reaches.forward next forwards
      exact ⟨fs ++ [f], by simpa using all, by simp, reaches⟩)
    ⟨[], rfl, rfl, reaches⟩ forwards
  exact ⟨fs, by simpa using all, same, reaches⟩

/-- Every device has its turn. -/
theorem Reaches.launchAll {n : Nat} (reaches : g.Reaches ⟨fs, [], none, n⟩ x)
    (all : fs.length = g.consumers.length) (some_left : n ≤ g.simulator.devices.length)
    (devices : List Device) (left : g.simulator.devices.drop n = devices) (tasks : List Nat) :
    g.Reaches ⟨fs, [], none, g.simulator.devices.length⟩
      (devices.foldl (fun (tasks, x) d =>
        match g.simulator.catalog? d.name with
        | none => (tasks, x)
        | some catalog =>
          let (role, call) := Site.Role.ofDevice d
            ⟨g.simulator.state, g.simulator.commands, catalog, g.root⟩ Site.stamp
          let (n, x) := x.spawn role call
          (tasks ++ [n], x)) (tasks, x)).2 := by
  obtain ⟨tr, course, calm⟩ := reaches
  induction devices generalizing n tasks tr x with
  | nil =>
    obtain rfl := Nat.le_antisymm some_left (List.drop_eq_nil_iff.1 left)
    exact ⟨tr, course, calm⟩
  | cons d devices ih =>
    have next : g.simulator.devices[n]? = some d := by
      rw [← Nat.add_zero n, ← List.getElem?_drop, left]
      rfl
    have rest : g.simulator.devices.drop (n + 1) = devices := by
      rw [← List.drop_drop, left]
      rfl
    obtain ⟨less, -⟩ := List.getElem?_eq_some_iff.1 next
    rw [List.foldl_cons]
    cases known : g.simulator.catalog? d.name with
    | none => exact ih less rest _ _ (course.skip rfl all next known) calm
    | some catalog => exact ih less rest _ _ (course.launch rfl all next known) calm

/-- A gateway that starts with everybody acting as soon as possible comes to run all its devices,
with a task for each consumer. -/
theorem reaches_start {r : Running} (starts : g.start = .ok r) :
    ∃ fs : List Forwarder, fs.map Forwarder.consumer = g.consumers ∧
      r.forwarders = fs.map (fun f => (f.consumer.name, f.task)) ∧
      g.Reaches ⟨fs, [], none, g.simulator.devices.length⟩ r.site := by
  obtain ⟨⟨tasks, y⟩, forwards, same⟩ := exists_of_bind_eq_ok starts
  cases same
  obtain ⟨fs, all, same, reaches⟩ := Reaches.forwardAll ⟨[], .start, nofun⟩ forwards
  have length : fs.length = g.consumers.length := by rw [← all, List.length_map]
  exact ⟨fs, all, same, reaches.launchAll length (Nat.zero_le _) _ rfl []⟩

end Courses

end Telemetry.Gateway
