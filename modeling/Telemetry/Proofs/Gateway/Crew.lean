import Telemetry.Proofs.Signal
import Telemetry.Proofs.Site.Record
import Telemetry.Proofs.Site.Run
import Telemetry.Proofs.Store.Errand
import Telemetry.Proofs.Store.Subscription
import Telemetry.Proofs.Catalog.Errand

/-!
# The crew of a gateway

A gateway opens the subscriptions of its consumers, one after the other, then starts its devices.
Each task is there for one of these purposes, and the signals that were made before the first device
starts belong to the consumers. No device can fire one of them, so no consumer loses a subscription.

## Main definitions

* `Gateway.Post`, `Gateway.Crew`: what each task is there for.
* `Crew.Keeps`, `Crew.Frees`, `Crew.Issues`: whose signal is whose.
* `Crew.Calm`: no signal of a consumer has fired.
-/

namespace Telemetry

namespace Site

/-- A task waits on a call. -/
def Waits (tasks : Array Task) (n : Nat) (c : Call) : Prop :=
  ∃ t, tasks[n]? = some t ∧ t.status = .waiting c

theorem Waits.eq {tasks : Array Task} {n : Nat} {c c' : Call} (waits : Waits tasks n c)
    (waits' : Waits tasks n c') : c = c' := by
  obtain ⟨t, there, status⟩ := waits
  obtain ⟨t', there', status'⟩ := waits'
  cases there.symm.trans there'
  exact Status.waiting.inj (status.symm.trans status')

end Site

namespace Gateway

open Site (Call Task Waits)

/-- What a task of a gateway is there for. -/
inductive Post
  /-- Opens a subscription of a consumer. -/
  | opener (call : Call)
  | forwarder (values : Subscription) (registers : List Subscription)
  /-- Runs a device that announces its registers in a catalog. -/
  | device (catalog : Nat)

/-- What the tasks of a gateway are there for, by number, and how to tell the signals apart. -/
structure Crew where
  /-- The settings of the state store. -/
  state : StoreConfig
  /-- Ends everything. -/
  root : Token
  /-- The first signal that does not belong to a consumer, once devices start. -/
  mark : Option Nat := none
  posts : List Post := []
  small : state.subscriberCapacity.toNat ≤ queueLimit

namespace Crew

variable {g : Crew} {σ σ' : Signals} {t : Token}

/-- A task forwards what comes from a subscription. -/
def Forwards (g : Crew) (n : Nat) (values : Subscription) : Prop :=
  ∃ registers, g.posts[n]? = some (.forwarder values registers)

/-- One more task. -/
def post (g : Crew) (p : Post) : Crew :=
  { g with posts := g.posts ++ [p] }

/-- Devices start. -/
def launch (g : Crew) (σ : Signals) : Crew :=
  { g with mark := some σ.next }

/-- What a task was there for does not change. -/
theorem getElem?_post {p q : Post} {n : Nat} (post : g.posts[n]? = some q) :
    (g.post p).posts[n]? = some q := by
  obtain ⟨less, -⟩ := List.getElem?_eq_some_iff.1 post
  rw [Crew.post, List.getElem?_append_left less]
  exact post

theorem of_getElem?_post {p q : Post} {n : Nat} (post : (g.post p).posts[n]? = some q) :
    g.posts[n]? = some q ∨ n = g.posts.length ∧ q = p := by
  unfold Crew.post at post
  rcases Nat.lt_trichotomy n g.posts.length with less | rfl | more
  · exact .inl (List.getElem?_append_left less ▸ post)
  · rw [List.getElem?_concat_length] at post
    exact .inr ⟨rfl, (Option.some.inj post).symm⟩
  · rw [List.getElem?_eq_none (by simpa using Nat.succ_le_of_lt more)] at post
    cases post

theorem of_forwards_post {p : Post} {n : Nat} {values : Subscription}
    (forwards : (g.post p).Forwards n values) :
    g.Forwards n values ∨ n = g.posts.length ∧ ∃ registers, p = .forwarder values registers := by
  obtain ⟨registers, post⟩ := forwards
  exact (of_getElem?_post post).imp (⟨registers, ·⟩) fun last => ⟨last.1, registers, last.2.symm⟩

/-! ## Signals -/

/-- Signals below this number belong to consumers. -/
def bound (g : Crew) (σ : Signals) : Nat :=
  g.mark.getD σ.next

/-- A token of a consumer. -/
def Keeps (g : Crew) (σ : Signals) (t : Token) : Prop :=
  ∀ i ∈ t.lineage, i < g.bound σ

/-- A token that is no matter to consumers. -/
def Frees (g : Crew) (σ : Signals) (t : Token) : Prop :=
  ∀ i ∈ t.lineage.head?, i < σ.next ∧ ∃ m, g.mark = some m ∧ m ≤ i

/-- A token for a subscription below the root. -/
def Issues (g : Crew) (σ : Signals) (t : Token) : Prop :=
  ∃ i, t.lineage = i :: g.root.lineage ∧ i < σ.next ∧ ∀ m, g.mark = some m → m ≤ i

/-- No signal of a consumer has fired. -/
structure Calm (g : Crew) (σ : Signals) : Prop where
  bound : g.bound σ ≤ σ.next
  root : g.Keeps σ g.root
  fired : ∀ i ∈ σ.fired, i < σ.next ∧ ∃ m, g.mark = some m ∧ m ≤ i

theorem Calm.isCancelled (calm : g.Calm σ) (keeps : g.Keeps σ t) : σ.isCancelled t = false := by
  refine List.any_eq_false.2 fun i member fired => ?_
  obtain ⟨-, m, mark, least⟩ := calm.fired i (List.contains_iff_mem.1 fired)
  -- What fires lies at the mark or above, what a consumer has lies below.
  have below : i < m := by simpa [Crew.bound, mark] using keeps i member
  omega

theorem Keeps.mono (keeps : g.Keeps σ t) (more : σ.next ≤ σ'.next) : g.Keeps σ' t := by
  intro i member
  have below := keeps i member
  unfold Crew.bound at below ⊢
  cases mark : g.mark with
  | none =>
    rw [mark] at below
    exact Nat.lt_of_lt_of_le below more
  | some m =>
    rw [mark] at below
    exact below

theorem Issues.mono (issues : g.Issues σ t) (more : σ.next ≤ σ'.next) : g.Issues σ' t := by
  obtain ⟨i, lineage, below, least⟩ := issues
  exact ⟨i, lineage, Nat.lt_of_lt_of_le below more, least⟩

/-- Before devices start, tokens are for consumers. -/
theorem Issues.keeps (issues : g.Issues σ t) (calm : g.Calm σ) (unmarked : g.mark = none) :
    g.Keeps σ t := by
  obtain ⟨i, lineage, below, -⟩ := issues
  intro j member
  rw [lineage] at member
  rcases List.mem_cons.1 member with rfl | above
  · simpa [Crew.bound, unmarked] using below
  · exact calm.root j above

/-- Once devices start, tokens are for them. -/
theorem Issues.frees (issues : g.Issues σ t) (marked : g.mark ≠ none) : g.Frees σ t := by
  obtain ⟨i, lineage, below, least⟩ := issues
  obtain ⟨m, mark⟩ := Option.ne_none_iff_exists'.1 marked
  intro j first
  rw [lineage] at first
  cases first
  exact ⟨below, m, mark, least m mark⟩

theorem Calm.child (calm : g.Calm σ) (parent : Token) : g.Calm (σ.child parent).2 where
  bound := by
    have below := calm.bound
    have next : (σ.child parent).2.next = σ.next + 1 := rfl
    rw [next]
    unfold Crew.bound at below ⊢
    cases mark : g.mark with
    | none => exact Nat.le_of_eq next
    | some m =>
      rw [mark] at below
      exact Nat.le_succ_of_le below
  root := calm.root.mono (Nat.le_succ _)
  fired i member := (calm.fired i member).imp_left Nat.lt_succ_of_lt

/-- A new token below the root is not cancelled. -/
theorem Calm.isCancelled_child (calm : g.Calm σ) :
    (σ.child g.root).2.isCancelled (σ.child g.root).1 = false := by
  refine List.any_eq_false.2 fun i member fired => ?_
  have fired : i ∈ σ.fired := List.contains_iff_mem.1 fired
  rcases List.mem_cons.1 member with rfl | above
  · exact Nat.lt_irrefl _ (calm.fired _ fired).1
  · have cancelled : σ.isCancelled g.root = true :=
      List.any_eq_true.2 ⟨i, above, List.contains_iff_mem.2 fired⟩
    exact absurd (cancelled.symm.trans (calm.isCancelled calm.root)) (by simp)

/-- The next token below the root is for whoever is about to subscribe. -/
theorem Calm.issues (calm : g.Calm σ) : g.Issues (σ.child g.root).2 (σ.child g.root).1 := by
  refine ⟨σ.next, rfl, Nat.lt_succ_self _, fun m mark => ?_⟩
  have below := calm.bound
  rwa [Crew.bound, mark] at below

theorem next_fire (σ : Signals) (t : Token) : (σ.fire t).next = σ.next := by
  unfold Signals.fire
  split
  · rfl
  · split <;> rfl

theorem Calm.fire (calm : g.Calm σ) (frees : g.Frees σ t) : g.Calm (σ.fire t) where
  bound := by
    have below := calm.bound
    rwa [Crew.bound, next_fire]
  root := calm.root.mono (Nat.le_of_eq (next_fire σ t).symm)
  fired := by
    intro i member
    rw [next_fire]
    unfold Signals.fire at member
    split at member
    · exact calm.fired i member
    next n rest lineage =>
      split at member
      · exact calm.fired i member
      · rcases List.mem_cons.1 member with rfl | before
        · exact frees i (by simp [lineage])
        · exact calm.fired i before

end Crew

end Gateway

end Telemetry
