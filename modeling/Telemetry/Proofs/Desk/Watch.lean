import Telemetry.Proofs.Desk.Registry

/-!
# Those who watch subscriptions

Whoever waits for the end of a subscription knows its signal. When that has fired, a desk is told to
strike the subscriber off; so it is never told to strike off a subscriber whose subscription goes
on.

## Main definitions

* `Desk.Watched`: watchers and orders to strike somebody off fit the roster.
-/

namespace Telemetry.Desk

variable {α : Type} {σ σ' : Signals} {overflow : Overflow} {x x' : Desk α} {a : Act α}
  {watches watches' : Nat → Token → Prop} {condemns condemns' : Nat → Prop}

/-- Those who watch and those who are to be struck off fit the roster. -/
structure Watched (σ : Signals) (r : Roster α) (watches : Nat → Token → Prop)
    (condemns : Nat → Prop) : Prop where
  below : ∀ s ∈ r.subscribers, s.id < r.nextId
  tokens : ∀ id token, watches id token → id < r.nextId ∧
    ∀ s ∈ r.subscribers, s.id = id → s.token = token
  cancelled : ∀ id, condemns id → id < r.nextId ∧
    ∀ s ∈ r.subscribers, s.id = id → σ.isCancelled s.token = true

theorem watched_nil (σ : Signals) (nextId : Nat) (nobody : ∀ id token, ¬ watches id token)
    (nothing : ∀ id, ¬ condemns id) : Watched σ ({ nextId } : Roster α) watches condemns where
  below := by simp
  tokens id token h := absurd h (nobody id token)
  cancelled id h := absurd h (nothing id)

/-- A subscriber was there before, or it is the next one. -/
theorem Change.mem_subscribers (change : x.Change σ overflow a x') {s : Subscriber α}
    (on : s ∈ x'.roster.subscribers) :
    s ∈ x.roster.subscribers ∨
      s.id = x.roster.nextId ∧ x'.roster.nextId = x.roster.nextId + 1 := by
  rcases change.grants_eq 0 with ⟨-, -, fewer⟩ | ⟨g, -, id, next, -, more⟩
  · exact .inl (fewer.subset on)
  · have on : s ∈ x.roster.subscribers ++ [g.subscriber] := more ▸ on
    rcases List.mem_append.1 on with old | new
    · exact .inl old
    · obtain rfl := List.mem_singleton.1 new
      exact .inr ⟨id, next⟩

/-- Whoever joins the list is granted a subscription. -/
theorem Change.granted_of_join (change : x.Change σ overflow a x') (n : Nat) {s : Subscriber α}
    (joins : x'.roster.subscribers = x.roster.subscribers ++ [s]) :
    ∃ g : Grant α, a.granted n = [(g, n)] ∧ g.subscriber = s := by
  rcases change.grants_eq n with ⟨-, -, fewer⟩ | ⟨g, one, -, -, -, more⟩
  · have le := fewer.length_le
    rw [joins, List.length_append, List.length_singleton] at le
    omega
  · rw [joins] at more
    exact ⟨g, one, (List.singleton_inj.1 (List.append_cancel_left more)).symm⟩

/-- Whoever watches did so before or watches the subscription that is granted now, and a subscriber
is condemned only by one who watched and saw the signal. -/
theorem Change.watched (change : x.Change σ overflow a x') (grows : σ.Grows σ')
    (watched : Watched σ x.roster watches condemns)
    (known : ∀ id token, watches' id token → watches id token ∨
      id = x.roster.nextId ∧ x'.roster.nextId = x.roster.nextId + 1 ∧
        ∃ accepts, x'.roster.subscribers = x.roster.subscribers ++ [⟨id, accepts, token⟩])
    (ordered : ∀ id, condemns' id → condemns id ∨
      ∃ token, watches id token ∧ σ.isCancelled token = true) :
    Watched σ' x'.roster watches' condemns' where
  below := by
    intro s on
    have le := change.nextId_le
    rcases change.mem_subscribers on with old | ⟨id, next⟩
    · exact Nat.lt_of_lt_of_le (watched.below s old) le
    · omega
  tokens := by
    intro id token watches
    have le := change.nextId_le
    rcases known id token watches with before | ⟨rfl, next, accepts, more⟩
    · obtain ⟨below, tokens⟩ := watched.tokens id token before
      refine ⟨by omega, fun s on same => ?_⟩
      rcases change.mem_subscribers on with old | ⟨new, -⟩
      · exact tokens s old same
      · omega
    · refine ⟨by omega, fun s on same => ?_⟩
      rw [more] at on
      rcases List.mem_append.1 on with old | new
      · have below := watched.below s old
        omega
      · obtain rfl := List.mem_singleton.1 new
        rfl
  cancelled := by
    intro id condemned
    have le := change.nextId_le
    have before : id < x.roster.nextId ∧
        ∀ s ∈ x.roster.subscribers, s.id = id → σ.isCancelled s.token = true := by
      rcases ordered id condemned with before | ⟨token, watches, fired⟩
      · exact watched.cancelled id before
      · obtain ⟨below, tokens⟩ := watched.tokens id token watches
        exact ⟨below, fun s on same => tokens s on same ▸ fired⟩
    obtain ⟨below, cancelled⟩ := before
    refine ⟨by omega, fun s on same => ?_⟩
    rcases change.mem_subscribers on with old | ⟨new, -⟩
    · exact grows _ (cancelled s old same)
    · omega

end Telemetry.Desk
