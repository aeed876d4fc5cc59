import Telemetry.Proofs.Catalog.Index
import Telemetry.Proofs.Catalog.Listing
import Telemetry.Proofs.Desk.Attendance
import Telemetry.Proofs.Store.Listing

/-!
# What is known of the parts of a site

At a site, signals come from all sides, and somebody else may know a token before a store does. What
is known of a store or a catalog there is that its desk has some history, which each step and each
signal continues.

## Main definitions

* `Store.Recorded`, `Catalog.Recorded`: a part has a history.

## Main results

* `Store.Recorded.lists`, `Catalog.Recorded.lists`: readers who stay keep their subscribers on the
  roster.
-/

namespace Telemetry

theorem Desk.Watched.grows {α : Type} {σ σ' : Signals} {r : Roster α}
    {watches : Nat → Token → Prop} {condemns : Nat → Prop}
    (watched : Desk.Watched σ r watches condemns) (grows : σ.Grows σ') :
    Desk.Watched σ' r watches condemns where
  below := watched.below
  tokens := watched.tokens
  cancelled id condemned := ⟨(watched.cancelled id condemned).1, fun s on same =>
    grows _ ((watched.cancelled id condemned).2 s on same)⟩

namespace Store

/-- The desk of a store has a history. -/
structure Recorded (h : Desk.History Value) (σ : Signals) (s : Store) : Prop where
  watching : Watching σ s
  desk : Desk.Run s.config.overflow h σ s.desk
  uncut : Desk.Uncut h

section Steps

variable {h : Desk.History Value} {σ σ' : Signals} {s s' : Store} {e : Event} {o : Output}
  {sub : Subscriber Value}

/-- A handle is given up by `release` only. -/
theorem Change.handles_le (change : Change σ s e σ' s' o) (keeps : e ≠ .act .release) :
    s.handles ≤ s'.handles := by
  cases change with
  | retain => exact Nat.le_succ _
  | release => exact absurd rfl keeps
  | _ => exact Nat.le_refl _

theorem Recorded.step (recorded : Recorded h σ s) (change : Change σ s e σ' s' o) :
    Recorded (h ++ [Step.act ⟨σ, s, e, o, s'⟩]) σ' s' where
  watching := change.watching recorded.watching
  desk := by
    rw [change.config_eq]
    exact recorded.desk.step (change.desk recorded.watching) change.grows
  uncut := by
    intro a member
    rcases List.mem_append.1 member with before | last
    · exact recorded.uncut a before
    · obtain rfl := List.mem_singleton.1 last
      exact Step.cuts_act _

/-- Signals may fire elsewhere. -/
theorem Recorded.wait (recorded : Recorded h σ s) (grows : σ.Grows σ') :
    Recorded (h ++ [.other]) σ' s where
  watching := recorded.watching.grows grows
  desk := recorded.desk.step .stay grows
  uncut := by
    intro a member
    rcases List.mem_append.1 member with before | last
    · exact recorded.uncut a before
    · obtain rfl := List.mem_singleton.1 last
      rfl

/-- A reader who stays keeps its subscriber on the roster. -/
theorem Recorded.lists (recorded : Recorded h σ s) (change : Change σ s e σ' s' o)
    (lists : s.roster.Lists sub) (going : s'.isOver = false) (held : 0 < s.handles)
    (stays : ∀ id, e ≠ .act (.close id)) (stays' : ∀ n, e ≠ .act (.abandon n))
    (goes_on : σ'.isCancelled sub.token = false) : s'.roster.Lists sub := by
  refine recorded.desk.lists (change.desk recorded.watching) change.grows lists going goes_on ?_
  by_contra opened
  have closed : s'.roster.isClosed sub.id = true := Bool.of_not_eq_false opened
  -- A queue is closed by its reader, by its token or by a caller that gave up.
  have orderly : e.Orderly σ s := by
    cases e with
    | fire => trivial
    | act a =>
      cases a with
      | close id => exact absurd rfl (stays id)
      | retain => exact held
      | _ => trivial
  rcases change.opened orderly going lists.on closed with
    before | cancelled | ⟨n, token, abandons, -⟩
  · exact absurd (lists.opened.symm.trans before) (by simp)
  · exact absurd (goes_on.symm.trans (change.grows _ cancelled)) (by simp)
  · exact stays' n abandons

end Steps

end Store

namespace Catalog

/-- Somebody holds a catalog, its index tells where registers stand, and its desk has a history. -/
structure Recorded (σ : Signals) (c : Catalog) : Prop where
  watching : c.Watching σ
  indexed : c.Indexed
  desk : ∃ h, Desk.Run c.config.overflow h σ c.desk

section Steps

variable {σ σ' : Signals} {c c' : Catalog} {e : Event} {o : Output} {sub : Subscriber Register}

/-- A handle is given up by `release` only. -/
theorem Change.handles_le (change : Change σ c e σ' c' o) (keeps : e ≠ .act .release) :
    c.handles ≤ c'.handles := by
  cases change with
  | @announce _ r =>
    obtain ⟨registers, index, frame⟩ := c.put_frame r
    rw [frame]
  | strike =>
    rw [handles_forget]
    exact Nat.le_refl _
  | retain => exact Nat.le_succ _
  | release => exact absurd rfl keeps
  | _ => exact Nat.le_refl _

/-- Whoever gives up a handle leaves those of others. -/
theorem Change.handles_pos (change : Change σ c e σ' c' o) (held : 0 < c.handles)
    (release : e = .act .release → 1 < c.handles) : 0 < c'.handles := by
  by_cases gives : e = .act .release
  · subst gives
    have more := release rfl
    cases change
    rw [handles_forget]
    dsimp only
    omega
  · exact Nat.lt_of_lt_of_le held (change.handles_le gives)

/-- Whatever happens to a catalog is permitted as long as somebody holds it. -/
theorem permitted_of_held (held : 0 < c.handles)
    (release : e = .act .release → 1 < c.handles) : e.Permitted c := by
  cases e with
  | fire => trivial
  | act a =>
    cases a with
    | ask | retain => exact held
    | release => exact .inl (release rfl)
    | _ => trivial

theorem Recorded.step (recorded : c.Recorded σ) (change : Change σ c e σ' c' o)
    (held : 0 < c.handles) (release : e = .act .release → 1 < c.handles) : c'.Recorded σ' := by
  obtain ⟨h, desk⟩ := recorded.desk
  have permitted := permitted_of_held held release
  refine ⟨change.watching permitted (fun _ => held) recorded.watching,
    change.indexed recorded.indexed, h ++ [Step.act ⟨σ, c, e, o, c'⟩], ?_⟩
  rw [change.config_eq]
  exact desk.step (change.desk permitted (fun _ => held) recorded.watching) change.grows

/-- Signals may fire elsewhere. -/
theorem Recorded.wait (recorded : c.Recorded σ) (grows : σ.Grows σ') : c.Recorded σ' := by
  obtain ⟨h, desk⟩ := recorded.desk
  exact ⟨recorded.watching.grows grows, recorded.indexed, _, desk.step .stay grows⟩

/-- A reader who stays keeps its subscriber on the roster. -/
theorem Recorded.lists (recorded : c.Recorded σ) (change : Change σ c e σ' c' o)
    (lists : c.roster.Lists sub) (held : 0 < c.handles)
    (release : e = .act .release → 1 < c.handles) (stays : ∀ id, e ≠ .act (.close id))
    (goes_on : σ'.isCancelled sub.token = false) : c'.roster.Lists sub := by
  obtain ⟨h, desk⟩ := recorded.desk
  have permitted := permitted_of_held held release
  have going : c'.isForgotten = false := isForgotten_of_held (change.handles_pos held release)
  refine desk.lists (change.desk permitted (fun _ => held) recorded.watching) change.grows lists
    going goes_on ?_
  by_contra opened
  have closed : c'.roster.isClosed sub.id = true := Bool.of_not_eq_false opened
  have gone : c.roster.isClosed sub.id = true ∨ σ.isCancelled sub.token = true := by
    cases e with
    | fire => exact change.opened trivial lists.on closed
    | act a =>
      cases a with
      | close id => exact absurd rfl (stays id)
      | ask =>
        cases change
        exact .inl closed
      | _ => exact change.opened trivial lists.on closed
  rcases gone with before | cancelled
  · exact absurd (lists.opened.symm.trans before) (by simp)
  · exact absurd (goes_on.symm.trans (change.grows _ cancelled)) (by simp)

end Steps

end Catalog

end Telemetry
