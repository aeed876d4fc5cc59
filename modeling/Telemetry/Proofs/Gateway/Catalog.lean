import Telemetry.Proofs.Gateway.Crew

/-!
# The catalogs of a gateway

A task either adds registers to a catalog or follows it, and whoever follows a catalog stays on its
roster.

## Main definitions

* `Crew.Wants`: what tasks may want of a catalog.
* `Crew.HasCatalog`: all that is known of a catalog.

## Main results

* `Crew.HasCatalog.act`: what each step keeps.
-/

namespace Telemetry.Gateway

open Site (Call Task Waits)

namespace Crew

/-- What a task may want of a catalog. -/
def Wants (g : Crew) (σ : Signals) (tasks : Array Task) (k n : Nat) (access : Catalog.Access) :
    Prop :=
  (∃ registers, access = .add registers ∧ Waits tasks n (.add k registers)) ∨
    ∃ filter token, access = .subscribe filter token ∧ Waits tasks n (.follow k filter g.root) ∧
      g.Issues σ token

/-- All that is known of a catalog by its number. -/
structure HasCatalog (g : Crew) (σ : Signals) (tasks : Array Task) (k : Nat) (c : Catalog) :
    Prop where
  recorded : c.Recorded σ
  hosts : c.Hosts (g.Wants σ tasks k)

section Steps

variable {g : Crew} {σ σ' : Signals} {tasks tasks' : Array Task} {k n : Nat} {c c' : Catalog}
  {a : Catalog.Action} {o : Catalog.Output}

/-- What each step of a catalog keeps. -/
theorem HasCatalog.act (has : g.HasCatalog σ tasks k c)
    (change : Catalog.Change σ c (.act a) σ c' o) (held : 0 < c.handles)
    (release : a = .release → 1 < c.handles)
    (asks : ∀ n access, a = .ask n access → c.Free n ∧ g.Wants σ tasks k n access) :
    g.HasCatalog σ tasks k c' where
  recorded := has.recorded.step change held fun same => release (Catalog.Event.act.inj same)
  hosts := change.hosts has.hosts fun n access same => asks n access (Catalog.Event.act.inj same)

/-- Subscribers whose tokens are those of consumers stay. -/
theorem HasCatalog.lists (has : g.HasCatalog σ tasks k c) (calm : g.Calm σ)
    (change : Catalog.Change σ c (.act a) σ c' o) (held : 0 < c.handles)
    (release : a = .release → 1 < c.handles) (stays : ∀ id, a ≠ .close id)
    {sub : Subscriber Register} (lists : c.roster.Lists sub) (keeps : g.Keeps σ sub.token) :
    c'.roster.Lists sub :=
  has.recorded.lists change lists held (fun same => release (Catalog.Event.act.inj same))
    (fun id same => stays id (Catalog.Event.act.inj same)) (calm.isCancelled keeps)

theorem Wants.mono {m : Nat} {access : Catalog.Access} (wants : g.Wants σ tasks k m access)
    (waits : ∀ c, Waits tasks m c → Waits tasks' m c) (more : σ.next ≤ σ'.next) :
    g.Wants σ' tasks' k m access := by
  rcases wants with ⟨registers, is, wait⟩ | ⟨filter, token, is, wait, issues⟩
  · exact .inl ⟨registers, is, waits _ wait⟩
  · exact .inr ⟨filter, token, is, waits _ wait, issues.mono more⟩

/-- Whoever wants something of a catalog waits on it. -/
theorem Wants.waits {access : Catalog.Access} (wants : g.Wants σ tasks k n access) :
    ∃ c, Waits tasks n c ∧ k ∈ c.catalogs := by
  rcases wants with ⟨registers, -, wait⟩ | ⟨filter, token, -, wait, -⟩
  · exact ⟨_, wait, List.mem_singleton_self k⟩
  · exact ⟨_, wait, List.mem_singleton_self k⟩

/-- Signals may fire elsewhere. -/
theorem HasCatalog.wait (has : g.HasCatalog σ tasks k c) (grows : σ.Grows σ')
    (more : σ.next ≤ σ'.next) : g.HasCatalog σ' tasks k c where
  recorded := has.recorded.wait grows
  hosts := has.hosts.alter fun _ _ _ wants => wants.mono (fun _ => id) more

/-- A task for which nothing is held may do what it likes. -/
theorem HasCatalog.alter (has : g.HasCatalog σ tasks k c) (free : c.Free n)
    (others : ∀ m c, m ≠ n → Waits tasks m c → Waits tasks' m c) :
    g.HasCatalog σ tasks' k c where
  recorded := has.recorded
  hosts := has.hosts.alter fun m _ held wants =>
    wants.mono (others m · fun same => held (same ▸ free)) (Nat.le_refl _)

/-- Devices start when nobody waits for a subscription any more. -/
theorem HasCatalog.launch (has : g.HasCatalog σ tasks k c)
    (idle : ∀ m c, Waits tasks m c → c.catalogs = []) :
    (g.launch σ).HasCatalog σ tasks k c where
  recorded := has.recorded
  hosts := has.hosts.alter fun m access _ wants => by
    obtain ⟨call, waits, goes⟩ := wants.waits
    simp [idle m call waits] at goes

theorem HasCatalog.post (has : g.HasCatalog σ tasks k c) (p : Post)
    (waits : ∀ m c, Waits tasks m c → Waits tasks' m c) :
    (g.post p).HasCatalog σ tasks' k c where
  recorded := has.recorded
  hosts := has.hosts.alter fun m _ _ wants => wants.mono (waits m) (Nat.le_refl _)

end Steps

end Crew

end Telemetry.Gateway
