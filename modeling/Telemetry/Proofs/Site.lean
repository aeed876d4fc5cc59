import Telemetry.Site

/-!
# Parts of a site

A step at a store or a catalog changes that store or catalog and perhaps some signals, and leaves all
other parts of a site as they are.

## Main results

* `Site.storeAct?_eq_some`, `Site.catalogAct?_eq_some`: what a step at a part comes to.
-/

namespace Telemetry.Site

variable {x x' : Site} {n : Nat}

theorem storeAct?_eq_some {a : Store.Action} {o : Store.Output} :
    x.storeAct? n a = some (o, x') ↔ ∃ s σ s', x.stores[n]? = some s ∧
      s.act? x.signals a = some (σ, s', o) ∧
      x' = { x with signals := σ, stores := x.stores.setIfInBounds n s' } := by
  constructor
  · intro acted
    obtain ⟨s, there, acted⟩ := Option.bind_eq_some_iff.1 acted
    obtain ⟨⟨σ, s', o'⟩, acts, same⟩ := Option.bind_eq_some_iff.1 acted
    cases same
    exact ⟨s, σ, s', there, acts, rfl⟩
  · rintro ⟨s, σ, s', there, acts, rfl⟩
    simp [storeAct?, there, acts]

theorem catalogAct?_eq_some {a : Catalog.Action} {o : Catalog.Output} :
    x.catalogAct? n a = some (o, x') ↔ ∃ c c', x.catalogs[n]? = some c ∧
      c.act? x.signals a = some (c', o) ∧
      x' = { x with catalogs := x.catalogs.setIfInBounds n c' } := by
  constructor
  · intro acted
    obtain ⟨c, there, acted⟩ := Option.bind_eq_some_iff.1 acted
    obtain ⟨⟨c', o'⟩, acts, same⟩ := Option.bind_eq_some_iff.1 acted
    cases same
    exact ⟨c, c', there, acts, rfl⟩
  · rintro ⟨c, c', there, acts, rfl⟩
    simp [catalogAct?, there, acts]

theorem setIfInBounds_of_getElem? {α : Type} {parts : Array α} {a : α} (there : parts[n]? = some a) :
    parts.setIfInBounds n a = parts := by
  refine Array.ext_getElem? fun i => ?_
  rw [Array.getElem?_setIfInBounds]
  split
  next same =>
    subst same
    simp only [there]
    obtain ⟨less, -⟩ := Array.getElem?_eq_some_iff.1 there
    simp [less]
  · rfl

/-- What is in a place after one place was set. -/
theorem of_getElem?_setIfInBounds {α : Type} {parts : Array α} {a b : α} {i : Nat}
    (found : (parts.setIfInBounds n b)[i]? = some a) :
    i = n ∧ a = b ∨ i ≠ n ∧ parts[i]? = some a := by
  rw [Array.getElem?_setIfInBounds] at found
  split at found
  next same =>
    split at found <;> cases found
    exact .inl ⟨same.symm, rfl⟩
  next differ => exact .inr ⟨Ne.symm differ, found⟩

theorem getElem?_setIfInBounds_of_getElem? {α : Type} {parts : Array α} {a b : α}
    (there : parts[n]? = some a) : (parts.setIfInBounds n b)[n]? = some b := by
  obtain ⟨less, -⟩ := Array.getElem?_eq_some_iff.1 there
  exact Array.getElem?_setIfInBounds_self_of_lt less

end Telemetry.Site
