import Telemetry.Proofs.Site
import Telemetry.Proofs.Site.Record

/-!
# Who holds the parts of a site

Each store and each catalog counts how many clients hold it. A task holds some of them from its
first step to its last, so as long as somebody else holds a part as well, it is never given up.

## Main definitions

* `Site.holdings`: what running tasks hold.
* `Site.Holding`: every part has a handle for each task that holds it, and one more.
-/

namespace Telemetry

namespace Site

/-- What a task holds that is not over. -/
def Task.holds (parts : Task → List Nat) (t : Task) : List Nat :=
  match t.status with
  | .ready _ | .waiting _ => parts t
  | _ => []

/-- What running tasks hold. -/
def holdings (parts : Task → List Nat) (x : Site) : List Nat :=
  x.tasks.toList.flatMap (Task.holds parts)

/-- Each part has a handle for every task that holds it, for each time it stands in the lists, and
one more. -/
structure Holding (stores catalogs : List Nat) (x : Site) : Prop where
  stores : ∀ k s, x.stores[k]? = some s → (x.holdings Task.stores ++ stores).count k < s.handles
  catalogs : ∀ k c, x.catalogs[k]? = some c →
    (x.holdings Task.catalogs ++ catalogs).count k < c.handles

section Lists

/-- How often something occurs after one member of a list was replaced. -/
theorem count_flatMap_set {α : Type} {l : List α} {f : α → List Nat} {n : Nat} {a : α}
    (there : l[n]? = some a) (b : α) (k : Nat) :
    ((l.set n b).flatMap f).count k + (f a).count k =
      (l.flatMap f).count k + (f b).count k := by
  induction l generalizing n with
  | nil => cases there
  | cons c l ih =>
    cases n with
    | zero =>
      cases there
      simp only [List.set_cons_zero, List.flatMap_cons, List.count_append]
      omega
    | succ n =>
      have rest := ih (n := n) there
      simp only [List.set_cons_succ, List.flatMap_cons, List.count_append]
      omega

end Lists

variable {x x' : Site} {stores catalogs : List Nat} {k n : Nat} {t t' : Task}

theorem count_holdings_setTask (parts : Task → List Nat) (there : x.tasks[n]? = some t)
    (t' : Task) (k : Nat) :
    ((x.setTask n t').holdings parts).count k + (t.holds parts).count k =
      (x.holdings parts).count k + (t'.holds parts).count k := by
  have there : x.tasks.toList[n]? = some t := by rwa [Array.getElem?_toList]
  have set : (x.setTask n t').tasks.toList = x.tasks.toList.set n t' := Array.toList_setIfInBounds
  rw [holdings, set]
  exact count_flatMap_set there t' k

/-- A store has a handle for each time it stands in the list, and one more. -/
theorem Holding.lt_store (holding : Holding stores catalogs x) {s : Store}
    (there : x.stores[k]? = some s) : stores.count k < s.handles := by
  have enough := holding.stores k s there
  rw [List.count_append] at enough
  omega

/-- A catalog has a handle for each time it stands in the list, and one more. -/
theorem Holding.lt_catalog (holding : Holding stores catalogs x) {c : Catalog}
    (there : x.catalogs[k]? = some c) : catalogs.count k < c.handles := by
  have enough := holding.catalogs k c there
  rw [List.count_append] at enough
  omega

/-- It matters neither what signals there are nor what time it is. -/
theorem Holding.congr (holding : Holding stores catalogs x) (same : x'.stores = x.stores)
    (same' : x'.catalogs = x.catalogs) (tasks : x'.tasks = x.tasks) :
    Holding stores catalogs x' where
  stores := by
    rw [same, holdings, tasks]
    exact holding.stores
  catalogs := by
    rw [same', holdings, tasks]
    exact holding.catalogs

/-- What is held when one store is replaced. -/
theorem Holding.setStore {stores' : List Nat} (holding : Holding stores catalogs x) {s s' : Store}
    {σ : Signals} (there : x.stores[k]? = some s)
    (enough : (x.holdings Task.stores ++ stores).count k < s.handles →
      (x.holdings Task.stores ++ stores').count k < s'.handles)
    (others : ∀ i, i ≠ k → stores'.count i = stores.count i) :
    Holding stores' catalogs { x with signals := σ, stores := x.stores.setIfInBounds k s' } where
  stores i p found := by
    rcases of_getElem?_setIfInBounds found with ⟨rfl, rfl⟩ | ⟨differ, found⟩
    · exact enough (holding.stores _ s there)
    · have before := holding.stores i p found
      rw [List.count_append] at before ⊢
      rw [others i differ]
      exact before
  catalogs := holding.catalogs

/-- What is held when one catalog is replaced. -/
theorem Holding.setCatalog {catalogs' : List Nat} (holding : Holding stores catalogs x)
    {c c' : Catalog} (there : x.catalogs[k]? = some c)
    (enough : (x.holdings Task.catalogs ++ catalogs).count k < c.handles →
      (x.holdings Task.catalogs ++ catalogs').count k < c'.handles)
    (others : ∀ i, i ≠ k → catalogs'.count i = catalogs.count i) :
    Holding stores catalogs' { x with catalogs := x.catalogs.setIfInBounds k c' } where
  stores := holding.stores
  catalogs i p found := by
    rcases of_getElem?_setIfInBounds found with ⟨rfl, rfl⟩ | ⟨differ, found⟩
    · exact enough (holding.catalogs _ c there)
    · have before := holding.catalogs i p found
      rw [List.count_append] at before ⊢
      rw [others i differ]
      exact before

theorem Holding.storeAct? (holding : Holding stores catalogs x) {a : Store.Action}
    {o : Store.Output} (acted : x.storeAct? k a = some (o, x')) (keeps : a ≠ .release) :
    Holding stores catalogs x' := by
  obtain ⟨s, σ, s', there, acts, rfl⟩ := storeAct?_eq_some.1 acted
  have change := Store.change_of_effect (e := .act a) acts
  refine holding.setStore there (fun enough => ?_) fun _ _ => rfl
  exact Nat.lt_of_lt_of_le enough (change.handles_le fun same => keeps (Store.Event.act.inj same))

theorem Holding.catalogAct? (holding : Holding stores catalogs x) {a : Catalog.Action}
    {o : Catalog.Output} (acted : x.catalogAct? k a = some (o, x')) (keeps : a ≠ .release) :
    Holding stores catalogs x' := by
  obtain ⟨c, c', there, acts, rfl⟩ := catalogAct?_eq_some.1 acted
  have change : Catalog.Change x.signals c (.act a) x.signals c' o :=
    Catalog.change_of_effect (by rw [Catalog.Event.effect?, acts]; rfl)
  refine holding.setCatalog there (fun enough => ?_) fun _ _ => rfl
  exact Nat.lt_of_lt_of_le enough (change.handles_le fun same => keeps (Catalog.Event.act.inj same))

theorem Holding.releaseStore (holding : Holding (k :: stores) catalogs x) :
    Holding stores catalogs (x.storeAct k .release) := by
  cases there : x.stores[k]? with
  | none =>
    have same : x.storeAct k .release = x := by simp [storeAct, Site.storeAct?, there]
    rw [same]
    exact ⟨fun i s found => Nat.lt_of_le_of_lt
      ((List.sublist_cons_self k stores).append_left _ |>.count_le _) (holding.stores i s found),
      holding.catalogs⟩
  | some s =>
    have acted : x.storeAct k .release = { x with
        stores := x.stores.setIfInBounds k { s with handles := s.handles - 1 } } := by
      simp [storeAct, Site.storeAct?, there, Store.act?]
    rw [acted]
    refine holding.setStore there (fun enough => ?_) fun i differ => ?_
    · simp only [List.count_append, List.count_cons_self] at enough ⊢
      omega
    · rw [List.count_cons_of_ne (Ne.symm differ)]

theorem Holding.releaseCatalog (holding : Holding stores (k :: catalogs) x) :
    Holding stores catalogs (x.catalogAct k .release) := by
  cases there : x.catalogs[k]? with
  | none =>
    have same : x.catalogAct k .release = x := by simp [catalogAct, Site.catalogAct?, there]
    rw [same]
    exact ⟨holding.stores, fun i c found => Nat.lt_of_le_of_lt
      ((List.sublist_cons_self k catalogs).append_left _ |>.count_le _)
      (holding.catalogs i c found)⟩
  | some c =>
    have acted : x.catalogAct k .release = { x with
        catalogs := x.catalogs.setIfInBounds k { c with handles := c.handles - 1 }.forget } := by
      simp [catalogAct, Site.catalogAct?, there, Catalog.act?]
    rw [acted]
    refine holding.setCatalog there (fun enough => ?_) fun i differ => ?_
    · simp only [List.count_append, List.count_cons_self] at enough ⊢
      rw [Catalog.handles_forget]
      dsimp only
      omega
    · rw [List.count_cons_of_ne (Ne.symm differ)]

theorem Holding.retainStore (holding : Holding stores catalogs x) (k : Nat) :
    Holding (k :: stores) catalogs (x.storeAct k .retain) := by
  cases there : x.stores[k]? with
  | none =>
    have same : x.storeAct k .retain = x := by simp [storeAct, Site.storeAct?, there]
    rw [same]
    refine ⟨fun i s found => ?_, holding.catalogs⟩
    have differ : k ≠ i := by
      rintro rfl
      cases there.symm.trans found
    have enough := holding.stores i s found
    rw [List.count_append] at enough ⊢
    rwa [List.count_cons_of_ne differ]
  | some s =>
    have acted : x.storeAct k .retain = { x with
        stores := x.stores.setIfInBounds k { s with handles := s.handles + 1 } } := by
      simp [storeAct, Site.storeAct?, there, Store.act?]
    rw [acted]
    refine holding.setStore there (fun enough => ?_) fun i differ => ?_
    · simp only [List.count_append, List.count_cons_self] at enough ⊢
      omega
    · rw [List.count_cons_of_ne (Ne.symm differ)]

theorem Holding.retainCatalog (holding : Holding stores catalogs x) (k : Nat) :
    Holding stores (k :: catalogs) (x.catalogAct k .retain) := by
  cases there : x.catalogs[k]? with
  | none =>
    have same : x.catalogAct k .retain = x := by simp [catalogAct, Site.catalogAct?, there]
    rw [same]
    refine ⟨holding.stores, fun i c found => ?_⟩
    have differ : k ≠ i := by
      rintro rfl
      cases there.symm.trans found
    have enough := holding.catalogs i c found
    rw [List.count_append] at enough ⊢
    rwa [List.count_cons_of_ne differ]
  | some c =>
    have acted : x.catalogAct k .retain = { x with
        catalogs := x.catalogs.setIfInBounds k { c with handles := c.handles + 1 } } := by
      simp [catalogAct, Site.catalogAct?, there, Catalog.act?]
    rw [acted]
    refine holding.setCatalog there (fun enough => ?_) fun i differ => ?_
    · simp only [List.count_append, List.count_cons_self] at enough ⊢
      omega
    · rw [List.count_cons_of_ne (Ne.symm differ)]

/-- A task goes on and holds what it held. -/
theorem Holding.setTask (holding : Holding stores catalogs x) (there : x.tasks[n]? = some t)
    (same : ∀ parts, (parts = Task.stores ∨ parts = Task.catalogs) →
      t'.holds parts = t.holds parts) : Holding stores catalogs (x.setTask n t') where
  stores k s found := by
    have count := count_holdings_setTask Task.stores there t' k
    have enough := holding.stores k s found
    rw [same _ (.inl rfl)] at count
    rw [List.count_append] at enough ⊢
    omega
  catalogs k c found := by
    have count := count_holdings_setTask Task.catalogs there t' k
    have enough := holding.catalogs k c found
    rw [same _ (.inr rfl)] at count
    rw [List.count_append] at enough ⊢
    omega

/-- A task that ends hands on what it held. -/
theorem Holding.endTask (holding : Holding [] [] x) (there : x.tasks[n]? = some t)
    {c : Call} (runs : t.status = .ready c ∨ t.status = .waiting c)
    (ends : ∀ parts, t'.holds parts = []) :
    Holding t.stores t.catalogs (x.setTask n t') := by
  have held (parts : Task → List Nat) : t.holds parts = parts t := by
    rcases runs with ready | waits
    · rw [Task.holds, ready]
    · rw [Task.holds, waits]
  refine ⟨fun k s found => ?_, fun k c found => ?_⟩
  · have count := count_holdings_setTask Task.stores there t' k
    have enough := holding.stores k s found
    rw [held, ends] at count
    simp only [List.count_append, List.count_nil] at count enough ⊢
    omega
  · have count := count_holdings_setTask Task.catalogs there t' k
    have enough := holding.catalogs k c found
    rw [held, ends] at count
    simp only [List.count_append, List.count_nil] at count enough ⊢
    omega

/-- A new task takes over what is held for it. -/
theorem Holding.push (holding : Holding stores catalogs x) (turns : List Actor)
    (takes : (t.holds Task.stores).Perm stores) (takes' : (t.holds Task.catalogs).Perm catalogs) :
    Holding [] [] { x with tasks := x.tasks.push t, turns } := by
  -- The handles were there before the task, and now they are counted for it.
  have pushed (parts : Task → List Nat) :
      { x with tasks := x.tasks.push t, turns }.holdings parts =
        x.holdings parts ++ t.holds parts := by
    simp [holdings]
  refine ⟨fun k s found => ?_, fun k c found => ?_⟩
  · rw [pushed, List.append_nil, (takes.append_left _).count_eq]
    exact holding.stores k s found
  · rw [pushed, List.append_nil, (takes'.append_left _).count_eq]
    exact holding.catalogs k c found

end Site

end Telemetry
