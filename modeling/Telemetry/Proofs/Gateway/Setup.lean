import Telemetry.Proofs.Gateway.Progress
import Telemetry.Proofs.Keyed

/-!
# A gateway as it is set up

A gateway that was made from a configuration whose settings pass has two stores that nothing was
ever asked of, and a catalog for each device. Nobody is at work.

## Main definitions

* `Furnished`: what there is while devices are added.

## Main results

* `furnished_of_ofConfig?`: what there is in the end.
* `Furnished.underway`: what is known of a gateway that begins to run.
* `Reaches.playListed?`: a gateway goes on while its parties act without the indices of catalogs.
-/

namespace Telemetry

theorem DeviceConfig.name_device (c : DeviceConfig) : c.device.name = c.name := by
  unfold device
  split <;> rfl

/-- Devices whose settings pass have names of their own. -/
theorem DeviceConfig.of_validateAll {c : DeviceConfig} {rest : List DeviceConfig}
    {seen : List String} (valid : validateAll (c :: rest) seen = .ok ()) :
    c.name ∉ seen ∧ validateAll rest (c.name :: seen) = .ok () := by
  obtain ⟨_, passes, others⟩ := Gateway.exists_of_bind_eq_ok valid
  refine ⟨fun before => ?_, others⟩
  unfold validate at passes
  split at passes
  · cases passes
  · rw [if_pos (List.contains_iff_mem.2 before)] at passes
    cases passes

theorem GatewayConfig.devices_of_validate {c : GatewayConfig} (valid : c.validate = .ok ()) :
    DeviceConfig.validateAll c.devices [] = .ok () := by
  obtain ⟨_, -, valid⟩ := Gateway.exists_of_bind_eq_ok valid
  obtain ⟨_, -, valid⟩ := Gateway.exists_of_bind_eq_ok valid
  obtain ⟨_, -, valid⟩ := Gateway.exists_of_bind_eq_ok valid
  obtain ⟨_, devices, -⟩ := Gateway.exists_of_bind_eq_ok valid
  exact devices

namespace Gateway

/-- What there is while devices are added: two stores, and catalogs with numbers of their own. -/
structure Furnished (stores : Array Store) (m : Simulator) (x : Site) : Prop where
  state : m.state = 0
  commands : m.commands = 1
  site : x = { stores, catalogs := x.catalogs }
  fresh : ∀ (k : Nat) c, x.catalogs[k]? = some c → ∃ config, c = .ofConfig config
  numbered : ∀ e ∈ m.catalogs.items, e.2 < x.catalogs.size
  apart : ∀ e ∈ m.catalogs.items, ∀ e' ∈ m.catalogs.items, e.2 = e'.2 → e = e'

section Setup

variable {stores : Array Store} {m : Simulator} {x : Site} {d : Device} {config : CatalogConfig}

/-- A device whose name is new brings one more catalog. -/
theorem addDeviceWithCatalog_eq (new : m.catalog? d.name = none) :
    m.addDeviceWithCatalog d config x =
      ({ m with
          devices := m.devices ++ [d]
          catalogs := m.catalogs.insert (d.name, x.catalogs.size) },
        { x with catalogs := x.catalogs.push (.ofConfig config) }) := by
  simp only [Simulator.addDeviceWithCatalog, new]
  rfl

theorem Furnished.addDevice (furnished : Furnished stores m x) (config : CatalogConfig)
    (new : m.catalog? d.name = none) :
    Furnished stores (m.addDeviceWithCatalog d config x).1
      (m.addDeviceWithCatalog d config x).2 := by
  rw [addDeviceWithCatalog_eq new]
  have known (e : String × Nat) (member : e ∈ (m.catalogs.insert (d.name, x.catalogs.size)).items) :
      e = (d.name, x.catalogs.size) ∨ e ∈ m.catalogs.items := Keyed.mem_place member
  have below (e : String × Nat) (member : e ∈ m.catalogs.items) := furnished.numbered e member
  refine ⟨furnished.state, furnished.commands, ?_, fun k c there => ?_, fun e member => ?_,
    fun e member e' member' same => ?_⟩
  · rw [furnished.site]
  · rw [Array.getElem?_push] at there
    split at there
    · cases there
      exact ⟨config, rfl⟩
    · exact furnished.fresh k c there
  · dsimp only
    rw [Array.size_push]
    rcases known e member with rfl | old
    · exact Nat.lt_succ_self _
    · exact Nat.lt_succ_of_lt (below e old)
  · rcases known e member with rfl | old <;> rcases known e' member' with rfl | old'
    · rfl
    · exact absurd same (Nat.ne_of_gt (below e' old'))
    · exact absurd same (Nat.ne_of_lt (below e old))
    · exact furnished.apart e old e' old' same

/-- Devices are added one after the other, and each has its catalog in the end. -/
theorem Furnished.addDevices (base : CatalogConfig) {devices : List DeviceConfig}
    {seen : List String} (furnished : Furnished stores m x)
    (valid : DeviceConfig.validateAll devices seen = .ok ())
    (known : ∀ name, m.catalog? name ≠ none → name ∈ seen) {m' : Simulator} {x' : Site}
    (added : devices.foldl (fun (m, x) d =>
      m.addDeviceWithCatalog d.device { base with name := d.name } x) (m, x) = (m', x')) :
    Furnished stores m' x' ∧ (∀ name, m.catalog? name ≠ none → m'.catalog? name ≠ none) ∧
      ∀ d ∈ devices, m'.catalog? d.name ≠ none := by
  -- The names that have a catalog are among those that the check has seen, so each is new.
  induction devices generalizing m x seen with
  | nil =>
    cases added
    exact ⟨furnished, fun _ => id, nofun⟩
  | cons d devices ih =>
    obtain ⟨unseen, valid⟩ := DeviceConfig.of_validateAll valid
    have new : m.catalog? d.device.name = none := by
      rw [d.name_device]
      by_contra old
      exact unseen (known _ old)
    rw [List.foldl_cons] at added
    have next := furnished.addDevice { base with name := d.name } new
    have finds (name : String) :
        (m.addDeviceWithCatalog d.device { base with name := d.name } x).1.catalog? name =
          if d.name = name then some x.catalogs.size else m.catalog? name := by
      rw [addDeviceWithCatalog_eq new, Simulator.catalog?, Keyed.find?_insert, d.name_device]
      split <;> rfl
    have seen_all (name : String) (found : (m.addDeviceWithCatalog d.device
        { base with name := d.name } x).1.catalog? name ≠ none) : name ∈ d.name :: seen := by
      rw [finds] at found
      split at found
      next same => exact List.mem_cons.2 (.inl same.symm)
      next => exact List.mem_cons_of_mem _ (known name found)
    obtain ⟨whole, stay, all⟩ := ih next valid seen_all added
    refine ⟨whole, fun name found => stay name ?_, fun d' member => ?_⟩
    · rw [finds]
      split
      · simp
      · exact found
    · rcases List.mem_cons.1 member with rfl | other
      · exact stay _ (by rw [finds, if_pos rfl]; simp)
      · exact all d' other

/-- The stores of a gateway, each held by the gateway and its simulator. -/
def initialStores (c : GatewayConfig) : Array Store :=
  #[{ config := c.state, input := { capacity := c.state.inputCapacity.toNat }, handles := 2 },
    { config := c.commands, input := { capacity := c.commands.inputCapacity.toNat }, handles := 2 }]

/-- What a gateway has that was made from a configuration. -/
theorem furnished_of_ofConfig? {c : GatewayConfig} {g : Gateway} (valid : c.validate = .ok ())
    (made : ofConfig? c = some g) :
    g.consumers = c.consumers ∧ Furnished (initialStores c) g.simulator g.site ∧
      ∀ d ∈ c.devices, g.simulator.catalog? d.name ≠ none := by
  obtain ⟨state, first, made⟩ := Option.bind_eq_some_iff.1 made
  obtain ⟨commands, second, made⟩ := Option.bind_eq_some_iff.1 made
  rw [Store.ofConfig?_eq_some first, Store.ofConfig?_eq_some second] at made
  cases made
  have empty : Furnished (initialStores c) ⟨0, 1, [], .empty⟩ { stores := initialStores c } :=
    ⟨rfl, rfl, rfl, by simp, by simp [Keyed.empty], by simp [Keyed.empty]⟩
  obtain ⟨whole, -, all⟩ := empty.addDevices c.catalog (GatewayConfig.devices_of_validate valid)
    (fun name found => absurd rfl found) rfl
  exact ⟨rfl, whole, all⟩

end Setup

/-! ## At the beginning -/

namespace Crew

variable {g : Crew} {got : Nat → List Value} {σ : Signals} {tasks : Array Site.Task} {k : Nat}

/-- Nothing was ever asked of a store. -/
theorem hasStore_start (config : StoreConfig) (capacity handles : Nat) (nobody : g.posts = [])
    (same : k = 0 → config = g.state) :
    g.HasStore [] got σ tasks k { config, input := { capacity }, handles } where
  recorded := by
    refine ⟨[], ⟨?_, .start σ 1, List.forall_mem_nil _⟩, fun _ => ⟨rfl, ?_, List.forall_mem_nil _⟩⟩
    · exact Desk.watched_nil σ 1 (by simp [Store.Watches])
        (by simp [Store.Condemns, Store.inFlight])
    · rintro n values ⟨registers, post⟩
      rw [nobody] at post
      cases post
  hosts :=
    { reports := fun id message waits => by cases waits
      settled := fun _ => rfl
      errand := fun _ => .none
      idle := fun _ _ => rfl }
  state zero := ⟨same zero, rfl, fun _ => ⟨⟨rfl, rfl, rfl⟩, rfl⟩⟩

/-- Nothing was ever asked of a catalog. -/
theorem hasCatalog_start (config : CatalogConfig) : g.HasCatalog σ tasks k (.ofConfig config) where
  recorded := ⟨Desk.watched_nil σ 0 (by simp [Catalog.ofConfig]) (by simp [Catalog.ofConfig]),
    Catalog.indexed_ofConfig config, [], .start σ 0⟩
  hosts := ⟨by simp [Catalog.ofConfig], by simp [Catalog.ofConfig], by simp [Catalog.ofConfig]⟩

end Crew

theorem exists_of_initialStores {c : GatewayConfig} {k : Nat} {s : Store}
    (there : (initialStores c)[k]? = some s) :
    ∃ config capacity, s = { config, input := { capacity }, handles := 2 } ∧
      (k = 0 → config = c.state) := by
  match k with
  | 0 =>
    cases there
    exact ⟨_, _, rfl, fun _ => rfl⟩
  | 1 =>
    cases there
    exact ⟨_, _, rfl, fun zero => absurd zero Nat.one_ne_zero⟩
  | k + 2 => cases there

/-- The site of a gateway that begins to run. -/
theorem Furnished.newToken {stores : Array Store} {g : Gateway}
    (furnished : Furnished stores g.simulator g.site) :
    g.site.newToken.2 = { stores, catalogs := g.site.catalogs, signals := { next := 1 } } ∧
      g.root = ⟨[0]⟩ := by
  constructor
  · rw [Site.newToken, furnished.site]
    rfl
  · rw [root, Site.newToken, furnished.site]
    rfl

/-- A gateway that begins to run has nobody at work. -/
theorem Furnished.underway {c : GatewayConfig} {g : Gateway}
    (furnished : Furnished (initialStores c) g.simulator g.site)
    (small : c.state.subscriberCapacity.toNat ≤ queueLimit) :
    g.Underway c.state [] {} g.site.newToken.2 { state := c.state, root := g.root, small } := by
  obtain ⟨begins, root⟩ := furnished.newToken
  rw [begins]
  refine
    { runs := ⟨?parts, ?mans, ?holding⟩
      state := rfl
      root := rfl
      settled := fun n call post => by cases post
      asked := fun n opening => by cases opening
      opened := fun c next => ⟨Nat.zero_le _, fun i s there => by cases there⟩
      new := fun s first => by cases first
      served := List.nil_prefix
      manned := List.forall_mem_nil _
      late := fun marked => absurd rfl marked }
  case parts =>
    refine
      { calm := ⟨Nat.le_refl _, fun i member => ?_, List.forall_mem_nil _⟩
        stores := fun k s there => ?_
        catalogs := fun k c there => ?_
        openers := fun n call post => by cases post
        opened := fun n call s post => by cases post
        sources := fun n values registers post => by cases post
        early := fun _ => rfl }
    · rw [root] at member
      obtain rfl := List.mem_singleton.1 member
      exact Nat.one_pos
    · obtain ⟨config, capacity, rfl, same⟩ := exists_of_initialStores there
      exact Crew.hasStore_start config capacity 2 rfl same
    · obtain ⟨config, rfl⟩ := furnished.fresh k c there
      exact Crew.hasCatalog_start config
  case mans =>
    exact
      { size := rfl
        duty := fun n t p there => by cases there
        apart := fun m n values values' ⟨registers, post⟩ => by cases post
        later := fun _ _ => rfl }
  case holding =>
    refine ⟨fun k s there => ?_, fun k c there => ?_⟩
    · obtain ⟨config, capacity, rfl, -⟩ := exists_of_initialStores there
      exact Nat.two_pos
    · obtain ⟨config, rfl⟩ := furnished.fresh k c there
      exact Nat.one_pos

/-! ## On its way -/

section Going

variable {c : GatewayConfig} {g : Gateway} {p : Progress} {x x' : Site}
  (valid : c.validate = .ok ()) (room : c.state.subscriberCapacity.toNat ≤ queueLimit)
  (made : ofConfig? c = some g)

include valid room made

/-- The indices of the catalogs of a gateway tell where registers stand. -/
theorem Course.indexed {tr : Site.Trace} (course : g.Course tr p x) (calm : tr.Uncancelled)
    (k : Nat) (c' : Catalog) (there : x.catalogs[k]? = some c') : c'.Indexed := by
  obtain ⟨-, furnished, -⟩ := furnished_of_ofConfig? valid made
  obtain ⟨crew, underway⟩ :=
    course.underway furnished.state furnished.commands calm (furnished.underway room)
  exact (underway.runs.parts.catalogs k c' there).recorded.indexed

/-- Parties of a gateway that take one step after the other, without the indices of catalogs, do
what they may do. -/
theorem Reaches.playListed? {actors : List Site.Actor} (reaches : g.Reaches p x)
    (played : x.playListed? actors = some x') : g.Reaches p x' := by
  induction actors generalizing x with
  | nil =>
    cases played
    exact reaches
  | cons a actors ih =>
    obtain ⟨y, acted, rest⟩ := Option.bind_eq_some_iff.1 played
    obtain ⟨tr, course, calm⟩ := reaches
    have moves := Site.moves_of_actListed? (course.indexed valid room made calm) acted
    obtain ⟨more, run, calm'⟩ := moves.reaches
    exact ih ⟨_, course.run run, calm.append calm'⟩ rest

end Going

end Gateway

end Telemetry
