import Telemetry.Proofs.Device.Steady
import Telemetry.Proofs.Document.Integer
import Telemetry.Proofs.Keyed
import Telemetry.Proofs.Site
import Telemetry.Simulator

/-!
# Fleets

The name of a device that is built with others is made of the name of its group, its kind and its
number, with dashes between them. The name of a group may have dashes, digits and kinds in it, but
neither a kind nor a number has a dash, so that the three parts can be told from the right. Hence
devices have different names as long as no group of a kind is added twice; they report at different
keys, and in a simulator each has a catalog of its own.

## Main definitions

* `Fleet.Step`, `Fleet.built`: what a fleet is built by, and the fleet.
* `Device.Apart`: two devices that never report at one key.
* `Simulator.OneEach`: a simulator with a catalog for each of its devices.

## Main results

* `memberName_injective`: a name tells the group, the kind and the number.
* `nodup_names`: devices that are built have different names.
* `built_distinct`: which devices are built, and what follows from their names.
-/

namespace Telemetry

namespace Fleet

/-- A step of building a fleet. -/
inductive Step
  /-- Sets the interval for the devices that come next. -/
  | pollInterval (interval : Nat)
  | add (kind : DeviceKind) (count : Nat) (group : String)

namespace Step

def apply (f : Fleet) : Step → Fleet
  | pollInterval interval => f.withPollInterval interval
  | add kind count group => f.add kind count group

def interval? : Step → Option Nat
  | pollInterval interval => some interval
  | add _ _ _ => none

/-- What a step adds devices of. -/
def group? : Step → Option (DeviceKind × String)
  | pollInterval _ => none
  | add kind _ group => some (kind, group)

/-- The devices that a step adds, with the interval that is set. -/
def devices (interval : Nat) : Step → List Device
  | pollInterval _ => []
  | add kind count group => (List.range count).map fun i =>
      (Device.ofKind (memberName group kind i) kind).withPollInterval interval

end Step

/-- The fleet that some steps build. -/
def built (steps : List Step) : Fleet :=
  steps.foldl Step.apply {}

/-- The interval that is set last, a second if none is. -/
def intervalAfter (steps : List Step) : Nat :=
  ((steps.filterMap Step.interval?).getLast?).getD Device.nanosecondsPerSecond

/-! ## Names -/

section Names

variable {group group' : String} {kind kind' : DeviceKind} {i i' : Nat}

/-- What follows the last separator tells what comes before it. -/
theorem append_cons_inj_of_not_mem {α : Type} {a : α} {l l' r r' : List α} (right : a ∉ r)
    (right' : a ∉ r') (same : l ++ a :: r = l' ++ a :: r') : l = l' ∧ r = r' := by
  rcases List.append_eq_append_iff.1 same with ⟨m, rfl, split⟩ | ⟨m, rfl, split⟩
  · cases m with
    | nil => simpa using split
    | cons b m =>
      obtain ⟨rfl, rfl⟩ := List.cons.inj split
      simp at right
  · cases m with
    | nil => simpa [eq_comm] using split
    | cons b m =>
      obtain ⟨rfl, rfl⟩ := List.cons.inj split
      simp at right'

theorem dash_not_mem_toDigits (n : Nat) : '-' ∉ Nat.toDigits 10 n := by
  intro member
  exact absurd (List.all_eq_true.1 (all_isDigit_toDigits n) _ member) (by decide)

theorem dash_not_mem_name (kind : DeviceKind) : '-' ∉ kind.name.toList := by
  cases kind <;> decide

theorem kindName_injective (same : kind.name = kind'.name) : kind = kind' := by
  cases kind <;> cases kind' <;> simp [DeviceKind.name] at same ⊢

theorem toList_memberName (group : String) (kind : DeviceKind) (i : Nat) :
    (memberName group kind i).toList =
      (group.toList ++ '-' :: kind.name.toList) ++ '-' :: Nat.toDigits 10 i := by
  simp [memberName]

/-- The name of a device tells its group, its kind and its number. -/
theorem memberName_injective (same : memberName group kind i = memberName group' kind' i') :
    group = group' ∧ kind = kind' ∧ i = i' := by
  have texts := congrArg String.toList same
  rw [toList_memberName, toList_memberName] at texts
  obtain ⟨tagged, digits⟩ := append_cons_inj_of_not_mem (dash_not_mem_toDigits i)
    (dash_not_mem_toDigits i') texts
  obtain ⟨groups, kinds⟩ := append_cons_inj_of_not_mem (dash_not_mem_name kind)
    (dash_not_mem_name kind') tagged
  refine ⟨String.toList_injective groups, kindName_injective (String.toList_injective kinds), ?_⟩
  rw [← digitsValue_toDigits i, digits, digitsValue_toDigits]

end Names

/-! ## Building -/

section Building

variable {steps : List Step} {st : Step} {d : Device} {interval : Nat}

theorem built_concat (steps : List Step) (st : Step) :
    built (steps ++ [st]) = st.apply (built steps) := by
  rw [built, List.foldl_append]
  rfl

/-- The interval that is set last is in force. -/
theorem pollInterval_built (steps : List Step) :
    (built steps).pollInterval = intervalAfter steps := by
  induction steps using List.reverseRecOn with
  | nil => rfl
  | append_singleton steps st ih =>
    rw [built_concat, intervalAfter, List.filterMap_append]
    cases st with
    | pollInterval interval => simp [Step.apply, withPollInterval, Step.interval?]
    | add kind count group =>
      rw [show [Step.add kind count group].filterMap Step.interval? = [] from rfl, List.append_nil]
      exact ih

theorem devices_built_concat (steps : List Step) (st : Step) :
    (built (steps ++ [st])).devices =
      (built steps).devices ++ st.devices (intervalAfter steps) := by
  rw [built_concat, ← pollInterval_built]
  cases st with
  | pollInterval interval => exact (List.append_nil _).symm
  | add kind count group => rfl

/-- The devices are those of the steps, one step after the other. -/
theorem devices_built (steps : List Step) :
    (built steps).devices =
      steps.zipIdx.flatMap fun entry => entry.1.devices (intervalAfter (steps.take entry.2)) := by
  induction steps using List.reverseRecOn with
  | nil => rfl
  | append_singleton steps st ih =>
    rw [devices_built_concat, ih, List.zipIdx_append, List.flatMap_append]
    congr 1
    · apply List.flatMap_congr
      intro entry member
      have earlier : entry.2 ≤ steps.length := Nat.le_of_lt (List.snd_lt_of_mem_zipIdx member)
      rw [List.take_append_of_le_length earlier]
    · simp

theorem exists_of_mem_devices (member : d ∈ st.devices interval) :
    ∃ kind group i, st.group? = some (kind, group) ∧ d.name = memberName group kind i := by
  cases st with
  | pollInterval _ => cases member
  | add kind count group =>
    obtain ⟨i, -, rfl⟩ := List.mem_map.1 member
    exact ⟨kind, group, i, rfl, rfl⟩

theorem exists_of_mem_built (member : d ∈ (built steps).devices) :
    ∃ kind group i, (kind, group) ∈ steps.filterMap Step.group? ∧
      d.name = memberName group kind i := by
  rw [devices_built] at member
  obtain ⟨⟨st, n⟩, step, member⟩ := List.mem_flatMap.1 member
  obtain ⟨kind, group, i, adds, name⟩ := exists_of_mem_devices member
  exact ⟨kind, group, i, List.mem_filterMap.2 ⟨st, List.fst_mem_of_mem_zipIdx step, adds⟩, name⟩

theorem nodup_names_devices (interval : Nat) (st : Step) :
    ((st.devices interval).map Device.name).Nodup := by
  cases st with
  | pollInterval _ => exact .nil
  | add kind count group =>
    rw [Step.devices, List.map_map]
    apply List.Nodup.map _ List.nodup_range
    intro i i' same
    exact (memberName_injective same).2.2

/-- Devices have different names as long as no group of a kind is added twice. -/
theorem nodup_names (once : (steps.filterMap Step.group?).Nodup) :
    ((built steps).devices.map Device.name).Nodup := by
  induction steps using List.reverseRecOn with
  | nil => exact .nil
  | append_singleton steps st ih =>
    rw [List.filterMap_append, List.nodup_append] at once
    obtain ⟨earlier, -, new⟩ := once
    rw [devices_built_concat, List.map_append, List.nodup_append]
    refine ⟨ih earlier, nodup_names_devices _ st, ?_⟩
    intro name before name' added same
    obtain ⟨d, member, rfl⟩ := List.mem_map.1 before
    obtain ⟨d', member', rfl⟩ := List.mem_map.1 added
    obtain ⟨kind, group, i, old, named⟩ := exists_of_mem_built member
    obtain ⟨kind', group', i', adds, named'⟩ := exists_of_mem_devices member'
    obtain ⟨rfl, rfl, -⟩ := memberName_injective (named.symm.trans (same.trans named'))
    exact new _ old _ (List.mem_filterMap.2 ⟨st, List.mem_singleton_self st, adds⟩) rfl

end Building

end Fleet

/-! ## What follows from the names -/

namespace Device

section Keys

variable {d d' : Device} {devices : List Device}

/-- Two devices that never report at one key, however they run. -/
def Apart (d d' : Device) : Prop :=
  ∀ {history history' : List (Call × Event)} {l l' : Loop} {call call' : Call},
    d.Course history l call → d'.Course history' l' call' →
    ∀ v ∈ reports history call, ∀ w ∈ reports history' call', v.key ≠ w.key

theorem Course.device_eq {history : List (Call × Event)} {l : Loop} {call : Call} {v : Value}
    (course : d.Course history l call) (member : v ∈ reports history call) :
    v.device = d.name := by
  obtain ⟨-, -, reported, -⟩ := course.provenance
  rcases reported v member with announced | ⟨command, -, on, stamp, -, rfl⟩
  · exact announced.device
  · rfl

theorem apart_of_name_ne (different : d.name ≠ d'.name) : d.Apart d' := by
  intro history history' l l' call call' course course' v member w member' same
  have devices := congrArg Key.device same
  apply different
  rw [← course.device_eq member, ← course'.device_eq member']
  exact devices

theorem nodup_flatMap_keys (names : (devices.map Device.name).Nodup) :
    (devices.flatMap keys).Nodup := by
  rw [List.nodup_flatMap]
  refine ⟨fun d _ => d.nodup_keys, ?_⟩
  refine (List.pairwise_map.1 names).imp ?_
  intro d d' different k owned owned'
  obtain ⟨r, -, rfl⟩ := List.mem_map.1 owned
  obtain ⟨r', -, same⟩ := List.mem_map.1 owned'
  exact different (congrArg Key.device same).symm

end Keys

end Device

namespace Simulator

/-- A simulator of these devices, set up on a site. It has a catalog for each of them and no other,
and these are the catalogs that the site has gained, in the order of the devices. -/
structure OneEach (devices : List Device) (x : Site) (m : Simulator) (x' : Site) : Prop where
  runs : m.devices = devices
  catalog : ∀ name n, m.catalog? name = some n ↔
    ∃ i d, devices[i]? = some d ∧ d.name = name ∧ n = x.catalogs.size + i
  gained : x'.catalogs = x.catalogs ++
    (devices.map fun d => Catalog.ofConfig { name := d.name }).toArray

section Catalogs

variable {devices : List Device} {d : Device} {m m' : Simulator} {x x' y : Site}

theorem catalogs_storeAct (n : Nat) (a : Store.Action) (x : Site) :
    (x.storeAct n a).catalogs = x.catalogs := by
  unfold Site.storeAct
  cases acted : x.storeAct? n a with
  | none => rfl
  | some result =>
    obtain ⟨s, σ, s', -, -, whole⟩ := Site.storeAct?_eq_some.1 acted
    rw [Option.map_some, Option.getD_some, whole]

theorem oneEach_create (state commands : Nat) (x : Site) :
    OneEach [] x (create state commands x).1 (create state commands x).2 := by
  refine ⟨rfl, ?_, ?_⟩
  · simp [create, catalog?]
  · simp [create, catalogs_storeAct]

/-- A device of a new name brings a catalog. -/
theorem OneEach.addDevice (each : OneEach devices x m y)
    (new : d.name ∉ devices.map Device.name) :
    OneEach (devices ++ [d]) x (m.addDevice d y).1 (m.addDevice d y).2 := by
  have unknown : m.catalog? d.name = none := by
    rw [Option.eq_none_iff_forall_ne_some]
    intro n known
    obtain ⟨i, d', there, named, -⟩ := (each.catalog _ n).1 known
    exact new (List.mem_map.2 ⟨d', List.mem_of_getElem? there, named⟩)
  have brings : m.addDevice d y =
      ({ m with
          devices := m.devices ++ [d]
          catalogs := m.catalogs.insert (d.name, y.catalogs.size) },
        { y with catalogs := y.catalogs.push (.ofConfig { name := d.name }) }) := by
    have unknown' : catalog? { m with devices := m.devices ++ [d] } d.name = none := unknown
    simp only [Simulator.addDevice, unknown']
    rfl
  rw [brings]
  have numbered : y.catalogs.size = x.catalogs.size + devices.length := by
    simp [each.gained]
  refine ⟨by rw [each.runs], ?_, ?_⟩
  · intro name n
    have added (i : Nat) (d' : Device) : (devices ++ [d])[i]? = some d' ↔
        devices[i]? = some d' ∨ i = devices.length ∧ d = d' := by
      grind
    have known := each.catalog name n
    simp only [catalog?, Keyed.find?_insert, added]
    simp only [catalog?] at known
    split
    · next same =>
      subst same
      constructor
      · intro found
        cases found
        exact ⟨devices.length, d, .inr ⟨rfl, rfl⟩, rfl, numbered⟩
      · rintro ⟨i, d', there | ⟨rfl, -⟩, named, rfl⟩
        · exact absurd (List.mem_map.2 ⟨d', List.mem_of_getElem? there, named⟩) new
        · simp [numbered]
    · next other =>
      rw [known]
      constructor
      · rintro ⟨i, d', there, named, number⟩
        exact ⟨i, d', .inl there, named, number⟩
      · rintro ⟨i, d', there | ⟨-, rfl⟩, named, number⟩
        · exact ⟨i, d', there, named, number⟩
        · exact absurd named other
  · simp [each.gained]

theorem OneEach.addDevices {more : List Device} (each : OneEach devices x m y)
    (names : ((devices ++ more).map Device.name).Nodup) :
    OneEach (devices ++ more) x (m.addDevices more y).1 (m.addDevices more y).2 := by
  induction more generalizing devices m y with
  | nil =>
    rw [List.append_nil]
    exact each
  | cons d more ih =>
    have new : d.name ∉ devices.map Device.name := by
      rw [List.map_append, List.nodup_append] at names
      intro old
      exact names.2.2 _ old _ (List.mem_map_of_mem List.mem_cons_self) rfl
    rw [List.append_cons] at names ⊢
    exact ih (each.addDevice new) names

end Catalogs

end Simulator

namespace Fleet

/-- Steps that add no group of a kind twice build the devices of each step, one step after the
other, with the interval that was set last before. These have different names. So no two of them
ever report at one key, and a simulator of them has a catalog for each. -/
theorem built_distinct {steps : List Step} (once : (steps.filterMap Step.group?).Nodup) :
    (built steps).devices = steps.zipIdx.flatMap
      (fun entry => entry.1.devices (intervalAfter (steps.take entry.2))) ∧
    ((built steps).devices.map Device.name).Nodup ∧
    ((built steps).devices.flatMap Device.keys).Nodup ∧
    (built steps).devices.Pairwise Device.Apart ∧
    ∀ (state commands : Nat) (x : Site), Simulator.OneEach (built steps).devices x
      ((built steps).simulator state commands x).1
      ((built steps).simulator state commands x).2 := by
  have names := nodup_names once
  refine ⟨devices_built steps, names, Device.nodup_flatMap_keys names, ?_, ?_⟩
  · exact (List.pairwise_map.1 names).imp Device.apart_of_name_ne
  · intro state commands x
    exact (Simulator.oneEach_create state commands x).addDevices names

/-- A group may be named like a device of another. -/
theorem built_distinct_nested :
    let steps : List Step :=
      [.add .meter 2 "a", .pollInterval 5, .add .meter 1 "a-meter-1", .add .relay 1 "a"]
    (steps.filterMap Step.group?).Nodup ∧
    (built steps).devices.map (fun d => (d.name, d.pollInterval)) =
      [("a-meter-0", Device.nanosecondsPerSecond), ("a-meter-1", Device.nanosecondsPerSecond),
        ("a-meter-1-meter-0", 5), ("a-relay-0", 5)] := by
  intro steps
  have once : (steps.filterMap Step.group?).Nodup := by decide
  refine ⟨once, ?_⟩
  rw [(built_distinct once).1]
  decide

end Fleet

end Telemetry
