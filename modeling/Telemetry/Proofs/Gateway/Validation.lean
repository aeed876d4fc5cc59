import Mathlib.Data.List.TakeWhile
import Telemetry.Gateway.Config
import Telemetry.Proofs.Config
import Telemetry.Proofs.Decimal

/-!
# The rules of a configuration

The rules of a configuration stand in a fixed order: those of the stores and the catalog, then
those of each device and those of each consumer, given the ones before it. A configuration passes
if it keeps every rule; else its fault is that of the first rule it breaks, however many there are
that it breaks.

## Main definitions

* `Rule`: a rule, with the fault of a configuration that breaks it.
* `GatewayConfig.rules`: the rules of a configuration in their order.
* `GatewayConfig.WellFormed`: what the rules ask for, taken together.
-/

namespace Telemetry

structure Rule where
  holds : Prop
  /-- What is wrong with a configuration that breaks the rule. -/
  fault : ConfigFault
  /-- The names that the fault has to tell. -/
  subjects : List String

namespace Rule

/-- The message of the fault tells every name it has to. -/
def Told (r : Rule) : Prop :=
  ∀ s ∈ r.subjects, s.toList <:+: r.fault.message.toList

theorem infix_of_eq {m before s after : String} (h : m = before ++ s ++ after) :
    s.toList <:+: m.toList := by
  rw [h, String.toList_append, String.toList_append]
  exact List.infix_append _ _ _

/-- Holding a configuration against its rules: the first one that is broken decides. -/
inductive Judged : List Rule → Except ConfigFault Unit → Prop
  | none : Judged [] (.ok ())
  | broken {r : Rule} {rest : List Rule} : ¬r.holds → Judged (r :: rest) (.error r.fault)
  | kept {r : Rule} {rest : List Rule} {o : Except ConfigFault Unit} :
      r.holds → Judged rest o → Judged (r :: rest) o

namespace Judged

variable {rules more : List Rule} {o p : Except ConfigFault Unit} {f : ConfigFault}

theorem bind (h : Judged rules o) (next : Judged more p) :
    Judged (rules ++ more) (o >>= fun _ => p) := by
  induction h with
  | none => exact next
  | broken broken => exact .broken broken
  | kept holds _ ih => exact .kept holds ih

theorem ite {r : Rule} {c : Prop} [Decidable c] (breaks : c ↔ ¬r.holds) (h : Judged rules o) :
    Judged (r :: rules) (if c then .error r.fault else o) := by
  split
  · next broken => exact .broken (breaks.1 broken)
  · next kept => exact .kept (not_not.1 (mt breaks.2 kept)) h

theorem eq_ok_iff (h : Judged rules o) : o = .ok () ↔ ∀ r ∈ rules, r.holds := by
  induction h with
  | none => simp
  | broken broken => simp [broken]
  | kept holds _ ih => simp [holds, ih]

theorem unique (h : Judged rules o) (other : Judged rules p) : o = p := by
  induction h with
  | none => cases other; rfl
  | broken broken =>
    cases other with
    | broken => rfl
    | kept holds => exact absurd holds broken
  | kept holds _ ih =>
    cases other with
    | broken broken => exact absurd holds broken
    | kept _ rest => exact ih rest

theorem first_broken {before after : List Rule} {r : Rule} (kept : ∀ b ∈ before, b.holds)
    (broken : ¬r.holds) : Judged (before ++ r :: after) (.error r.fault) := by
  induction before with
  | nil => exact .broken broken
  | cons b before ih =>
    rw [List.forall_mem_cons] at kept
    exact .kept kept.1 (ih kept.2)

theorem eq_error_iff (h : Judged rules o) :
    o = .error f ↔ ∃ before r after, rules = before ++ r :: after ∧ (∀ b ∈ before, b.holds) ∧
      ¬r.holds ∧ r.fault = f := by
  constructor
  · rintro rfl
    generalize fault : Except.error f = o at h
    induction h with
    | none => cases fault
    | broken broken =>
      cases fault
      exact ⟨[], _, _, rfl, by simp, broken, rfl⟩
    | kept holds _ ih =>
      obtain ⟨before, r, after, rfl, kept, fails⟩ := ih fault
      exact ⟨_ :: before, r, after, rfl, by simpa [holds] using kept, fails⟩
  · rintro ⟨before, r, after, rfl, kept, broken, rfl⟩
    exact h.unique (first_broken kept broken)

end Judged

section InTurn

variable {α : Type} {rules : List α → α → List Rule}

/-- The rules of each item of a list, given the items before it. -/
def inTurn (rules : List α → α → List Rule) (l : List α) : List Rule :=
  l.zipIdx.flatMap fun e => rules (l.take e.2) e.1

theorem forall_inTurn {P : Rule → Prop} {l : List α} :
    (∀ r ∈ inTurn rules l, P r) ↔
      ∀ before a after, l = before ++ a :: after → ∀ r ∈ rules before a, P r := by
  simp only [inTurn, List.mem_flatMap, Prod.exists, List.mk_mem_zipIdx_iff_getElem?,
    List.getElem?_eq_some_iff]
  constructor
  · rintro all before a after rfl r hr
    exact all r ⟨a, before.length, ⟨by simp, by simp⟩, by simpa using hr⟩
  · rintro all r ⟨a, i, ⟨short, rfl⟩, hr⟩
    refine all (l.take i) l[i] (l.drop (i + 1)) ?_ r hr
    rw [List.getElem_cons_drop, List.take_append_drop]

theorem forall_mem_iff_split {P : α → Prop} {l : List α} :
    (∀ a ∈ l, P a) ↔ ∀ before a after, l = before ++ a :: after → P a := by
  grind [List.mem_iff_append]

/-- A check that goes through a list and carries the names of the items it has seen comes to the
fault of the first rule that is broken. -/
theorem Judged.inTurn {name : α → String} {check : α → List String → Except ConfigFault Unit}
    {run : List α → List String → Except ConfigFault Unit}
    (nil : ∀ seen, run [] seen = .ok ())
    (cons : ∀ a rest seen, run (a :: rest) seen = check a seen >>= fun _ =>
      run rest (name a :: seen))
    (judged : ∀ before a seen, (∀ s, s ∈ seen ↔ s ∈ before.map name) →
      Judged (rules before a) (check a seen)) (l : List α) :
    Judged (Rule.inTurn rules l) (run l []) := by
  -- The items before those that remain are the ones whose names were seen.
  suffices general : ∀ rest before seen, (∀ s, s ∈ seen ↔ s ∈ before.map name) →
      Judged ((rest.zipIdx before.length).flatMap fun e => rules ((before ++ rest).take e.2) e.1)
        (run rest seen) from general l [] [] (by simp)
  intro rest
  induction rest with
  | nil =>
    intro before seen _
    rw [nil]
    exact .none
  | cons a rest ih =>
    intro before seen same
    have first := judged before a seen same
    have rest := ih (before ++ [a]) (name a :: seen) (by simp [same, or_comm])
    rw [List.append_assoc, List.singleton_append, List.length_append] at rest
    rw [cons, List.zipIdx_cons, List.flatMap_cons, List.take_left]
    exact first.bind rest

end InTurn

/-- Items have different names exactly if no item has the name of one before it. -/
theorem nodup_map_iff {α : Type} {name : α → String} {l : List α} :
    (l.map name).Nodup ↔ ∀ before a after, l = before ++ a :: after → name a ∉ before.map name := by
  constructor
  · rintro differ before a after rfl earlier
    rw [List.map_append, List.map_cons, List.nodup_append] at differ
    exact differ.2.2 _ earlier _ List.mem_cons_self rfl
  · intro fresh
    rw [List.Nodup, List.pairwise_map, List.pairwise_iff_getElem]
    intro i j hi hj less same
    have split : l = l.take j ++ l[j] :: l.drop (j + 1) := by
      rw [List.getElem_cons_drop, List.take_append_drop]
    refine fresh _ _ _ split (same ▸ List.mem_map_of_mem ?_)
    exact List.mem_take_iff_getElem.2 ⟨i, by omega, rfl⟩

end Rule

/-! ## The rules of each part -/

theorem eq_zero_iff {n : UInt64} : n = 0 ↔ ¬1 ≤ n.toNat := by
  rw [Nat.succ_le_iff, toNat_pos_iff, not_not]

/-- Nothing is left of a text after trimming exactly if all of it is blank. -/
theorem trim_eq_empty_iff {s : String} :
    Text.trim s = "" ↔ ∀ ch ∈ s.toList, Text.isBlank ch = true := by
  rw [Text.trim, String.ofList_eq_empty_iff, Text.trimChars, List.reverse_eq_nil_iff,
    List.dropWhile_eq_nil_iff]
  simp only [List.mem_reverse]
  constructor
  · intro blank ch hch
    rw [← List.takeWhile_append_dropWhile (p := Text.isBlank) (l := s.toList),
      List.mem_append] at hch
    exact hch.elim List.mem_takeWhile_imp (blank ch)
  · intro blank ch hch
    exact blank ch ((List.dropWhile_sublist _).subset hch)

namespace StoreConfig

def rules (c : StoreConfig) : List Rule :=
  [⟨1 ≤ c.inputCapacity.toNat, .settings (.noInputCapacity c.name), [c.name]⟩,
    ⟨1 ≤ c.subscriberCapacity.toNat, .settings (.noSubscriberCapacity c.name), [c.name]⟩]

theorem judged (c : StoreConfig) : Rule.Judged c.rules (c.validate.mapError .settings) := by
  have outcome : c.validate.mapError ConfigFault.settings =
      if c.inputCapacity = 0 then .error (.settings (.noInputCapacity c.name))
      else if c.subscriberCapacity = 0 then .error (.settings (.noSubscriberCapacity c.name))
      else .ok () := by
    unfold validate
    split
    · rfl
    · split <;> rfl
  rw [outcome]
  exact .ite eq_zero_iff (.ite eq_zero_iff .none)

theorem rules_hold_iff {c : StoreConfig} : (∀ r ∈ c.rules, r.holds) ↔
    1 ≤ c.inputCapacity.toNat ∧ 1 ≤ c.subscriberCapacity.toNat := by
  simp [rules]

theorem told (c : StoreConfig) : ∀ r ∈ c.rules, r.Told := by
  simp only [rules, Rule.Told, List.forall_mem_cons, List.not_mem_nil, false_implies,
    implies_true, and_true]
  exact ⟨Rule.infix_of_eq (String.append_assoc ..).symm,
    Rule.infix_of_eq (String.append_assoc ..).symm⟩

end StoreConfig

namespace CatalogConfig

def rules (c : CatalogConfig) : List Rule :=
  [⟨1 ≤ c.subscriberCapacity.toNat, .settings (.noSubscriberCapacity c.name), [c.name]⟩]

theorem judged (c : CatalogConfig) : Rule.Judged c.rules (c.validate.mapError .settings) := by
  have outcome : c.validate.mapError ConfigFault.settings =
      if c.subscriberCapacity = 0 then .error (.settings (.noSubscriberCapacity c.name))
      else .ok () := by
    unfold validate
    split <;> rfl
  rw [outcome]
  exact .ite eq_zero_iff .none

theorem rules_hold_iff {c : CatalogConfig} :
    (∀ r ∈ c.rules, r.holds) ↔ 1 ≤ c.subscriberCapacity.toNat := by
  simp [rules]

theorem told (c : CatalogConfig) : ∀ r ∈ c.rules, r.Told := by
  simp only [rules, Rule.Told, List.forall_mem_cons, List.not_mem_nil, false_implies,
    implies_true, and_true]
  exact Rule.infix_of_eq (String.append_assoc ..).symm

end CatalogConfig

namespace DeviceConfig

/-- The rules of a device that comes after those in `before`. -/
def rules (before : List DeviceConfig) (c : DeviceConfig) : List Rule :=
  [⟨Text.trim c.name ≠ "", .blankDevice, []⟩,
    ⟨c.name ∉ before.map name, .repeatedDevice c.name, [c.name]⟩,
    ⟨1 ≤ c.pollInterval.toNat, .noInterval c.name, [c.name]⟩,
    ⟨∀ x ∈ c.variance, x.isFinite ∧ ¬x < 0.0, .badVariance c.name, [c.name]⟩]

theorem judged {before : List DeviceConfig} {seen : List String} (c : DeviceConfig)
    (same : ∀ s, s ∈ seen ↔ s ∈ before.map name) :
    Rule.Judged (rules before c) (c.validate seen) := by
  refine .ite ?blank (.ite ?repeated (.ite eq_zero_iff (.ite ?variance .none)))
  case blank => simp
  case repeated => simp [same]
  case variance =>
    simp only [Option.any_eq_true, isVariance, Dyadic.isSome_ofFloat?]
    grind [Option.mem_def]

theorem rules_hold_iff {l : List DeviceConfig} : (∀ r ∈ Rule.inTurn rules l, r.holds) ↔
    (∀ d ∈ l, ∃ ch ∈ d.name.toList, Text.isBlank ch = false) ∧ (l.map name).Nodup ∧
      (∀ d ∈ l, 1 ≤ d.pollInterval.toNat) ∧
      ∀ d ∈ l, ∀ x ∈ d.variance, x.isFinite ∧ ¬x < 0.0 := by
  have blank (d : DeviceConfig) :
      Text.trim d.name ≠ "" ↔ ∃ ch ∈ d.name.toList, Text.isBlank ch = false := by
    simp [trim_eq_empty_iff]
  simp only [Rule.forall_inTurn, Rule.forall_mem_iff_split (l := l), Rule.nodup_map_iff, rules,
    List.forall_mem_cons, blank]
  grind

theorem told (before : List DeviceConfig) (c : DeviceConfig) : ∀ r ∈ rules before c, r.Told := by
  simp only [rules, Rule.Told, List.forall_mem_cons, List.not_mem_nil, false_implies,
    implies_true, and_true, true_and]
  exact ⟨Rule.infix_of_eq (String.append_empty ..).symm, Rule.infix_of_eq rfl,
    Rule.infix_of_eq rfl⟩

end DeviceConfig

namespace ConsumerConfig

/-- The rules of a consumer that comes after those in `before`, where `devices` are configured. -/
def rules (devices : List String) (before : List ConsumerConfig) (c : ConsumerConfig) :
    List Rule :=
  ⟨c.name ∉ before.map name, .repeatedConsumer c.name, [c.name]⟩ ::
    c.devices.map fun d => ⟨d ∈ devices, .unknownDevice c.name d, [c.name, d]⟩

theorem judged {before : List ConsumerConfig} {devices seen : List String} (c : ConsumerConfig)
    (same : ∀ s, s ∈ seen ↔ s ∈ before.map name) :
    Rule.Judged (rules devices before c) (c.validate devices seen) := by
  refine .ite (by simp [same]) ?_
  induction c.devices with
  | nil => exact .none
  | cons d rest ih =>
    rw [List.find?_cons]
    by_cases known : d ∈ devices
    · rw [List.contains_iff_mem.2 known]
      exact .kept known ih
    · rw [Bool.eq_false_iff.2 (mt List.contains_iff_mem.1 known)]
      exact .broken known

theorem rules_hold_iff {devices : List String} {l : List ConsumerConfig} :
    (∀ r ∈ Rule.inTurn (rules devices) l, r.holds) ↔
      (l.map name).Nodup ∧ ∀ k ∈ l, ∀ d ∈ k.devices, d ∈ devices := by
  simp only [Rule.forall_inTurn, Rule.forall_mem_iff_split (l := l), Rule.nodup_map_iff, rules,
    List.forall_mem_cons, List.forall_mem_map]
  grind

theorem told (devices : List String) (before : List ConsumerConfig) (c : ConsumerConfig) :
    ∀ r ∈ rules devices before c, r.Told := by
  simp only [rules, Rule.Told, List.forall_mem_cons, List.forall_mem_map, List.not_mem_nil,
    false_implies, implies_true, and_true]
  refine ⟨Rule.infix_of_eq (String.append_empty ..).symm, fun d _ => ⟨?_, ?_⟩⟩
  · exact Rule.infix_of_eq (String.append_assoc ..)
  · exact Rule.infix_of_eq (String.append_empty ..).symm

end ConsumerConfig

namespace GatewayConfig

def rules (c : GatewayConfig) : List Rule :=
  c.state.rules ++ (c.commands.rules ++ (c.catalog.rules ++
    (Rule.inTurn DeviceConfig.rules c.devices ++
      Rule.inTurn (ConsumerConfig.rules (c.devices.map DeviceConfig.name)) c.consumers)))

structure WellFormed (c : GatewayConfig) : Prop where
  state : 1 ≤ c.state.inputCapacity.toNat ∧ 1 ≤ c.state.subscriberCapacity.toNat
  commands : 1 ≤ c.commands.inputCapacity.toNat ∧ 1 ≤ c.commands.subscriberCapacity.toNat
  catalog : 1 ≤ c.catalog.subscriberCapacity.toNat
  deviceNames : ∀ d ∈ c.devices, ∃ ch ∈ d.name.toList, Text.isBlank ch = false
  devicesDiffer : (c.devices.map DeviceConfig.name).Nodup
  intervals : ∀ d ∈ c.devices, 1 ≤ d.pollInterval.toNat
  variances : ∀ d ∈ c.devices, ∀ x ∈ d.variance, x.isFinite ∧ ¬x < 0.0
  consumersDiffer : (c.consumers.map ConsumerConfig.name).Nodup
  devicesKnown : ∀ k ∈ c.consumers, ∀ d ∈ k.devices, d ∈ c.devices.map DeviceConfig.name

theorem judged (c : GatewayConfig) : Rule.Judged c.rules c.validate := by
  have devices : Rule.Judged (Rule.inTurn DeviceConfig.rules c.devices)
      (DeviceConfig.validateAll c.devices []) :=
    .inTurn (fun _ => rfl) (fun _ _ _ => rfl) (fun _ d _ same => d.judged same) _
  have consumers : Rule.Judged
      (Rule.inTurn (ConsumerConfig.rules (c.devices.map DeviceConfig.name)) c.consumers)
      (ConsumerConfig.validateAll (c.devices.map DeviceConfig.name) c.consumers []) :=
    .inTurn (fun _ => rfl) (fun _ _ _ => rfl) (fun _ k _ same => k.judged same) _
  exact c.state.judged.bind <| c.commands.judged.bind <| c.catalog.judged.bind <|
    devices.bind consumers

theorem rules_hold_iff {c : GatewayConfig} : (∀ r ∈ c.rules, r.holds) ↔ c.WellFormed := by
  simp only [rules, List.forall_mem_append, StoreConfig.rules_hold_iff,
    CatalogConfig.rules_hold_iff, DeviceConfig.rules_hold_iff, ConsumerConfig.rules_hold_iff]
  constructor
  · rintro ⟨state, commands, catalog, ⟨named, differ, intervals, variances⟩, consumers, known⟩
    exact ⟨state, commands, catalog, named, differ, intervals, variances, consumers, known⟩
  · rintro ⟨state, commands, catalog, named, differ, intervals, variances, consumers, known⟩
    exact ⟨state, commands, catalog, ⟨named, differ, intervals, variances⟩, consumers, known⟩

theorem told (c : GatewayConfig) : ∀ r ∈ c.rules, r.Told := by
  simp only [rules, List.forall_mem_append]
  refine ⟨c.state.told, c.commands.told, c.catalog.told, ?_, ?_⟩
  · exact Rule.forall_inTurn.2 fun before d _ _ => d.told before
  · exact Rule.forall_inTurn.2 fun before k _ _ => k.told _ before

/-- A configuration passes exactly if it is well-formed; else its fault is that of the first rule in
order that it breaks, and tells the names that the rule is about. -/
theorem validate_decides (c : GatewayConfig) :
    (c.validate = .ok () ↔ c.WellFormed) ∧
    (∀ f, c.validate = .error f ↔ ∃ before r after, c.rules = before ++ r :: after ∧
      (∀ b ∈ before, b.holds) ∧ ¬r.holds ∧ r.fault = f) ∧
    ∀ r ∈ c.rules, ∀ s ∈ r.subjects, s.toList <:+: r.fault.message.toList :=
  ⟨c.judged.eq_ok_iff.trans rules_hold_iff, fun _ => c.judged.eq_error_iff, c.told⟩

/-- The blank name of the second device goes unnoticed, as the first device breaks a rule too. -/
example :
    let c : GatewayConfig := { devices := [⟨"a", .meter, 0, none⟩, ⟨" ", .meter, 5, none⟩] }
    c.validate = .error (.noInterval "a") := by
  rfl

end GatewayConfig

end Telemetry
