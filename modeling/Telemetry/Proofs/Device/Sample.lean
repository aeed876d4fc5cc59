import Mathlib.Data.List.Perm.Subperm
import Telemetry.Proofs.Device.Control

/-!
# What one poll hands out

A poll hands each reading to the first register of its name and to no other, whatever list of
registers it is given: names may be repeated or unknown, and the order and the other fields of the
registers do not matter.

## Main definitions

* `DeviceKind.readingNames`: what a device of some kind reads.
* `Device.firsts`: the registers of a list that are the first of their name.

## Main results

* `assign_eq`: readings go to the first registers of their names.
* `sample_once`: so it is with a poll of a device that does not fluctuate.
-/

namespace Telemetry

open scoped List

/-- The names of the readings of one poll. -/
def DeviceKind.readingNames : DeviceKind → List String
  | .meter => ["voltage", "current", "power", "serial"]
  | .relay => ["load"]
  | .battery => ["voltage", "current", "soc", "state"]

namespace Device

/-- The registers with one of these names, but for those that come after another of their name. -/
def firsts (names : List String) (registers : List Register) : List Register :=
  registers.zipIdx.filterMap fun (r, i) =>
    if r.name ∈ names ∧ ∀ q ∈ registers.take i, q.name ≠ r.name then some r else none

/-! ## The first registers of their names -/

section Firsts

variable {names : List String} {r : Register} {registers : List Register}

@[simp] theorem firsts_nil (names : List String) : firsts names [] = [] :=
  rfl

/-- Once a register is read, there is nothing left to read for others of its name. -/
theorem firsts_cons (names : List String) (r : Register) (registers : List Register) :
    firsts names (r :: registers) =
      (if r.name ∈ names then [r] else []) ++ firsts (names.filter (· ≠ r.name)) registers := by
  have later (q : Register) (n : Nat) :
      (q.name ∈ names ∧ ∀ p ∈ r :: registers.take n, p.name ≠ q.name) ↔
        q.name ∈ names.filter (· ≠ r.name) ∧ ∀ p ∈ registers.take n, p.name ≠ q.name := by
    simp only [List.forall_mem_cons, List.mem_filter, decide_eq_true_eq]
    grind
  simp only [firsts, List.zipIdx_cons', List.filterMap_cons, List.filterMap_map, Function.comp_def,
    Prod.map, id, List.take_succ_cons, later, List.take_zero, List.not_mem_nil, false_implies,
    implies_true, and_true]
  split_ifs with named <;> rfl

theorem firsts_cons_of_mem (named : r.name ∈ names) :
    firsts names (r :: registers) = r :: firsts (names.filter (· ≠ r.name)) registers := by
  rw [firsts_cons, if_pos named, List.singleton_append]

theorem firsts_cons_of_not_mem (unnamed : r.name ∉ names) :
    firsts names (r :: registers) = firsts names registers := by
  have whole : names.filter (· ≠ r.name) = names := by
    rw [List.filter_eq_self]
    intro name member
    exact decide_eq_true fun same => unnamed (same ▸ member)
  rw [firsts_cons, if_neg unnamed, List.nil_append, whole]

theorem firsts_sublist (names : List String) (registers : List Register) :
    firsts names registers <+ registers := by
  induction registers generalizing names with
  | nil => exact .slnil
  | cons r registers ih =>
    by_cases named : r.name ∈ names
    · rw [firsts_cons_of_mem named]
      exact (ih _).cons_cons r
    · rw [firsts_cons_of_not_mem named]
      exact (ih _).cons r

theorem name_mem_of_mem_firsts (member : r ∈ firsts names registers) : r.name ∈ names := by
  induction registers generalizing names with
  | nil => cases member
  | cons q registers ih =>
    by_cases named : q.name ∈ names
    · rw [firsts_cons_of_mem named] at member
      rcases List.mem_cons.1 member with rfl | later
      · exact named
      · exact (List.mem_filter.1 (ih later)).1
    · rw [firsts_cons_of_not_mem named] at member
      exact ih member

theorem nodup_firsts (names : List String) (registers : List Register) :
    ((firsts names registers).map Register.name).Nodup := by
  induction registers generalizing names with
  | nil => exact .nil
  | cons r registers ih =>
    by_cases named : r.name ∈ names
    · rw [firsts_cons_of_mem named, List.map_cons, List.nodup_cons]
      refine ⟨?_, ih _⟩
      intro again
      obtain ⟨q, member, same⟩ := List.mem_map.1 again
      have other := (List.mem_filter.1 (name_mem_of_mem_firsts member)).2
      simp [same] at other
    · rw [firsts_cons_of_not_mem named]
      exact ih names

/-- No more registers are first of their name than there are names. -/
theorem length_firsts_le (names : List String) (registers : List Register) :
    (firsts names registers).length ≤ names.length := by
  have within : (firsts names registers).map Register.name ⊆ names := by
    intro name member
    obtain ⟨r, first, rfl⟩ := List.mem_map.1 member
    exact name_mem_of_mem_firsts first
  simpa using ((nodup_firsts names registers).subperm within).length_le

end Firsts

/-! ## Polls -/

section Polls

variable {d : Device}

/-- Readings go to the first registers of their names. -/
theorem assign_eq (device : String) (stamp : Timestamp) (payload : String → Payload)
    (registers : List Register) (names : List String) :
    assign device stamp registers (names.map fun name => (name, payload name)) =
      (firsts names registers).map fun r => ⟨device, r, payload r.name, stamp⟩ := by
  induction registers generalizing names with
  | nil => rfl
  | cons r registers ih =>
    unfold assign
    by_cases named : r.name ∈ names
    · have left : (names.map fun name => (name, payload name)).filter (·.1 != r.name) =
          (names.filter (· ≠ r.name)).map fun name => (name, payload name) := by
        simp [List.filter_map, Function.comp_def, bne, beq_eq_decide]
      simp only [List.lookup_graph payload named, left, ih, firsts_cons_of_mem named,
        List.map_cons]
    · have missing : List.lookup r.name (names.map fun name => (name, payload name)) = none := by
        rw [List.lookup_eq_none_iff]
        intro entry member
        obtain ⟨name, known, rfl⟩ := List.mem_map.1 member
        exact bne_iff_ne.2 fun same => named (same ▸ known)
      simp only [missing, ih, firsts_cons_of_not_mem named]

/-- A device that does not fluctuate has one reading for each name. -/
theorem exists_payload (steady : d.variance ≤ 0.0) (on : Bool) :
    ∃ payload : String → Payload, ∀ noise : String → Float,
      d.readings noise on = d.kind.readingNames.map fun name => (name, payload name) := by
  let readings := d.readings (fun _ => 0.0) on
  refine ⟨fun name => (List.lookup name readings).getD (.numeric 0.0), ?_⟩
  intro noise
  rw [readings_of_steady steady noise fun _ => 0.0]
  unfold readings Device.readings DeviceKind.readingNames
  cases d.kind <;> rfl

/-- All that a device announces is read, but for the switch. -/
theorem firsts_registers (d : Device) :
    firsts d.kind.readingNames d.registers = d.registers.filter (·.name ≠ switchName) := by
  rw [registers]
  cases d.kind <;> decide

/-- A poll of a device that does not fluctuate has one payload for each of its readings, whatever
registers it is given. It hands each reading out once, to the first register of its name, in the
order of the registers; and if these are its own, to all but the switch. -/
theorem sample_once (steady : d.variance ≤ 0.0) (on : Bool) :
    ∃ payload : String → Payload, ∀ (noise : String → Float) (stamp : Timestamp),
      d.readings noise on = d.kind.readingNames.map (fun name => (name, payload name)) ∧
      (∀ registers : List Register,
        d.sample noise stamp registers on =
          (firsts d.kind.readingNames registers).map
            (fun r => ⟨d.name, r, payload r.name, stamp⟩) ∧
        (d.sample noise stamp registers on).map Value.register <+ registers ∧
        ((d.sample noise stamp registers on).map (·.register.name)).Nodup ∧
        (d.sample noise stamp registers on).length ≤ d.kind.readingNames.length) ∧
      (d.sample noise stamp d.registers on).map Value.register =
        d.registers.filter (·.name ≠ switchName) := by
  obtain ⟨payload, readings⟩ := exists_payload steady on
  refine ⟨payload, ?_⟩
  intro noise stamp
  have sampled (registers : List Register) : d.sample noise stamp registers on =
      (firsts d.kind.readingNames registers).map fun r => ⟨d.name, r, payload r.name, stamp⟩ := by
    rw [sample, readings, assign_eq]
  refine ⟨readings noise, ?_, ?_⟩
  · intro registers
    refine ⟨sampled registers, ?_, ?_, ?_⟩
    · simpa [sampled, Function.comp_def] using firsts_sublist d.kind.readingNames registers
    · simpa [sampled, Function.comp_def] using nodup_firsts d.kind.readingNames registers
    · simpa [sampled] using length_firsts_le d.kind.readingNames registers
  · simpa [sampled, Function.comp_def] using firsts_registers d

/-- A battery that does not fluctuate, asked for a register that it does not know and twice for its
voltage. -/
theorem sample_once_battery :
    ((ofKind "b" .battery).withVariance 0.0).variance ≤ 0.0 ∧
    (((ofKind "b" .battery).withVariance 0.0).sample (fun _ => 0.0) ⟨0, 0⟩
      [.text "" "serial", .number "" "voltage", .text "" "state", .number "x" "voltage"] true).map
        Value.register = [.number "" "voltage", .text "" "state"] := by
  have steady : ((ofKind "b" .battery).withVariance 0.0).variance ≤ 0.0 := by decide +kernel
  refine ⟨steady, ?_⟩
  obtain ⟨payload, polled⟩ := sample_once steady true
  obtain ⟨-, sampled, -⟩ := polled (fun _ => 0.0) ⟨0, 0⟩
  rw [(sampled _).1, List.map_map]
  rfl

end Polls

end Device

end Telemetry
