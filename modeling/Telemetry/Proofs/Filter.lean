import Mathlib
import Telemetry.Error
import Telemetry.Filter
import Telemetry.Proofs.Value

/-!
# Readings that are the same pass the same filters

A store keeps one value for a run of values that are the same reading, whichever of them came
first. Nobody who asks by key, by fault or by filter can tell which one it was: sameness is an
equivalence, although the equality of floating-point numbers that it starts from is none, and it is
respected by every filter that brings no predicate of its own.

## Main definitions

* `ValueFilter.Built`: the filters without a predicate of their own on values.

## Main results

* `sameNumber_eq`: sameness of numbers by the equality of numbers.
* `ValueFilter.Built.accepts_eq`: filters do not tell values apart that are the same reading.
* `sameness_respected`: sameness is an equivalence that keys, faults and filters respect.
-/

namespace Telemetry

section Numbers

variable {x y : Float}

theorem isZero_iff : sameNumber.isZero x = true ↔ x = 0 ∨ x = -0 := by
  have plus : (0 : Float).toBits = 0 := by decide
  have minus : (-0 : Float).toBits = 0x8000000000000000 := by decide
  rw [sameNumber.isZero, Bool.or_eq_true, beq_iff_eq, beq_iff_eq, ← plus, ← minus,
    Float.toBits_inj, Float.toBits_inj]

/-- Numbers are the same when they are equal or both undefined. -/
theorem sameNumber_eq (x y : Float) : sameNumber x y = (x == y || (x.isNaN && y.isNaN)) := by
  have plus : (0 : Float) ≠ .nan := by decide
  have minus : (-0 : Float) ≠ .nan := by decide
  have equal := @Float.beq_iff_ne_nan_and_eq x y
  rw [Bool.eq_iff_iff, sameNumber_iff, isZero_iff, isZero_iff]
  simp only [Bool.or_eq_true, Bool.and_eq_true, Float.isNaN_eq_decide_eq_nan, decide_eq_true_eq]
  grind

end Numbers

/-- Payloads that are the same are equal, or both are numbers. -/
theorem Payload.eq_or_numeric_of_same {p q : Payload} (same : p.same q = true) :
    p = q ∨ ∃ x y, p = .numeric x ∧ q = .numeric y ∧ sameNumber x y = true := by
  cases p <;> cases q <;> simp_all [Payload.same]

namespace Value

variable {v w : Value}

theorem equivalence_same : Equivalence fun v w : Value => v.same w = true where
  refl := same_refl
  symm := same_symm
  trans := same_trans

theorem toNull_of_same (same : v.same w = true) (now now' : Timestamp) :
    (v.toNull now).same (w.toNull now') = true := by
  obtain ⟨-, device, register⟩ := same_iff.1 same
  exact same_iff.2 ⟨rfl, device, register⟩

/-- Whether a payload suits its register does not depend on the number in it. -/
theorem fault?_of_same (same : v.same w = true) : v.fault? = w.fault? := by
  obtain ⟨payload, device, register⟩ := same_iff.1 same
  obtain ⟨name, r, p, time⟩ := v
  obtain ⟨name', r', q, time'⟩ := w
  obtain rfl : name = name' := device
  obtain rfl : r = r' := register
  rcases Payload.eq_or_numeric_of_same payload with rfl | ⟨x, y, rfl, rfl, -⟩
  · rfl
  · cases kind : r.kind <;> simp only [fault?, kind] <;> rfl

end Value

namespace ValueFilter

/-- A filter that brings no predicate of its own on values. Its filters of registers may bring one
on registers. -/
inductive Built : ValueFilter → Prop
  | all : Built .all
  | nonNull : Built .nonNull
  | writable : Built .writable
  | device (name : String) : Built (.device name)
  | register (f : RegisterFilter) : Built (.register f)
  | selection (s : Selection) : Built (selection s)
  | deviceSelection (name : String) (s : Selection) : Built (deviceSelection name s)
  | commandsFor (name : String) : Built (commandsFor name)
  | and {a b : ValueFilter} (first : Built a) (second : Built b) : Built (.and a b)

variable {filter : ValueFilter} {v w : Value}

/-- Values that are the same reading pass the same filters. -/
theorem Built.accepts_eq (built : filter.Built) (same : v.same w = true) :
    filter.accepts v = filter.accepts w := by
  obtain ⟨-, device, register⟩ := Value.same_iff.1 same
  have null := Value.isNull_of_same same
  induction built with
  | all => rfl
  | nonNull => rw [accepts, accepts, null]
  | writable => rw [accepts, accepts, register]
  | device name => rw [accepts, accepts, device]
  | register f => rw [accepts, accepts, register]
  | selection s => rw [ValueFilter.selection, accepts, accepts, register]
  | deviceSelection name s =>
    simp only [ValueFilter.deviceSelection, ValueFilter.selection, accepts, device, register]
  | commandsFor name => simp only [ValueFilter.commandsFor, accepts, device, register, null]
  | and _ _ first second => rw [accepts, accepts, first, second]

end ValueFilter

/-- Numbers are the same when they are equal or both undefined, and sameness of values is an
equivalence. Values that are the same reading have one key, and the same reading is left when they
are cleared. They have the same fault, in the same words, if any, and pass the same filters. -/
theorem sameness_respected :
    (∀ x y : Float, sameNumber x y = (x == y || (x.isNaN && y.isNaN))) ∧
    (Equivalence fun a b : Value => a.same b = true) ∧
    ∀ a b : Value, a.same b = true →
      a.key = b.key ∧
      (∀ now now', (a.toNull now).same (b.toNull now') = true) ∧
      a.fault? = b.fault? ∧
      (a.fault?.map fun f => (Error.kind f).message) =
        (b.fault?.map fun f => (Error.kind f).message) ∧
      ∀ filter : ValueFilter, filter.Built → filter.accepts a = filter.accepts b := by
  refine ⟨sameNumber_eq, Value.equivalence_same, fun a b same => ?_⟩
  have fault := Value.fault?_of_same same
  refine ⟨Value.key_of_same same, Value.toNull_of_same same, fault, by rw [fault], ?_⟩
  intro filter built
  exact built.accepts_eq same

/-- The two zeros, read as a level that can be set, wait as the same command. -/
theorem zeros_pass_alike :
    let level := (Register.number "Control" "level").asWritable
    let reading (x : Float) (second : Int) : Value :=
      { device := "pump", register := level, payload := .numeric x, time := ⟨second, 0⟩ }
    let a := reading 0 1
    let b := reading (-0) 2
    let filter : ValueFilter :=
      .and (.commandsFor "pump") (.register (.and .writable (.names ["level"])))
    a.same b = true ∧ (a.toNull ⟨3, 0⟩).same (b.toNull ⟨4, 0⟩) = true ∧
      filter.accepts b = true := by
  intro level reading a b filter
  have same : a.same b = true := by decide
  obtain ⟨-, toNull, -, -, alike⟩ := sameness_respected.2.2 a b same
  refine ⟨same, toNull ⟨3, 0⟩ ⟨4, 0⟩, ?_⟩
  rw [← alike filter (.and (.commandsFor "pump") (.register _))]
  decide

end Telemetry
