import Telemetry.Value

/-!
# Readings that are the same

Sameness of readings is an equivalence, although it is not equality of numbers: an undefined number
is the same as any other, and the two zeros are the same. Values that are the same reading have one
key, and neither is nothing unless the other is.
-/

namespace Telemetry

instance : Std.LawfulEqOrd Key where
  compare_self := Std.ReflOrd.compare_self
  eq_of_compare {k k'} same := by
    have both : compare k.device k'.device = .eq ∧ compare k.register k'.register = .eq :=
      compareLex_eq_eq.1 same
    have device := Std.LawfulEqCmp.compare_eq_iff_eq.1 both.1
    have register := Std.LawfulEqCmp.compare_eq_iff_eq.1 both.2
    cases k
    cases k'
    simp_all

section Numbers

variable {x y z : Float}

theorem eq_of_toBits (same : x.toBits = y.toBits) : x = y := by
  obtain ⟨⟨bits, _⟩⟩ := x
  obtain ⟨⟨bits', _⟩⟩ := y
  obtain rfl : bits = bits' := same
  rfl

theorem isNaN_of_isZero (zero : sameNumber.isZero x = true) : x.isNaN = false := by
  rw [sameNumber.isZero, Bool.or_eq_true, beq_iff_eq, beq_iff_eq] at zero
  rcases zero with plus | minus
  · rw [eq_of_toBits (y := Float.ofBits 0) (plus.trans (by decide))]
    decide
  · rw [eq_of_toBits (y := Float.ofBits 0x8000000000000000) (minus.trans (by decide))]
    decide

theorem sameNumber_iff : sameNumber x y = true ↔
    x = y ∨ (x.isNaN = true ∧ y.isNaN = true) ∨
      (sameNumber.isZero x = true ∧ sameNumber.isZero y = true) := by
  have bits : x.toBits = y.toBits ↔ x = y := ⟨eq_of_toBits, congrArg Float.toBits⟩
  simp [sameNumber, bits, or_assoc]

theorem sameNumber_refl (x : Float) : sameNumber x x = true := by
  simp [sameNumber]

theorem sameNumber_symm (same : sameNumber x y = true) : sameNumber y x = true := by
  rw [sameNumber_iff] at same ⊢
  grind

/-- No number in the middle is both undefined and zero. -/
theorem sameNumber_trans (first : sameNumber x y = true) (second : sameNumber y z = true) :
    sameNumber x z = true := by
  have differ := isNaN_of_isZero (x := y)
  rw [sameNumber_iff] at first second ⊢
  grind

end Numbers

namespace Payload

variable {p q r : Payload}

theorem same_refl (p : Payload) : p.same p = true := by
  cases p <;> simp [same, sameNumber_refl]

theorem same_symm (h : p.same q = true) : q.same p = true := by
  cases p <;> cases q <;> simp_all [same, sameNumber_symm]

theorem same_trans (first : p.same q = true) (second : q.same r = true) : p.same r = true := by
  cases p <;> cases q <;> cases r <;> simp_all [same]
  exact sameNumber_trans first second

theorem isNull_of_same {p q : Payload} (h : p.same q = true) : p.isNull = q.isNull := by
  cases p <;> cases q <;> simp_all [same, isNull]

end Payload

namespace Value

variable {u v w : Value}

@[simp] theorem same_refl (v : Value) : v.same v = true := by
  simp [same, Payload.same_refl]

theorem same_iff : v.same w = true ↔
    v.payload.same w.payload = true ∧ v.device = w.device ∧ v.register = w.register := by
  simp [same, and_assoc]

theorem same_symm (h : v.same w = true) : w.same v = true := by
  obtain ⟨payload, device, register⟩ := same_iff.1 h
  exact same_iff.2 ⟨Payload.same_symm payload, device.symm, register.symm⟩

theorem same_trans (first : u.same v = true) (second : v.same w = true) : u.same w = true := by
  obtain ⟨payload, device, register⟩ := same_iff.1 first
  obtain ⟨payload', device', register'⟩ := same_iff.1 second
  exact same_iff.2 ⟨Payload.same_trans payload payload', device.trans device',
    register.trans register'⟩

theorem key_of_same (h : v.same w = true) : v.key = w.key := by
  obtain ⟨-, device, register⟩ := same_iff.1 h
  simp [key, device, register]

theorem isNull_of_same (h : v.same w = true) : v.isNull = w.isNull :=
  Payload.isNull_of_same (same_iff.1 h).1

@[simp] theorem key_toNull (v : Value) (now : Timestamp) : (v.toNull now).key = v.key :=
  rfl

@[simp] theorem isNull_toNull (v : Value) (now : Timestamp) : (v.toNull now).isNull = true :=
  rfl

end Value

end Telemetry
