import Telemetry.Decimal.Dyadic

/-!
# Finite doubles

The doubles that stand for a dyadic number are the finite ones: in the others every bit of the
exponent is set.
-/

namespace Telemetry

open Float.Model

theorem unpackExponent_eq_ones (x : Float) :
    @UnpackedFloat.unpackExponent .binary64 x.toBits.toBitVec = -BitVec.ofNat _ 1 ↔
      x.toBits.toNat / Nat.pow 2 52 % Nat.pow 2 11 = 2047 := by
  have value : (@UnpackedFloat.unpackExponent .binary64 x.toBits.toBitVec).toNat =
      x.toBits.toNat / Nat.pow 2 52 % Nat.pow 2 11 := by
    simp [UnpackedFloat.unpackExponent, Format.binary64, Nat.shiftRight_eq_div_pow]
  rw [← value, BitVec.toNat_eq]
  rfl

theorem isFinite_iff (x : Float) :
    x.isFinite = true ↔ ¬x.toBits.toNat / Nat.pow 2 52 % Nat.pow 2 11 = 2047 := by
  rw [← unpackExponent_eq_ones]
  change (UnpackedFloat.unpack .binary64 x.toBits.toBitVec).isFinite = true ↔ _
  unfold UnpackedFloat.unpack
  dsimp only
  by_cases ones : @UnpackedFloat.unpackExponent .binary64 x.toBits.toBitVec = -BitVec.ofNat _ 1
  · rw [if_pos ones, iff_false_right (not_not_intro ones)]
    by_cases whole : @UnpackedFloat.unpackMantissa .binary64 x.toBits.toBitVec = BitVec.ofNat _ 0
    · rw [if_pos whole]
      exact Bool.false_ne_true
    · rw [if_neg whole]
      exact Bool.false_ne_true
  · rw [if_neg ones, iff_true_right ones]
    by_cases least : @UnpackedFloat.unpackExponent .binary64 x.toBits.toBitVec = BitVec.ofNat _ 0
    · rw [if_pos least]
      by_cases whole : @UnpackedFloat.unpackMantissa .binary64 x.toBits.toBitVec = BitVec.ofNat _ 0
      · rw [dif_pos whole]
        rfl
      · rw [dif_neg whole]
        rfl
    · rw [if_neg least]
      rfl

theorem Dyadic.isSome_ofFloat? (x : Float) : (Dyadic.ofFloat? x).isSome = x.isFinite := by
  rw [Bool.eq_iff_iff, isFinite_iff]
  simp only [Dyadic.ofFloat?, Dyadic.ofBits?]
  grind

end Telemetry
