import Mathlib.Logic.Basic
import Telemetry.Document

/-!
# The decimal form of integers

Every integer has one decimal form, from which it reads back.
-/

namespace Telemetry

theorem digitsValue_toDigits (n : Nat) : digitsValue (Nat.toDigits 10 n) = n :=
  Nat.ofDigitChars_toDigits (by decide) (by decide)

theorem all_isDigit_toDigits (n : Nat) : (Nat.toDigits 10 n).all Char.isDigit = true :=
  List.all_eq_true.2 fun _ hc => Nat.isDigit_of_mem_toDigits (by decide) (by decide) hc

/-- The first digit of a positive number is not zero. -/
theorem head?_toDigits {n : Nat} (pos : 0 < n) : (Nat.toDigits 10 n).head? ≠ some '0' := by
  induction n using Nat.strongRecOn with
  | ind n ih =>
    rw [Nat.toDigits_eq_if (by decide)]
    split
    · next small =>
      have digit : ∀ k < 10, 0 < k → k.digitChar ≠ '0' := by decide
      simpa using digit n small pos
    · rw [List.head?_append, Option.or_of_isSome (by simp)]
      exact ih (n / 10) (by omega) (by omega)

theorem integerText_of_nonneg {n : Int} (h : 0 ≤ n) : integerText n = Nat.toDigits 10 n.natAbs :=
  if_neg (by omega)

theorem integerText_of_neg {n : Int} (h : n < 0) :
    integerText n = '-' :: Nat.toDigits 10 n.natAbs :=
  if_pos h

theorem readInteger?_integerText (n : Int) : readInteger? (integerText n) = some n := by
  by_cases neg : n < 0
  · have value : -(digitsValue (Nat.toDigits 10 n.natAbs) : Int) = n := by
      rw [digitsValue_toDigits]
      omega
    simp [readInteger?, integerText_of_neg neg, value]
  · have value : (digitsValue (Nat.toDigits 10 n.natAbs) : Int) = n := by
      rw [digitsValue_toDigits]
      omega
    have unsigned : ∀ digits, integerText n ≠ '-' :: digits := by
      intro digits same
      have first : '-' ∈ Nat.toDigits 10 n.natAbs := by
        rw [← integerText_of_nonneg (by omega), same]
        exact List.mem_cons_self
      exact absurd (List.all_eq_true.1 (all_isDigit_toDigits _) _ first) (by decide)
    have text := integerText_of_nonneg (n := n) (by omega)
    unfold readInteger?
    split
    · next same => exact absurd same (unsigned _)
    · rw [text, value, if_pos text]

theorem isPlain_of_isDigit {c : Char} (digit : c.isDigit = true) :
    Quotation.isPlain c = true := by
  rw [Char.isDigit_iff_toNat] at digit
  have bounds : 48 ≤ c.toNat ∧ c.toNat ≤ 57 := digit
  simp only [Quotation.isPlain, Bool.and_eq_true, decide_eq_true_eq]
  omega

theorem all_isPlain_integerText (n : Int) : (integerText n).all Quotation.isPlain = true := by
  have digits : (Nat.toDigits 10 n.natAbs).all Quotation.isPlain = true :=
    List.all_eq_true.2 fun c hc =>
      isPlain_of_isDigit (List.all_eq_true.1 (all_isDigit_toDigits _) c hc)
  unfold integerText
  split
  · rw [List.all_cons, digits]
    rfl
  · exact digits

end Telemetry
