import Mathlib.Algebra.Group.Nat.Defs

/-!
# The order of texts

Texts are compared character by character, by the numbers of their characters. Their bytes, in
UTF-8, come in the same order: of two characters the one with the larger number has the larger first
byte, or as many bytes and a larger one later on, so it does not matter what follows.

## Main definitions

* `bytes`: the bytes of a text.

## Main results

* `bytes_lt_bytes`: texts are in the order of their bytes.
-/

namespace Telemetry.Text

/-- The bytes of a text, in UTF-8. -/
def bytes (s : String) : List UInt8 :=
  s.toUTF8.data.toList

/-- The last `k` bytes of a character with number `n`, six bits in each. -/
def trailing : Nat → Nat → List UInt8
  | 0, _ => []
  | k + 1, n => .ofNat (n / 64 ^ k % 64 + 0x80) :: trailing k n

/-- How many bytes follow the first byte of a character with number `n`, and the first byte. -/
inductive Leads (n : Nat) : Nat → Nat → Prop
  | one (last : n ≤ 0x7f) : Leads n 0 n
  | two (first : 0x7f < n) (last : n ≤ 0x7ff) : Leads n 1 (n / 64 + 0xc0)
  | three (first : 0x7ff < n) (last : n ≤ 0xffff) : Leads n 2 (n / 4096 + 0xe0)
  | four (first : 0xffff < n) (last : n ≤ 0x10ffff) : Leads n 3 (n / 262144 + 0xf0)

/-- Whatever follows, the bytes of `l` come before those of `l'`. -/
def Below (l l' : List UInt8) : Prop :=
  ∀ more more', l ++ more < l' ++ more'

theorem bytes_eq (s : String) : bytes s = s.toList.flatMap String.utf8EncodeChar := by
  rw [bytes, String.toUTF8_eq_toByteArray, ← String.utf8Encode_toList, List.utf8Encode,
    List.toList_data_toByteArray]

section Characters

variable {m n k k' lead lead' : Nat} {c d : Char} {l l' : List UInt8}

theorem below_of_lt (less : m < n) (small : n < 256) :
    Below (.ofNat m :: l) (.ofNat n :: l') := by
  intro more more'
  apply List.cons_lt_cons_iff.2
  left
  rw [UInt8.lt_iff_toNat_lt, UInt8.toNat_ofNat', UInt8.toNat_ofNat']
  omega

theorem Below.cons (below : Below l l') (b : UInt8) : Below (b :: l) (b :: l') := by
  intro more more'
  exact List.cons_lt_cons_iff.2 (.inr ⟨rfl, below more more'⟩)

theorem below_trailing (less : m % 64 ^ k < n % 64 ^ k) : Below (trailing k m) (trailing k n) := by
  induction k with
  | zero => simp [Nat.mod_one] at less
  | succ k ih =>
    have digits (x : Nat) : x % 64 ^ (k + 1) = x % 64 ^ k + 64 ^ k * (x / 64 ^ k % 64) := by
      rw [Nat.pow_succ, Nat.mod_mul]
    rw [digits, digits] at less
    have positive : 0 < 64 ^ k := Nat.pow_pos (by omega)
    have rest := Nat.mod_lt n positive
    rcases Nat.lt_trichotomy (m / 64 ^ k % 64) (n / 64 ^ k % 64) with first | same | last
    · exact below_of_lt (by omega) (by omega)
    · rw [trailing, trailing, same]
      apply Below.cons
      apply ih
      rw [same] at less
      omega
    · have more := Nat.mul_le_mul_left (64 ^ k) last
      rw [Nat.mul_succ] at more
      omega

theorem exists_leads (c : Char) : ∃ k lead, Leads c.val.toNat k lead ∧
    String.utf8EncodeChar c = .ofNat lead :: trailing k c.val.toNat := by
  have limit : c.val.toNat ≤ 0x10ffff := by
    have valid := c.valid
    simp only [UInt32.isValidChar, Nat.isValidChar] at valid
    omega
  unfold String.utf8EncodeChar
  dsimp only
  generalize c.val.toNat = n at *
  split
  · exact ⟨0, n, .one (by omega), rfl⟩
  split
  · have whole : n / 64 % 32 = n / 64 := Nat.mod_eq_of_lt (by omega)
    exact ⟨1, _, .two (by omega) (by omega), by simp [trailing, whole]⟩
  split
  · have whole : n / 4096 % 16 = n / 4096 := Nat.mod_eq_of_lt (by omega)
    exact ⟨2, _, .three (by omega) (by omega), by simp [trailing, whole]⟩
  · have whole : n / 262144 % 8 = n / 262144 := Nat.mod_eq_of_lt (by omega)
    exact ⟨3, _, .four (by omega) (by omega), by simp [trailing, whole]⟩

/-- Of two characters the one with the larger number has the larger first byte, unless both bytes
are equal; then as many bytes follow, and they tell the two apart. -/
theorem Leads.differ (leads : Leads m k lead) (leads' : Leads n k' lead') (less : m < n) :
    lead < lead' ∧ lead' < 256 ∨ k = k' ∧ lead = lead' ∧ m % 64 ^ k < n % 64 ^ k := by
  cases leads <;> cases leads' <;> omega

theorem below_utf8EncodeChar (less : c < d) :
    Below (String.utf8EncodeChar c) (String.utf8EncodeChar d) := by
  obtain ⟨k, lead, leads, encoded⟩ := exists_leads c
  obtain ⟨k', lead', leads', encoded'⟩ := exists_leads d
  rw [encoded, encoded']
  rcases leads.differ leads' less with ⟨first, small⟩ | ⟨rfl, rfl, rest⟩
  · exact below_of_lt first small
  · exact (below_trailing rest).cons _

end Characters

theorem flatMap_utf8EncodeChar_lt {cs ds : List Char} (less : cs < ds) :
    cs.flatMap String.utf8EncodeChar < ds.flatMap String.utf8EncodeChar := by
  induction less with
  | @nil d ds =>
    rw [List.flatMap_nil, List.flatMap_cons]
    cases encoded : String.utf8EncodeChar d with
    | nil => exact absurd encoded String.utf8EncodeChar_ne_nil
    | cons b rest => exact .nil
  | rel first =>
    rw [List.flatMap_cons, List.flatMap_cons]
    exact below_utf8EncodeChar first _ _
  | cons _ ih =>
    rw [List.flatMap_cons, List.flatMap_cons]
    exact List.append_left_lt ih

/-- Texts are in the order of their bytes. -/
theorem bytes_lt_bytes {s t : String} : bytes s < bytes t ↔ s < t := by
  have keeps {s t : String} (less : s < t) : bytes s < bytes t := by
    rw [bytes_eq, bytes_eq]
    exact flatMap_utf8EncodeChar_lt less
  constructor
  · intro less
    rcases Std.lt_trichotomy s t with before | rfl | after
    · exact before
    · exact absurd less (List.lt_irrefl _)
    · exact absurd less (List.lt_asymm (keeps after))
  · exact keeps

end Telemetry.Text
