import Telemetry.Config

/-!
# Settings that pass

Settings pass if every queue has room for one item at least. Nothing is asked of them beyond that.
-/

namespace Telemetry

theorem toNat_pos_iff {n : UInt64} : 0 < n.toNat ↔ n ≠ 0 := by
  rw [Nat.pos_iff_ne_zero, ne_eq, ne_eq, ← UInt64.toNat_inj]
  rfl

theorem StoreConfig.validate_eq_ok {c : StoreConfig} :
    c.validate = .ok () ↔ 0 < c.inputCapacity.toNat ∧ 0 < c.subscriberCapacity.toNat := by
  simp only [toNat_pos_iff]
  unfold validate
  grind

theorem CatalogConfig.validate_eq_ok {c : CatalogConfig} :
    c.validate = .ok () ↔ 0 < c.subscriberCapacity.toNat := by
  rw [toNat_pos_iff]
  unfold validate
  grind

end Telemetry
