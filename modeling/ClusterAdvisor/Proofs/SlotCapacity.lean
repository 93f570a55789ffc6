import ClusterAdvisor.Rules.Slots

/-!
The verdict on the slots of a cluster. A total that does not fit 64 bits is cut off at the greatest
number that does. No minimum is beyond that number, so that the verdict on the total is the one on
the exact product, and it stays as it is if the cluster grows or the minimum is lowered.
-/

namespace ClusterAdvisor.Rules

namespace SlotCapacity

/-- Saturation is the minimum of the exact product and the greatest count. -/
theorem total_toNat (c : SlotCapacity) :
    c.total.toNat = min (c.slotsPerSupervisor * c.supervisors) greatest := by
  have hfits : min (c.slotsPerSupervisor * c.supervisors) greatest < UInt64.size :=
    Nat.lt_of_le_of_lt (Nat.min_le_right _ _) (by decide)
  exact UInt64.toNat_ofNat_of_lt' hfits

/-- A total that is cut off is still no less than any minimum that can be asked for, so the verdict
is the one on the exact product. -/
theorem isSufficient_iff (c : SlotCapacity) (minimum : UInt64) :
    c.isSufficient minimum = true ↔
      minimum.toNat ≤ c.slotsPerSupervisor * c.supervisors := by
  have hgreatest : minimum.toNat ≤ greatest := Nat.le_pred_of_lt minimum.toNat_lt
  unfold isSufficient
  rw [decide_eq_true_iff, UInt64.le_iff_toNat_le, total_toNat, Nat.le_min]
  exact and_iff_left hgreatest

/-- At least as many slots on each of at least as many supervisors. -/
structure Covers (larger c : SlotCapacity) : Prop where
  slots : c.slotsPerSupervisor ≤ larger.slotsPerSupervisor
  supervisors : c.supervisors ≤ larger.supervisors

/-- The cut at the greatest count keeps the order of the products. -/
theorem Covers.isSufficient {larger c : SlotCapacity} (h : larger.Covers c)
    {lesser minimum : UInt64} (hlesser : lesser ≤ minimum) (hc : c.isSufficient minimum = true) :
    larger.isSufficient lesser = true := by
  rw [isSufficient_iff] at hc ⊢
  calc lesser.toNat
      ≤ minimum.toNat := UInt64.le_iff_toNat_le.mp hlesser
    _ ≤ c.slotsPerSupervisor * c.supervisors := hc
    _ ≤ larger.slotsPerSupervisor * larger.supervisors := Nat.mul_le_mul h.slots h.supervisors

end SlotCapacity

/-- Cutting off the total never changes the verdict, and neither more slots nor a lower minimum
turns a verdict of enough into one of too few. -/
theorem capacity_verdict (c : SlotCapacity) (minimum : UInt64) :
    c.total.toNat = min (c.slotsPerSupervisor * c.supervisors) (UInt64.size - 1) ∧
      (c.isSufficient minimum = true ↔
        minimum.toNat ≤ c.slotsPerSupervisor * c.supervisors) ∧
      ∀ (larger : SlotCapacity) (lesser : UInt64), larger.Covers c → lesser ≤ minimum →
        c.isSufficient minimum = true → larger.isSufficient lesser = true := by
  refine ⟨c.total_toNat, c.isSufficient_iff minimum, ?_⟩
  intro larger lesser hcovers hlesser henough
  exact hcovers.isSufficient hlesser henough

/-- The product is one more than fits 64 bits, and the minimum is the greatest one that does. -/
example : (⟨2 ^ 32, 2 ^ 32⟩ : SlotCapacity).isSufficient 18446744073709551615 = true := by decide

end ClusterAdvisor.Rules
