import Mathlib.Algebra.Order.Floor.Div
import PartitionBoot.Page

/-!
Bounds of the number of pages that a number of bytes spans.
-/

namespace PartitionBoot

theorem Page.le_spanning (count : Nat) : count ≤ Page.bytes (Page.spanning count) := by
  have size : Page.size = 4096 := rfl
  by_cases whole : count % Page.size = 0
  · simp only [Page.bytes, Page.spanning, whole, if_true]
    simp only [size] at whole ⊢
    omega
  · simp only [Page.bytes, Page.spanning, whole, if_false]
    simp only [size] at whole ⊢
    omega

theorem Page.spanning_le (count : Nat) : Page.spanning count ≤ count := by
  have size : Page.size = 4096 := rfl
  simp only [Page.spanning, size]
  split <;> omega

theorem Page.spanning_eq_ceilDiv (count : Nat) : Page.spanning count = count ⌈/⌉ Page.size := by
  have size : Page.size = 4096 := rfl
  rw [Nat.ceilDiv_eq_add_pred_div, spanning]
  split <;> simp only [size] at * <;> omega

end PartitionBoot
