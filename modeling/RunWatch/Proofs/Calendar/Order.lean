import Mathlib.Order.Defs.LinearOrder
import Mathlib.Order.Lattice
import RunWatch.Calendar.Instant

/-!
# The order of instants

Instants are ordered by the numbers of their `orderKey`, and two instants with the same numbers are the same.
So the order is a linear one, and `Instant.earlier` is its minimum.
-/

namespace RunWatch.Instant

theorem orderKey_injective {a b : Instant} (h : a.orderKey = b.orderKey) : a = b := by
  obtain ⟨⟨year, month, day, _⟩, second, nanosecond, _⟩ := a
  obtain ⟨⟨year', month', day', _⟩, second', nanosecond', _⟩ := b
  simp only [orderKey, List.cons.injEq, Int.natCast_inj] at h
  obtain ⟨rfl, rfl, rfl, rfl, rfl, -⟩ := h
  rfl

theorem le_iff_orderKey_le {a b : Instant} :
    a ≤ b ↔ @LE.le (List Int) List.instLE a.orderKey b.orderKey := Iff.rfl

theorem lt_iff_not_le {a b : Instant} : a < b ↔ ¬b ≤ a := not_not.symm

instance : LinearOrder Instant where
  le_refl a := List.le_refl a.orderKey
  le_trans a b c hab hbc := by
    rw [le_iff_orderKey_le] at *
    exact List.le_trans hab hbc
  le_antisymm a b hab hba := by
    rw [le_iff_orderKey_le] at *
    exact orderKey_injective (List.le_antisymm hab hba)
  le_total a b := List.le_total a.orderKey b.orderKey
  lt_iff_le_not_ge a b := by
    rw [lt_iff_not_le, iff_and_self]
    intro h
    exact (List.le_total a.orderKey b.orderKey).resolve_right h
  toDecidableLE := inferInstance
  toDecidableLT := inferInstance
  toDecidableEq := inferInstance

theorem earlier_eq_min (a b : Instant) : a.earlier b = min a b := by
  rw [earlier, min_def]
  by_cases h : b < a
  · rw [if_pos h, if_neg (not_le.mpr h)]
  · rw [if_neg h, if_pos (not_lt.mp h)]

end RunWatch.Instant
