import Mathlib.Tactic.ByContra

set_option autoImplicit false

namespace SprAccelProfiling.Descent

section Falling

variable (value : Nat → Nat) (falling : ∀ k, value (k + 1) ≤ value k)

include falling

theorem falls_bounded (count : Nat) :
    (List.range count).countP (fun k => decide (value (k + 1) < value k)) + value count ≤ value 0 := by
  induction count with
  | zero => simp
  | succ count ih =>
      rw [List.range_succ, List.countP_append, List.countP_singleton]
      by_cases falls : value (count + 1) < value count
      · simp only [falls, decide_true, if_true]
        omega
      · have level := falling count
        simp only [falls, decide_false, Bool.false_eq_true, if_false]
        omega

theorem level_within : ∃ k, k ≤ value 0 ∧ value (k + 1) = value k := by
  by_contra never
  have lost : ∀ k, k ≤ value 0 + 1 → value k + k ≤ value 0 := by
    intro k within
    induction k with
    | zero => exact Nat.le_refl _
    | succ k ih =>
        have below := ih (by omega)
        have step := falling k
        have falls : value (k + 1) ≠ value k := fun level => never ⟨k, by omega, level⟩
        omega
  have gone := lost (value 0 + 1) (Nat.le_refl _)
  omega

variable (next : Nat → Nat) (iterates : ∀ k, value (k + 1) = next (value k))

include iterates

theorem settles (later : Nat) (late : value 0 ≤ later) : value later = value (value 0) := by
  obtain ⟨k, within, level⟩ := level_within value falling
  have stays : ∀ j, value (k + j) = value k := by
    intro j
    induction j with
    | zero => rfl
    | succ j ih => rw [← Nat.add_assoc, iterates, ih, ← iterates, level]
  obtain ⟨first, reached⟩ := Nat.exists_eq_add_of_le within
  obtain ⟨rest, passed⟩ := Nat.exists_eq_add_of_le (Nat.le_trans within late)
  calc value later = value k := by rw [passed, stays]
    _ = value (k + first) := (stays first).symm
    _ = value (value 0) := by rw [← reached]

end Falling

end SprAccelProfiling.Descent
