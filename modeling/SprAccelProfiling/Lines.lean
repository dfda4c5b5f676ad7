import Mathlib.Algebra.Order.Ring.Nat

set_option autoImplicit false

namespace SprAccelProfiling.Lines

variable (width start size : Nat)

-- Memory in lines of one width: the line an address lies in is its quotient.
def Meets (line : Nat) : Prop := ∃ address, start ≤ address ∧ address < start + size ∧ address / width = line

theorem meets_iff (positive : 0 < width) (line : Nat) :
    Meets width start size line ↔ 0 < size ∧ start / width ≤ line ∧ line ≤ (start + size - 1) / width := by
  constructor
  · intro meets
    obtain ⟨address, low, high, rfl⟩ := meets
    exact ⟨by omega, Nat.div_le_div_right low, Nat.div_le_div_right (by omega)⟩
  · intro between
    obtain ⟨nonempty, low, high⟩ := between
    refine ⟨max start (line * width), Nat.le_max_left _ _, ?_, ?_⟩
    · have last := (Nat.le_div_iff_mul_le positive).mp high
      exact Nat.max_lt.mpr ⟨by omega, by omega⟩
    · apply Nat.le_antisymm
      · have next := (Nat.div_lt_iff_lt_mul positive).mp (Nat.lt_succ_of_le low)
        apply Nat.le_of_lt_succ
        rw [Nat.div_lt_iff_lt_mul positive]
        exact Nat.max_lt.mpr ⟨next, Nat.mul_lt_mul_of_pos_right (Nat.lt_succ_self line) positive⟩
      · rw [Nat.le_div_iff_mul_le positive]
        exact Nat.le_max_right _ _

def steps : Nat := (size + width - 1) / width

theorem step_inside_iff (positive : 0 < width) (k : Nat) : k < steps width size ↔ width * k < size := by
  rw [steps, Nat.lt_iff_add_one_le, Nat.le_div_iff_mul_le positive, Nat.add_mul, Nat.one_mul, Nat.mul_comm]
  omega

theorem steps_first (positive : 0 < width) (count : Nat) (outside : size ≤ width * count)
    (before : ∀ m, m < count → width * m < size) : steps width size = count := by
  apply Nat.le_antisymm
  · exact Nat.le_of_not_lt (fun more => Nat.not_lt.mpr outside ((step_inside_iff width size positive count).mp more))
  · cases count with
    | zero => exact Nat.zero_le _
    | succ earlier => exact (step_inside_iff width size positive earlier).mpr (before earlier (Nat.lt_succ_self earlier))

theorem steps_pos (positive : 0 < width) (nonempty : 0 < size) : steps width size = (size - 1) / width + 1 := by
  rw [steps, show size + width - 1 = size - 1 + width by omega, Nat.add_div_right _ positive]

theorem step_line (positive : 0 < width) (k : Nat) : (start + width * k) / width = start / width + k :=
  Nat.add_mul_div_left start k positive

theorem last_line (positive : 0 < width) (nonempty : 0 < size) :
    start / width + (size - 1) / width = (start + size - 1) / width ↔
      start % width + (size - 1) % width < width := by
  have last : start + size - 1 = start + (size - 1) := by omega
  rw [last, Nat.add_div positive]
  by_cases carries : width ≤ start % width + (size - 1) % width
  · rw [if_pos carries]
    omega
  · rw [if_neg carries]
    omega

theorem steps_meet_iff (positive : 0 < width) :
    (∀ line, (∃ k, k < steps width size ∧ (start + width * k) / width = line) ↔ Meets width start size line) ↔
      size = 0 ∨ start % width + (size - 1) % width < width := by
  by_cases empty : size = 0
  · subst empty
    have none : steps width 0 = 0 := by
      rw [steps, Nat.zero_add]
      exact Nat.div_eq_of_lt (Nat.sub_lt positive Nat.zero_lt_one)
    simp [none, meets_iff width start 0 positive]
  · have nonempty := Nat.pos_of_ne_zero empty
    simp only [meets_iff width start size positive, steps_pos width size positive nonempty, step_line width start positive,
      empty, nonempty, true_and, false_or, ← last_line width start size positive nonempty]
    constructor
    · intro same
      obtain ⟨k, within, reached⟩ := (same ((start + size - 1) / width)).mpr
        ⟨Nat.div_le_div_right (by omega), Nat.le_refl _⟩
      have below := ((same (start / width + (size - 1) / width)).mp ⟨_, Nat.lt_succ_self _, rfl⟩).2
      omega
    · intro last line
      constructor
      · intro stepped
        obtain ⟨k, within, rfl⟩ := stepped
        omega
      · intro between
        exact ⟨line - start / width, by omega, by omega⟩

end SprAccelProfiling.Lines
