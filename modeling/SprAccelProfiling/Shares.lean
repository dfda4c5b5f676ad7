import Mathlib.Data.Nat.Find
import Mathlib.Logic.Function.Iterate
import Mathlib.Order.Monotone.Basic

set_option autoImplicit false

namespace SprAccelProfiling.Shares

variable (share : Nat → Nat) (whole : Nat)

def left (count : Nat) : Nat := (fun rest => rest - share rest)^[count] whole

theorem left_succ (count : Nat) : left share whole (count + 1) = left share whole count - share (left share whole count) :=
  Function.iterate_succ_apply' _ count whole

theorem left_decreases (count : Nat) : left share whole (count + 1) ≤ left share whole count := by
  rw [left_succ]
  exact Nat.sub_le _ _

theorem share_decreases (mono : Monotone share) (count : Nat) :
    share (left share whole (count + 1)) ≤ share (left share whole count) :=
  mono (left_decreases share whole count)

section Positive

variable (positive : ∀ rest, 0 < share rest)

include positive

theorem left_le (count : Nat) : left share whole count ≤ whole - count := by
  induction count with
  | zero => exact Nat.le_refl whole
  | succ count ih =>
      have taken := positive (left share whole count)
      rw [left_succ]
      omega

theorem exhausted : ∃ count, count ≤ whole ∧ left share whole count = 0 ∧
    ∀ m, m < count → left share whole m ≠ 0 := by
  have whole_taken : left share whole whole = 0 := by
    have bound := left_le share whole positive whole
    omega
  have some : ∃ count, left share whole count = 0 := ⟨whole, whole_taken⟩
  exact ⟨Nat.find some, Nat.find_min' some whole_taken, Nat.find_spec some, fun m below => Nat.find_min some below⟩

end Positive

end SprAccelProfiling.Shares
