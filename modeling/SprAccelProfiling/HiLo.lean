import SprAccelProfiling.Buffer
import SprAccelProfiling.Extremes

set_option autoImplicit false

namespace SprAccelProfiling.HiLo

open SprAccelProfiling.Buffer SprAccelProfiling.Extremes

-- std::copy of the range from &source[first] up to &source[last].
def copy (source : List UInt64) (first last : Nat) (dest : List UInt64) : Option (List UInt64) :=
  if first ≤ last ∧ last ≤ source.length then writeAt dest 0 ((source.take last).drop first) else none

-- Below two values the range has no meaning: for an empty orig its end wraps around.
def withoutHiLo (orig : List UInt64) : Option (List UInt64) :=
  let orig := sort orig
  let newVec := List.replicate orig.length 0
  copy orig 1 (orig.length - 1) newVec

theorem copy_middle (first last : UInt64) (middle : List UInt64) :
    copy (first :: (middle ++ [last])) 1 ((first :: (middle ++ [last])).length - 1)
      (List.replicate (first :: (middle ++ [last])).length 0) = some (middle ++ [0, 0]) := by
  have length : (first :: (middle ++ [last])).length = middle.length + 2 := by simp
  have range : ((first :: (middle ++ [last])).take (middle.length + 1)).drop 1 = middle := by simp
  have room : 1 ≤ middle.length + 1 ∧ middle.length + 1 ≤ (first :: (middle ++ [last])).length := by
    rw [length]
    omega
  have rest : (List.replicate (middle.length + 2) (0 : UInt64)).drop middle.length = [0, 0] := by
    rw [List.drop_replicate, Nat.add_sub_cancel_left]
    rfl
  rw [length, copy, Nat.add_succ_sub_one, if_pos room, range, write_start_iff, List.length_replicate, rest]
  exact ⟨Nat.le_add_right _ _, rfl⟩

-- newVec is sized by orig, so two of its zeros are left behind the range.
theorem without_hi_lo_padded (orig : List UInt64) (two : 2 ≤ orig.length) :
    ∃ middle, WithoutExtremes orig middle ∧ withoutHiLo orig = some (middle ++ [0, 0]) := by
  obtain ⟨first, middle, last, split, without⟩ := sort_ends orig two
  refine ⟨middle, without, ?_⟩
  rw [withoutHiLo, split]
  exact copy_middle first last middle

def BetweenEnds (orig result : List UInt64) : Prop :=
  ∃ least greatest, Least orig least ∧ Greatest orig greatest ∧ ∀ v ∈ result, least ≤ v ∧ v ≤ greatest

theorem padded_between_iff (orig middle : List UInt64) (without : WithoutExtremes orig middle) :
    BetweenEnds orig (middle ++ [0, 0]) ↔ 0 ∈ orig := by
  obtain ⟨least, greatest, below, above, between⟩ := without_extremes_between orig middle without
  constructor
  · intro inside
    obtain ⟨lowest, highest, lowestBelow, _, range⟩ := inside
    have zero : lowest = 0 := UInt64.le_antisymm (range 0 (by simp)).1 (UInt64.zero_le)
    rw [← zero]
    exact lowestBelow.1
  · intro zero
    refine ⟨least, greatest, below, above, fun v member => ?_⟩
    rcases List.mem_append.mp member with kept | added
    · exact between v kept
    · have same : v = 0 := by simpa using added
      rw [same]
      exact ⟨below.2 0 zero, above.2 0 zero⟩

theorem without_hi_lo_never (orig : List UInt64) (two : 2 ≤ orig.length) :
    (¬ ∃ result, withoutHiLo orig = some result ∧ WithoutExtremes orig result) ∧
      ((∃ result, withoutHiLo orig = some result ∧ BetweenEnds orig result) ↔ 0 ∈ orig) := by
  obtain ⟨middle, without, padded⟩ := without_hi_lo_padded orig two
  refine ⟨fun exact => ?_, ?_⟩
  · obtain ⟨result, returned, removed⟩ := exact
    have same := Option.some.inj (padded.symm.trans returned)
    have length := without_extremes_length orig middle without
    rw [without_extremes_length orig result removed, ← same, List.length_append] at length
    simp at length
  · rw [← padded_between_iff orig middle without, padded]
    refine ⟨fun ⟨result, returned, between⟩ => ?_, fun between => ⟨_, rfl, between⟩⟩
    rw [Option.some.inj returned]
    exact between

theorem equal_values_never :
    (¬ ∃ result, withoutHiLo [5, 5] = some result ∧ WithoutExtremes [5, 5] result) ∧
      ((∃ result, withoutHiLo [5, 5] = some result ∧ BetweenEnds [5, 5] result) ↔ 0 ∈ [(5 : UInt64), 5]) :=
  without_hi_lo_never [5, 5] (Nat.le_refl 2)

theorem three_values_padded :
    withoutHiLo [30, 10, 20] = some [20, 0, 0] ∧
      ¬ ∃ result, withoutHiLo [30, 10, 20] = some result ∧ WithoutExtremes [30, 10, 20] result := by
  have padded : withoutHiLo [30, 10, 20] = some [20, 0, 0] := by
    simp [withoutHiLo, sort, List.mergeSort, List.MergeSort.Internal.splitInTwo, copy, writeAt]
  refine ⟨padded, fun exact => ?_⟩
  obtain ⟨result, returned, removed⟩ := exact
  obtain rfl := Option.some.inj (padded.symm.trans returned)
  exact absurd removed.sorted (by decide)

end SprAccelProfiling.HiLo
