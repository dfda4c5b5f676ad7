import Mathlib.Data.List.Sort

set_option autoImplicit false

namespace SprAccelProfiling.Extremes

variable {α : Type} [LE α]

def Least (values : List α) (least : α) : Prop := least ∈ values ∧ ∀ v ∈ values, least ≤ v

def Greatest (values : List α) (greatest : α) : Prop := greatest ∈ values ∧ ∀ v ∈ values, v ≤ greatest

structure WithoutExtremes (values rest : List α) : Prop where
  sorted : rest.Pairwise (· ≤ ·)
  removed : ∃ least greatest, Least values least ∧ Greatest values greatest ∧
    values.Perm (least :: greatest :: rest)

theorem without_extremes_length (values rest : List α) (without : WithoutExtremes values rest) :
    values.length = rest.length + 2 := by
  obtain ⟨least, greatest, _, _, perm⟩ := without.removed
  exact perm.length_eq

theorem without_extremes_between (values rest : List α) (without : WithoutExtremes values rest) :
    ∃ least greatest, Least values least ∧ Greatest values greatest ∧ ∀ v ∈ rest, least ≤ v ∧ v ≤ greatest := by
  obtain ⟨least, greatest, below, above, perm⟩ := without.removed
  refine ⟨least, greatest, below, above, fun v member => ?_⟩
  have inside : v ∈ values := perm.mem_iff.mpr (List.mem_cons_of_mem least (List.mem_cons_of_mem greatest member))
  exact ⟨below.2 v inside, above.2 v inside⟩

section Sorts

variable [DecidableLE α]

def sort (values : List α) : List α := values.mergeSort (fun a b => decide (a ≤ b))

theorem sort_perm (values : List α) : (sort values).Perm values := List.mergeSort_perm values _

end Sorts

variable [Std.IsLinearOrder α]

theorem sorted_least (first : α) (rest : List α) (sorted : (first :: rest).Pairwise (· ≤ ·)) :
    Least (first :: rest) first := by
  refine ⟨List.mem_cons_self, fun v member => ?_⟩
  rcases List.mem_cons.mp member with same | later
  · rw [same]
    exact Std.le_refl first
  · exact List.rel_of_pairwise_cons sorted later

theorem sorted_greatest (rest : List α) (last : α) (sorted : (rest ++ [last]).Pairwise (· ≤ ·)) :
    Greatest (rest ++ [last]) last := by
  refine ⟨List.mem_append_right rest List.mem_cons_self, fun v member => ?_⟩
  rcases List.mem_append.mp member with earlier | ended
  · exact (List.pairwise_append.mp sorted).2.2 v earlier last List.mem_cons_self
  · rw [List.mem_singleton.mp ended]
    exact Std.le_refl last

theorem sorted_ends (values rest : List α) (first last : α) (perm : values.Perm (first :: (rest ++ [last])))
    (sorted : (first :: (rest ++ [last])).Pairwise (· ≤ ·)) : WithoutExtremes values rest where
  sorted := (List.pairwise_append.mp (List.pairwise_cons.mp sorted).2).1
  removed := by
    have below := sorted_least first (rest ++ [last]) sorted
    have above := sorted_greatest (first :: rest) last sorted
    refine ⟨first, last, ⟨perm.mem_iff.mpr below.1, fun v member => below.2 v (perm.mem_iff.mp member)⟩,
      ⟨perm.mem_iff.mpr above.1, fun v member => above.2 v (perm.mem_iff.mp member)⟩, ?_⟩
    exact perm.trans (List.Perm.cons first List.perm_append_comm)

section Sorting

variable [DecidableLE α]

theorem sort_sorted (values : List α) : (sort values).Pairwise (· ≤ ·) := by
  have sorted := @List.pairwise_mergeSort α (fun a b => decide (a ≤ b))
    (fun a b c first second => by simpa using Std.le_trans (of_decide_eq_true first) (of_decide_eq_true second))
    (fun a b => by simpa using Std.le_total) values
  simpa [sort] using sorted

theorem sort_ends (values : List α) (two : 2 ≤ values.length) :
    ∃ first middle last, sort values = first :: (middle ++ [last]) ∧ WithoutExtremes values middle := by
  have length := (sort_perm values).length_eq
  obtain ⟨first, rest, split⟩ := List.exists_cons_of_length_pos (l := sort values) (by omega)
  have nonempty : rest ≠ [] := by
    intro empty
    rw [split, empty, List.length_singleton] at length
    omega
  have whole : sort values = first :: (rest.dropLast ++ [rest.getLast nonempty]) := by
    rw [List.dropLast_append_getLast, split]
  refine ⟨first, rest.dropLast, rest.getLast nonempty, whole, ?_⟩
  apply sorted_ends values rest.dropLast first (rest.getLast nonempty)
  · rw [← whole]
    exact (sort_perm values).symm
  · rw [← whole]
    exact sort_sorted values

end Sorting

end SprAccelProfiling.Extremes
