import Mathlib.Data.List.Basic
import Mathlib.Order.Defs.LinearOrder
import SprAccelProfiling.Extremes

set_option autoImplicit false

namespace SprAccelProfiling.Ranks

open SprAccelProfiling.Extremes

variable {α : Type} [LinearOrder α]

structure AtRank (values : List α) (k : Nat) (value : α) : Prop where
  member : value ∈ values
  below : values.countP (fun v => v < value) ≤ k
  reached : k < values.countP (fun v => v ≤ value)

variable (values : List α) (k : Nat)

theorem rank_perm (others : List α) (value : α) (perm : values.Perm others) (ranked : AtRank values k value) :
    AtRank others k value where
  member := perm.mem_iff.mp ranked.member
  below := by
    rw [← perm.countP_eq]
    exact ranked.below
  reached := by
    rw [← perm.countP_eq]
    exact ranked.reached

theorem sorted_rank (before after : List α) (value : α) (sorted : (before ++ value :: after).Pairwise (· ≤ ·)) :
    AtRank (before ++ value :: after) before.length value where
  member := List.mem_append_right before List.mem_cons_self
  below := by
    have later : (value :: after).countP (fun v => v < value) = 0 := by
      apply List.countP_eq_zero.mpr
      intro v member
      have above := (sorted_least value after (List.pairwise_append.mp sorted).2.1).2 v member
      simpa using above
    rw [List.countP_append, later]
    exact List.countP_le_length
  reached := by
    have earlier : before.countP (fun v => v ≤ value) = before.length := by
      apply List.countP_eq_length.mpr
      intro v member
      have under := (List.pairwise_append.mp sorted).2.2 v member value List.mem_cons_self
      simpa using under
    rw [List.countP_append, earlier, List.countP_cons_of_pos (by simp)]
    omega

theorem sort_rank (otherwise : α) (within : k < values.length) : AtRank values k ((sort values).getD k otherwise) := by
  have inside : k < (sort values).length := by rwa [(sort_perm values).length_eq]
  have split : sort values = (sort values).take k ++ (sort values)[k] :: (sort values).drop (k + 1) := by
    rw [List.getElem_cons_drop inside, List.take_append_drop]
  have sorted := sort_sorted values
  rw [split] at sorted
  have ranked := sorted_rank _ _ _ sorted
  rw [← split, List.length_take_of_le inside.le] at ranked
  rw [List.getD, List.getElem?_eq_getElem inside, Option.getD_some]
  exact rank_perm _ _ _ _ (sort_perm values) ranked

theorem rank_first (value : α) (ranked : AtRank values 0 value) : Least values value := by
  refine ⟨ranked.member, fun v member => not_lt.mp ?_⟩
  have none := List.countP_eq_zero.mp (Nat.le_zero.mp ranked.below) v member
  simpa using none

def NextGreatest (value : α) : Prop :=
  ∃ greatest rest, Greatest values greatest ∧ values.Perm (greatest :: rest) ∧ Greatest rest value

theorem rank_next_to_last (value greatest : α) (rest : List α) (above : Greatest values greatest)
    (perm : values.Perm (greatest :: rest)) (length : rest.length = k + 1) (ranked : AtRank values k value) :
    Greatest rest value := by
  have moved := rank_perm values k _ value perm ranked
  rcases lt_or_eq_of_le (above.2 value ranked.member) with smaller | same
  · have counted := moved.reached
    rw [List.countP_cons_of_neg (by simpa using smaller)] at counted
    have every : rest.countP (fun v => v ≤ value) = rest.length := le_antisymm List.countP_le_length (by omega)
    refine ⟨?_, fun v member => by simpa using List.countP_eq_length.mp every v member⟩
    exact (List.mem_cons.mp moved.member).resolve_left smaller.ne
  · have counted := moved.below
    rw [List.countP_cons_of_neg (by simp [same])] at counted
    have upTo : ∀ v ∈ rest, v ≤ value := by
      intro v member
      rw [same]
      exact above.2 v (perm.mem_iff.mpr (List.mem_cons_of_mem greatest member))
    have left : ¬ ∀ v ∈ rest, v < value := by
      intro all
      have every := List.countP_eq_length.mpr (fun v member => decide_eq_true (all v member))
      omega
    obtain ⟨v, member, reaches⟩ : ∃ v ∈ rest, ¬ v < value := by simpa using left
    have equal : v = value := le_antisymm (upTo v member) (not_lt.mp reaches)
    exact ⟨equal ▸ member, upTo⟩

theorem rank_next_greatest (value : α) (length : values.length = k + 2) (ranked : AtRank values k value) :
    NextGreatest values value := by
  obtain ⟨first, middle, last, _, without⟩ := sort_ends values (by omega)
  obtain ⟨least, greatest, _, above, perm⟩ := without.removed
  have moved : values.Perm (greatest :: least :: middle) := perm.trans (List.Perm.swap greatest least middle)
  have rest : (least :: middle).length = k + 1 := by
    have whole := moved.length_eq
    rw [List.length_cons] at whole
    omega
  exact ⟨greatest, least :: middle, above, moved, rank_next_to_last values k value greatest _ above moved rest ranked⟩

end SprAccelProfiling.Ranks
