import Mathlib.Algebra.Order.Ring.Nat

set_option autoImplicit false

namespace SprAccelProfiling.RunLength

section Runs

variable {α : Type} (run : Nat → Nat × α)

def expand (count : Nat) : List α := (List.range count).flatMap (fun k => List.replicate (run k).1 (run k).2)

def total (count : Nat) : Nat := ((List.range count).map (fun k => (run k).1)).sum

theorem expand_succ (count : Nat) :
    expand run (count + 1) = expand run count ++ List.replicate (run count).1 (run count).2 := by
  simp [expand, List.range_succ]

theorem total_succ (count : Nat) : total run (count + 1) = total run count + (run count).1 := by
  simp [total, List.range_succ]

theorem expand_length (count : Nat) : (expand run count).length = total run count := by
  induction count with
  | zero => rfl
  | succ count ih => rw [expand_succ, List.length_append, List.length_replicate, ih, total_succ]

theorem expand_mem (count : Nat) (item : α) (member : item ∈ expand run count) : ∃ k, item = (run k).2 := by
  obtain ⟨k, _, inside⟩ := List.mem_flatMap.mp member
  exact ⟨k, List.eq_of_mem_replicate inside⟩

section Counts

variable [DecidableEq α] (later earlier : α)

theorem expand_count_succ (count : Nat) :
    (expand run (count + 1)).count later =
      (expand run count).count later + if (run count).2 = later then (run count).1 else 0 := by
  rw [expand_succ, List.count_append, List.count_replicate]
  simp only [beq_iff_eq]

theorem expand_count_follows (count : Nat) (first : (run 0).2 ≠ later)
    (follows : ∀ k, k < count → (run (k + 1)).2 = later → (run k).2 = earlier ∧ (run (k + 1)).1 ≤ (run k).1) :
    (expand run (count + 1)).count later ≤ (expand run count).count earlier := by
  induction count with
  | zero =>
      rw [expand_count_succ, if_neg first]
      exact Nat.le_refl 0
  | succ count ih =>
      have before := ih (fun k below => follows k (Nat.lt_succ_of_lt below))
      rw [expand_count_succ, expand_count_succ run earlier]
      by_cases own : (run (count + 1)).2 = later
      · obtain ⟨same, shorter⟩ := follows count (Nat.lt_succ_self count) own
        rw [if_pos own, if_pos same]
        exact Nat.add_le_add before shorter
      · rw [if_neg own, Nat.add_zero]
        exact Nat.le_add_right_of_le before

end Counts

end Runs

section Cursors

variable {α : Type}

structure Cursor (α : Type) where
  position : Nat
  stores : List (Nat × α)

def Cursor.start : Cursor α := ⟨0, []⟩

def Cursor.put (item : α) (cursor : Cursor α) : Cursor α :=
  ⟨cursor.position + 1, cursor.stores ++ [(cursor.position, item)]⟩

structure Extended (item : α) (count : Nat) (before after : Cursor α) : Prop where
  position : after.position = before.position + count
  places : after.stores.map Prod.fst = before.stores.map Prod.fst ++ List.range' before.position count
  items : after.stores.map Prod.snd = before.stores.map Prod.snd ++ List.replicate count item

theorem extended_none (item : α) (cursor : Cursor α) : Extended item 0 cursor cursor :=
  ⟨rfl, by simp, by simp⟩

theorem extended_put (item : α) (count : Nat) (cursor after : Cursor α)
    (extended : Extended item count (cursor.put item) after) : Extended item (count + 1) cursor after where
  position := by
    rw [extended.position, Cursor.put, Nat.add_assoc, Nat.add_comm 1 count]
  places := by
    rw [extended.places, Cursor.put, List.map_append, List.append_assoc, List.range'_succ]
    rfl
  items := by
    rw [extended.items, Cursor.put, List.map_append, List.append_assoc, List.replicate_succ]
    rfl

def Cursor.Packed (cursor : Cursor α) : Prop := cursor.stores.map Prod.fst = List.range cursor.position

theorem packed_extended (item : α) (count : Nat) (before after : Cursor α) (packed : before.Packed)
    (extended : Extended item count before after) : after.Packed := by
  have joined := @List.range'_append_1 0 before.position count
  rw [Nat.zero_add] at joined
  rw [Cursor.Packed, extended.places, packed, extended.position, List.range_eq_range', List.range_eq_range']
  exact joined

end Cursors

end SprAccelProfiling.RunLength
