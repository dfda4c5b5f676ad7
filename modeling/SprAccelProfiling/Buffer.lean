import Mathlib.Data.List.Basic

set_option autoImplicit false

namespace SprAccelProfiling.Buffer

variable {α : Type}

-- A write that would leave the allocation has no result.
def writeAt (cells : List α) (offset : Nat) (items : List α) : Option (List α) :=
  if offset + items.length ≤ cells.length then
    some (cells.take offset ++ items ++ cells.drop (offset + items.length))
  else none

theorem write_at_iff (cells items result : List α) (offset : Nat) :
    writeAt cells offset items = some result ↔
      offset + items.length ≤ cells.length ∧
        result = cells.take offset ++ items ++ cells.drop (offset + items.length) := by
  by_cases fits : offset + items.length ≤ cells.length
  · simp [writeAt, fits, eq_comm]
  · simp [writeAt, fits]

theorem write_at_length (cells items result : List α) (offset : Nat)
    (wrote : writeAt cells offset items = some result) : result.length = cells.length := by
  obtain ⟨fits, rfl⟩ := (write_at_iff cells items result offset).mp wrote
  simp only [List.length_append, List.length_take, List.length_drop]
  omega

theorem write_start_iff (cells items result : List α) :
    writeAt cells 0 items = some result ↔
      items.length ≤ cells.length ∧ result = items ++ cells.drop items.length := by
  simp [write_at_iff]

theorem write_whole (cells items : List α) (same : items.length = cells.length) :
    writeAt cells 0 items = some items := by
  rw [write_start_iff]
  simp [same]

theorem write_at_get (cells items result : List α) (offset i : Nat) (wrote : writeAt cells offset items = some result) :
    result[i]? = if offset ≤ i ∧ i < offset + items.length then items[i - offset]? else cells[i]? := by
  obtain ⟨fits, rfl⟩ := (write_at_iff cells items result offset).mp wrote
  have front : (cells.take offset).length = offset := List.length_take_of_le (by omega)
  by_cases before : i < offset
  · rw [if_neg (by omega), List.append_assoc, List.getElem?_append_left (by rwa [front]),
      List.getElem?_take_of_lt before]
  · by_cases inside : i < offset + items.length
    · rw [if_pos ⟨Nat.le_of_not_lt before, inside⟩, List.append_assoc, List.getElem?_append_right (by omega), front,
        List.getElem?_append_left (by omega)]
    · have longer : (cells.take offset ++ items).length = offset + items.length := by rw [List.length_append, front]
      rw [if_neg (by omega), List.getElem?_append_right (by omega), longer, List.getElem?_drop]
      congr 1
      omega

theorem write_next (fresh written items : List α) (fits : written.length + items.length ≤ fresh.length) :
    writeAt (written ++ fresh.drop written.length) written.length items =
      some (written ++ items ++ fresh.drop (written ++ items).length) := by
  rw [write_at_iff, List.length_append, List.length_append, List.length_drop, List.take_left, List.drop_append,
    List.drop_drop, List.drop_of_length_le (Nat.le_add_right _ _), List.nil_append, Nat.add_sub_cancel_left]
  exact ⟨by omega, rfl⟩

end SprAccelProfiling.Buffer
