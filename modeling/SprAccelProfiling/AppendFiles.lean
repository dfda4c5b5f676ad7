import Mathlib.Data.List.AList
import Mathlib.Tactic.ByContra

set_option autoImplicit false

namespace SprAccelProfiling.AppendFiles

section Files

variable {κ α : Type} [DecidableEq κ]

abbrev Files (κ α : Type) := AList (fun _ : κ => List α)

def contents (files : Files κ α) (name : κ) : List α := (files.lookup name).getD []

-- >> makes the file when it is not there.
def append (files : Files κ α) (write : κ × List α) : Files κ α :=
  files.insert write.1 (contents files write.1 ++ write.2)

def appendAll (writes : List (κ × List α)) (files : Files κ α) : Files κ α := writes.foldl append files

theorem contents_append (files : Files κ α) (write : κ × List α) (name : κ) :
    contents (append files write) name = contents files name ++ if write.1 = name then write.2 else [] := by
  by_cases same : write.1 = name
  · subst name
    rw [if_pos rfl, contents, append, AList.lookup_insert, Option.getD_some]
  · rw [if_neg same, List.append_nil, contents, append, AList.lookup_insert_ne (Ne.symm same), contents]

theorem contents_append_all (writes : List (κ × List α)) (files : Files κ α) (name : κ) :
    contents (appendAll writes files) name =
      contents files name ++ writes.flatMap (fun write => if write.1 = name then write.2 else []) := by
  induction writes generalizing files with
  | nil => rw [appendAll, List.foldl_nil, List.flatMap_nil, List.append_nil]
  | cons write rest ih =>
      have first := ih (append files write)
      rw [contents_append, List.append_assoc] at first
      exact first

theorem written_once (names : List κ) (lines : κ → List α) (name : κ) (nodup : names.Nodup) (member : name ∈ names) :
    (names.map (fun other => (other, lines other))).flatMap (fun write => if write.1 = name then write.2 else []) =
      lines name := by
  induction names with
  | nil => exact absurd member List.not_mem_nil
  | cons head rest ih =>
      obtain ⟨absent, nodup⟩ := List.nodup_cons.mp nodup
      rw [List.map_cons, List.flatMap_cons]
      by_cases same : head = name
      · subst head
        have others : (rest.map (fun other => (other, lines other))).flatMap
            (fun write => if write.1 = name then write.2 else []) = [] := by
          rw [List.flatMap_eq_nil_iff]
          intro write inside
          obtain ⟨other, listed, rfl⟩ := List.mem_map.mp inside
          exact if_neg (fun equal : other = name => absent (equal ▸ listed))
        rw [if_pos rfl, others, List.append_nil]
      · rw [if_neg same, List.nil_append]
        exact ih nodup ((List.mem_cons.mp member).resolve_left (Ne.symm same))

theorem mem_of_contents (files : Files κ α) (name : κ) (filled : contents files name ≠ []) : name ∈ files := by
  by_contra absent
  exact filled (by rw [contents, AList.lookup_eq_none.mpr absent, Option.getD_none])

theorem mem_append_all (writes : List (κ × List α)) (files : Files κ α) (name : κ) :
    name ∈ appendAll writes files ↔ name ∈ files ∨ name ∈ writes.map Prod.fst := by
  induction writes generalizing files with
  | nil => simp [appendAll]
  | cons write rest ih =>
      have first := ih (append files write)
      rw [append, AList.mem_insert] at first
      rw [List.map_cons, List.mem_cons, ← or_assoc, @or_comm (name ∈ files)]
      exact first

end Files

end SprAccelProfiling.AppendFiles
