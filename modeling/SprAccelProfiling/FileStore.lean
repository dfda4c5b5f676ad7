import Mathlib.Data.List.Nodup

set_option autoImplicit false

namespace SprAccelProfiling.FileStore

variable {κ α : Type} [DecidableEq κ]

-- A file that is opened for writing loses what it held.
def put (files : κ → Option α) (write : κ × α) : κ → Option α :=
  fun name => if name = write.1 then some write.2 else files name

def putAll (writes : List (κ × α)) (files : κ → Option α) : κ → Option α := writes.foldl put files

def Consistent (writes : List (κ × α)) : Prop :=
  ∀ write ∈ writes, ∀ other ∈ writes, write.1 = other.1 → write.2 = other.2

def Kept (writes : List (κ × α)) (files : κ → Option α) : Prop :=
  ∀ write ∈ writes, files write.1 = some write.2

theorem put_all_append (first second : List (κ × α)) (files : κ → Option α) :
    putAll (first ++ second) files = putAll second (putAll first files) := by
  rw [putAll, List.foldl_append]
  rfl

theorem put_all_outside (writes : List (κ × α)) (files : κ → Option α) (name : κ)
    (outside : ∀ write ∈ writes, name ≠ write.1) : putAll writes files name = files name := by
  induction writes generalizing files with
  | nil => rfl
  | cons write rest ih =>
      rw [putAll, List.foldl_cons]
      refine (ih (put files write) (fun other member => outside other (List.mem_cons_of_mem write member))).trans ?_
      rw [put, if_neg (outside write List.mem_cons_self)]

theorem put_all_holds (writes : List (κ × α)) (files : κ → Option α) (name : κ)
    (written : ∃ write ∈ writes, write.1 = name) :
    ∃ write ∈ writes, write.1 = name ∧ putAll writes files name = some write.2 := by
  induction writes generalizing files with
  | nil =>
      obtain ⟨write, absent, _⟩ := written
      cases absent
  | cons head tail ih =>
      rw [putAll, List.foldl_cons]
      by_cases again : ∃ write ∈ tail, write.1 = name
      · obtain ⟨write, member, named, holds⟩ := ih (put files head) again
        exact ⟨write, List.mem_cons_of_mem head member, named, holds⟩
      · obtain ⟨write, member, named⟩ := written
        have alone : ∀ other ∈ tail, name ≠ other.1 := fun other later same => again ⟨other, later, same.symm⟩
        have first : write = head := by
          rcases List.mem_cons.mp member with same | later
          · exact same
          · exact absurd named.symm (alone write later)
        subst first
        refine ⟨write, List.mem_cons_self, named, (put_all_outside tail (put files write) name alone).trans ?_⟩
        rw [put, if_pos named.symm]

theorem put_all_kept (writes : List (κ × α)) (files : κ → Option α) (consistent : Consistent writes) :
    Kept writes (putAll writes files) := by
  intro write member
  obtain ⟨other, inOther, same, holds⟩ := put_all_holds writes files write.1 ⟨write, member, rfl⟩
  rw [holds, consistent other inOther write member same]

theorem put_all_range (writes : List (Nat × α)) (files : Nat → Option α) (count : Nat)
    (positions : writes.map Prod.fst = List.range count) (i : Nat) :
    putAll writes files i = if i < count then (writes.map Prod.snd)[i]? else files i := by
  by_cases inside : i < count
  · have atI : (writes.map Prod.fst)[i]? = some i := by rw [positions, List.getElem?_range inside]
    obtain ⟨write, found, named⟩ := Option.map_eq_some_iff.mp (List.getElem?_map ▸ atI)
    have consistent : Consistent writes := by
      have nodup : (writes.map Prod.fst).Nodup := positions ▸ List.nodup_range
      intro write member other inOther same
      rw [List.inj_on_of_nodup_map nodup member inOther same]
    have kept := put_all_kept writes files consistent write (List.mem_of_getElem? found)
    rw [named] at kept
    rw [if_pos inside, kept, List.getElem?_map, found]
    rfl
  · rw [if_neg inside]
    apply put_all_outside
    intro write member same
    have listed : write.1 ∈ writes.map Prod.fst := List.mem_map_of_mem member
    rw [positions] at listed
    exact inside (same ▸ List.mem_range.mp listed)

end SprAccelProfiling.FileStore
