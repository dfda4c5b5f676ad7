import SprAccelProfiling.Lines

set_option autoImplicit false

namespace SprAccelProfiling.Residency

open SprAccelProfiling.Lines

-- Memory traffic: a region is a start and a size, and a mark says nothing about memory.
inductive Event (μ : Type) where
  | access (regions : List (Nat × Nat))
  | evict (address : Nat)
  | mark (label : μ)

section Lines

variable {μ : Type} (width line : Nat)

def Touches (regions : List (Nat × Nat)) : Prop := ∃ region ∈ regions, Meets width region.1 region.2 line

def holdAfter (held : Prop) : Event μ → Prop
  | .access regions => held ∨ Touches width line regions
  | .evict address => held ∧ address / width ≠ line
  | .mark _ => held

def Resident (history : List (Event μ)) : Prop := history.foldl (holdAfter width line) False

variable (history : List (Event μ))

theorem resident_snoc (event : Event μ) :
    Resident width line (history ++ [event]) ↔ holdAfter width line (Resident width line history) event := by
  rw [Resident, List.foldl_append]
  exact Iff.rfl

theorem resident_evictions (addresses : List Nat) :
    Resident width line (history ++ addresses.map .evict) ↔
      Resident width line history ∧ line ∉ addresses.map (fun address => address / width) := by
  induction addresses generalizing history with
  | nil => simp
  | cons address rest ih =>
      rw [List.map_cons, List.append_cons, ih, resident_snoc, holdAfter, and_assoc, List.map_cons, List.mem_cons, not_or,
        ne_comm]

theorem resident_accessed (regions : List (Nat × Nat)) (touched : Touches width line regions) :
    Resident width line (history ++ [.access regions]) :=
  (resident_snoc width line history _).mpr (.inr touched)

end Lines

end SprAccelProfiling.Residency
