import Mathlib.Algebra.Ring.Rat

set_option autoImplicit false

namespace SprAccelProfiling.CInt

def INT_MIN : Int := -2147483648
def INT_MAX : Int := 2147483647

def Fits (n : Int) : Prop := INT_MIN ≤ n ∧ n ≤ INT_MAX

instance (n : Int) : Decidable (Fits n) := inferInstanceAs (Decidable (INT_MIN ≤ n ∧ n ≤ INT_MAX))

-- A wider integer that is stored in an int keeps its low 32 bits.
def narrow (n : Int) : Int := Int.bmod n (2 ^ 32)

-- A double stored in an int loses its fraction, towards zero.
def cut (q : Rat) : Int := q.num.tdiv q.den

-- A signed sum, or a double cut to an int, has no value outside the range of int.
def checked (n : Int) : Option Int := if Fits n then some n else none

theorem narrow_iff (n : Int) : narrow n = n ↔ Fits n := by
  unfold narrow Fits INT_MIN INT_MAX
  rw [Int.bmod_def]
  omega

section Fold

variable {α : Type} (next : Int → α → Int)

def foldChecked (items : List α) (acc : Int) : Option Int :=
  items.foldlM (fun acc item => checked (next acc item)) acc

theorem fold_checked_cons (item : α) (rest : List α) (acc result : Int) :
    foldChecked next (item :: rest) acc = some result ↔
      Fits (next acc item) ∧ foldChecked next rest (next acc item) = some result := by
  by_cases fits : Fits (next acc item)
  · simp [foldChecked, checked, fits]
  · simp [foldChecked, checked, fits]

theorem fold_grows (items : List α) (acc : Int) (start : 0 ≤ acc)
    (grows : ∀ item ∈ items, ∀ acc, 0 ≤ acc → acc ≤ next acc item) : acc ≤ items.foldl next acc := by
  induction items generalizing acc with
  | nil => exact Int.le_refl acc
  | cons item rest ih =>
      have first := grows item List.mem_cons_self acc start
      have others := ih (next acc item) (Int.le_trans start first)
        (fun other member => grows other (List.mem_cons_of_mem item member))
      rw [List.foldl_cons]
      exact Int.le_trans first others

theorem fold_checked_iff (items : List α) (acc result : Int) (start : 0 ≤ acc) (fits : acc ≤ INT_MAX)
    (grows : ∀ item ∈ items, ∀ acc, 0 ≤ acc → acc ≤ next acc item) :
    foldChecked next items acc = some result ↔
      items.foldl next acc ≤ INT_MAX ∧ result = items.foldl next acc := by
  induction items generalizing acc with
  | nil => simp [foldChecked, fits, eq_comm]
  | cons item rest ih =>
      have first := grows item List.mem_cons_self acc start
      have others : ∀ other ∈ rest, ∀ acc, 0 ≤ acc → acc ≤ next acc other :=
        fun other member => grows other (List.mem_cons_of_mem item member)
      have last := fold_grows next rest (next acc item) (Int.le_trans start first) others
      rw [fold_checked_cons, List.foldl_cons]
      constructor
      · intro ⟨within, ended⟩
        exact (ih (next acc item) (Int.le_trans start first) within.2 others).mp ended
      · intro ⟨bound, same⟩
        have within : next acc item ≤ INT_MAX := Int.le_trans last bound
        have low : INT_MIN ≤ next acc item := by
          unfold INT_MIN
          omega
        exact ⟨⟨low, within⟩, (ih (next acc item) (Int.le_trans start first) within others).mpr ⟨bound, same⟩⟩

end Fold

end SprAccelProfiling.CInt
