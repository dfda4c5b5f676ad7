import SprAccelProfiling.CInt
import Mathlib.Algebra.BigOperators.Ring.List
import Mathlib.Algebra.Order.BigOperators.Group.List
import Mathlib.Data.Finset.Max
import Mathlib.Data.Rat.Floor

set_option autoImplicit false

namespace SprAccelProfiling.Mean

open SprAccelProfiling.CInt

section Ordered

variable {K : Type} [Field K]

def mean (values : List K) : K := values.sum / values.length

variable [LinearOrder K]

def Between (values : List K) (m : K) : Prop :=
  ∃ least ∈ values, ∃ greatest ∈ values, (∀ v ∈ values, least ≤ v ∧ v ≤ greatest) ∧ least ≤ m ∧ m ≤ greatest

variable [IsStrictOrderedRing K]

theorem least_le_mean (values : List K) (least : K) (nonempty : values ≠ []) (below : ∀ v ∈ values, least ≤ v) :
    least ≤ mean values := by
  have positive : (0 : K) < values.length := Nat.cast_pos.mpr (List.length_pos_iff.mpr nonempty)
  have bound := List.card_nsmul_le_sum values least below
  rw [nsmul_eq_mul, mul_comm] at bound
  exact (le_div_iff₀ positive).mpr bound

theorem mean_le_greatest (values : List K) (greatest : K) (nonempty : values ≠ []) (above : ∀ v ∈ values, v ≤ greatest) :
    mean values ≤ greatest := by
  have positive : (0 : K) < values.length := Nat.cast_pos.mpr (List.length_pos_iff.mpr nonempty)
  have bound := List.sum_le_card_nsmul values greatest above
  rw [nsmul_eq_mul, mul_comm] at bound
  exact (div_le_iff₀ positive).mpr bound

theorem mean_between (values : List K) (nonempty : values ≠ []) : Between values (mean values) := by
  have inhabited : values.toFinset.Nonempty := List.toFinset_nonempty_iff values |>.mpr nonempty
  obtain ⟨least, leastMem, below⟩ := values.toFinset.exists_min_image id inhabited
  obtain ⟨greatest, greatestMem, above⟩ := values.toFinset.exists_max_image id inhabited
  simp only [List.mem_toFinset, id_eq] at leastMem below greatestMem above
  exact ⟨least, leastMem, greatest, greatestMem, fun v member => ⟨below v member, above v member⟩,
    least_le_mean values least nonempty below, mean_le_greatest values greatest nonempty above⟩

end Ordered

section Floors

variable {K : Type} [Field K] [LinearOrder K] [FloorRing K]

def floors (values : List K) : Int := (values.map Int.floor).sum

theorem floors_cons (value : K) (rest : List K) : floors (value :: rest) = ⌊value⌋ + floors rest := rfl

theorem floors_perm (values others : List K) (perm : values.Perm others) : floors values = floors others :=
  (perm.map Int.floor).sum_eq

theorem floors_nonneg (values : List K) (nonneg : ∀ v ∈ values, 0 ≤ v) : 0 ≤ floors values := by
  apply List.sum_nonneg
  intro n member
  obtain ⟨value, source, rfl⟩ := List.mem_map.mp member
  exact Int.floor_nonneg.mpr (nonneg value source)

variable [IsStrictOrderedRing K]

theorem floors_le (values : List K) : (floors values : K) ≤ values.sum := by
  induction values with
  | nil => simp [floors]
  | cons value rest ih =>
      rw [floors_cons, Int.cast_add, List.sum_cons]
      exact add_le_add (Int.floor_le value) ih

theorem floors_eq_iff (values : List K) : (floors values : K) = values.sum ↔ ∀ v ∈ values, (⌊v⌋ : K) = v := by
  induction values with
  | nil => simp [floors]
  | cons value rest ih =>
      rw [floors_cons, Int.cast_add, List.sum_cons,
        add_eq_add_iff_eq_and_eq (Int.floor_le value) (floors_le rest), ih, List.forall_mem_cons]

end Floors

theorem cut_floor (q : Rat) (nonneg : 0 ≤ q) : cut q = ⌊q⌋ := by
  rw [cut, Rat.floor_def', Int.tdiv_eq_ediv_of_nonneg (Rat.num_nonneg.mpr nonneg)]

def addCut (acc : Int) (value : Rat) : Int := cut (acc + value)

theorem add_cut_floor (acc : Int) (value : Rat) (start : 0 ≤ acc) (nonneg : 0 ≤ value) :
    addCut acc value = acc + ⌊value⌋ := by
  have sum : (0 : Rat) ≤ acc + value := add_nonneg (Int.cast_nonneg start) nonneg
  rw [addCut, cut_floor _ sum, Int.floor_intCast_add]

theorem fold_cut_floors (values : List Rat) (acc : Int) (start : 0 ≤ acc) (nonneg : ∀ v ∈ values, 0 ≤ v) :
    values.foldl addCut acc = acc + floors values := by
  induction values generalizing acc with
  | nil => simp [floors]
  | cons value rest ih =>
      have first := nonneg value List.mem_cons_self
      have floored := add_cut_floor acc value start first
      have next : 0 ≤ addCut acc value := by
        rw [floored]
        exact Int.add_nonneg start (Int.floor_nonneg.mpr first)
      rw [List.foldl_cons, ih _ next (fun v member => nonneg v (List.mem_cons_of_mem value member)), floored,
        floors_cons, Int.add_assoc]

theorem cut_sum_iff (values : List Rat) (result : Int) (nonneg : ∀ v ∈ values, 0 ≤ v) :
    foldChecked addCut values 0 = some result ↔ floors values ≤ INT_MAX ∧ result = floors values := by
  have grows : ∀ value ∈ values, ∀ acc : Int, 0 ≤ acc → acc ≤ addCut acc value := by
    intro value member acc start
    have floor := Int.floor_nonneg.mpr (nonneg value member)
    rw [add_cut_floor acc value start (nonneg value member)]
    omega
  rw [fold_checked_iff addCut values 0 result (Int.le_refl 0) (by decide) grows,
    fold_cut_floors values 0 (Int.le_refl 0) nonneg, Int.zero_add]

end SprAccelProfiling.Mean
