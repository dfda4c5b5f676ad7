import SprAccelProfiling.Bookkeeping
import SprAccelProfiling.CInt
import SprAccelProfiling.CorpusLoader
import Mathlib.Algebra.Order.BigOperators.Group.List
import Mathlib.Algebra.Order.Ring.Nat

set_option autoImplicit false

namespace SprAccelProfiling.Latency

open SprAccelProfiling.CInt SprAccelProfiling.Corpus

-- compressed_sizes[i % num_bufs] = stream.total_out
def storedSize (total_out : Nat) : Int := narrow total_out

-- compressed_sum += compressed_size
def compressedSum (compressed_sizes : List Int) : Option Int :=
  foldChecked (fun compressed_sum compressed_size => compressed_sum + compressed_size) compressed_sizes 0

structure IntsExact (content : Bytes) (size : Nat) (malloc : Malloc size) (encoded : List Nat) : Prop where
  fileSize : ftellInt content = content.length
  buffers : ∃ fuel loaded, corpusToInputBuffer (some content) size malloc fuel = .ok loaded ∧
    loaded.num_bufs = (content.length / size : Nat)
  entries : encoded.map storedSize = encoded.map (fun (length : Nat) => (length : Int))
  sum : compressedSum (encoded.map storedSize) = some ((encoded.sum : Nat) : Int)

theorem fits_natural (n : Nat) : Fits n ↔ n < 2147483648 := by
  unfold Fits INT_MIN INT_MAX
  omega

theorem file_size_iff (content : Bytes) : ftellInt content = content.length ↔ content.length < 2147483648 :=
  (narrow_iff content.length).trans (fits_natural content.length)

theorem stored_exact (encoded : List Nat) (small : encoded.sum < 2147483648) :
    encoded.map storedSize = encoded.map (fun (length : Nat) => (length : Int)) := by
  apply List.map_congr_left
  intro length member
  have part := List.le_sum_of_mem member
  exact (narrow_iff length).mpr ((fits_natural length).mpr (by omega))

theorem naturals_fold (encoded : List Nat) (acc : Int) :
    (encoded.map (fun (length : Nat) => (length : Int))).foldl (fun sum size => sum + size) acc = acc + (encoded.sum : Nat) := by
  induction encoded generalizing acc with
  | nil => simp
  | cons length rest ih =>
      rw [List.map_cons, List.foldl_cons, ih, List.sum_cons]
      omega

theorem naturals_sum_iff (encoded : List Nat) (total : Int) :
    compressedSum (encoded.map (fun (length : Nat) => (length : Int))) = some total ↔
      encoded.sum < 2147483648 ∧ total = (encoded.sum : Nat) := by
  have grows : ∀ size ∈ encoded.map (fun (length : Nat) => (length : Int)), ∀ acc : Int, 0 ≤ acc → acc ≤ acc + size := by
    intro size member acc _
    obtain ⟨length, _, rfl⟩ := List.mem_map.mp member
    omega
  rw [compressedSum, fold_checked_iff _ _ 0 total (Int.le_refl 0) (by decide) grows, naturals_fold, Int.zero_add]
  refine and_congr ?_ Iff.rfl
  unfold INT_MAX
  omega

theorem ints_exact_iff (content : Bytes) (size : Nat) (malloc : Malloc size) (encoded : List Nat) :
    IntsExact content size malloc encoded ↔ content.length < 2147483648 ∧ encoded.sum < 2147483648 := by
  constructor
  · intro exact
    have total := exact.sum
    rw [exact.entries, naturals_sum_iff] at total
    exact ⟨(file_size_iff content).mp exact.fileSize, total.1⟩
  · intro condition
    obtain ⟨short, small⟩ := condition
    have entries := stored_exact encoded small
    refine ⟨(file_size_iff content).mpr short, ⟨1, _, corpus_loads content size malloc short, rfl⟩, entries, ?_⟩
    rw [entries, naturals_sum_iff]
    exact ⟨small, rfl⟩

theorem avg_ratio_int (enc : Bytes → Bytes) (inputs : List Bytes) (size : Nat)
    (small : (inputs.map (fun b => (enc b).length)).sum < 2147483648) :
    ∃ total : Int, compressedSum ((inputs.map (fun b => (enc b).length)).map storedSize) = some total ∧
      avgRatio (encodedSizes enc inputs) size inputs.length = total / (size * inputs.length : Nat) := by
  refine ⟨((inputs.map (fun b => (enc b).length)).sum : Nat), ?_, ?_⟩
  · rw [stored_exact _ small, naturals_sum_iff]
    exact ⟨small, rfl⟩
  · have folded := naturals_fold (inputs.map (fun b => (enc b).length)) 0
    rw [List.map_map, Int.zero_add] at folded
    rw [avgRatio]
    congr 2

theorem expanding_payloads_overflow :
    (List.replicate 2147483646 (0 : UInt8)).length = 2147483646 ∧
      [1073741824, 1073741824].length = 2147483646 / 1073741823 ∧
      (∀ length ∈ [1073741824, 1073741824], length ≤ 1073741823 + 328) ∧
      ¬ IntsExact (List.replicate 2147483646 0) 1073741823 (cleared 1073741823) [1073741824, 1073741824] := by
  refine ⟨List.length_replicate, by decide, by decide, fun exact => ?_⟩
  have total := exact.sum
  rw [exact.entries, naturals_sum_iff] at total
  exact absurd total.1 (by decide)

end SprAccelProfiling.Latency
