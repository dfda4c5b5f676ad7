import SprAccelProfiling.Lcg
import Mathlib.Data.List.GetD

set_option autoImplicit false

namespace SprAccelProfiling.Random

open SprAccelProfiling.Lcg

def PROBATABLESIZE : Nat := 4096
def PRIME1 : UInt32 := 2654435761
def PRIME2 : UInt32 := 2246822519

def genRand (seed : UInt32) : UInt32 × UInt32 :=
  let next := seed * PRIME1 + PRIME2
  (next >>> 11, next)

structure Table where
  cells : List UInt8
  sized : cells.length = PROBATABLESIZE

-- GEN_rand(&seed) & (PROBATABLESIZE-1)
def tableIndex (value : UInt32) : Nat := (value &&& UInt32.ofNat (PROBATABLESIZE - 1)).toNat

def fillBuffer (table : Table) : Nat → UInt32 → List UInt8
  | 0, _ => []
  | room + 1, seed =>
      let (value, next) := genRand seed
      table.cells.getD (tableIndex value) 0 :: fillBuffer table room next

def generateFrom (table : Table) (buffSize : Nat) : List UInt8 := fillBuffer table buffSize 1

def seedAfter (seed : UInt32) (draws : Nat) : UInt32 := (fun seed => (genRand seed).2)^[draws] seed

def draw (seed : UInt32) (k : Nat) : Nat := tableIndex (genRand (seedAfter seed k)).1

theorem seed_after_succ (seed : UInt32) (draws : Nat) :
    seedAfter seed (draws + 1) = seedAfter seed draws * PRIME1 + PRIME2 :=
  Function.iterate_succ_apply' _ draws seed

-- The 32-bit seed is the unreduced generator modulo 2 ^ 32.
theorem seed_after_step (seed : UInt32) (draws : Nat) :
    (seedAfter seed draws).toNat = (step 2654435760 2246822519)^[draws] seed.toNat % 4294967296 := by
  induction draws with
  | zero => exact (Nat.mod_eq_of_lt seed.toNat_lt).symm
  | succ draws ih =>
      rw [seed_after_succ, Function.iterate_succ_apply', step, UInt32.toNat_add, UInt32.toNat_mul, ih]
      show (_ % 4294967296 * 2654435761 % 4294967296 + 2246822519) % 4294967296 = _
      omega

theorem table_index_bits (value : UInt32) : tableIndex value = value.toNat % 4096 := by
  rw [tableIndex, UInt32.toNat_and]
  exact Nat.and_two_pow_sub_one_eq_mod value.toNat 12

theorem draw_bits (seed : UInt32) (k : Nat) :
    draw seed k = (step 2654435760 2246822519)^[k + 1] seed.toNat % 2 ^ 23 / 2048 := by
  have shifted : (genRand (seedAfter seed k)).1 = seedAfter seed (k + 1) >>> 11 := by rw [seed_after_succ]; rfl
  rw [draw, shifted, table_index_bits, UInt32.toNat_shiftRight, seed_after_step]
  show (_ % 4294967296) >>> 11 % 4096 = _ % 8388608 / 2048
  rw [Nat.shiftRight_eq_div_pow]
  omega

theorem draw_period (seed : UInt32) (k : Nat) : draw seed (k + 2 ^ 23) = draw seed k := by
  rw [draw_bits, draw_bits, Nat.add_right_comm, Nat.add_comm (k + 1), Function.iterate_add_apply,
    (returns_iff 2654435760 2246822519 (by decide) (by decide) 23 (2 ^ 23) _).mpr (Nat.dvd_refl _)]

theorem draws_count (seed : UInt32) (start : Nat) (q : Nat → Bool) :
    (List.range (2 ^ 23)).countP (fun k => q (draw seed (start + k))) = 2048 * (List.range 4096).countP q := by
  have window := window_count 2654435760 2246822519 (by decide) (by decide) 23 (start + 1) seed.toNat
    (fun r => q (r / 2048))
  have blocks := count_quotient 2048 4096 q (by decide)
  rw [← blocks]
  refine Eq.trans (List.countP_congr (fun k _ => ?_)) window
  rw [draw_bits, Nat.add_right_comm]

theorem seed_after_next (seed : UInt32) (draws : Nat) : seedAfter (genRand seed).2 draws = seedAfter seed (draws + 1) := by
  rw [seedAfter, seedAfter, Function.iterate_succ_apply]

theorem fill_buffer_draws (table : Table) (room : Nat) (seed : UInt32) :
    fillBuffer table room seed = (List.range room).map (fun k => table.cells.getD (draw seed k) 0) := by
  induction room generalizing seed with
  | zero => rfl
  | succ room ih =>
      have later : ∀ k, draw (genRand seed).2 k = draw seed (k + 1) := by
        intro k
        rw [draw, seed_after_next, draw]
      rw [List.range_succ_eq_map, List.map_cons, List.map_map]
      refine congrArg (List.cons (table.cells.getD (draw seed 0) 0)) ((ih (genRand seed).2).trans ?_)
      apply List.map_congr_left
      intro k _
      rw [later k]
      rfl

theorem window_draws (table : Table) (buffSize start width : Nat) (inside : start + width ≤ buffSize) :
    ((generateFrom table buffSize).drop start).take width =
      (List.range width).map (fun k => table.cells.getD (draw 1 (start + k)) 0) := by
  rw [generateFrom, fill_buffer_draws]
  apply List.ext_getElem
  · simp only [List.length_take, List.length_drop, List.length_map, List.length_range]
    omega
  · intro k _ _
    simp

theorem cells_count (cells : List UInt8) (byte : UInt8) :
    (List.range cells.length).countP (fun r => cells.getD r 0 == byte) = cells.count byte := by
  have listed : (List.range cells.length).map (fun r => cells.getD r 0) = cells := by
    apply List.ext_getElem
    · rw [List.length_map, List.length_range]
    · intro r inRange inside
      simp [inside]
  conv_rhs => rw [← listed]
  rw [List.count, List.countP_map]
  rfl

theorem generate_frequencies (table : Table) (buffSize : Nat) :
    (generateFrom table buffSize).length = buffSize ∧
    (∀ i, i + 2 ^ 23 < buffSize →
      (generateFrom table buffSize)[i + 2 ^ 23]? = (generateFrom table buffSize)[i]?) ∧
    (∀ start byte, start + 2 ^ 23 ≤ buffSize →
      (((generateFrom table buffSize).drop start).take (2 ^ 23)).count byte = 2048 * table.cells.count byte) ∧
    ∀ seed start index, index < PROBATABLESIZE →
      (List.range (2 ^ 23)).countP (fun k => draw seed (start + k) == index) = 2048 := by
  refine ⟨?_, ?_, ?_, ?_⟩
  · rw [generateFrom, fill_buffer_draws, List.length_map, List.length_range]
  · intro i inside
    rw [generateFrom, fill_buffer_draws, List.getElem?_map, List.getElem?_map, List.getElem?_range inside,
      List.getElem?_range (Nat.lt_of_le_of_lt (Nat.le_add_right i _) inside), Option.map_some, Option.map_some,
      draw_period]
  · intro start byte inside
    have drawn := draws_count 1 start (fun r => table.cells.getD r 0 == byte)
    have cells := cells_count table.cells byte
    rw [table.sized] at cells
    rw [window_draws table buffSize start _ inside, ← cells, List.count, List.countP_map]
    exact drawn
  · intro seed start index inside
    have once : (List.range 4096).countP (fun r => r == index) = 1 :=
      List.count_eq_one_of_mem List.nodup_range (List.mem_range.mpr inside)
    rw [draws_count seed start (fun r => r == index), once]

def fourSymbols : Table :=
  ⟨(List.range PROBATABLESIZE).map (fun i => UInt8.ofNat (i / 1024)), by rw [List.length_map, List.length_range]⟩

theorem four_symbols_frequencies :
    (((generateFrom fourSymbols (2 ^ 24)).drop 5).take (2 ^ 23)).count 2 = 2048 * fourSymbols.cells.count 2 :=
  (generate_frequencies fourSymbols (2 ^ 24)).2.2.1 5 2 (by decide)

end SprAccelProfiling.Random
