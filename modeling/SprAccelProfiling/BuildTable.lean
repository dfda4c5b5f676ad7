import SprAccelProfiling.CInt
import SprAccelProfiling.FileStore
import SprAccelProfiling.Loop
import SprAccelProfiling.RandomBuffer
import SprAccelProfiling.RunLength
import SprAccelProfiling.Shares
import Mathlib.Algebra.Order.Floor.Semiring
import Mathlib.Data.Rat.Floor

set_option autoImplicit false

namespace SprAccelProfiling.BuildTable

open SprAccelProfiling.CInt SprAccelProfiling.FileStore SprAccelProfiling.Loop SprAccelProfiling.Random
open SprAccelProfiling.RunLength SprAccelProfiling.Shares

def unsigned (v : Nat) : Nat := v % 2 ^ 32

structure Building where
  remaining : Int
  table : Cursor UInt8
  s : Nat

def building : Building := ⟨PROBATABLESIZE, Cursor.start, 0⟩

def storeRun (c : UInt8) : Nat → Cursor UInt8 → Cursor UInt8
  | 0, table => table
  | turns + 1, table => storeRun c turns (table.put c)

section Program

variable {K : Type} [Field K] [LinearOrder K] [FloorSemiring K] (p : K)

-- if (p==0.0) p=0.005;
def usedP : K := if p = 0 then 5 / 1000 else p

-- n, for products that an unsigned int has room for.
def slots (remaining : Int) : Nat :=
  let n := ⌊(remaining : K) * p⌋₊
  if n = 0 then 1 else n

def buildBody (state : Building) : Building :=
  let n := slots p state.remaining
  let pos := state.table.position
  let stop := unsigned (pos + n)
  ⟨narrow (state.remaining - n), storeRun (UInt8.ofNat state.s) (stop - pos) state.table, unsigned (state.s + 1)⟩

def buildTurn (state : Building) : Turn Building Building :=
  if state.remaining ≠ 0 then .again (buildBody p state) else .done state

end Program

theorem store_run_extended (c : UInt8) (turns : Nat) (table : Cursor UInt8) :
    Extended c turns table (storeRun c turns table) := by
  induction turns generalizing table with
  | zero => exact extended_none c table
  | succ turns ih => exact extended_put c turns table _ (ih (table.put c))

section Shares

variable {K : Type} [Field K] [LinearOrder K] [FloorSemiring K] (p : K)

def share (rest : Nat) : Nat := slots p rest

theorem share_positive (rest : Nat) : 0 < share p rest := by
  unfold share slots
  dsimp only
  split
  · exact Nat.one_pos
  · exact Nat.pos_of_ne_zero ‹_›

variable [IsStrictOrderedRing K]

theorem share_le (small : p ≤ 1) (rest : Nat) (some : 0 < rest) : share p rest ≤ rest := by
  unfold share slots
  dsimp only
  split
  · exact some
  · have bound : (rest : K) * p ≤ rest := mul_le_of_le_one_right (Nat.cast_nonneg rest) small
    rw [Int.cast_natCast]
    exact Nat.floor_le_of_le bound

theorem share_mono (nonneg : 0 ≤ p) : Monotone (share p) := by
  intro less more below
  have product : (less : K) * p ≤ more * p := mul_le_mul_of_nonneg_right (Nat.cast_le.mpr below) nonneg
  have floors := Nat.floor_le_floor product
  unfold share slots
  rw [Int.cast_natCast, Int.cast_natCast]
  dsimp only
  split_ifs
  all_goals omega

end Shares

section Rounds

variable {K : Type} [Field K] [LinearOrder K] [FloorSemiring K] (p : K)

def rounds (count : Nat) : Building := (buildBody p)^[count] building

def symbolRun (k : Nat) : Nat × UInt8 := (slots p (rounds p k).remaining, UInt8.ofNat (rounds p k).s)

def rest (count : Nat) : Nat := left (share p) PROBATABLESIZE count

structure Built (count : Nat) (state : Building) : Prop where
  remaining : state.remaining = rest p count
  position : state.table.position + rest p count = PROBATABLESIZE
  symbol : state.s = count
  packed : state.table.Packed
  items : state.table.stores.map Prod.snd = expand (symbolRun p) count

theorem rounds_succ (count : Nat) : rounds p (count + 1) = buildBody p (rounds p count) :=
  Function.iterate_succ_apply' _ count building

theorem round_goes (count : Nat) (going : (rounds p count).remaining ≠ 0) :
    buildTurn p (rounds p count) = .again (rounds p (count + 1)) := by
  rw [buildTurn, if_pos going, rounds_succ]

theorem build_ends_iff (last : Building) : Ends (buildTurn p) building last ↔
    ∃ count, (rounds p count).remaining = 0 ∧ (∀ m, m < count → (rounds p m).remaining ≠ 0) ∧ last = rounds p count :=
  ends_at_first (buildTurn p) (rounds p) (rounds p) (fun count => (rounds p count).remaining = 0) (round_goes p)
    (fun count stopped => by rw [buildTurn, if_neg (not_not.mpr stopped)]) last

theorem built_start : Built p 0 (rounds p 0) :=
  ⟨rfl, Nat.zero_add _, rfl, rfl, rfl⟩

theorem built_share (count : Nat) (built : Built p count (rounds p count)) :
    (symbolRun p count).1 = share p (rest p count) := by
  rw [symbolRun, built.remaining, share]

theorem round_extended (count : Nat) (inside : (rounds p count).table.position + (symbolRun p count).1 ≤ PROBATABLESIZE) :
    Extended (symbolRun p count).2 (symbolRun p count).1 (rounds p count).table (rounds p (count + 1)).table := by
  have turns : unsigned ((rounds p count).table.position + (symbolRun p count).1) - (rounds p count).table.position =
      (symbolRun p count).1 := by
    unfold PROBATABLESIZE at inside
    rw [unsigned]
    omega
  have written : (rounds p (count + 1)).table =
      storeRun (symbolRun p count).2 (symbolRun p count).1 (rounds p count).table := by
    rw [rounds_succ]
    exact congrArg (fun turns => storeRun (symbolRun p count).2 turns (rounds p count).table) turns
  rw [written]
  exact store_run_extended _ _ _

variable [IsStrictOrderedRing K]

theorem built_next (small : p ≤ 1) (count : Nat) (built : Built p count (rounds p count)) (going : rest p count ≠ 0) :
    Built p (count + 1) (rounds p (count + 1)) := by
  have taken := built_share p count built
  have fits := share_le p small (rest p count) (Nat.pos_of_ne_zero going)
  have bound : rest p count ≤ PROBATABLESIZE - count := left_le (share p) PROBATABLESIZE (share_positive p) count
  have next : rest p (count + 1) = rest p count - share p (rest p count) := left_succ (share p) PROBATABLESIZE count
  have position := built.position
  have extended := round_extended p count (by omega)
  refine ⟨?_, ?_, ?_, packed_extended _ _ _ _ built.packed extended, ?_⟩
  · have int : Fits ((rounds p count).remaining - (symbolRun p count).1) := by
      rw [taken, built.remaining, Fits, INT_MIN, INT_MAX]
      unfold PROBATABLESIZE at position
      omega
    rw [rounds_succ]
    refine ((narrow_iff _).mpr int).trans ?_
    rw [taken, built.remaining, next]
    omega
  · rw [extended.position, taken, next]
    omega
  · rw [rounds_succ]
    show unsigned ((rounds p count).s + 1) = count + 1
    rw [built.symbol, unsigned]
    unfold PROBATABLESIZE at bound
    omega
  · rw [extended.items, built.items, expand_succ]

theorem rounds_built (small : p ≤ 1) (count : Nat) (going : ∀ k, k < count → rest p k ≠ 0) :
    Built p count (rounds p count) := by
  induction count with
  | zero => exact built_start p
  | succ count ih =>
      exact built_next p small count (ih (fun k below => going k (Nat.lt_succ_of_lt below)))
        (going count (Nat.lt_succ_self count))

structure FilledExactly (count : Nat) : Prop where
  few : count ≤ PROBATABLESIZE
  goes : ∀ k, k < count → buildTurn p (rounds p k) = .again (rounds p (k + 1))
  ends : Ends (buildTurn p) building (rounds p count)
  balance : ∀ k, k ≤ count → (rounds p k).table.position + (rounds p k).remaining = PROBATABLESIZE
  bounded : ∀ k, k < count → slots p (rounds p k).remaining ≤ (rounds p k).remaining
  symbols : ∀ k, k ≤ count → (rounds p k).s = k
  places : (rounds p count).table.stores.map Prod.fst = List.range PROBATABLESIZE
  items : (rounds p count).table.stores.map Prod.snd = expand (symbolRun p) count
  decreasing : ∀ k, k + 1 < count → (symbolRun p (k + 1)).1 ≤ (symbolRun p k).1

theorem filled_exactly (nonneg : 0 ≤ p) (small : p ≤ 1) : ∃ count, FilledExactly p count := by
  obtain ⟨count, few, empty, going⟩ := exhausted (share p) PROBATABLESIZE (share_positive p)
  have built : ∀ k, k ≤ count → Built p k (rounds p k) := fun k within =>
    rounds_built p small k (fun m below => going m (Nat.lt_of_lt_of_le below within))
  have taken : ∀ k, k ≤ count → (symbolRun p k).1 = share p (rest p k) := fun k within =>
    built_share p k (built k within)
  have some : ∀ k, k < count → (rounds p k).remaining ≠ 0 := by
    intro k below
    rw [(built k (Nat.le_of_lt below)).remaining]
    exact Int.natCast_ne_zero.mpr (going k below)
  have none : (rounds p count).remaining = 0 := by
    rw [(built count (Nat.le_refl count)).remaining, rest, empty]
    rfl
  have position := (built count (Nat.le_refl count)).position
  rw [rest, empty, Nat.add_zero] at position
  refine ⟨count, few, fun k below => round_goes p k (some k below), (build_ends_iff p _).mpr ⟨count, none, some, rfl⟩,
    ?_, ?_, fun k within => (built k within).symbol, ?_, (built count (Nat.le_refl count)).items, ?_⟩
  · intro k within
    have balance := (built k within).position
    rw [(built k within).remaining]
    omega
  · intro k below
    have within := Nat.le_of_lt below
    show (symbolRun p k).1 ≤ (rounds p k).remaining
    rw [taken k within, (built k within).remaining]
    exact Int.ofNat_le.mpr (share_le p small (rest p k) (Nat.pos_of_ne_zero (going k below)))
  · exact (built count (Nat.le_refl count)).packed.trans (congrArg List.range position)
  · intro k below
    rw [taken (k + 1) (Nat.le_of_lt below), taken k (by omega)]
    exact share_decreases (share p) PROBATABLESIZE (share_mono p nonneg) k

theorem used_p_bounds (nonneg : 0 ≤ p) (small : p ≤ 1) : 0 ≤ usedP p ∧ usedP p ≤ 1 := by
  rw [usedP]
  by_cases zero : p = 0
  · rw [if_pos zero]
    constructor
    · positivity
    · norm_num
  · rw [if_neg zero]
    exact ⟨nonneg, small⟩

theorem build_table_exact (nonneg : 0 ≤ p) (small : p ≤ 1) : ∃ count, FilledExactly (usedP p) count := by
  obtain ⟨above, below⟩ := used_p_bounds p nonneg small
  exact filled_exactly (usedP p) above below

theorem build_table_half : ∃ count, FilledExactly (usedP (1 / 2 : Rat)) count :=
  build_table_exact (1 / 2) (by norm_num) (by norm_num)

end Rounds

section Generate

def builtTable (last : Building) : Table where
  cells := (List.range PROBATABLESIZE).map (fun i => (putAll last.table.stores (fun _ => some 0) i).getD 0)
  sized := by rw [List.length_map, List.length_range]

variable {K : Type} [Field K] [LinearOrder K] [FloorSemiring K] (p : K)

def Generates (buffSize : Nat) (buffer : List UInt8) : Prop :=
  ∃ last, Ends (buildTurn (usedP p)) building last ∧ buffer = generateFrom (builtTable last) buffSize

theorem filled_cells (count : Nat) (filled : FilledExactly p count) :
    (builtTable (rounds p count)).cells = expand (symbolRun p) count := by
  have length : (expand (symbolRun p) count).length = PROBATABLESIZE := by
    rw [← filled.items, List.length_map, ← List.length_map (f := Prod.fst), filled.places, List.length_range]
  apply List.ext_getElem
  · rw [(builtTable (rounds p count)).sized, length]
  · intro i inTable inRuns
    have inside : i < PROBATABLESIZE := length ▸ inRuns
    simp only [builtTable, List.getElem_map, List.getElem_range]
    rw [put_all_range _ _ PROBATABLESIZE filled.places, if_pos inside, filled.items, List.getElem?_eq_getElem inRuns,
      Option.getD_some]

theorem generates_iff [IsStrictOrderedRing K] (nonneg : 0 ≤ p) (small : p ≤ 1) (buffSize : Nat) :
    ∃ count table, FilledExactly (usedP p) count ∧ table.cells = expand (symbolRun (usedP p)) count ∧
      ∀ buffer, Generates p buffSize buffer ↔ buffer = generateFrom table buffSize := by
  obtain ⟨above, below⟩ := used_p_bounds p nonneg small
  obtain ⟨count, filled⟩ := filled_exactly (usedP p) above below
  refine ⟨count, builtTable (rounds (usedP p) count), filled, filled_cells (usedP p) count filled, fun buffer => ?_⟩
  constructor
  · intro generates
    obtain ⟨last, ended, rfl⟩ := generates
    rw [ends_unique _ _ _ _ ended filled.ends]
  · intro same
    exact ⟨_, filled.ends, same⟩

end Generate

end SprAccelProfiling.BuildTable
