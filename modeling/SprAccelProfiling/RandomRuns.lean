import SprAccelProfiling.FileStore
import SprAccelProfiling.Loop
import SprAccelProfiling.RunLength
import Mathlib.Logic.Function.Iterate

set_option autoImplicit false

namespace SprAccelProfiling.Random

open SprAccelProfiling.FileStore SprAccelProfiling.Loop SprAccelProfiling.RunLength

-- out.position is ptr - data, drawn counts the calls of rand.
structure Writing where
  out : Cursor UInt8
  drawn : Nat

def writeRun (size : Nat) (c : UInt8) : Nat → Cursor UInt8 → Cursor UInt8
  | 0, out => out
  | left + 1, out =>
      let next := out.put c
      if size ≤ next.position then next else writeRun size c left next

-- GET_LOWER_8BITS
def lower8Bits (v : Nat) : UInt8 := UInt8.ofNat (v &&& 255)

section Program

variable (rand : Nat → Nat) (size : Nat)

def runBody (writing : Writing) : Writing :=
  let j := rand writing.drawn % 100
  let c := lower8Bits (rand (writing.drawn + 1) % 65 + 90)
  ⟨writeRun size c j writing.out, writing.drawn + 2⟩

def randomTurn (writing : Writing) : Turn Writing Writing :=
  if writing.out.position < size then .again (runBody rand size writing) else .done writing

end Program

def unwritten : Writing := ⟨Cursor.start, 0⟩

def pair (rand : Nat → Nat) (k : Nat) : Nat × UInt8 := (rand (2 * k) % 100, UInt8.ofNat (90 + rand (2 * k + 1) % 65))

theorem lower_8_bits (v : Nat) : lower8Bits v = UInt8.ofNat v := by
  rw [lower8Bits, show 255 = 2 ^ 8 - 1 from rfl, Nat.and_two_pow_sub_one_eq_mod]
  exact UInt8.ofNat_mod_size

theorem pair_range (rand : Nat → Nat) (k : Nat) : 90 ≤ (pair rand k).2.toNat ∧ (pair rand k).2.toNat ≤ 154 := by
  have small : rand (2 * k + 1) % 65 < 65 := Nat.mod_lt _ (by decide)
  have fits : (pair rand k).2.toNat = 90 + rand (2 * k + 1) % 65 := UInt8.toNat_ofNat_of_lt' (by show _ < 256; omega)
  rw [fits]
  omega

theorem write_run_extended (size : Nat) (c : UInt8) (j : Nat) (out : Cursor UInt8) (inside : out.position < size) :
    Extended c (min j (size - out.position)) out (writeRun size c j out) := by
  induction j generalizing out with
  | zero =>
      rw [Nat.zero_min, writeRun]
      exact extended_none c out
  | succ j ih =>
      have next : (out.put c).position = out.position + 1 := rfl
      rw [writeRun]
      by_cases full : size ≤ (out.put c).position
      · have one : min (j + 1) (size - out.position) = 0 + 1 := by omega
        rw [if_pos full, one]
        exact extended_put c 0 out _ (extended_none c (out.put c))
      · have more : min (j + 1) (size - out.position) = min j (size - (out.put c).position) + 1 := by omega
        rw [if_neg full, more]
        exact extended_put c _ out _ (ih (out.put c) (Nat.lt_of_not_le full))

section Rounds

variable (rand : Nat → Nat) (size : Nat)

def rounds (count : Nat) : Writing := (runBody rand size)^[count] unwritten

structure Expanded (count : Nat) (writing : Writing) : Prop where
  position : writing.out.position = min size (total (pair rand) count)
  drawn : writing.drawn = 2 * count
  packed : writing.out.Packed
  bytes : writing.out.stores.map Prod.snd = (expand (pair rand) count).take size

theorem expanded_next (count : Nat) (writing : Writing) (expanded : Expanded rand size count writing)
    (inside : writing.out.position < size) : Expanded rand size (count + 1) (runBody rand size writing) := by
  have body : runBody rand size writing =
      ⟨writeRun size (pair rand count).2 (pair rand count).1 writing.out, writing.drawn + 2⟩ := by
    rw [runBody, expanded.drawn, lower_8_bits, Nat.add_comm _ 90]
    rfl
  have extended := write_run_extended size (pair rand count).2 (pair rand count).1 writing.out inside
  have position := extended.position
  have before := expanded.position
  have sum := total_succ (pair rand) count
  rw [body]
  refine ⟨?_, ?_, ?_, ?_⟩
  · dsimp only
    omega
  · rw [expanded.drawn]
    rfl
  · exact packed_extended _ _ _ _ expanded.packed extended
  · rw [extended.items, expanded.bytes, expand_succ, List.take_append, expand_length, List.take_replicate]
    congr 2
    omega

theorem rounds_expanded (count : Nat) (inside : ∀ m, m < count → (rounds rand size m).out.position < size) :
    Expanded rand size count (rounds rand size count) := by
  induction count with
  | zero => exact ⟨by simp [rounds, unwritten, Cursor.start, total], rfl, rfl,
      by simp [rounds, unwritten, Cursor.start, expand]⟩
  | succ count ih =>
      have before := ih (fun m below => inside m (Nat.lt_succ_of_lt below))
      rw [rounds, Function.iterate_succ_apply']
      exact expanded_next rand size count _ before (inside count (Nat.lt_succ_self count))

theorem rounds_inside_iff (count : Nat) : (∀ m, m < count → (rounds rand size m).out.position < size) ↔
    ∀ m, m < count → total (pair rand) m < size := by
  have last : ∀ m, (∀ k, k < m → (rounds rand size k).out.position < size) →
      ((rounds rand size m).out.position < size ↔ total (pair rand) m < size) := by
    intro m inside
    rw [(rounds_expanded rand size m inside).position]
    omega
  induction count with
  | zero => exact ⟨fun _ m impossible => absurd impossible (Nat.not_lt_zero m),
      fun _ m impossible => absurd impossible (Nat.not_lt_zero m)⟩
  | succ count ih =>
      rw [Nat.forall_lt_succ_right, Nat.forall_lt_succ_right]
      exact (and_congr_right (last count)).trans (and_congr_left' ih)

theorem random_ends_iff (last : Writing) : Ends (randomTurn rand size) unwritten last ↔
    ∃ count, size ≤ total (pair rand) count ∧ (∀ m, m < count → total (pair rand) m < size) ∧
      last = rounds rand size count := by
  have tracked := ends_at_first (randomTurn rand size) (rounds rand size) (rounds rand size)
    (fun count => size ≤ (rounds rand size count).out.position)
    (fun count going => by
      rw [randomTurn, if_pos (Nat.lt_of_not_le going), rounds, rounds, Function.iterate_succ_apply'])
    (fun count stopped => by rw [randomTurn, if_neg (Nat.not_lt_of_le stopped)]) last
  refine tracked.trans (exists_congr (fun count => ?_))
  simp only [Nat.not_le]
  rw [rounds_inside_iff, and_left_comm, and_left_comm (a := size ≤ total (pair rand) count)]
  apply and_congr_right
  intro shorter
  have expanded := rounds_expanded rand size count ((rounds_inside_iff rand size count).mpr shorter)
  rw [expanded.position, Nat.le_min, and_iff_right (Nat.le_refl size)]

structure CutExpansion (count : Nat) (last : Writing) : Prop where
  filled : size ≤ total (pair rand) count
  shortest : ∀ m, m < count → total (pair rand) m < size
  drawn : last.drawn = 2 * count
  positions : last.out.stores.map Prod.fst = List.range size
  bytes : last.out.stores.map Prod.snd = (expand (pair rand) count).take size

theorem random_ends_cut (last : Writing) (ended : Ends (randomTurn rand size) unwritten last) :
    ∃ count, CutExpansion rand size count last := by
  obtain ⟨count, filled, shortest, rfl⟩ := (random_ends_iff rand size last).mp ended
  have expanded := rounds_expanded rand size count ((rounds_inside_iff rand size count).mpr shortest)
  refine ⟨count, filled, shortest, expanded.drawn, ?_, expanded.bytes⟩
  rw [expanded.packed, expanded.position, Nat.min_eq_left filled]

theorem random_terminates_iff :
    Terminates (randomTurn rand size) unwritten ↔ ∃ count, size ≤ total (pair rand) count := by
  constructor
  · intro terminates
    obtain ⟨last, ended⟩ := terminates
    obtain ⟨count, cut⟩ := random_ends_cut rand size last ended
    exact ⟨count, cut.filled⟩
  · intro filled
    have before : ∀ m, m < Nat.find filled → total (pair rand) m < size :=
      fun m below => Nat.lt_of_not_le (Nat.find_min filled below)
    exact ⟨_, (random_ends_iff rand size _).mpr ⟨Nat.find filled, Nat.find_spec filled, before, rfl⟩⟩

end Rounds

def dataAfter (last : Writing) (data : Nat → Option UInt8) : Nat → Option UInt8 := putAll last.out.stores data

theorem cut_data (rand : Nat → Nat) (size count : Nat) (last : Writing) (cut : CutExpansion rand size count last)
    (data : Nat → Option UInt8) (i : Nat) :
    dataAfter last data i = if i < size then (expand (pair rand) count)[i]? else data i := by
  rw [dataAfter, put_all_range last.out.stores data size cut.positions, cut.bytes]
  by_cases inside : i < size
  · rw [if_pos inside, if_pos inside, List.getElem?_take_of_lt inside]
  · rw [if_neg inside, if_neg inside]

theorem cut_range (rand : Nat → Nat) (size count : Nat) (last : Writing) (cut : CutExpansion rand size count last)
    (byte : UInt8) (written : byte ∈ last.out.stores.map Prod.snd) : 90 ≤ byte.toNat ∧ byte.toNat ≤ 154 := by
  rw [cut.bytes] at written
  obtain ⟨k, rfl⟩ := expand_mem (pair rand) count byte (List.mem_of_mem_take written)
  exact pair_range rand k

theorem gen_random_data_expands (rand : Nat → Nat) (size : Nat) :
    (Terminates (randomTurn rand size) unwritten ↔ ∃ count, size ≤ total (pair rand) count) ∧
    ∀ last, Ends (randomTurn rand size) unwritten last → ∃ count, CutExpansion rand size count last ∧
      (∀ data i, dataAfter last data i = if i < size then (expand (pair rand) count)[i]? else data i) ∧
      ∀ byte ∈ last.out.stores.map Prod.snd, 90 ≤ byte.toNat ∧ byte.toNat ≤ 154 := by
  refine ⟨random_terminates_iff rand size, ?_⟩
  intro last ended
  obtain ⟨count, cut⟩ := random_ends_cut rand size last ended
  exact ⟨count, cut, cut_data rand size count last cut, cut_range rand size count last cut⟩

end SprAccelProfiling.Random
