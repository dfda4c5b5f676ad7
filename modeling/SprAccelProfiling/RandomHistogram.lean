import SprAccelProfiling.BuildTable

set_option autoImplicit false

namespace SprAccelProfiling.BuildTable

open SprAccelProfiling.Random SprAccelProfiling.RunLength

section Windows

theorem windows_count (holds : Nat → Bool) (width each : Nat)
    (window : ∀ start, (List.range width).countP (fun k => holds (start + k)) = each) (start windows : Nat) :
    (List.range (windows * width)).countP (fun k => holds (start + k)) = windows * each := by
  induction windows with
  | zero => simp
  | succ windows ih =>
      have last := window (start + windows * width)
      simp only [Nat.add_assoc] at last
      rw [Nat.succ_mul, List.range_add, List.countP_append, ih, List.countP_map, Nat.succ_mul, ← last]
      rfl

theorem periods_count (seed : UInt32) (start periods : Nat) (q : Nat → Bool) :
    (List.range (periods * 2 ^ 23)).countP (fun k => q (draw seed (start + k))) =
      periods * (2048 * (List.range 4096).countP q) :=
  windows_count (fun k => q (draw seed k)) (2 ^ 23) _ (fun start => draws_count seed start q) start periods

theorem periods_bytes (table : Table) (buffSize start periods : Nat) (byte : UInt8)
    (inside : start + periods * 2 ^ 23 ≤ buffSize) :
    (((generateFrom table buffSize).drop start).take (periods * 2 ^ 23)).count byte =
      periods * (2048 * table.cells.count byte) := by
  have drawn := periods_count 1 start periods (fun r => table.cells.getD r 0 == byte)
  have cells := cells_count table.cells byte
  rw [table.sized] at cells
  rw [window_draws table buffSize start _ inside, ← cells, List.count, List.countP_map]
  exact drawn

end Windows

theorem byte_succ (byte : UInt8) (next : byte.toNat + 1 < 256) : (byte + 1).toNat = byte.toNat + 1 := by
  rw [UInt8.toNat_add]
  exact Nat.mod_eq_of_lt next

section Frequencies

variable {K : Type} [Field K] [LinearOrder K] [FloorSemiring K] (p : K)

-- The symbols count up in a char, so the run before one of byte + 1 is one of byte, and longer.
theorem cells_fall (count : Nat) (filled : FilledExactly p count) (byte : UInt8) (next : byte.toNat + 1 < 256) :
    (expand (symbolRun p) count).count (byte + 1) ≤ (expand (symbolRun p) count).count byte := by
  cases count with
  | zero => exact Nat.le_refl 0
  | succ last =>
      have symbol : ∀ k, k ≤ last → (symbolRun p k).2 = UInt8.ofNat k := by
        intro k within
        rw [symbolRun, filled.symbols k (by omega)]
      have later := byte_succ byte next
      have first : (symbolRun p 0).2 ≠ byte + 1 := by
        intro same
        rw [symbol 0 (Nat.zero_le _)] at same
        have zero := congrArg UInt8.toNat same
        rw [later] at zero
        cases zero
      have follows := expand_count_follows (symbolRun p) (byte + 1) byte last first (fun k below own => ?_)
      · refine Nat.le_trans follows ?_
        rw [expand_count_succ]
        exact Nat.le_add_right _ _
      · refine ⟨?_, filled.decreasing k (by omega)⟩
        rw [symbol (k + 1) (by omega)] at own
        rw [symbol k (by omega)]
        apply UInt8.toNat_inj.mp
        have number := congrArg UInt8.toNat own
        rw [later, UInt8.toNat_ofNat'] at number
        rw [UInt8.toNat_ofNat']
        omega

theorem cells_antitone (count : Nat) (filled : FilledExactly p count) (low : UInt8) (distance : Nat) (high : UInt8)
    (apart : high.toNat = low.toNat + distance) :
    (expand (symbolRun p) count).count high ≤ (expand (symbolRun p) count).count low := by
  induction distance generalizing high with
  | zero => rw [UInt8.toNat_inj.mp apart]
  | succ distance ih =>
      have bound := high.toNat_lt
      have before : (UInt8.ofNat (low.toNat + distance)).toNat = low.toNat + distance := by
        rw [UInt8.toNat_ofNat']
        omega
      have next : high = UInt8.ofNat (low.toNat + distance) + 1 := by
        apply UInt8.toNat_inj.mp
        rw [byte_succ _ (by omega), before, apart, Nat.add_assoc]
      rw [next]
      exact Nat.le_trans (cells_fall p count filled _ (by omega)) (ih _ before)

variable [IsStrictOrderedRing K]

theorem generated_frequencies (nonneg : 0 ≤ p) (small : p ≤ 1) (buffSize : Nat) (buffer : List UInt8)
    (generates : Generates p buffSize buffer) :
    ∃ count, FilledExactly (usedP p) count ∧ ∀ start periods, start + periods * 2 ^ 23 ≤ buffSize →
      (∀ byte, ((buffer.drop start).take (periods * 2 ^ 23)).count byte =
        periods * (2048 * (expand (symbolRun (usedP p)) count).count byte)) ∧
      ∀ low high : UInt8, low ≤ high → ((buffer.drop start).take (periods * 2 ^ 23)).count high ≤
        ((buffer.drop start).take (periods * 2 ^ 23)).count low := by
  obtain ⟨count, table, filled, cells, only⟩ := generates_iff p nonneg small buffSize
  refine ⟨count, filled, fun start periods inside => ?_⟩
  have exact : ∀ byte, ((buffer.drop start).take (periods * 2 ^ 23)).count byte =
      periods * (2048 * (expand (symbolRun (usedP p)) count).count byte) := by
    intro byte
    rw [(only buffer).mp generates, periods_bytes table buffSize start periods byte inside, cells]
  refine ⟨exact, fun low high order => ?_⟩
  rw [exact, exact]
  have apart : high.toNat = low.toNat + (high.toNat - low.toNat) := (Nat.add_sub_of_le order).symm
  exact Nat.mul_le_mul_left _ (Nat.mul_le_mul_left _ (cells_antitone (usedP p) count filled low _ high apart))

end Frequencies

theorem half_frequencies :
    ∃ buffer, Generates (1 / 2 : Rat) (2 ^ 24) buffer ∧
      ∃ count, FilledExactly (usedP (1 / 2 : Rat)) count ∧ ∀ start periods, start + periods * 2 ^ 23 ≤ 2 ^ 24 →
        (∀ byte, ((buffer.drop start).take (periods * 2 ^ 23)).count byte =
          periods * (2048 * (expand (symbolRun (usedP (1 / 2 : Rat))) count).count byte)) ∧
        ∀ low high : UInt8, low ≤ high → ((buffer.drop start).take (periods * 2 ^ 23)).count high ≤
          ((buffer.drop start).take (periods * 2 ^ 23)).count low := by
  obtain ⟨_, table, _, _, only⟩ := generates_iff (1 / 2 : Rat) (by norm_num) (by norm_num) (2 ^ 24)
  have generates := (only _).mpr rfl
  exact ⟨_, generates, generated_frequencies (1 / 2 : Rat) (by norm_num) (by norm_num) (2 ^ 24) _ generates⟩

end SprAccelProfiling.BuildTable
