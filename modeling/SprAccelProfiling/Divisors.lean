import SprAccelProfiling.Bookkeeping
import SprAccelProfiling.CorpusLoader

set_option autoImplicit false

namespace SprAccelProfiling.Corpus

open SprAccelProfiling.Loop

theorem load_body_count {sizePerBuf : Nat} (malloc : Malloc sizePerBuf) (fuel i : Nat) (loading next : Loading)
    (moved : loadBody malloc fuel i loading = .ok next) : next.testBufs.length = loading.testBufs.length + 1 := by
  rw [loadBody] at moved
  split at moved
  · cases moved
  · cases moved
  · cases moved
    simp

theorem load_sized_count (content : Bytes) (size : Int) (sizePerBuf : Nat) (malloc : Malloc sizePerBuf) (fuel : Nat)
    (loaded : Loaded) (returned : loadSized content size sizePerBuf malloc fuel = .ok loaded) :
    loaded.num_bufs = size.tdiv sizePerBuf ∧ loaded.testBufs.length = loaded.num_bufs.toNat := by
  simp only [loadSized] at returned
  split at returned
  · cases returned
  · rename_i last ended
    cases returned
    refine ⟨rfl, ?_⟩
    exact up_to_invariant (loadBody malloc fuel) (fun i loading => loading.testBufs.length = i) _ _ last rfl
      (fun i before after _ count moved => (load_body_count malloc fuel i before after moved).trans (by rw [count])) ended

theorem load_sized_none (content : Bytes) (size : Int) (sizePerBuf : Nat) (malloc : Malloc sizePerBuf) (fuel : Nat)
    (none : size.tdiv sizePerBuf = 0) :
    ∃ loaded, loadSized content size sizePerBuf malloc fuel = .ok loaded ∧ loaded.num_bufs = 0 := by
  refine ⟨⟨0, [], 0, 0, decide (size < sizePerBuf)⟩, ?_, rfl⟩
  simp only [loadSized, none, Int.toNat_zero, upTo]

end SprAccelProfiling.Corpus

namespace SprAccelProfiling.Latency

open SprAccelProfiling.Loop SprAccelProfiling.Corpus

theorem tdiv_zero_iff (a : Int) (b : Nat) (positive : 0 < b) : a.tdiv b = 0 ↔ -(b : Int) < a ∧ a < b := by
  rcases Int.le_total 0 a with nonneg | nonpos
  · obtain ⟨n, rfl⟩ := Int.eq_ofNat_of_zero_le nonneg
    rw [← Int.ofNat_tdiv, Int.natCast_eq_zero, Nat.div_eq_zero_iff]
    omega
  · obtain ⟨n, negated⟩ := Int.eq_ofNat_of_zero_le (Int.neg_nonneg_of_nonpos nonpos)
    obtain rfl : a = -n := by omega
    rw [Int.neg_tdiv, ← Int.ofNat_tdiv, Int.neg_eq_zero, Int.natCast_eq_zero, Nat.div_eq_zero_iff]
    omega

inductive Division where
  | slot (num_bufs : Int)
  | ratio (denominator : Int)
  | average (num_iters : Int)

def Division.divisor : Division → Int
  | .slot num_bufs => num_bufs
  | .ratio denominator => denominator
  | .average num_iters => num_iters

section Program

variable {σ : Type} (h : Harness) (codec : Deflater σ) (inflater : Inflater) (size : Nat) (num_iters : Int)
variable (nanos : Nat → UInt64) (fuel : Nat)

inductive Evaluates (inputs : List Bytes) (storage : Storage σ size inputs.length) : Division → Prop where
  | compressSlot (i : Nat) (before : State σ) (within : i < iterations num_iters inputs.length)
      (reached : upTo (compressBody h codec size fuel inputs nanos) i
        (start h codec (iterations num_iters inputs.length) storage) = .ok before) :
      Evaluates inputs storage (.slot inputs.length)
  | avgRatio (middle : State σ)
      (reached : upTo (compressBody h codec size fuel inputs nanos) (iterations num_iters inputs.length)
        (start h codec (iterations num_iters inputs.length) storage) = .ok middle) :
      Evaluates inputs storage (.ratio (size * inputs.length))
  | compressAverage (middle : State σ)
      (reached : upTo (compressBody h codec size fuel inputs nanos) (iterations num_iters inputs.length)
        (start h codec (iterations num_iters inputs.length) storage) = .ok middle) :
      Evaluates inputs storage (.average (iterations num_iters inputs.length))
  | decompressSlot (middle before : State σ) (i : Nat) (within : i < iterations num_iters inputs.length)
      (reached : upTo (compressBody h codec size fuel inputs nanos) (iterations num_iters inputs.length)
        (start h codec (iterations num_iters inputs.length) storage) = .ok middle)
      (entered : upTo (decompressBody h inflater size (iterations num_iters inputs.length) inputs nanos) i
        (readSizes inputs.length middle) = .ok before)
      (opened : h.initFails (inflater.init i) = false) :
      Evaluates inputs storage (.slot inputs.length)
  | decompressAverage (middle last : State σ)
      (reached : upTo (compressBody h codec size fuel inputs nanos) (iterations num_iters inputs.length)
        (start h codec (iterations num_iters inputs.length) storage) = .ok middle)
      (left : upTo (decompressBody h inflater size (iterations num_iters inputs.length) inputs nanos)
        (iterations num_iters inputs.length) (readSizes inputs.length middle) = .ok last) :
      Evaluates inputs storage (.average (iterations num_iters inputs.length))

-- int compressed_sizes[num_bufs] has no meaning for a negative bound: the run goes no further.
inductive Divides (content : Bytes) (malloc : Malloc size) (storage : (count : Nat) → Storage σ size count) :
    Division → Prop where
  | loaded (loaded : Loaded) (division : Division)
      (returned : corpusToInputBuffer (some content) size malloc fuel = .ok loaded) (bound : 0 ≤ loaded.num_bufs)
      (evaluated : Evaluates h codec inflater size num_iters nanos fuel loaded.testBufs
        (storage loaded.testBufs.length) division) :
      Divides content malloc storage division

theorem evaluates_divisor (inputs : List Bytes) (storage : Storage σ size inputs.length) (division : Division)
    (evaluated : Evaluates h codec inflater size num_iters nanos fuel inputs storage division) :
    division.divisor = inputs.length ∨ division.divisor = size * inputs.length ∨
      division.divisor = iterations num_iters inputs.length := by
  cases evaluated with
  | compressSlot i before within reached => exact .inl rfl
  | avgRatio middle reached => exact .inr (.inl rfl)
  | compressAverage middle reached => exact .inr (.inr rfl)
  | decompressSlot middle before i within reached entered opened => exact .inl rfl
  | decompressAverage middle last reached left => exact .inr (.inr rfl)

theorem empty_evaluates (inputs : List Bytes) (storage : Storage σ size inputs.length) (empty : inputs.length = 0) :
    ∃ division, Evaluates h codec inflater size num_iters nanos fuel inputs storage division ∧
      division.divisor = 0 := by
  by_cases rounds : 0 < iterations num_iters inputs.length
  · exact ⟨_, .compressSlot 0 _ rounds rfl, by rw [Division.divisor, empty]; rfl⟩
  · refine ⟨.ratio (size * inputs.length), .avgRatio (start h codec (iterations num_iters inputs.length) storage) ?_, ?_⟩
    · rw [Nat.eq_zero_of_not_pos rounds]
      rfl
    · rw [Division.divisor, empty]
      exact Int.mul_zero _

theorem compress_error (inputs : List Bytes) (i : Nat) (state : State σ)
    (stopped : compressBody h codec size fuel inputs nanos i state = .error .divisionByZero) : inputs.length = 0 := by
  by_contra nonempty
  rw [compressBody, if_neg nonempty] at stopped
  dsimp only at stopped
  split at stopped
  · cases stopped
  · cases stopped
  · split at stopped
    · cases stopped
    · split at stopped <;> cases stopped

theorem decompress_error (inputs : List Bytes) (rounds i : Nat) (state : State σ)
    (stopped : decompressBody h inflater size rounds inputs nanos i state = .error .divisionByZero) :
    inputs.length = 0 := by
  by_contra nonempty
  rw [decompressBody, if_neg nonempty] at stopped
  split at stopped
  · cases stopped
  · dsimp only at stopped
    split at stopped
    · cases stopped
    · split at stopped
      · split at stopped <;> cases stopped
      · cases stopped

theorem summary_error (level : Int) (avg_ratio : Rat) (direction : Direction) (rounds : Nat) (times : List Nat)
    (stop : Stop) (stopped : summary size level avg_ratio direction rounds times = .error stop) : rounds = 0 := by
  by_contra positive
  rw [summary, if_neg positive] at stopped
  cases stopped

theorem main_trap_evaluated (inputs : Payloads size) (storage : Storage σ size inputs.buffers.length)
    (trapped : main h codec inflater size num_iters inputs storage nanos fuel = .error .divisionByZero) :
    ∃ division, Evaluates h codec inflater size num_iters nanos fuel inputs.buffers storage division ∧
      division.divisor = 0 := by
  have enough := iterations_cover num_iters inputs.buffers.length
  apply empty_evaluates
  simp only [main] at trapped
  split at trapped
  · rename_i stop left
    cases trapped
    obtain ⟨i, before, _, _, stopped⟩ := up_to_leaves _ _ _ _ left
    exact compress_error h codec size nanos fuel inputs.buffers i before stopped
  · split at trapped
    · rename_i stop stopped
      have rounds := summary_error _ _ _ _ _ _ _ stopped
      omega
    · split at trapped
      · rename_i stop left
        cases trapped
        obtain ⟨i, before, _, _, stopped⟩ := up_to_leaves _ _ _ _ left
        exact decompress_error h inflater size nanos inputs.buffers _ i before stopped
      · split at trapped
        · rename_i stop stopped
          have rounds := summary_error _ _ _ _ _ _ _ stopped
          omega
        · cases trapped

theorem loaded_nonzero_iff (content : Bytes) (malloc : Malloc size)
    (storage : (count : Nat) → Storage σ size count) (positive : 1 ≤ size) :
    (∀ division, Divides h codec inflater size num_iters nanos fuel content malloc storage division →
      division.divisor ≠ 0) ↔ ¬ (-(size : Int) < ftellInt content ∧ ftellInt content < size) := by
  rw [← tdiv_zero_iff (ftellInt content) size positive]
  constructor
  · intro nonzero none
    obtain ⟨loaded, returned, count⟩ := load_sized_none content (ftellInt content) size malloc fuel none
    have buffers := (load_sized_count content (ftellInt content) size malloc fuel loaded returned).2
    rw [count] at buffers
    obtain ⟨division, evaluated, zero⟩ := empty_evaluates h codec inflater size num_iters nanos fuel loaded.testBufs
      (storage loaded.testBufs.length) buffers
    exact nonzero division (.loaded loaded division returned (Int.le_of_eq count.symm) evaluated) zero
  · intro some division divides
    cases divides with
    | loaded loaded _ returned bound evaluated =>
        obtain ⟨count, buffers⟩ := load_sized_count content (ftellInt content) size malloc fuel loaded returned
        have enough := iterations_cover num_iters loaded.testBufs.length
        have filled : 0 < loaded.testBufs.length := by omega
        rcases evaluates_divisor h codec inflater size num_iters nanos fuel loaded.testBufs _ division evaluated with
          slot | ratio | average
        · omega
        · rw [ratio]
          exact Int.mul_ne_zero (by omega) (by omega)
        · omega

theorem divisors_nonzero_iff (content : Bytes) (malloc : Malloc size)
    (storage : (count : Nat) → Storage σ size count) (positive : 1 ≤ size) :
    ((∀ division, Divides h codec inflater size num_iters nanos fuel content malloc storage division →
      division.divisor ≠ 0) ↔ ¬ (-(size : Int) < ftellInt content ∧ ftellInt content < size)) ∧
    ∀ inputs : Payloads size,
      main h codec inflater size num_iters inputs (storage inputs.buffers.length) nanos fuel = .error .divisionByZero →
      ∃ division, Evaluates h codec inflater size num_iters nanos fuel inputs.buffers (storage inputs.buffers.length)
        division ∧ division.divisor = 0 :=
  ⟨loaded_nonzero_iff h codec inflater size num_iters nanos fuel content malloc storage positive,
    fun inputs => main_trap_evaluated h codec inflater size num_iters nanos fuel inputs (storage inputs.buffers.length)⟩

end Program

def blankStorage (size count : Nat) : Storage (Option Bytes) size count where
  stream := cleanStream
  compressed_sizes := List.replicate count 0
  output_buffers := List.replicate count (List.replicate (maxExpandIsal size) 0)
  output_buffers_2 := List.replicate count (List.replicate size 0)
  sizes_count := List.length_replicate
  outputs_count := List.length_replicate
  outputs_size := fun j within => by simp [within]
  outputs_2_count := List.length_replicate
  outputs_2_size := fun j within => by simp [within]

theorem two_bytes_divide :
    ((∀ division, Divides .zlib (Harness.zlib.storing (padTo 9)) (Harness.zlib.answering [7]) 1 3 (fun _ => 0) 5 [7, 8]
        (cleared 1) (blankStorage 1) division → division.divisor ≠ 0) ↔
      ¬ (-1 < ftellInt [7, 8] ∧ ftellInt [7, 8] < 1)) ∧
    ∀ inputs : Payloads 1, main .zlib (Harness.zlib.storing (padTo 9)) (Harness.zlib.answering [7]) 1 3 inputs
        (blankStorage 1 inputs.buffers.length) (fun _ => 0) 5 = .error .divisionByZero →
      ∃ division, Evaluates .zlib (Harness.zlib.storing (padTo 9)) (Harness.zlib.answering [7]) 1 3 (fun _ => 0) 5
        inputs.buffers (blankStorage 1 inputs.buffers.length) division ∧ division.divisor = 0 :=
  divisors_nonzero_iff .zlib _ _ 1 3 (fun _ => 0) 5 [7, 8] (cleared 1) (blankStorage 1) (by decide)

theorem short_file_divides (h : Harness) :
    Divides h (h.storing (padTo 9)) (h.answering [7]) 2 1 (fun _ => 0) 5 [7] (cleared 2) (blankStorage 2) (.slot 0) :=
  .loaded ⟨0, [], 0, 0, true⟩ _ rfl (Int.le_refl 0) (.compressSlot 0 _ (by decide) rfl)

theorem divides_by_zero :
    ¬ (∀ division, Divides .zlib (Harness.zlib.storing (padTo 9)) (Harness.zlib.answering [7]) 2 1 (fun _ => 0) 5 [7]
        (cleared 2) (blankStorage 2) division → division.divisor ≠ 0) ∧
      ¬ ∀ division, Divides .isal (Harness.isal.storing (padTo 9)) (Harness.isal.answering [7]) 2 1 (fun _ => 0) 5 [7]
        (cleared 2) (blankStorage 2) division → division.divisor ≠ 0 :=
  ⟨fun nonzero => nonzero _ (short_file_divides .zlib) rfl, fun nonzero => nonzero _ (short_file_divides .isal) rfl⟩

end SprAccelProfiling.Latency
