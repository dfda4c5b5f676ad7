import SprAccelProfiling.DecompRows
import SprAccelProfiling.Mean

set_option autoImplicit false

namespace SprAccelProfiling.MeanTime

open SprAccelProfiling.CInt SprAccelProfiling.Corpus SprAccelProfiling.Decomp SprAccelProfiling.Mean

section Zlib

structure UncompressReply where
  status : Int
  produced : Nat
deriving DecidableEq

variable (uncompress : Nat → Nat → UncompressReply)

def callZlib (vars : Vars) : Vars :=
  let reply := uncompress vars.made vars.compressed_size
  { vars with
    outlen := reply.produced
    made := vars.made + 1
    timed := vars.timed ++ [⟨vars.compressed_size, SIZE, decide (reply.status = 0)⟩] }

-- The call before the loops is given the whole buffer as source, not what was read.
def firstZlib (vars : Vars) : Vars :=
  { vars with outlen := (uncompress vars.made SIZE).produced, made := vars.made + 1 }

-- This harness does not divide by iterations_per_run and keeps no bands.
def zlibRun (iterations_per_run : Nat) (clock : Nat → Nat × Nat) (measured : Measured) : Measured :=
  let reading := clock measured.times.length
  let elapsed : Rat := (reading.2 - reading.1 : Nat)
  ⟨(callZlib uncompress)^[iterations_per_run] measured.vars, measured.times ++ [elapsed], measured.bands⟩

def zlibFields (measured : Measured) (runs : Nat) : List Field :=
  let times := sorted measured.times
  [.time (median measured.times runs), .mean ((accumulate times).map (fun (sum : Int) => (sum.tdiv runs : Rat))),
    .time (times.getD (runs - 2) 0), .time (times.getD 0 0)]

def harnessZlib (machine : Machine) (content : Bytes) (iterations_per_run runs : Nat) : Outcome :=
  let measured := (zlibRun uncompress iterations_per_run machine.clock)^[runs]
    ⟨firstZlib uncompress (startVars machine content), [], []⟩
  ⟨[], [⟨zlibFields measured runs, measured.vars.timed⟩], 0⟩

end Zlib

inductive MeanHarness where
  | zstd
  | zstdNuma
  | lz4
  | zlib
deriving DecidableEq

def rows (libraries : Libraries) (uncompress : Nat → Nat → UncompressReply) (machine : Machine) (content : Bytes)
    (iterations_per_run runs : Nat) : MeanHarness → List Report
  | .zstd => (harnessZstd libraries machine content iterations_per_run runs).reports
  | .zstdNuma => (harnessZstdNuma libraries machine content iterations_per_run runs).reports
  | .lz4 => (harnessLz4 libraries machine content iterations_per_run runs).reports
  | .zlib => (harnessZlib uncompress machine content iterations_per_run runs).reports

def elapsed (clock : Nat → Nat × Nat) (j : Nat) : Nat := (clock j).2 - (clock j).1

def runTimes (clock : Nat → Nat × Nat) (iterations_per_run runs row : Nat) : MeanHarness → List Rat
  | .zstd | .zstdNuma | .lz4 =>
      (List.range runs).map (fun j => (elapsed clock (row * runs + j) : Rat) / iterations_per_run)
  | .zlib => (List.range runs).map (fun j => (elapsed clock j : Rat))

def printedMeans (row : List Field) : List (Option Rat) :=
  row.filterMap (fun field => match field with
    | .mean q => some q
    | _ => none)

def MeanIsMean (times : List Rat) (row : List Field) : Prop :=
  ∃ m, printedMeans row = [some m] ∧ m = mean times ∧ Between times m

def DividesAsInt : MeanHarness → Prop
  | .zstd | .zstdNuma => False
  | .lz4 | .zlib => True

structure Exact (harness : MeanHarness) (times : List Rat) : Prop where
  whole : ∀ t ∈ times, ∃ n : Nat, t = n
  fits : times.sum ≤ INT_MAX
  divides : DividesAsInt harness → ∃ n : Nat, times.sum = n * times.length

def rowCount (content : Bytes) : MeanHarness → Nat
  | .zstd | .lz4 | .zlib => 1
  | .zstdNuma => if readFile content < SIZE then 2 else 0

theorem sorted_perm (values : List Rat) : (sorted values).Perm values := List.mergeSort_perm values _

section Sums

variable (times : List Rat)

theorem exact_fits_iff (exact : (floors times : Rat) = times.sum) :
    floors times ≤ INT_MAX ↔ times.sum ≤ INT_MAX := by
  rw [← exact, Int.cast_le]

variable (nonneg : ∀ t ∈ times, 0 ≤ t)

include nonneg

theorem accumulate_sorted_iff (sum : Int) :
    accumulate (sorted times) = some sum ↔ floors times ≤ INT_MAX ∧ sum = floors times := by
  have sortedNonneg : ∀ t ∈ sorted times, 0 ≤ t := fun t member => nonneg t ((sorted_perm times).mem_iff.mp member)
  rw [← floors_perm _ _ (sorted_perm times)]
  exact cut_sum_iff (sorted times) sum sortedNonneg

theorem whole_iff : (∀ t ∈ times, (⌊t⌋ : Rat) = t) ↔ ∀ t ∈ times, ∃ n : Nat, t = n := by
  refine forall₂_congr (fun t member => ⟨fun floor => ?_, fun ⟨n, same⟩ => ?_⟩)
  · obtain ⟨n, same⟩ := Int.eq_ofNat_of_zero_le (Int.floor_nonneg.mpr (nonneg t member))
    exact ⟨n, by rw [← floor, same, Int.cast_natCast]⟩
  · rw [same, Int.floor_natCast, Int.cast_natCast]

theorem of_sum_iff (division : Int → Rat) (m : Rat) :
    (accumulate (sorted times)).map division = some m ↔ floors times ≤ INT_MAX ∧ division (floors times) = m := by
  rw [Option.map_eq_some_iff]
  constructor
  · intro averaged
    obtain ⟨sum, folded, divided⟩ := averaged
    obtain ⟨fits, same⟩ := (accumulate_sorted_iff times nonneg sum).mp folded
    exact ⟨fits, by rw [← same, divided]⟩
  · intro averaged
    obtain ⟨fits, divided⟩ := averaged
    exact ⟨floors times, (accumulate_sorted_iff times nonneg _).mpr ⟨fits, rfl⟩, divided⟩

theorem double_mean_iff (nonempty : times ≠ []) :
    (accumulate (sorted times)).map (fun (sum : Int) => (sum : Rat) / times.length) = some (mean times) ↔
      (∀ t ∈ times, ∃ n : Nat, t = n) ∧ times.sum ≤ INT_MAX := by
  have positive : (times.length : Rat) ≠ 0 := Nat.cast_ne_zero.mpr (List.length_pos_iff.mpr nonempty).ne'
  rw [of_sum_iff times nonneg, mean, div_left_inj' positive, ← whole_iff times nonneg, ← floors_eq_iff, and_comm]
  exact and_congr_right (exact_fits_iff times)

-- The int quotient is below the sum's, which is below the sum of the times: the ends meet only
-- if nothing was cut off in the sum and nothing in the quotient.
theorem int_quotient_iff (nonempty : times ≠ []) :
    (((floors times).tdiv times.length : Int) : Rat) = mean times ↔
      (floors times : Rat) = times.sum ∧ ∃ n : Nat, times.sum = n * times.length := by
  have lengthPos : 0 < times.length := List.length_pos_iff.mpr nonempty
  have positive : (0 : Rat) < times.length := Nat.cast_pos.mpr lengthPos
  have start := floors_nonneg times nonneg
  rw [Int.tdiv_eq_ediv_of_nonneg start, mean, eq_div_iff positive.ne']
  constructor
  · intro divided
    have quotient : floors times / (times.length : Int) * times.length ≤ floors times :=
      Int.ediv_mul_le _ (Int.natCast_ne_zero.mpr lengthPos.ne')
    have quotientCast : ((floors times / (times.length : Int) : Int) : Rat) * times.length ≤ floors times := by
      exact_mod_cast quotient
    obtain ⟨n, quotientNat⟩ := Int.eq_ofNat_of_zero_le (Int.ediv_nonneg start (Int.natCast_nonneg times.length))
    refine ⟨le_antisymm (floors_le times) (by rwa [← divided]), n, ?_⟩
    rw [← divided, quotientNat, Int.cast_natCast]
  · intro whole
    obtain ⟨exact, n, multiple⟩ := whole
    rw [← exact] at multiple
    have multipleInt : floors times = n * (times.length : Int) := by exact_mod_cast multiple
    rw [← exact, multiple, multipleInt, Int.mul_ediv_cancel _ (Int.natCast_ne_zero.mpr lengthPos.ne'),
      Int.cast_natCast]

theorem int_mean_iff (nonempty : times ≠ []) :
    (accumulate (sorted times)).map (fun (sum : Int) => (sum.tdiv times.length : Rat)) = some (mean times) ↔
      (∀ t ∈ times, ∃ n : Nat, t = n) ∧ times.sum ≤ INT_MAX ∧ ∃ n : Nat, times.sum = n * times.length := by
  rw [of_sum_iff times nonneg, int_quotient_iff times nonneg nonempty, ← whole_iff times nonneg, ← floors_eq_iff,
    and_left_comm]
  exact and_congr_right (fun exact => and_congr (exact_fits_iff times exact) Iff.rfl)

end Sums

section Rows

variable (libraries : Libraries) (uncompress : Nat → Nat → UncompressReply) (machine : Machine) (content : Bytes)
variable (iterations_per_run runs : Nat)

theorem iterate_times (run : Measured → Measured) (time : Nat → Rat) (count : Nat) (vars : Vars)
    (adds : ∀ measured, (run measured).times = measured.times ++ [time measured.times.length]) :
    (run^[count] ⟨vars, [], []⟩).times = (List.range count).map time := by
  induction count with
  | zero => rfl
  | succ count ih =>
      rw [Function.iterate_succ_apply', adds, ih, List.length_map, List.length_range, List.range_succ,
        List.map_append, List.map_singleton]

theorem timed_runs_times (call : Vars → Vars) (amount : Vars → Int) (clock : Nat → Nat × Nat) (vars : Vars) :
    (timedRuns call amount iterations_per_run runs clock vars).times =
      (List.range runs).map (fun j => (elapsed clock j : Rat) / iterations_per_run) :=
  iterate_times _ (fun j => (elapsed clock j : Rat) / iterations_per_run) runs vars (fun _ => rfl)

theorem first_node_times (call : Vars → Vars) (amount : Vars → Int) (vars : Vars) :
    (timedRuns call amount iterations_per_run runs machine.clock vars).times =
      (List.range runs).map (fun j => (elapsed machine.clock (0 * runs + j) : Rat) / iterations_per_run) := by
  simp only [timed_runs_times, Nat.zero_mul, Nat.zero_add]

theorem run_times_nonneg (clock : Nat → Nat × Nat) (row : Nat) (harness : MeanHarness) :
    ∀ t ∈ runTimes clock iterations_per_run runs row harness, 0 ≤ t := by
  intro t member
  cases harness with
  | zlib =>
      obtain ⟨j, within, rfl⟩ := List.mem_map.mp member
      exact Nat.cast_nonneg _
  | zstd | zstdNuma | lz4 =>
      obtain ⟨j, within, rfl⟩ := List.mem_map.mp member
      exact div_nonneg (Nat.cast_nonneg _) (Nat.cast_nonneg _)

theorem run_times_length (clock : Nat → Nat × Nat) (row : Nat) (harness : MeanHarness) :
    (runTimes clock iterations_per_run runs row harness).length = runs := by
  cases harness <;> simp [runTimes]

def meanOf (harness : MeanHarness) (times : List Rat) : Option Rat :=
  match harness with
  | .zstd | .zstdNuma => (accumulate (sorted times)).map (fun (sum : Int) => (sum : Rat) / times.length)
  | .lz4 | .zlib => (accumulate (sorted times)).map (fun (sum : Int) => (sum.tdiv times.length : Rat))

theorem mean_of_iff (harness : MeanHarness) (times : List Rat) (nonneg : ∀ t ∈ times, 0 ≤ t) (nonempty : times ≠ []) :
    meanOf harness times = some (mean times) ↔ Exact harness times := by
  cases harness with
  | zstd | zstdNuma =>
      refine (double_mean_iff times nonneg nonempty).trans ⟨fun ⟨whole, fits⟩ => ⟨whole, fits, False.elim⟩, ?_⟩
      exact fun exact => ⟨exact.whole, exact.fits⟩
  | lz4 | zlib =>
      refine (int_mean_iff times nonneg nonempty).trans
        ⟨fun ⟨whole, fits, divides⟩ => ⟨whole, fits, fun _ => divides⟩, ?_⟩
      exact fun exact => ⟨exact.whole, exact.fits, exact.divides trivial⟩

theorem mean_is_mean_iff (harness : MeanHarness) (times : List Rat) (row : List Field)
    (nonneg : ∀ t ∈ times, 0 ≤ t) (nonempty : times ≠ []) (printed : printedMeans row = [meanOf harness times]) :
    MeanIsMean times row ↔ Exact harness times := by
  rw [← mean_of_iff harness times nonneg nonempty, MeanIsMean, printed]
  constructor
  · intro means
    obtain ⟨m, same, exact, between⟩ := means
    rw [(List.singleton_inj.mp same), exact]
  · intro same
    exact ⟨mean times, by rw [same], rfl, mean_between times nonempty⟩

theorem fields_mean (harness : MeanHarness) (fields : Measured → Nat → List Field)
    (prints : ∀ measured, printedMeans (fields measured measured.times.length) = [meanOf harness measured.times])
    (measured : Measured) (times : List Rat) (measuredTimes : measured.times = times) (count : times.length = runs) :
    printedMeans (fields measured runs) = [meanOf harness times] := by
  subst measuredTimes count
  exact prints measured

theorem only_row (first report : Report) (row : Nat) (found : [first][row]? = some report) :
    row = 0 ∧ report = first := by
  obtain ⟨within, same⟩ := List.getElem?_eq_some_iff.mp found
  have start : row = 0 := Nat.lt_one_iff.mp within
  subst start
  exact ⟨rfl, same.symm⟩

theorem numa_reports_short (fits : readFile content < SIZE) :
    (harnessZstdNuma libraries machine content iterations_per_run runs).reports =
      [(numaNode libraries machine iterations_per_run runs 0 (startVars machine content)).1,
        (numaNode libraries machine iterations_per_run runs 1
          (numaNode libraries machine iterations_per_run runs 0 (startVars machine content)).2).1] := by
  have opened : (startVars machine content).compressed_size < SIZE := fits
  rw [harnessZstdNuma, if_pos opened]

theorem numa_reports_long (long : ¬ readFile content < SIZE) :
    (harnessZstdNuma libraries machine content iterations_per_run runs).reports = [] := by
  have aborted : ¬ (startVars machine content).compressed_size < SIZE := long
  rw [harnessZstdNuma, if_neg aborted]

theorem row_count (harness : MeanHarness) :
    (rows libraries uncompress machine content iterations_per_run runs harness).length = rowCount content harness := by
  cases harness with
  | zstd | lz4 | zlib => rfl
  | zstdNuma =>
      by_cases fits : readFile content < SIZE
      · rw [rows, rowCount, if_pos fits, numa_reports_short libraries machine content iterations_per_run runs fits]
        rfl
      · rw [rows, rowCount, if_neg fits, numa_reports_long libraries machine content iterations_per_run runs fits]
        rfl

theorem numa_node_mean (node : Nat) (vars : Vars) :
    printedMeans (numaNode libraries machine iterations_per_run runs node vars).1.row =
      [meanOf .zstdNuma (runTimes machine.clock iterations_per_run runs node .zstdNuma)] :=
  fields_mean runs .zstdNuma zstdFields (fun _ => rfl) _ _
    (timed_runs_times iterations_per_run runs (callZstd libraries) (sizeAmount iterations_per_run)
      (fun j => machine.clock (node * runs + j)) { vars with timed := [] })
    (run_times_length iterations_per_run runs machine.clock node .zstdNuma)

theorem row_mean (harness : MeanHarness) (row : Nat) (report : Report)
    (found : (rows libraries uncompress machine content iterations_per_run runs harness)[row]? = some report) :
    printedMeans report.row = [meanOf harness (runTimes machine.clock iterations_per_run runs row harness)] := by
  have length := run_times_length iterations_per_run runs machine.clock 0
  cases harness with
  | zstd =>
      obtain ⟨rfl, rfl⟩ := only_row _ _ _ found
      exact fields_mean runs .zstd zstdFields (fun _ => rfl) _ _
        (first_node_times machine iterations_per_run runs _ _ _) (length .zstd)
  | lz4 =>
      obtain ⟨rfl, rfl⟩ := only_row _ _ _ found
      exact fields_mean runs .lz4 lz4Fields (fun _ => rfl) _ _
        (first_node_times machine iterations_per_run runs _ _ _) (length .lz4)
  | zlib =>
      obtain ⟨rfl, rfl⟩ := only_row _ _ _ found
      exact fields_mean runs .zlib zlibFields (fun _ => rfl) _ _ (iterate_times _ _ runs _ (fun _ => rfl)) (length .zlib)
  | zstdNuma =>
      by_cases fits : readFile content < SIZE
      · rw [rows, numa_reports_short libraries machine content iterations_per_run runs fits] at found
        match row with
        | 0 =>
            rw [← Option.some.inj found]
            exact numa_node_mean libraries machine iterations_per_run runs 0 _
        | 1 =>
            rw [← Option.some.inj found]
            exact numa_node_mean libraries machine iterations_per_run runs 1 _
        | row + 2 => cases found
      · rw [rows, numa_reports_long libraries machine content iterations_per_run runs fits] at found
        cases found

theorem row_exact_iff (harness : MeanHarness) (row : Nat) (report : Report) (ran : 2 ≤ runs)
    (found : (rows libraries uncompress machine content iterations_per_run runs harness)[row]? = some report) :
    MeanIsMean (runTimes machine.clock iterations_per_run runs row harness) report.row ↔
      Exact harness (runTimes machine.clock iterations_per_run runs row harness) := by
  have nonempty : runTimes machine.clock iterations_per_run runs row harness ≠ [] := by
    apply List.ne_nil_of_length_pos
    rw [run_times_length]
    exact Nat.lt_of_lt_of_le Nat.zero_lt_two ran
  exact mean_is_mean_iff harness _ report.row (run_times_nonneg iterations_per_run runs machine.clock row harness)
    nonempty (row_mean libraries uncompress machine content iterations_per_run runs harness row report found)

def PrintsMeans (harness : MeanHarness) : Prop :=
  ∀ row report, (rows libraries uncompress machine content iterations_per_run runs harness)[row]? = some report →
    MeanIsMean (runTimes machine.clock iterations_per_run runs row harness) report.row

theorem prints_means_exact (harness : MeanHarness) (row : Nat) (ran : 2 ≤ runs)
    (means : PrintsMeans libraries uncompress machine content iterations_per_run runs harness)
    (within : row < rowCount content harness) :
    Exact harness (runTimes machine.clock iterations_per_run runs row harness) := by
  rw [← row_count libraries uncompress machine content iterations_per_run runs harness] at within
  have found := List.getElem?_eq_getElem within
  exact (row_exact_iff libraries uncompress machine content iterations_per_run runs harness row _ ran found).mp
    (means row _ found)

theorem mean_printed_iff (harness : MeanHarness) (ran : 2 ≤ runs) (_iterated : harness ≠ .zlib → 1 ≤ iterations_per_run) :
    PrintsMeans libraries uncompress machine content iterations_per_run runs harness ↔
      ∀ row, row < rowCount content harness →
        Exact harness (runTimes machine.clock iterations_per_run runs row harness) := by
  constructor
  · intro means row within
    exact prints_means_exact libraries uncompress machine content iterations_per_run runs harness row ran means within
  · intro exact row report found
    have within := (List.getElem?_eq_some_iff.mp found).choose
    rw [row_count] at within
    exact (row_exact_iff libraries uncompress machine content iterations_per_run runs harness row report ran found).mpr
      (exact row within)

end Rows

def keeping (_ source : Nat) : UncompressReply := ⟨0, source⟩

theorem seven_each_mean : PrintsMeans unreliable keeping steadyMachine [1, 2, 3, 4] 1 2 .lz4 := by
  apply (mean_printed_iff unreliable keeping steadyMachine [1, 2, 3, 4] 1 2 .lz4 (Nat.le_refl 2) (fun _ => Nat.le_refl 1)).mpr
  intro row within
  have sevens : runTimes steadyMachine.clock 1 2 row .lz4 = [7, 7] := by
    simp [runTimes, elapsed, steadyMachine, List.range_succ]
  rw [sevens]
  refine ⟨fun t member => ⟨7, ?_⟩, by norm_num [INT_MAX], fun _ => ⟨7, by norm_num⟩⟩
  simpa using member

def halfMachine : Machine := ⟨fun _ => (0, 1), 0⟩
def oddMachine : Machine := ⟨fun j => (0, 1 + j), 0⟩
def slowMachine : Machine := ⟨fun _ => (0, 1500000000), 0⟩

theorem mean_off :
    ¬ PrintsMeans unreliable keeping halfMachine [1] 2 2 .zstd ∧
      ¬ PrintsMeans unreliable keeping oddMachine [1] 1 2 .lz4 ∧
      ¬ PrintsMeans unreliable keeping slowMachine [1] 1 2 .zlib := by
  refine ⟨fun means => ?_, fun means => ?_, fun means => ?_⟩
  · have times : runTimes halfMachine.clock 2 2 0 .zstd = [1 / 2, 1 / 2] := by
      simp [runTimes, elapsed, halfMachine, List.range_succ]
    have exact := prints_means_exact _ _ _ _ _ _ _ 0 (Nat.le_refl 2) means Nat.zero_lt_one
    obtain ⟨n, half⟩ := exact.whole (1 / 2) (by rw [times]; exact List.mem_cons_self)
    have doubled : (1 : Rat) = n * 2 := by linarith
    have odd : 1 = n * 2 := by exact_mod_cast doubled
    omega
  · have times : runTimes oddMachine.clock 1 2 0 .lz4 = [1, 2] := by
      norm_num [runTimes, elapsed, oddMachine, List.range_succ]
    have exact := prints_means_exact _ _ _ _ _ _ _ 0 (Nat.le_refl 2) means Nat.zero_lt_one
    obtain ⟨n, total⟩ := exact.divides trivial
    rw [times] at total
    norm_num at total
    have odd : 3 = n * 2 := by exact_mod_cast total
    omega
  · have times : runTimes slowMachine.clock 1 2 0 .zlib = [1500000000, 1500000000] := by
      simp [runTimes, elapsed, slowMachine, List.range_succ]
    have exact := prints_means_exact _ _ _ _ _ _ _ 0 (Nat.le_refl 2) means Nat.zero_lt_one
    have total := exact.fits
    rw [times] at total
    norm_num [INT_MAX] at total

end SprAccelProfiling.MeanTime
