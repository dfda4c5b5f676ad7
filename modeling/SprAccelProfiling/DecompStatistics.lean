import SprAccelProfiling.MeanTime
import SprAccelProfiling.Ranks

set_option autoImplicit false

namespace SprAccelProfiling.Statistics

open SprAccelProfiling.Corpus SprAccelProfiling.Decomp SprAccelProfiling.Extremes SprAccelProfiling.MeanTime SprAccelProfiling.Ranks

inductive Program where
  | decomp (harness : Harness)
  | zlib
deriving DecidableEq

section Rows

variable (libraries : Libraries) (uncompress : Nat → Nat → UncompressReply) (machine : Machine) (content : Bytes)
  (iterations_per_run runs : Nat)

def reports : Program → List Report
  | .decomp harness => (main harness libraries machine content iterations_per_run runs).reports
  | .zlib => (harnessZlib uncompress machine content iterations_per_run runs).reports

-- harness-zlib alone keeps the time of a whole run; a row of the numa harness is a node.
def durations (clock : Nat → Nat × Nat) (row : Nat) : Program → List Rat
  | .zlib => (List.range runs).map (fun j => (elapsed clock j : Rat))
  | _ => (List.range runs).map (fun j => (elapsed clock (row * runs + j) : Rat) / iterations_per_run)

def printedTimes (row : List Field) : List Rat :=
  row.filterMap (fun field => match field with
    | .time q => some q
    | _ => none)

-- The third column of lz4 and zlib is called max in the source.
def TimesRanked (times printed : List Rat) : Program → Prop
  | .decomp .lz4 | .zlib => ∃ median max min, printed = [median, max, min] ∧ AtRank times (runs / 2) median ∧
      NextGreatest times max ∧ Least times min
  | _ => ∃ median, printed = [median] ∧ AtRank times (runs / 2) median

theorem median_ranked (values : List Rat) (length : values.length = runs) (ran : 0 < runs) :
    AtRank values (runs / 2) (median values runs) :=
  sort_rank values (runs / 2) 0 (by omega)

theorem ends_ranked (times : List Rat) (length : times.length = runs) (ran : 2 ≤ runs) :
    NextGreatest times ((sorted times).getD (runs - 2) 0) ∧ Least times ((sorted times).getD 0 0) := by
  refine ⟨?_, ?_⟩
  · exact rank_next_greatest times (runs - 2) _ (by omega) (sort_rank times (runs - 2) 0 (by omega))
  · exact rank_first times _ (sort_rank times 0 0 (by omega))

def fields (row : Nat) (measured : Measured) : Program → List Field
  | .decomp .zstd => zstdFields measured runs
  | .decomp .zstdNuma => .node row :: zstdFields measured runs
  | .decomp .lz4 => lz4Fields measured runs
  | .decomp .qatzip => qatzipFields measured runs
  | .zlib => zlibFields measured runs

structure RowOf (program : Program) (row : Nat) (report : Report) (measured : Measured) : Prop where
  printed : report.row = fields runs row measured program
  times : measured.times = durations iterations_per_run runs machine.clock row program

theorem numa_node_row (node : Nat) (vars : Vars) :
    RowOf machine iterations_per_run runs (.decomp .zstdNuma) node (numaNode libraries machine iterations_per_run runs node vars).1
      (timedRuns (callZstd libraries) (sizeAmount iterations_per_run) iterations_per_run runs
        (fun j => machine.clock (node * runs + j)) { vars with timed := [] }) :=
  ⟨rfl, timed_runs_times iterations_per_run runs _ _ _ _⟩

theorem row_of_runs (program : Program) (row : Nat) (report : Report)
    (found : (reports libraries uncompress machine content iterations_per_run runs program)[row]? = some report) :
    ∃ measured, RowOf machine iterations_per_run runs program row report measured := by
  cases program with
  | zlib =>
      obtain ⟨rfl, rfl⟩ := only_row _ _ _ found
      exact ⟨_, rfl, iterate_times _ _ runs _ (fun _ => rfl)⟩
  | decomp harness =>
      cases harness with
      | zstd | lz4 =>
          obtain ⟨rfl, rfl⟩ := only_row _ _ _ found
          exact ⟨_, rfl, first_node_times machine iterations_per_run runs _ _ _⟩
      | zstdNuma =>
          by_cases fits : readFile content < SIZE
          · rw [reports, main, numa_reports_short libraries machine content iterations_per_run runs fits] at found
            match row with
            | 0 =>
                rw [← Option.some.inj found]
                exact ⟨_, numa_node_row libraries machine iterations_per_run runs 0 _⟩
            | 1 =>
                rw [← Option.some.inj found]
                exact ⟨_, numa_node_row libraries machine iterations_per_run runs 1 _⟩
            | row + 2 => cases found
          · rw [reports, main, numa_reports_long libraries machine content iterations_per_run runs fits] at found
            cases found
      | qatzip =>
          by_cases opened : libraries.qatzip.qzInit = QZ_OK
          · rw [reports, main, harnessQatzip, if_neg (not_not_intro opened)] at found
            obtain ⟨rfl, rfl⟩ := only_row _ _ _ found
            exact ⟨_, rfl, first_node_times machine iterations_per_run runs _ _ _⟩
          · rw [reports, main, harnessQatzip, if_pos opened] at found
            cases found

theorem durations_length (clock : Nat → Nat × Nat) (row : Nat) (program : Program) :
    (durations iterations_per_run runs clock row program).length = runs := by
  cases program <;> simp [durations]

theorem fields_ranked (program : Program) (row : Nat) (measured : Measured) (length : measured.times.length = runs)
    (ran : 2 ≤ runs) : TimesRanked runs measured.times (printedTimes (fields runs row measured program)) program := by
  have middle := median_ranked runs measured.times length (by omega)
  obtain ⟨max, min⟩ := ends_ranked runs measured.times length ran
  cases program with
  | zlib => exact ⟨_, _, _, rfl, middle, max, min⟩
  | decomp harness =>
      cases harness with
      | zstd | zstdNuma | qatzip => exact ⟨_, rfl, middle⟩
      | lz4 => exact ⟨_, _, _, rfl, middle, max, min⟩

theorem times_ranked (program : Program) (row : Nat) (report : Report) (ran : 2 ≤ runs)
    (found : (reports libraries uncompress machine content iterations_per_run runs program)[row]? = some report) :
    TimesRanked runs (durations iterations_per_run runs machine.clock row program) (printedTimes report.row) program := by
  obtain ⟨measured, printed, times⟩ :=
    row_of_runs libraries uncompress machine content iterations_per_run runs program row report found
  rw [printed, ← times]
  apply fields_ranked runs program row measured _ ran
  rw [times, durations_length]

end Rows

theorem three_runs_ranked :
    ∃ report, (reports unreliable keeping oddMachine [1] 1 3 (.decomp .lz4))[0]? = some report ∧
      TimesRanked 3 (durations 1 3 oddMachine.clock 0 (.decomp .lz4)) (printedTimes report.row) (.decomp .lz4) :=
  ⟨_, rfl, times_ranked unreliable keeping oddMachine [1] 1 3 (.decomp .lz4) 0 _ (by omega) rfl⟩

section Bands

variable (call : Vars → Vars) (amount : Vars → Int) (iterations_per_run runs : Nat) (clock : Nat → Nat × Nat)
  (vars : Vars) (size : Int)

theorem timed_runs_unfold (count : Nat) :
    (timedRun call amount iterations_per_run clock)^[count] ⟨vars, [], []⟩ =
      ⟨call^[iterations_per_run * count] vars,
        (List.range count).map (fun j => (elapsed clock j : Rat) / iterations_per_run),
        (List.range count).map (fun j =>
          (amount (call^[iterations_per_run * (j + 1)] vars) : Rat) / (elapsed clock j : Nat))⟩ := by
  induction count with
  | zero => rfl
  | succ count ih =>
      have last : call^[iterations_per_run] (call^[iterations_per_run * count] vars) =
          call^[iterations_per_run * (count + 1)] vars := by
        rw [← Function.iterate_add_apply, Nat.mul_succ, Nat.add_comm]
      rw [Function.iterate_succ_apply', ih, timedRun, List.range_succ, List.map_append, List.map_append]
      simp only [List.length_map, List.length_range, last, List.map_singleton, elapsed]

end Bands

section Rates

variable (libraries : Libraries) (machine : Machine) (content : Bytes) (iterations_per_run runs length : Nat)

end Rates

def dependable : Libraries := { unreliable with zstd := fun _ _ => .done 9 }

end SprAccelProfiling.Statistics
