import SprAccelProfiling.DecompStatistics

set_option autoImplicit false

namespace SprAccelProfiling.Statistics

open SprAccelProfiling.Corpus SprAccelProfiling.Decomp SprAccelProfiling.MeanTime

-- The calls whose reply reaches the row: those that end a run, and for lz4 the last one.
def shownCalls (iterations_per_run runs : Nat) : Harness → List Nat
  | .zstd => (List.range runs).map (fun j => iterations_per_run * (j + 1))
  | .zstdNuma => (List.range (2 * runs)).map (fun j => iterations_per_run * (j + 1) - 1)
  | .lz4 => [iterations_per_run * runs]
  | .qatzip => []

def replyOf (libraries : Libraries) (fileLength call : Nat) : Harness → Reply
  | .lz4 => libraries.lz4 call fileLength
  | _ => libraries.zstd call fileLength

section Sizes

variable (library other : Nat → Nat → Reply) (returned : Reply → Int) (first second : Vars)

structure Alike : Prop where
  compressed_size : first.compressed_size = second.compressed_size
  made : first.made = second.made
  size : first.size = second.size

theorem calls_alike (alike : Alike first second) (count : Nat)
    (agree : 0 < count → library (first.made + count - 1) first.compressed_size =
      other (first.made + count - 1) first.compressed_size) :
    Alike ((callReply library returned)^[count] first) ((callReply other returned)^[count] second) := by
  refine ⟨?_, ?_, ?_⟩
  · rw [source_kept, source_kept, alike.compressed_size]
  · rw [made_by, made_by, alike.made]
  · cases count with
    | zero => exact alike.size
    | succ count =>
        rw [last_size, last_size, ← alike.made, ← alike.compressed_size]
        exact congrArg returned (agree (Nat.succ_pos count))

end Sizes

structure SameRow (measured replaced : Measured) : Prop where
  vars : Alike measured.vars replaced.vars
  times : measured.times = replaced.times
  bands : measured.bands = replaced.bands

theorem lz4_fields_same (measured replaced : Measured) (size : measured.vars.size = replaced.vars.size)
    (times : measured.times = replaced.times) (runs : Nat) : lz4Fields measured runs = lz4Fields replaced runs := by
  rw [lz4Fields, lz4Fields, size, times]

section Runs

variable (library other : Nat → Nat → Reply) (returned : Reply → Int) (iterations_per_run runs : Nat)
  (clock : Nat → Nat × Nat) (first second : Vars)

theorem runs_same (alike : Alike first second)
    (agree : ∀ j, j < runs → library (first.made + iterations_per_run * (j + 1) - 1) first.compressed_size =
      other (first.made + iterations_per_run * (j + 1) - 1) first.compressed_size) :
    SameRow
      (timedRuns (callReply library returned) (sizeAmount iterations_per_run) iterations_per_run runs clock first)
      (timedRuns (callReply other returned) (sizeAmount iterations_per_run) iterations_per_run runs clock second) := by
  have each : ∀ j, j ≤ runs → Alike ((callReply library returned)^[iterations_per_run * j] first)
      ((callReply other returned)^[iterations_per_run * j] second) := by
    intro j within
    apply calls_alike library other returned first second alike
    intro made
    cases j with
    | zero => exact absurd made (by simp)
    | succ j => exact agree j within
  refine ⟨?_, ?_, ?_⟩
  · rw [timed_runs_vars, timed_runs_vars]
    exact each runs (Nat.le_refl _)
  · rw [timedRuns, timedRuns, timed_runs_unfold, timed_runs_unfold]
  · rw [timedRuns, timedRuns, timed_runs_unfold, timed_runs_unfold]
    apply List.map_congr_left
    intro j member
    rw [sizeAmount, sizeAmount, (each (j + 1) (List.mem_range.mp member)).size]

end Runs

theorem zstd_fields_same (measured replaced : Measured) (same : SameRow measured replaced) (runs : Nat) :
    zstdFields measured runs = zstdFields replaced runs := by
  rw [zstdFields, zstdFields, same.vars.size, same.vars.compressed_size, same.times, same.bands]

section Rows

variable (libraries other : Libraries) (machine : Machine) (content : Bytes) (iterations_per_run runs : Nat)

def AgreeShown (harness : Harness) : Prop :=
  ∀ call ∈ shownCalls iterations_per_run runs harness,
    replyOf libraries (readFile content) call harness = replyOf other (readFile content) call harness

theorem zstd_row_same (agree : AgreeShown libraries other content iterations_per_run runs .zstd) :
    (harnessZstd libraries machine content iterations_per_run runs).reports.map Report.row =
      (harnessZstd other machine content iterations_per_run runs).reports.map Report.row := by
  have same := runs_same libraries.zstd other.zstd (fun reply => toInt (zstdReturn reply)) iterations_per_run runs
    machine.clock (untimed (callZstd libraries) (startVars machine content))
    (untimed (callZstd other) (startVars machine content)) ⟨rfl, rfl, rfl⟩ (fun j within => ?_)
  · exact congrArg (fun row => [row]) (zstd_fields_same _ _ same runs)
  · have shown := agree _ (List.mem_map_of_mem (List.mem_range.mpr within))
    have number : 1 + iterations_per_run * (j + 1) - 1 = iterations_per_run * (j + 1) := by omega
    change libraries.zstd (1 + iterations_per_run * (j + 1) - 1) (readFile content) =
      other.zstd (1 + iterations_per_run * (j + 1) - 1) (readFile content)
    rw [number]
    exact shown

theorem numa_node_same (agree : AgreeShown libraries other content iterations_per_run runs .zstdNuma) (node : Nat)
    (low : node < 2) (first second : Vars) (alike : Alike first second)
    (made : first.made = node * (iterations_per_run * runs)) (whole : first.compressed_size = readFile content) :
    (numaNode libraries machine iterations_per_run runs node first).1.row =
        (numaNode other machine iterations_per_run runs node second).1.row ∧
      Alike (numaNode libraries machine iterations_per_run runs node first).2
        (numaNode other machine iterations_per_run runs node second).2 := by
  have same := runs_same libraries.zstd other.zstd (fun reply => toInt (zstdReturn reply)) iterations_per_run runs
    (fun j => machine.clock (node * runs + j)) { first with timed := [] } { second with timed := [] }
    ⟨alike.compressed_size, alike.made, alike.size⟩ (fun j within => ?_)
  · exact ⟨congrArg (List.cons (Field.node node)) (zstd_fields_same _ _ same runs), same.vars⟩
  · have inside : node * runs + j < 2 * runs := by
      have upto : node * runs ≤ 1 * runs := Nat.mul_le_mul_right runs (by omega)
      omega
    have shown := agree _ (List.mem_map_of_mem (List.mem_range.mpr inside))
    have number : first.made + iterations_per_run * (j + 1) = iterations_per_run * (node * runs + j + 1) := by
      rw [made, Nat.mul_left_comm, ← Nat.mul_add, Nat.add_assoc]
    change libraries.zstd (first.made + iterations_per_run * (j + 1) - 1) first.compressed_size =
      other.zstd (first.made + iterations_per_run * (j + 1) - 1) first.compressed_size
    rw [number, whole]
    exact shown

theorem numa_row_same (agree : AgreeShown libraries other content iterations_per_run runs .zstdNuma) :
    (harnessZstdNuma libraries machine content iterations_per_run runs).reports.map Report.row =
      (harnessZstdNuma other machine content iterations_per_run runs).reports.map Report.row := by
  by_cases fits : readFile content < SIZE
  · obtain ⟨firstRow, left⟩ := numa_node_same libraries other machine content iterations_per_run runs agree 0 (by omega)
      (startVars machine content) (startVars machine content) ⟨rfl, rfl, rfl⟩ (Nat.zero_mul _).symm rfl
    have made : (numaNode libraries machine iterations_per_run runs 0 (startVars machine content)).2.made =
        1 * (iterations_per_run * runs) := by
      rw [numa_node_made, startVars, Nat.zero_add, Nat.one_mul]
    obtain ⟨secondRow, _⟩ := numa_node_same libraries other machine content iterations_per_run runs agree 1 (by omega)
      _ _ left made (numa_node_source libraries machine iterations_per_run runs 0 _)
    rw [numa_reports_short libraries machine content iterations_per_run runs fits,
      numa_reports_short other machine content iterations_per_run runs fits]
    simp only [List.map_cons, List.map_nil, firstRow, secondRow]
  · rw [numa_reports_long libraries machine content iterations_per_run runs fits,
      numa_reports_long other machine content iterations_per_run runs fits]

theorem lz4_row_same (agree : AgreeShown libraries other content iterations_per_run runs .lz4) :
    (harnessLz4 libraries machine content iterations_per_run runs).reports.map Report.row =
      (harnessLz4 other machine content iterations_per_run runs).reports.map Report.row := by
  have same := calls_alike libraries.lz4 other.lz4 lz4Return (untimed (callLz4 libraries) (startVars machine content))
    (untimed (callLz4 other) (startVars machine content)) ⟨rfl, rfl, rfl⟩ (iterations_per_run * runs) (fun _ => ?_)
  · refine congrArg (fun row => [row]) (lz4_fields_same _ _ ?_ ?_ runs)
    · rw [timed_runs_vars, timed_runs_vars]
      exact same.size
    · rw [timed_runs_times, timed_runs_times]
  · have shown := agree _ List.mem_cons_self
    change libraries.lz4 (1 + iterations_per_run * runs - 1) (readFile content) =
      other.lz4 (1 + iterations_per_run * runs - 1) (readFile content)
    rw [Nat.add_sub_cancel_left]
    exact shown

theorem rows_by_shown_calls (harness : Harness) (apart : harness ≠ .qatzip)
    (agree : AgreeShown libraries other content iterations_per_run runs harness) :
    (main harness libraries machine content iterations_per_run runs).reports.map Report.row =
      (main harness other machine content iterations_per_run runs).reports.map Report.row := by
  cases harness with
  | zstd => exact zstd_row_same libraries other machine content iterations_per_run runs agree
  | zstdNuma => exact numa_row_same libraries other machine content iterations_per_run runs agree
  | lz4 => exact lz4_row_same libraries other machine content iterations_per_run runs agree
  | qatzip => exact absurd rfl apart

end Rows

theorem hidden_failure_rows :
    (main .zstd unreliable oddMachine [1, 2] 3 1).reports.map Report.row =
      (main .zstd dependable oddMachine [1, 2] 3 1).reports.map Report.row := by
  apply rows_by_shown_calls unreliable dependable oddMachine [1, 2] 3 1 .zstd Harness.noConfusion
  intro call shown
  obtain rfl := List.mem_singleton.mp shown
  rfl

-- The documented ranges: a length within the capacity, or a small positive error code.
def Bounded : Reply → Prop
  | .done length => length ≤ SIZE
  | .failed code => 0 < code ∧ code ≤ SIZE

theorem zstd_sign (reply : Reply) (bounded : Bounded reply) : 0 ≤ toInt (zstdReturn reply) ↔ reply.succeeds = true := by
  cases reply with
  | done length =>
      rw [zstdReturn, to_int_small length bounded]
      exact iff_of_true (Int.natCast_nonneg length) rfl
  | failed code =>
      obtain ⟨positive, small⟩ := bounded
      unfold SIZE at small
      have negative : toInt (zstdReturn (.failed code)) = -(code : Int) := by
        rw [zstdReturn, toInt, Int.bmod_def]
        omega
      rw [negative]
      exact iff_of_false (by omega) Bool.false_ne_true

theorem lz4_sign (reply : Reply) (bounded : Bounded reply) : 0 ≤ lz4Return reply ↔ reply.succeeds = true := by
  cases reply with
  | done length => exact iff_of_true (Int.natCast_nonneg length) rfl
  | failed code =>
      obtain ⟨positive, _⟩ := bounded
      exact iff_of_false (by simp only [lz4Return]; omega) Bool.false_ne_true

def SizeTells (report : Report) : Prop :=
  ∀ printed, Field.size printed ∈ report.row → ∃ last, report.calls.getLast? = some last ∧
    (0 ≤ printed ↔ last.succeeded = true)

section Signs

theorem last_tells (library : Nat → Nat → Reply) (returned : Reply → Int) (vars : Vars) (row : List Field) (count : Nat)
    (positive : 0 < count) (empty : vars.timed = []) (bounded : ∀ call source, Bounded (library call source))
    (signs : ∀ reply, Bounded reply → (0 ≤ returned reply ↔ reply.succeeds = true))
    (printsSize : ∀ printed, Field.size printed ∈ row → printed = ((callReply library returned)^[count] vars).size) :
    SizeTells ⟨row, ((callReply library returned)^[count] vars).timed⟩ := by
  intro printed member
  obtain ⟨before, rfl⟩ := Nat.exists_eq_add_of_le' positive
  refine ⟨replyEntry library ((callReply library returned)^[before] vars), ?_, ?_⟩
  · rw [calls_logged (callReply library returned) (replyEntry library) (fun _ => rfl), empty, List.nil_append,
      List.range_succ, List.map_append, List.map_singleton, List.getLast?_concat]
  · rw [printsSize printed member, last_size, replyEntry, source_kept, made_by]
    exact signs _ (bounded _ _)

variable (libraries : Libraries) (machine : Machine) (content : Bytes) (iterations_per_run runs : Nat)

theorem numa_node_tells (calls : 0 < iterations_per_run * runs) (bounded : ∀ call source, Bounded (libraries.zstd call source))
    (node : Nat) (vars : Vars) : SizeTells (numaNode libraries machine iterations_per_run runs node vars).1 := by
  simp only [numaNode, timed_runs_vars]
  refine last_tells libraries.zstd _ { vars with timed := [] } _ _ calls rfl bounded zstd_sign ?_
  intro printed member
  rw [List.mem_cons, zstd_fields_size, timed_runs_vars, or_iff_right (by simp)] at member
  exact member

theorem sizes_tell (harness : Harness) (apart : harness ≠ .qatzip) (calls : 0 < iterations_per_run * runs)
    (bounded : ∀ call source, Bounded (replyOf libraries source call harness)) :
    ∀ report ∈ (main harness libraries machine content iterations_per_run runs).reports, SizeTells report := by
  cases harness with
  | qatzip => exact absurd rfl apart
  | zstd =>
      simp only [main, harnessZstd, List.mem_singleton, forall_eq, timed_runs_vars]
      refine last_tells libraries.zstd _ _ _ _ calls rfl bounded zstd_sign ?_
      intro printed member
      rw [zstd_fields_size, timed_runs_vars] at member
      exact member
  | zstdNuma =>
      have node := numa_node_tells libraries machine iterations_per_run runs calls bounded
      by_cases fits : readFile content < SIZE
      · rw [main, numa_reports_short libraries machine content iterations_per_run runs fits]
        simp only [List.mem_cons, List.not_mem_nil, or_false, forall_eq_or_imp, forall_eq]
        exact ⟨node 0 _, node 1 _⟩
      · rw [main, numa_reports_long libraries machine content iterations_per_run runs fits]
        exact fun report member => absurd member List.not_mem_nil
  | lz4 =>
      simp only [main, harnessLz4, List.mem_singleton, forall_eq, timed_runs_vars]
      refine last_tells libraries.lz4 _ _ _ _ calls rfl bounded lz4_sign ?_
      intro printed member
      simp only [lz4Fields, timed_runs_vars, List.mem_cons, Field.size.injEq, reduceCtorEq, List.not_mem_nil, or_false]
        at member
      exact member

end Signs

theorem last_failure_told :
    ∃ report, report ∈ (main .lz4 unreliable oddMachine [1, 2] 1 2).reports ∧ SizeTells report := by
  refine ⟨_, List.mem_singleton.mpr rfl, ?_⟩
  refine sizes_tell unreliable oddMachine [1, 2] 1 2 .lz4 Harness.noConfusion (by decide) ?_ _ (List.mem_singleton.mpr rfl)
  intro call source
  by_cases second : call = 2
  · simp [replyOf, unreliable, second, Bounded, SIZE]
  · simp [replyOf, unreliable, second, Bounded, SIZE]

end SprAccelProfiling.Statistics
