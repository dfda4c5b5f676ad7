import SprAccelProfiling.DecompRows
import SprAccelProfiling.Descent
import Mathlib.Order.Monotone.Basic

set_option autoImplicit false

namespace SprAccelProfiling.Decomp

open SprAccelProfiling.Corpus

section Sources

variable (libraries : Libraries) (fileLength : Nat)

-- qzDecompress leaves in its argument what it consumed, and the next call is given that.
def sourceOf : Nat → Nat
  | 0 => fileLength
  | call + 1 => (libraries.qatzip.qzDecompress call (sourceOf call)).consumed

def chainCall (k : Nat) : Call :=
  ⟨sourceOf libraries fileLength (k + 1), SIZE,
    decide ((libraries.qatzip.qzDecompress (k + 1) (sourceOf libraries fileLength (k + 1))).status = QZ_OK)⟩

def Stateless : Prop :=
  ∀ call other source, libraries.qatzip.qzDecompress call source = libraries.qatzip.qzDecompress other source

structure Chain (calls : Nat) (report : Report) : Prop where
  calls_eq : report.calls = (List.range calls).map (chainCall libraries fileLength)
  file : ∀ printed, Field.compressedSize printed ∈ report.row ↔ printed = sourceOf libraries fileLength (calls + 1)
  size : ∀ printed, Field.size printed ∈ report.row ↔
    printed = (libraries.qatzip.qzDecompress calls (sourceOf libraries fileLength calls)).produced
  falling : ∀ first second, first ≤ second → sourceOf libraries fileLength second ≤ sourceOf libraries fileLength first
  falls : (List.range calls).countP
    (fun k => decide (sourceOf libraries fileLength (k + 1) < sourceOf libraries fileLength k)) ≤ fileLength
  settles : Stateless libraries → ∃ call,
    report.calls.drop (fileLength - 1) = List.replicate (calls - (fileLength - 1)) call

theorem source_falls (call : Nat) : sourceOf libraries fileLength (call + 1) ≤ sourceOf libraries fileLength call :=
  libraries.qatzip.consumes call _

theorem source_of_vars (count : Nat) (vars : Vars) (start : vars.compressed_size = sourceOf libraries fileLength vars.made) :
    ((callQatzip libraries)^[count] vars).compressed_size = sourceOf libraries fileLength (vars.made + count) := by
  induction count with
  | zero => exact start
  | succ count ih => exact (qatzip_next libraries count vars _ ih).1

theorem chain_settled (stateless : Stateless libraries) (k : Nat) (late : fileLength ≤ k + 1) :
    chainCall libraries fileLength k = chainCall libraries fileLength (fileLength - 1) := by
  have settled := Descent.settles (sourceOf libraries fileLength) (source_falls libraries fileLength)
    (fun source => (libraries.qatzip.qzDecompress 0 source).consumed)
    (fun call => congrArg QzReply.consumed (stateless call 0 _))
  have source : sourceOf libraries fileLength (k + 1) = sourceOf libraries fileLength (fileLength - 1 + 1) := by
    rw [settled (k + 1) late]
    exact (settled (fileLength - 1 + 1) (by simp only [sourceOf]; omega)).symm
  rw [chainCall, chainCall, source, stateless (k + 1) (fileLength - 1 + 1)]

end Sources

section Rows

variable (libraries : Libraries) (machine : Machine) (content : Bytes) (iterations_per_run runs : Nat)

theorem chain_calls (vars : Vars) (first : vars.made = 1)
    (start : vars.compressed_size = sourceOf libraries (readFile content) vars.made) (empty : vars.timed = []) (count : Nat) :
    ((callQatzip libraries)^[count] vars).timed = (List.range count).map (chainCall libraries (readFile content)) := by
  rw [calls_logged (callQatzip libraries) (qatzipEntry libraries) (fun _ => rfl), empty, List.nil_append]
  apply List.map_congr_left
  intro k _
  rw [qatzipEntry, source_of_vars libraries (readFile content) k vars start, qatzip_made, first, Nat.add_comm 1 k, chainCall]

theorem chain_outlen (vars : Vars) (first : vars.made = 1)
    (start : vars.compressed_size = sourceOf libraries (readFile content) vars.made)
    (produced : vars.outlen = (libraries.qatzip.qzDecompress 0 (readFile content)).produced) (count : Nat) :
    ((callQatzip libraries)^[count] vars).outlen =
      (libraries.qatzip.qzDecompress count (sourceOf libraries (readFile content) count)).produced := by
  cases count with
  | zero => exact produced
  | succ count =>
      have given := source_of_vars libraries (readFile content) count vars start
      rw [(qatzip_next libraries count vars _ given).2, first, Nat.add_comm 1 count]

theorem qatzip_chained : ∀ report ∈ (main .qatzip libraries machine content iterations_per_run runs).reports,
    Chain libraries (readFile content) (iterations_per_run * runs) report := by
  intro report member
  by_cases opened : libraries.qatzip.qzInit = QZ_OK
  · rw [main, harnessQatzip, if_neg (not_not_intro opened)] at member
    obtain rfl := List.mem_singleton.mp member
    have calls := chain_calls libraries content (untimed (callQatzip libraries) (startVars machine content)) rfl rfl rfl
      (iterations_per_run * runs)
    have source := source_of_vars libraries (readFile content) (iterations_per_run * runs)
      (untimed (callQatzip libraries) (startVars machine content)) rfl
    have outlen := chain_outlen libraries content (untimed (callQatzip libraries) (startVars machine content)) rfl rfl rfl
      (iterations_per_run * runs)
    have made : (untimed (callQatzip libraries) (startVars machine content)).made = 1 := rfl
    rw [made, Nat.add_comm] at source
    refine ⟨?_, fun printed => ?_, fun printed => ?_, ?_, ?_, fun stateless => ?_⟩
    · rw [timed_runs_vars]
      exact calls
    · simp [qatzipFields, timed_runs_vars, source]
    · simp [qatzipFields, timed_runs_vars, outlen]
    · exact fun first second later => antitone_nat_of_succ_le (source_falls libraries (readFile content)) later
    · have bounded := Descent.falls_bounded _ (source_falls libraries (readFile content)) (iterations_per_run * runs)
      exact Nat.le_trans (Nat.le_add_right _ _) bounded
    · refine ⟨chainCall libraries (readFile content) (readFile content - 1), ?_⟩
      rw [timed_runs_vars, calls, ← List.map_drop]
      refine List.eq_replicate_iff.mpr ⟨by simp, List.forall_mem_map.mpr (fun k inside => ?_)⟩
      rw [List.range_eq_range', List.drop_range', List.mem_range'_1] at inside
      exact chain_settled libraries (readFile content) stateless k (by omega)
  · rw [main, harnessQatzip, if_pos opened] at member
    cases member

end Rows

theorem partial_call_chained :
    ∃ report, report ∈ (main .qatzip unreliable steadyMachine [1, 2, 3, 4] 1 2).reports ∧
      Chain unreliable (readFile [1, 2, 3, 4]) (1 * 2) report :=
  ⟨_, List.mem_singleton.mpr rfl, qatzip_chained unreliable steadyMachine [1, 2, 3, 4] 1 2 _ (List.mem_singleton.mpr rfl)⟩

end SprAccelProfiling.Decomp
