import SprAccelProfiling.AppendFiles
import Mathlib.Algebra.BigOperators.Group.List.Basic
import Mathlib.Algebra.Ring.Rat
import Mathlib.Data.List.Infix

set_option autoImplicit false

namespace SprAccelProfiling.Sweep

open SprAccelProfiling.AppendFiles

structure Row where
  name : String
  comp : Rat
  decomp : Rat
  ratio : Rat
deriving DecidableEq

abbrev Directory := Files String Row

def grep (pattern : String) (lines : List Row) : List Row :=
  lines.filter (fun row => decide (pattern.toList <:+: row.name.toList))

-- grep -Eo '[0-9]+'
def numbers (name : String) : List String :=
  ((name.toList.splitBy (fun a b => a.isDigit == b.isDigit)).filter (fun run => run.all Char.isDigit)).map String.ofList

structure Printed where
  file : String
  payloadsize : List String
  numcores : Nat
  comp : Rat
  decomp : Rat
  ratio : Rat

-- awk keeps the ratio of the last row it read.
def parseLine (pattern : String) (label : List String → List String) (dir : Directory) (file : String) : Printed :=
  let found := grep pattern (contents dir file)
  ⟨file, label (numbers file), found.length, (found.map Row.comp).sum * 8, (found.map Row.decomp).sum * 8,
    (found.map Row.ratio).getLastD 0 / 100⟩

-- ls -1 results_* up to the order of the lines; names are taken to hold no blanks.
def listing (dir : Directory) : List String := dir.keys.filter (fun name => "results_".toList.isPrefixOf name.toList)

def parseGranularity (dir : Directory) : List Printed := (listing dir).map (parseLine "isa-l" id dir)

def algs : List String := ["isa-l", "libdeflate", "zlib"]

def parseThroughput (dir : Directory) : List (String × List Printed) :=
  algs.map (fun alg => (alg, (listing dir).map (parseLine alg (fun found => found.getLast?.toList) dir)))

structure Script where
  guard : String
  codecs : List String
  rounds : List (String × List Nat)

-- The quotes keep the guard's pattern from expanding.
def granularitySweep : Script where
  guard := "results_*"
  codecs := ["libdeflate", "isa-l"]
  rounds := (List.range' 10 11).map (fun i => ("results_" ++ toString (1 <<< (i - 10)) ++ "kbchunk", [40, 41, 42, 43]))

def coresSweep : Script where
  guard := "results_1cores_64kbchunk"
  codecs := ["libdeflate", "isa-l", "zlib"]
  rounds := [1, 4, 16, 64].map (fun num_cores =>
    ("results_" ++ toString num_cores ++ "cores_64kbchunk", List.range' 1 num_cores))

structure Speeds where
  comp : Rat
  decomp : Rat
  ratio : Rat

def rowOf (codec : String) (speeds : Speeds) : Row := ⟨codec, speeds.comp, speeds.decomp, speeds.ratio⟩

def processRows (codecs : List String) (speeds : Nat → String → Speeds) (cores : List Nat) : List Row :=
  cores.flatMap (fun core => codecs.map (fun codec => rowOf codec (speeds core codec)))

structure Measured (script : Script) where
  speeds : String → Nat → String → Speeds
  rows : String → List Row
  order : ∀ round ∈ script.rounds, (rows round.1).Perm (processRows script.codecs (speeds round.1) round.2)

def runSweep {script : Script} (measured : Measured script) (dir : Directory) : Option Directory :=
  if script.guard ∈ dir then none
  else some (appendAll ((script.rounds.map Prod.fst).map (fun file => (file, measured.rows file))) dir)

def runSweeps {script : Script} : List (Measured script) → Directory → Option Directory
  | [], dir => some dir
  | measured :: rest, dir =>
      match runSweep measured dir with
      | none => none
      | some next => runSweeps rest next

inductive Pipeline where
  | granularity
  | throughput
deriving DecidableEq

def Pipeline.script : Pipeline → Script
  | .granularity => granularitySweep
  | .throughput => coresSweep

def Pipeline.parse : Pipeline → Directory → List (String × List Printed)
  | .granularity => fun dir => [("isa-l", parseGranularity dir)]
  | .throughput => parseThroughput

structure Reports (codec : String) (cores : List Nat) (speeds : Nat → String → Speeds) (printed : Printed) : Prop where
  numcores : printed.numcores = cores.length
  comp : printed.comp = (cores.map (fun core => (speeds core codec).comp)).sum * 8
  decomp : printed.decomp = (cores.map (fun core => (speeds core codec).decomp)).sum * 8

def Right (pipeline : Pipeline) (dir : Directory) (last : Measured pipeline.script) : Prop :=
  ∀ part ∈ pipeline.parse dir, ∀ round ∈ pipeline.script.rounds,
    (∃ printed ∈ part.2, printed.file = round.1) ∧
      ∀ printed ∈ part.2, printed.file = round.1 → Reports part.1 round.2 (last.speeds round.1) printed

def codecsOf : Pipeline → List String
  | .granularity => ["isa-l"]
  | .throughput => algs

def Fresh (pipeline : Pipeline) (dir : Directory) : Prop :=
  ∀ codec ∈ codecsOf pipeline, ∀ round ∈ pipeline.script.rounds, grep codec (contents dir round.1) = []

theorem grep_append (pattern : String) (a b : List Row) : grep pattern (a ++ b) = grep pattern a ++ grep pattern b :=
  List.filter_append a b

theorem grep_perm (pattern : String) (a b : List Row) (same : a.Perm b) : (grep pattern a).Perm (grep pattern b) :=
  same.filter _

theorem grep_process_rows (codec : String) (codecs : List String) (speeds : Nat → String → Speeds) (cores : List Nat)
    (alone : codecs.filter (fun name => decide (codec.toList <:+: name.toList)) = [codec]) :
    grep codec (processRows codecs speeds cores) = cores.map (fun core => rowOf codec (speeds core codec)) := by
  have each : ∀ core, (codecs.map (fun name => rowOf name (speeds core name))).filter
      (fun row => decide (codec.toList <:+: row.name.toList)) = [rowOf codec (speeds core codec)] := by
    intro core
    rw [List.filter_map]
    exact congrArg (List.map (fun name => rowOf name (speeds core name))) alone
  rw [grep, processRows, List.filter_flatMap]
  simp only [each]
  rw [← List.map_eq_flatMap]

theorem run_sweep_contents {script : Script} (measured : Measured script) (dir next : Directory)
    (nodup : (script.rounds.map Prod.fst).Nodup) (ran : runSweep measured dir = some next) (file : String)
    (written : file ∈ script.rounds.map Prod.fst) :
    contents next file = contents dir file ++ measured.rows file := by
  by_cases guarded : script.guard ∈ dir
  · rw [runSweep, if_pos guarded] at ran
    cases ran
  · rw [runSweep, if_neg guarded] at ran
    cases ran
    rw [contents_append_all, written_once _ _ file nodup written]

theorem run_sweeps_contents {script : Script} (sweeps : List (Measured script)) (dir final : Directory)
    (nodup : (script.rounds.map Prod.fst).Nodup) (ran : runSweeps sweeps dir = some final) (file : String)
    (written : file ∈ script.rounds.map Prod.fst) :
    contents final file = contents dir file ++ sweeps.flatMap (fun measured => measured.rows file) := by
  induction sweeps generalizing dir with
  | nil =>
      cases ran
      rw [List.flatMap_nil, List.append_nil]
  | cons measured rest ih =>
      cases moved : runSweep measured dir with
      | none =>
          rw [runSweeps, moved] at ran
          cases ran
      | some next =>
          rw [runSweeps, moved] at ran
          rw [ih next ran, run_sweep_contents measured dir next nodup moved file written, List.flatMap_cons,
            List.append_assoc]

theorem line_reports (codec : String) (label : List String → List String) (dir : Directory) (file : String)
    (cores : List Nat) (speeds : Nat → String → Speeds) (before rows : List Row)
    (holds : contents dir file = before ++ rows)
    (own : (grep codec rows).Perm (cores.map (fun core => rowOf codec (speeds core codec)))) :
    Reports codec cores speeds (parseLine codec label dir file) ↔ grep codec before = [] := by
  have found : grep codec (contents dir file) = grep codec before ++ grep codec rows := by rw [holds, grep_append]
  refine ⟨fun reports => ?_, fun fresh => ⟨?_, ?_, ?_⟩⟩
  · have counted : (grep codec (contents dir file)).length = cores.length := reports.numcores
    rw [found, List.length_append, own.length_eq, List.length_map] at counted
    exact List.length_eq_zero_iff.mp (by omega)
  · rw [parseLine, found, fresh, List.nil_append, own.length_eq, List.length_map]
  · rw [parseLine, found, fresh, List.nil_append, (own.map Row.comp).sum_eq, List.map_map]
    rfl
  · rw [parseLine, found, fresh, List.nil_append, (own.map Row.decomp).sum_eq, List.map_map]
    rfl

theorem script_files (pipeline : Pipeline) : (pipeline.script.rounds.map Prod.fst).Nodup := by
  cases pipeline <;> decide

theorem script_cores (pipeline : Pipeline) : ∀ round ∈ pipeline.script.rounds, 0 < round.2.length := by
  cases pipeline <;> decide

theorem script_rounds (pipeline : Pipeline) : ∃ round, round ∈ pipeline.script.rounds := by
  cases pipeline <;> exact ⟨_, List.mem_cons_self⟩

theorem isa_l_parsed (pipeline : Pipeline) : "isa-l" ∈ codecsOf pipeline := by
  cases pipeline <;> decide

theorem script_listed (pipeline : Pipeline) :
    ∀ round ∈ pipeline.script.rounds, "results_".toList.isPrefixOf round.1.toList = true := by
  cases pipeline <;> decide

theorem script_codecs (pipeline : Pipeline) : ∀ codec ∈ codecsOf pipeline,
    pipeline.script.codecs.filter (fun name => decide (codec.toList <:+: name.toList)) = [codec] := by
  cases pipeline <;> decide

def labelOf : Pipeline → List String → List String
  | .granularity => id
  | .throughput => fun found => found.getLast?.toList

theorem parse_parts (pipeline : Pipeline) (dir : Directory) : pipeline.parse dir =
    (codecsOf pipeline).map (fun codec => (codec, (listing dir).map (parseLine codec (labelOf pipeline) dir))) := by
  cases pipeline <;> rfl

section Sweeps

variable (pipeline : Pipeline) (dir final : Directory) (earlier : List (Measured pipeline.script))
  (last : Measured pipeline.script)

theorem own_rows (measured : Measured pipeline.script) (codec : String) (parsed : codec ∈ codecsOf pipeline)
    (round : String × List Nat) (inside : round ∈ pipeline.script.rounds) :
    (grep codec (measured.rows round.1)).Perm
      (round.2.map (fun core => rowOf codec (measured.speeds round.1 core codec))) := by
  have found := grep_perm codec _ _ (measured.order round inside)
  rwa [grep_process_rows codec _ _ _ (script_codecs pipeline codec parsed)] at found

theorem right_iff_lines (present : ∀ round ∈ pipeline.script.rounds, round.1 ∈ final) :
    Right pipeline final last ↔ ∀ codec ∈ codecsOf pipeline, ∀ round ∈ pipeline.script.rounds,
      Reports codec round.2 (last.speeds round.1) (parseLine codec (labelOf pipeline) final round.1) := by
  have listed : ∀ round ∈ pipeline.script.rounds, round.1 ∈ listing final := fun round inside =>
    List.mem_filter.mpr ⟨AList.mem_keys.mp (present round inside), script_listed pipeline round inside⟩
  simp only [Right, parse_parts, List.forall_mem_map]
  refine ⟨fun right codec parsed round inside => ?_, fun lines codec parsed round inside => ⟨?_, ?_⟩⟩
  · exact (right codec parsed round inside).2 round.1 (listed round inside) rfl
  · exact ⟨_, List.mem_map_of_mem (listed round inside), rfl⟩
  · intro file member same
    cases same
    exact lines codec parsed round inside

theorem nothing_before_iff (codec : String) (parsed : codec ∈ codecsOf pipeline) (round : String × List Nat)
    (inside : round ∈ pipeline.script.rounds) :
    grep codec (contents dir round.1 ++ earlier.flatMap (fun measured => measured.rows round.1)) = [] ↔
      earlier = [] ∧ grep codec (contents dir round.1) = [] := by
  rw [grep_append, List.append_eq_nil_iff]
  refine ⟨fun ⟨fresh, unwritten⟩ => ⟨?_, fresh⟩, fun ⟨single, fresh⟩ => ⟨fresh, ?_⟩⟩
  · cases earlier with
    | nil => rfl
    | cons measured rest =>
        rw [List.flatMap_cons, grep_append, List.append_eq_nil_iff] at unwritten
        have counted := (own_rows pipeline measured codec parsed round inside).length_eq
        rw [unwritten.1, List.length_map, List.length_nil] at counted
        have cores := script_cores pipeline round inside
        omega
  · subst earlier
    rfl

theorem last_writes (ran : runSweeps (earlier ++ [last]) dir = some final) (round : String × List Nat)
    (inside : round ∈ pipeline.script.rounds) :
    contents final round.1 =
      (contents dir round.1 ++ earlier.flatMap (fun measured => measured.rows round.1)) ++ last.rows round.1 := by
  rw [run_sweeps_contents (earlier ++ [last]) dir final (script_files pipeline) ran round.1
    (List.mem_map_of_mem inside), List.flatMap_append, List.append_assoc]
  simp

theorem last_present (ran : runSweeps (earlier ++ [last]) dir = some final) (round : String × List Nat)
    (inside : round ∈ pipeline.script.rounds) : round.1 ∈ final := by
  apply mem_of_contents final round.1
  intro missing
  rw [last_writes pipeline dir final earlier last ran round inside, List.append_eq_nil_iff] at missing
  have counted := (own_rows pipeline last "isa-l" (isa_l_parsed pipeline) round inside).length_eq
  rw [missing.2, List.length_map] at counted
  have cores := script_cores pipeline round inside
  simp only [grep, List.filter_nil, List.length_nil] at counted
  omega

theorem pipeline_right_iff (ran : runSweeps (earlier ++ [last]) dir = some final) :
    Right pipeline final last ↔ earlier = [] ∧ Fresh pipeline dir := by
  rw [right_iff_lines pipeline final last (last_present pipeline dir final earlier last ran)]
  have exact_lines : ∀ codec ∈ codecsOf pipeline, ∀ round ∈ pipeline.script.rounds,
      (Reports codec round.2 (last.speeds round.1) (parseLine codec (labelOf pipeline) final round.1) ↔
        earlier = [] ∧ grep codec (contents dir round.1) = []) := by
    intro codec parsed round inside
    rw [← nothing_before_iff pipeline dir earlier codec parsed round inside]
    exact line_reports codec _ final round.1 round.2 _ _ _ (last_writes pipeline dir final earlier last ran round inside)
      (own_rows pipeline last codec parsed round inside)
  refine ⟨fun lines => ⟨?_, ?_⟩, fun ⟨single, fresh⟩ codec parsed round inside => ?_⟩
  · obtain ⟨round, inside⟩ := script_rounds pipeline
    have line := lines "isa-l" (isa_l_parsed pipeline) round inside
    exact ((exact_lines "isa-l" (isa_l_parsed pipeline) round inside).mp line).1
  · intro codec parsed round inside
    exact ((exact_lines codec parsed round inside).mp (lines codec parsed round inside)).2
  · exact (exact_lines codec parsed round inside).mpr ⟨single, fresh codec parsed round inside⟩

end Sweeps

theorem granularity_never_stops (sweeps : List (Measured granularitySweep)) (dir : Directory)
    (absent : "results_*" ∉ dir) : ∃ final, runSweeps sweeps dir = some final := by
  induction sweeps generalizing dir with
  | nil => exact ⟨dir, rfl⟩
  | cons measured rest ih =>
      have unwritten : "results_*" ∉
          ((granularitySweep.rounds.map Prod.fst).map (fun file => (file, measured.rows file))).map Prod.fst := by
        rw [List.map_map]
        change "results_*" ∉ (granularitySweep.rounds.map Prod.fst).map id
        decide
      have passes : runSweep measured dir = some _ := if_neg absent
      simp only [runSweeps, passes]
      exact ih _ (fun member => ((mem_append_all _ _ _).mp member).elim absent unwritten)

def steadySpeeds : Speeds := ⟨1, 1, 50⟩

def steadySweep : Measured granularitySweep where
  speeds := fun _ _ _ => steadySpeeds
  rows := fun _ => processRows granularitySweep.codecs (fun _ _ => steadySpeeds) [40, 41, 42, 43]
  order := by
    intro round inside
    obtain ⟨i, listed, rfl⟩ := List.mem_map.mp inside
    exact List.Perm.refl _

theorem one_sweep_right :
    Right .granularity
        (appendAll ((granularitySweep.rounds.map Prod.fst).map (fun file => (file, steadySweep.rows file))) ∅)
        steadySweep ↔
      ([] : List (Measured granularitySweep)) = [] ∧ Fresh .granularity ∅ :=
  pipeline_right_iff .granularity ∅ _ [] steadySweep rfl

theorem second_sweep_doubles :
    ∃ final, runSweeps [steadySweep, steadySweep] ∅ = some final ∧ ¬ Right .granularity final steadySweep := by
  obtain ⟨final, ran⟩ := granularity_never_stops [steadySweep, steadySweep] ∅ (by decide)
  refine ⟨final, ran, fun right => ?_⟩
  have round : ("results_1kbchunk", [40, 41, 42, 43]) ∈ Pipeline.granularity.script.rounds := by decide
  have parsed := isa_l_parsed .granularity
  have lines := (right_iff_lines .granularity final steadySweep
    (last_present .granularity ∅ final [steadySweep] steadySweep ran)).mp right "isa-l" parsed _ round
  have fresh := (line_reports "isa-l" _ final _ _ _ _ _ (last_writes .granularity ∅ final [steadySweep] steadySweep ran
    _ round) (own_rows .granularity steadySweep "isa-l" parsed _ round)).mp lines
  have single := ((nothing_before_iff .granularity ∅ [steadySweep] "isa-l" parsed _ round).mp fresh).1
  cases single

end SprAccelProfiling.Sweep
