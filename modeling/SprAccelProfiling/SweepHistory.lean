import SprAccelProfiling.Sweep

set_option autoImplicit false

namespace SprAccelProfiling.Sweep

open SprAccelProfiling.AppendFiles

structure Invocation where
  pipeline : Pipeline
  measured : Measured pipeline.script

def invoke (dir : Directory) (invocation : Invocation) : Directory :=
  (runSweep invocation.measured dir).getD dir

def Invocation.rows (invocation : Invocation) (file : String) : List Row := invocation.measured.rows file

def files (pipeline : Pipeline) : List String := pipeline.script.rounds.map Prod.fst

def counted (pipeline : Pipeline) (history : List Invocation) : List Invocation :=
  let own := history.filter (fun invocation => decide (invocation.pipeline = pipeline))
  match pipeline with
  | .granularity => own
  | .throughput => own.take 1

def Stops (history : List Invocation) (pipeline : Pipeline) : Prop :=
  pipeline = .throughput ∧ counted pipeline history ≠ []

structure Kept (history : List Invocation) (dir : Directory) : Prop where
  contents_eq : ∀ pipeline, ∀ file ∈ files pipeline,
    contents dir file = (counted pipeline history).flatMap (fun invocation => invocation.rows file)
  listed : ∀ name, name ∈ listing dir ↔ ∃ pipeline, counted pipeline history ≠ [] ∧ name ∈ files pipeline

structure Totals (codec : String) (cores : List Nat) (sweeps : List (Nat → String → Speeds)) (printed : Printed) :
    Prop where
  numcores : printed.numcores = sweeps.length * cores.length
  comp : printed.comp = (sweeps.map (fun speeds => (cores.map (fun core => (speeds core codec).comp)).sum)).sum * 8
  decomp :
    printed.decomp = (sweeps.map (fun speeds => (cores.map (fun core => (speeds core codec).decomp)).sum)).sum * 8
  ratio : ∀ last ∈ sweeps.getLast?, ∃ core ∈ cores, printed.ratio = (last core codec).ratio / 100

def measuredSpeeds (codec : String) (pipeline : Pipeline) (file : String) (history : List Invocation) :
    List (Nat → String → Speeds) :=
  if codec ∈ pipeline.script.codecs then
    (counted pipeline history).map (fun invocation => invocation.measured.speeds file)
  else []

structure Shown (history : List Invocation) (part : String × List Printed) : Prop where
  once : (part.2.map Printed.file).Nodup
  listed : ∀ name, name ∈ part.2.map Printed.file ↔ ∃ pipeline, counted pipeline history ≠ [] ∧ name ∈ files pipeline
  totals : ∀ pipeline, ∀ round ∈ pipeline.script.rounds, ∀ printed ∈ part.2, printed.file = round.1 →
    Totals part.1 round.2 (measuredSpeeds part.1 pipeline round.1 history) printed

theorem files_apart (first second : Pipeline) (different : first ≠ second) :
    ∀ file ∈ files first, file ∉ files second := by
  cases first <;> cases second <;> first | exact absurd rfl different | decide

theorem files_prefixed (pipeline : Pipeline) : ∀ file ∈ files pipeline, "results_".toList.isPrefixOf file.toList := by
  cases pipeline <;> decide

theorem guard_listed (pipeline : Pipeline) : "results_".toList.isPrefixOf pipeline.script.guard.toList := by
  cases pipeline <;> decide

theorem guard_files (pipeline other : Pipeline) :
    pipeline.script.guard ∈ files other ↔ pipeline = .throughput ∧ other = .throughput := by
  cases pipeline <;> cases other <;> decide

theorem mem_listing (dir : Directory) (name : String) (start : "results_".toList.isPrefixOf name.toList) :
    name ∈ listing dir ↔ name ∈ dir := by
  rw [listing, List.mem_filter, AList.mem_keys]
  exact and_iff_left start

theorem guarded_iff (history : List Invocation) (dir : Directory) (kept : Kept history dir) (pipeline : Pipeline) :
    pipeline.script.guard ∈ dir ↔ Stops history pipeline := by
  rw [← mem_listing dir _ (guard_listed pipeline), kept.listed]
  simp only [guard_files]
  refine ⟨fun ⟨other, swept, same, named⟩ => ?_, fun ⟨same, swept⟩ => ?_⟩
  · subst pipeline
    subst other
    exact ⟨rfl, swept⟩
  · subst pipeline
    exact ⟨.throughput, swept, rfl, rfl⟩

theorem counted_stopped (history : List Invocation) (invocation : Invocation)
    (stops : Stops history invocation.pipeline) (pipeline : Pipeline) :
    counted pipeline (history ++ [invocation]) = counted pipeline history := by
  obtain ⟨cores, swept⟩ := stops
  cases pipeline with
  | granularity => simp [counted, List.filter_append, cores]
  | throughput =>
      rw [cores, counted] at swept
      simp only [counted, List.filter_append]
      apply List.take_append_of_le_length
      have filled := List.length_pos_iff.mpr swept
      rw [List.length_take] at filled
      omega

theorem counted_passed (history : List Invocation) (invocation : Invocation)
    (passes : ¬ Stops history invocation.pipeline) (pipeline : Pipeline) :
    counted pipeline (history ++ [invocation]) =
      counted pipeline history ++ if invocation.pipeline = pipeline then [invocation] else [] := by
  by_cases own : invocation.pipeline = pipeline
  · rw [if_pos own]
    subst pipeline
    cases which : invocation.pipeline with
    | granularity => simp [counted, List.filter_append, which]
    | throughput =>
        rw [which] at passes
        have unswept : counted .throughput history = [] := by
          by_contra swept
          exact passes ⟨rfl, swept⟩
        have unmatched : history.filter (fun invocation => decide (invocation.pipeline = .throughput)) = [] := by
          rw [counted, List.take_eq_nil_iff] at unswept
          exact unswept.resolve_left (by omega)
        rw [unswept, counted, List.filter_append, unmatched]
        simp [which]
  · rw [if_neg own, List.append_nil]
    simp only [counted, List.filter_append, List.filter_singleton, own, decide_false, cond_false, List.append_nil]

theorem invoke_stopped (history : List Invocation) (dir : Directory) (kept : Kept history dir) (invocation : Invocation)
    (stops : Stops history invocation.pipeline) : Kept (history ++ [invocation]) (invoke dir invocation) := by
  have unchanged : invoke dir invocation = dir := by
    rw [invoke, runSweep, if_pos ((guarded_iff history dir kept _).mpr stops), Option.getD_none]
  have counts := counted_stopped history invocation stops
  rw [unchanged]
  refine ⟨fun pipeline file inside => ?_, fun name => ?_⟩
  · rw [counts, kept.contents_eq pipeline file inside]
  · simp only [counts, kept.listed]

theorem passed_contents (dir : Directory) (invocation : Invocation) (pipeline : Pipeline) (file : String)
    (inside : file ∈ files pipeline) :
    contents (appendAll ((files invocation.pipeline).map (fun name => (name, invocation.rows name))) dir) file =
      contents dir file ++ if invocation.pipeline = pipeline then invocation.rows file else [] := by
  rw [contents_append_all]
  by_cases own : invocation.pipeline = pipeline
  · subst pipeline
    rw [if_pos rfl]
    exact congrArg _ (written_once (files invocation.pipeline) invocation.rows file (script_files _) inside)
  · rw [if_neg own]
    refine congrArg _ (List.flatMap_eq_nil_iff.mpr ?_)
    intro write listed
    obtain ⟨name, written, rfl⟩ := List.mem_map.mp listed
    exact if_neg (fun same : name = file => files_apart _ pipeline own name written (same ▸ inside))

theorem passed_listing (dir : Directory) (invocation : Invocation) (name : String) :
    name ∈ listing (appendAll ((files invocation.pipeline).map (fun name => (name, invocation.rows name))) dir) ↔
      name ∈ listing dir ∨ name ∈ files invocation.pipeline := by
  by_cases start : "results_".toList.isPrefixOf name.toList = true
  · rw [mem_listing _ _ start, mem_listing _ _ start, mem_append_all, List.map_map]
    simp
  · have outside : ∀ dir, name ∉ listing dir := fun dir listed => start (List.mem_filter.mp listed).2
    have unwritten : name ∉ files invocation.pipeline := fun inside => start (files_prefixed _ name inside)
    exact iff_of_false (outside _) (not_or.mpr ⟨outside _, unwritten⟩)

theorem invoke_passed (history : List Invocation) (dir : Directory) (kept : Kept history dir) (invocation : Invocation)
    (passes : ¬ Stops history invocation.pipeline) : Kept (history ++ [invocation]) (invoke dir invocation) := by
  have appended : invoke dir invocation =
      appendAll ((files invocation.pipeline).map (fun name => (name, invocation.rows name))) dir := by
    rw [invoke, runSweep, if_neg (fun guarded => passes ((guarded_iff history dir kept _).mp guarded))]
    rfl
  have counts := counted_passed history invocation passes
  rw [appended]
  refine ⟨fun pipeline file inside => ?_, fun name => ?_⟩
  · rw [passed_contents dir invocation pipeline file inside, kept.contents_eq pipeline file inside, counts,
      List.flatMap_append]
    by_cases own : invocation.pipeline = pipeline
    · rw [if_pos own, if_pos own, List.flatMap_singleton]
    · rw [if_neg own, if_neg own, List.flatMap_nil]
  · rw [passed_listing, kept.listed]
    refine ⟨fun either => ?_, fun after => ?_⟩
    · rcases either with ⟨pipeline, swept, inside⟩ | inside
      · refine ⟨pipeline, fun gone => swept ?_, inside⟩
        rw [counts, List.append_eq_nil_iff] at gone
        exact gone.1
      · exact ⟨invocation.pipeline, by simp [counts], inside⟩
    · obtain ⟨pipeline, swept, inside⟩ := after
      by_cases own : invocation.pipeline = pipeline
      · exact Or.inr (own ▸ inside)
      · rw [counts, if_neg own, List.append_nil] at swept
        exact Or.inl ⟨pipeline, swept, inside⟩

theorem nothing_kept (dir : Directory) (clean : listing dir = []) : Kept [] dir := by
  have uncounted : ∀ pipeline, counted pipeline [] = [] := fun pipeline => by cases pipeline <;> rfl
  have absent : ∀ pipeline, ∀ file ∈ files pipeline, contents dir file = [] := by
    intro pipeline file inside
    by_contra filled
    have listed := (mem_listing dir file (files_prefixed pipeline file inside)).mpr (mem_of_contents dir file filled)
    rw [clean] at listed
    cases listed
  refine ⟨fun pipeline file inside => ?_, fun name => ?_⟩
  · rw [absent pipeline file inside, uncounted, List.flatMap_nil]
  · simp [clean, uncounted]

theorem history_kept (history : List Invocation) (dir : Directory) (clean : listing dir = []) :
    Kept history (history.foldl invoke dir) := by
  induction history using List.reverseRecOn with
  | nil => exact nothing_kept dir clean
  | append_singleton before invocation ih =>
      rw [List.foldl_append]
      by_cases stops : Stops before invocation.pipeline
      · exact invoke_stopped before _ ih invocation stops
      · exact invoke_passed before _ ih invocation stops

theorem grep_absent_rows (codec : String) (codecs : List String) (speeds : Nat → String → Speeds) (cores : List Nat)
    (absent : codecs.filter (fun name => decide (codec.toList <:+: name.toList)) = []) :
    grep codec (processRows codecs speeds cores) = [] := by
  have each : ∀ core, (codecs.map (fun name => rowOf name (speeds core name))).filter
      (fun row => decide (codec.toList <:+: row.name.toList)) = [] := by
    intro core
    rw [List.filter_map]
    exact congrArg (List.map (fun name => rowOf name (speeds core name))) absent
  rw [grep, processRows, List.filter_flatMap]
  simp only [each]
  exact List.flatMap_eq_nil_iff.mpr (fun _ _ => rfl)

theorem codecs_apart (pipeline : Pipeline) : ∀ codec ∈ algs,
    pipeline.script.codecs.filter (fun name => decide (codec.toList <:+: name.toList)) =
      if codec ∈ pipeline.script.codecs then [codec] else [] := by
  cases pipeline <;> decide

theorem reader_codecs (reader : Pipeline) : ∀ codec ∈ codecsOf reader, codec ∈ algs := by
  cases reader <;> decide

section Lines

variable (codec : String) (cores : List Nat)

def codecRows (speeds : Nat → String → Speeds) : List Row := cores.map (fun core => rowOf codec (speeds core codec))

theorem grep_invocation (parsed : codec ∈ algs) (invocation : Invocation) (round : String × List Nat)
    (inside : round ∈ invocation.pipeline.script.rounds) :
    (grep codec (invocation.rows round.1)).Perm
      (if codec ∈ invocation.pipeline.script.codecs then
        codecRows codec round.2 (invocation.measured.speeds round.1) else []) := by
  have found := grep_perm codec _ _ (invocation.measured.order round inside)
  have apart := codecs_apart invocation.pipeline codec parsed
  by_cases measured : codec ∈ invocation.pipeline.script.codecs
  · rw [if_pos measured] at apart ⊢
    rwa [grep_process_rows codec _ _ _ apart] at found
  · rw [if_neg measured] at apart ⊢
    rwa [grep_absent_rows codec _ _ _ apart] at found

variable (sweeps : List Invocation) (rows : Invocation → List Row) (speeds : Invocation → Nat → String → Speeds)
  (each : ∀ sweep ∈ sweeps, (rows sweep).Perm (codecRows codec cores (speeds sweep)))

include each

theorem rows_length : (sweeps.flatMap rows).length = sweeps.length * cores.length := by
  have lengths : sweeps.map (fun sweep => (rows sweep).length) = sweeps.map (fun _ => cores.length) :=
    List.map_congr_left (fun sweep inside => by rw [(each sweep inside).length_eq, codecRows, List.length_map])
  rw [List.length_flatMap, lengths, List.map_const', List.sum_replicate_nat]

theorem rows_sum (value : Row → Rat) : ((sweeps.flatMap rows).map value).sum =
    (sweeps.map (fun sweep => ((codecRows codec cores (speeds sweep)).map value).sum)).sum := by
  rw [List.map_flatMap, List.flatMap_def, List.sum_flatten, List.map_map]
  exact congrArg List.sum (List.map_congr_left (fun sweep inside => ((each sweep inside).map value).sum_eq))

theorem rows_last (nonempty : cores ≠ []) (last : Invocation) (final : last ∈ sweeps.getLast?) :
    ∃ core ∈ cores, ((sweeps.flatMap rows).map Row.ratio).getLastD 0 = (speeds last core codec).ratio := by
  obtain ⟨before, rfl⟩ := List.getLast?_eq_some_iff.mp final
  have own := each last (List.mem_append_right _ List.mem_cons_self)
  have filled : rows last ≠ [] := by
    intro empty
    rw [empty, codecRows] at own
    exact nonempty (List.map_eq_nil_iff.mp own.nil_eq.symm)
  obtain ⟨core, inside, same⟩ := List.mem_map.mp (own.subset (List.getLast_mem filled))
  refine ⟨core, inside, ?_⟩
  have final_row : ((before ++ [last]).flatMap rows).getLast? = some ((rows last).getLast filled) := by
    rw [List.flatMap_append, List.flatMap_singleton, List.getLast?_append, List.getLast?_eq_some_getLast filled]
    rfl
  rw [List.getLastD_eq_getLast?, List.getLast?_map, final_row, ← same]
  rfl

theorem totals_of_rows (label : List String → List String) (dir : Directory) (file : String) (nonempty : cores ≠ [])
    (holds : grep codec (contents dir file) = sweeps.flatMap rows) :
    Totals codec cores (sweeps.map speeds) (parseLine codec label dir file) := by
  have sums := rows_sum codec cores sweeps rows speeds each
  refine ⟨?_, ?_, ?_, fun last final => ?_⟩
  · rw [parseLine, holds, List.length_map]
    exact rows_length codec cores sweeps rows speeds each
  · simp only [parseLine, holds, sums, codecRows, List.map_map]
    rfl
  · simp only [parseLine, holds, sums, codecRows, List.map_map]
    rfl
  · rw [List.getLast?_map] at final
    obtain ⟨sweep, ends, rfl⟩ := Option.map_eq_some_iff.mp final
    obtain ⟨core, inside, same⟩ := rows_last codec cores sweeps rows speeds each nonempty sweep ends
    exact ⟨core, inside, by simp only [parseLine, holds, same]⟩

end Lines

theorem counted_own (pipeline : Pipeline) (history : List Invocation) :
    ∀ invocation ∈ counted pipeline history, invocation.pipeline = pipeline := by
  intro invocation inside
  have matched : invocation ∈ history.filter (fun invocation => decide (invocation.pipeline = pipeline)) := by
    cases pipeline with
    | granularity => exact inside
    | throughput => exact List.mem_of_mem_take inside
  exact of_decide_eq_true (List.mem_filter.mp matched).2

theorem line_totals (history : List Invocation) (dir : Directory) (kept : Kept history dir) (codec : String)
    (parsed : codec ∈ algs) (label : List String → List String) (pipeline : Pipeline) (round : String × List Nat)
    (inside : round ∈ pipeline.script.rounds) :
    Totals codec round.2 (measuredSpeeds codec pipeline round.1 history) (parseLine codec label dir round.1) := by
  have nonempty : round.2 ≠ [] := List.length_pos_iff.mp (script_cores pipeline round inside)
  have written := kept.contents_eq pipeline round.1 (List.mem_map_of_mem inside)
  have found : grep codec (contents dir round.1) =
      (counted pipeline history).flatMap (fun invocation => grep codec (invocation.rows round.1)) := by
    rw [written, grep, List.filter_flatMap]
    rfl
  have each : ∀ invocation ∈ counted pipeline history, (grep codec (invocation.rows round.1)).Perm
      (if codec ∈ pipeline.script.codecs then codecRows codec round.2 (invocation.measured.speeds round.1) else []) := by
    intro invocation listed
    have own := counted_own pipeline history invocation listed
    subst pipeline
    exact grep_invocation codec parsed invocation round inside
  by_cases measured : codec ∈ pipeline.script.codecs
  · simp only [if_pos measured] at each
    rw [measuredSpeeds, if_pos measured]
    exact totals_of_rows codec round.2 _ _ _ each label dir round.1 nonempty found
  · simp only [if_neg measured] at each
    rw [measuredSpeeds, if_neg measured]
    have silent : grep codec (contents dir round.1) = [] := by
      rw [found]
      exact List.flatMap_eq_nil_iff.mpr (fun invocation listed => List.perm_nil.mp (each invocation listed))
    refine ⟨?_, ?_, ?_, fun last final => absurd final (by simp)⟩ <;> simp [parseLine, silent]

theorem history_shown (history : List Invocation) (dir : Directory) (clean : listing dir = []) (reader : Pipeline) :
    (reader.parse (history.foldl invoke dir)).map Prod.fst = codecsOf reader ∧
      ∀ part ∈ reader.parse (history.foldl invoke dir), Shown history part := by
  have kept := history_kept history dir clean
  rw [parse_parts, List.map_map]
  refine ⟨List.map_id _, List.forall_mem_map.mpr (fun codec parsed => ?_)⟩
  have printed_files : ((listing (history.foldl invoke dir)).map
      (parseLine codec (labelOf reader) (history.foldl invoke dir))).map Printed.file =
        listing (history.foldl invoke dir) := by
    rw [List.map_map]
    exact List.map_id _
  refine ⟨?_, fun name => ?_, ?_⟩
  · rw [printed_files]
    exact (history.foldl invoke dir).nodupKeys.filter _
  · rw [printed_files]
    exact kept.listed name
  · intro pipeline round inside
    refine List.forall_mem_map.mpr (fun file listed same => ?_)
    cases same
    exact line_totals history _ kept codec (reader_codecs reader codec parsed) (labelOf reader) pipeline round inside

def steadyCores : Measured coresSweep where
  speeds := fun _ _ _ => steadySpeeds
  rows := fun file => processRows coresSweep.codecs (fun _ _ => steadySpeeds) ((coresSweep.rounds.lookup file).getD [])
  order := by
    intro round inside
    have own : ∀ round ∈ coresSweep.rounds, coresSweep.rounds.lookup round.1 = some round.2 := by decide
    rw [own round inside]
    exact List.Perm.refl _

def bothTwice : List Invocation :=
  [⟨.throughput, steadyCores⟩, ⟨.granularity, steadySweep⟩, ⟨.throughput, steadyCores⟩, ⟨.granularity, steadySweep⟩]

theorem both_twice_shown :
    (Pipeline.throughput.parse (bothTwice.foldl invoke ∅)).map Prod.fst = codecsOf .throughput ∧
      ∀ part ∈ Pipeline.throughput.parse (bothTwice.foldl invoke ∅), Shown bothTwice part :=
  history_shown bothTwice ∅ rfl .throughput

end SprAccelProfiling.Sweep
