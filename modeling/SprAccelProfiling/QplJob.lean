import SprAccelProfiling.Buffer
import SprAccelProfiling.Loop
import Mathlib.Algebra.Order.Ring.Nat

set_option autoImplicit false

namespace SprAccelProfiling.Qpl

open SprAccelProfiling.Buffer SprAccelProfiling.Loop

abbrev Bytes := List UInt8

inductive Path where
  | software
  | hardware
deriving DecidableEq

inductive Op where
  | compress
  | decompress
deriving DecidableEq

inductive Status where
  | ok
  | moreOutputNeeded
  | error (code : Nat)
deriving DecidableEq

structure Flags where
  FIRST : Bool
  LAST : Bool
  DYNAMIC_HUFFMAN : Bool
  OMIT_VERIFY : Bool
deriving DecidableEq

inductive Container where
  | destination
  | reference
deriving DecidableEq

-- next_in holds the available_in bytes at next_in_ptr; next_out_ptr is an offset into a container.
structure Job (σ : Type) where
  op : Op
  level : Nat
  next_in : Bytes
  container : Container
  next_out : Nat
  available_out : Nat
  total_out : Nat
  flags : Flags
  internal : σ

structure Reply (σ : Type) where
  status : Status
  consumed : Nat
  written : Bytes
  total_out : Nat
  internal : σ

-- parse_execution_path is defined beside the library and not in the program.
structure Library (σ : Type) where
  parse_execution_path : Int × Path
  default_level : Nat
  qpl_get_job_size : Path → Status
  qpl_init_job : Path → Status × Job σ
  qpl_execute_job : Job σ → Reply σ
  qpl_fini_job : σ → Status
  within : ∀ job, (qpl_execute_job job).written.length ≤ job.available_out

inductive Call where
  | getJobSize (path : Path) (status : Status)
  | initJob (path : Path) (status : Status)
  | executeJob (op : Op) (flags : Flags) (status : Status)
  | finiJob (status : Status)
deriving DecidableEq

inductive Example where
  | compression
  | decompression
deriving DecidableEq

inductive Point where
  | parsePath
  | getJobSize
  | initJob
  | compress
  | decompress
  | resubmit
  | finiJob
  | compare
deriving DecidableEq

structure Store where
  container : Container
  offset : Nat
  bytes : Bytes

-- calls and stores are logs that the program does not have.
structure Running (σ : Type) where
  point : Point
  path : Path
  job : Job σ
  destination : Bytes
  reference : Bytes
  compressed_size : Nat
  calls : List Call
  stores : List Store

-- A write outside its container leaves the program without a meaning.
inductive Exit where
  | returned (code : Int)
  | overrun
deriving DecidableEq

def source_size : Nat := 1000

def source : Bytes := List.replicate source_size 5

def freshDestination : Bytes := List.replicate (source_size / 2) 4

def freshReference : Bytes := List.replicate source_size 7

section Program

variable {σ : Type} (library : Library σ)

def Running.memory (running : Running σ) : Container → Bytes
  | .destination => running.destination
  | .reference => running.reference

def Running.stored (running : Running σ) (job : Job σ) (written : Bytes) (cells : Bytes) : Running σ :=
  let store : Store := ⟨job.container, job.next_out, written⟩
  match job.container with
  | .destination => { running with destination := cells, stores := running.stores ++ [store] }
  | .reference => { running with reference := cells, stores := running.stores ++ [store] }

def Job.after (job : Job σ) (reply : Reply σ) : Job σ :=
  { job with
    next_in := job.next_in.drop reply.consumed
    next_out := job.next_out + reply.written.length
    available_out := job.available_out - reply.written.length
    total_out := reply.total_out
    internal := reply.internal }

def execute (running : Running σ) (job : Job σ) : Option (Status × Running σ) :=
  let reply := library.qpl_execute_job job
  (writeAt (running.memory job.container) job.next_out reply.written).map (fun cells =>
    (reply.status,
      { running.stored job reply.written cells with
        job := job.after reply
        calls := running.calls ++ [.executeJob job.op job.flags reply.status] }))

def compressJob (job : Job σ) : Job σ :=
  { job with
    op := .compress
    level := library.default_level
    next_in := source
    container := .destination
    next_out := 0
    available_out := source_size / 2
    flags := ⟨true, true, true, true⟩ }

-- The first submission has too little room on purpose.
def decompressJob (running : Running σ) : Job σ :=
  { running.job with
    op := .decompress
    next_in := running.destination.take running.compressed_size
    container := .reference
    next_out := 0
    available_out := source_size / 2
    flags := ⟨true, true, false, false⟩ }

-- QPL_FLAG_FIRST is unset, and the room is a difference of two uint32_t.
def resubmitJob (job : Job σ) : Job σ :=
  { job with
    container := .reference
    next_out := job.total_out
    available_out := (source_size + 2 ^ 32 - job.total_out % 2 ^ 32) % 2 ^ 32
    flags := { job.flags with FIRST := false } }

def afterCompress : Example → Point
  | .compression => .finiJob
  | .decompression => .decompress

def sized (running : Running σ) : Running σ :=
  { running with calls := running.calls ++ [.getJobSize running.path (library.qpl_get_job_size running.path)] }

def initialised (running : Running σ) : Running σ :=
  { running with calls := running.calls ++ [.initJob running.path (library.qpl_init_job running.path).1] }

def finalised (running : Running σ) : Running σ :=
  { running with calls := running.calls ++ [.finiJob (library.qpl_fini_job running.job.internal)] }

def turn (program : Example) (running : Running σ) : Turn (Running σ) (Exit × Running σ) :=
  match running.point with
  | .parsePath =>
      if library.parse_execution_path.1 ≠ 0 then .done (.returned 1, running)
      else .again { running with point := .getJobSize, path := library.parse_execution_path.2 }
  | .getJobSize =>
      let called := sized library running
      if library.qpl_get_job_size running.path ≠ .ok then .done (.returned 1, called)
      else .again { called with point := .initJob }
  | .initJob =>
      let called := initialised library running
      if (library.qpl_init_job running.path).1 ≠ .ok then .done (.returned 1, called)
      else .again { called with point := .compress, job := (library.qpl_init_job running.path).2 }
  | .compress =>
      match execute library running (compressJob library running.job) with
      | none => .done (.overrun, running)
      | some (status, called) =>
          if status ≠ .ok then .done (.returned 1, called)
          else .again { called with point := afterCompress program, compressed_size := called.job.total_out }
  | .decompress =>
      match execute library running (decompressJob running) with
      | none => .done (.overrun, running)
      | some (.ok, called) => .again { called with point := .finiJob }
      | some (.moreOutputNeeded, called) => .again { called with point := .resubmit }
      | some (.error _, called) => .done (.returned 1, called)
  | .resubmit =>
      match execute library running (resubmitJob running.job) with
      | none => .done (.overrun, running)
      | some (status, called) =>
          if status ≠ .ok then .done (.returned 1, called) else .again { called with point := .finiJob }
  | .finiJob =>
      let called := finalised library running
      if library.qpl_fini_job running.job.internal ≠ .ok then .done (.returned 1, called)
      else
        match program with
        | .compression => .done (.returned 0, called)
        | .decompression => .again { called with point := .compare }
  | .compare =>
      if (List.range source_size).any (fun i => source.getD i 0 != running.reference.getD i 0) then
        .done (.returned 1, running)
      else .done (.returned 0, running)

def start (garbage : Job σ) : Example → Running σ
  | .compression => ⟨.getJobSize, .hardware, garbage, freshDestination, freshReference, 0, [], []⟩
  | .decompression => ⟨.parsePath, .software, garbage, freshDestination, freshReference, 0, [], []⟩

end Program

section Steps

variable {σ : Type} (library : Library σ)

theorem execute_cases (running called : Running σ) (job : Job σ) (status : Status)
    (executed : execute library running job = some (status, called)) :
    ∃ cells, writeAt (running.memory job.container) job.next_out (library.qpl_execute_job job).written = some cells ∧
      status = (library.qpl_execute_job job).status ∧
      called = { running.stored job (library.qpl_execute_job job).written cells with
        job := job.after (library.qpl_execute_job job)
        calls := running.calls ++ [.executeJob job.op job.flags status] } := by
  obtain ⟨cells, wrote, same⟩ := Option.map_eq_some_iff.mp executed
  obtain ⟨rfl, rfl⟩ := Prod.mk.inj same
  exact ⟨cells, wrote, rfl, rfl⟩

end Steps

section Moves

variable {σ : Type} (library : Library σ) (program : Example) (running : Running σ)

inductive Moves : Running σ → Prop where
  | parsed (point : running.point = .parsePath) (ok : library.parse_execution_path.1 = 0) :
      Moves { running with point := .getJobSize, path := library.parse_execution_path.2 }
  | sized (point : running.point = .getJobSize) (ok : library.qpl_get_job_size running.path = .ok) :
      Moves { sized library running with point := .initJob }
  | initialised (point : running.point = .initJob) (ok : (library.qpl_init_job running.path).1 = .ok) :
      Moves { initialised library running with point := .compress, job := (library.qpl_init_job running.path).2 }
  | compressed (called : Running σ) (point : running.point = .compress)
      (executed : execute library running (compressJob library running.job) = some (.ok, called)) :
      Moves { called with point := afterCompress program, compressed_size := called.job.total_out }
  | drained (called : Running σ) (point : running.point = .decompress)
      (executed : execute library running (decompressJob running) = some (.ok, called)) :
      Moves { called with point := .finiJob }
  | stalled (called : Running σ) (point : running.point = .decompress)
      (executed : execute library running (decompressJob running) = some (.moreOutputNeeded, called)) :
      Moves { called with point := .resubmit }
  | resumed (called : Running σ) (point : running.point = .resubmit)
      (executed : execute library running (resubmitJob running.job) = some (.ok, called)) :
      Moves { called with point := .finiJob }
  | closed (point : running.point = .finiJob) (ok : library.qpl_fini_job running.job.internal = .ok)
      (checked : program = .decompression) : Moves { finalised library running with point := .compare }

def Matches : Prop := ∀ i, i < source_size → source.getD i 0 = running.reference.getD i 0

inductive Submits : Job σ → Prop where
  | compress (point : running.point = .compress) : Submits (compressJob library running.job)
  | decompress (point : running.point = .decompress) : Submits (decompressJob running)
  | resubmit (point : running.point = .resubmit) : Submits (resubmitJob running.job)

inductive Stops : Exit → Running σ → Prop where
  | unparsed (point : running.point = .parsePath) (bad : library.parse_execution_path.1 ≠ 0) :
      Stops (.returned 1) running
  | unsized (point : running.point = .getJobSize) (bad : library.qpl_get_job_size running.path ≠ .ok) :
      Stops (.returned 1) (sized library running)
  | uninitialised (point : running.point = .initJob) (bad : (library.qpl_init_job running.path).1 ≠ .ok) :
      Stops (.returned 1) (initialised library running)
  | overrun (job : Job σ) (submits : Submits library running job) (executed : execute library running job = none) :
      Stops .overrun running
  | refused (job : Job σ) (status : Status) (called : Running σ) (submits : Submits library running job)
      (executed : execute library running job = some (status, called)) (bad : status ≠ .ok)
      (hopeless : running.point = .decompress → status ≠ .moreOutputNeeded) : Stops (.returned 1) called
  | unclosed (point : running.point = .finiJob) (bad : library.qpl_fini_job running.job.internal ≠ .ok) :
      Stops (.returned 1) (finalised library running)
  | closed (point : running.point = .finiJob) (ok : library.qpl_fini_job running.job.internal = .ok)
      (unchecked : program = .compression) : Stops (.returned 0) (finalised library running)
  | mismatched (point : running.point = .compare) (differs : ¬ Matches running) : Stops (.returned 1) running
  | matched (point : running.point = .compare) (same : Matches running) : Stops (.returned 0) running

theorem matches_iff : (List.range source_size).any (fun i => source.getD i 0 != running.reference.getD i 0) = false ↔
    Matches running := by
  simp only [List.any_eq_false, List.mem_range, bne_iff_ne, ne_eq, not_not, Matches]

theorem turn_cases (result : Turn (Running σ) (Exit × Running σ)) (turned : turn library program running = result) :
    (∃ next, result = .again next ∧ Moves library program running next) ∨
      ∃ exit last, result = .done (exit, last) ∧ Stops library program running exit last := by
  subst turned
  rw [turn]
  cases point : running.point with
  | parsePath =>
      by_cases ok : library.parse_execution_path.1 = 0
      · exact .inl ⟨_, if_neg (not_not.mpr ok), .parsed point ok⟩
      · exact .inr ⟨_, _, if_pos ok, .unparsed point ok⟩
  | getJobSize =>
      by_cases ok : library.qpl_get_job_size running.path = .ok
      · exact .inl ⟨_, if_neg (not_not.mpr ok), .sized point ok⟩
      · exact .inr ⟨_, _, if_pos ok, .unsized point ok⟩
  | initJob =>
      by_cases ok : (library.qpl_init_job running.path).1 = .ok
      · exact .inl ⟨_, if_neg (not_not.mpr ok), .initialised point ok⟩
      · exact .inr ⟨_, _, if_pos ok, .uninitialised point ok⟩
  | compress =>
      dsimp only
      cases executed : execute library running (compressJob library running.job) with
      | none => exact .inr ⟨_, _, rfl, .overrun _ (.compress point) executed⟩
      | some reply =>
          obtain ⟨status, called⟩ := reply
          by_cases ok : status = .ok
          · subst ok
            exact .inl ⟨_, rfl, .compressed called point executed⟩
          · exact .inr ⟨_, _, if_pos ok,
              .refused _ status called (.compress point) executed ok (fun other => by rw [point] at other; cases other)⟩
  | decompress =>
      dsimp only
      cases executed : execute library running (decompressJob running) with
      | none => exact .inr ⟨_, _, rfl, .overrun _ (.decompress point) executed⟩
      | some reply =>
          obtain ⟨status, called⟩ := reply
          cases status with
          | ok => exact .inl ⟨_, rfl, .drained called point executed⟩
          | moreOutputNeeded => exact .inl ⟨_, rfl, .stalled called point executed⟩
          | error code => exact .inr ⟨_, _, rfl, .refused _ _ called (.decompress point) executed (fun same => by cases same)
              (fun _ same => by cases same)⟩
  | resubmit =>
      dsimp only
      cases executed : execute library running (resubmitJob running.job) with
      | none => exact .inr ⟨_, _, rfl, .overrun _ (.resubmit point) executed⟩
      | some reply =>
          obtain ⟨status, called⟩ := reply
          by_cases ok : status = .ok
          · subst ok
            exact .inl ⟨_, rfl, .resumed called point executed⟩
          · exact .inr ⟨_, _, if_pos ok,
              .refused _ status called (.resubmit point) executed ok (fun other => by rw [point] at other; cases other)⟩
  | finiJob =>
      dsimp only
      by_cases ok : library.qpl_fini_job running.job.internal = .ok
      · rw [if_neg (not_not.mpr ok)]
        cases program with
        | compression => exact .inr ⟨_, _, rfl, .closed point ok rfl⟩
        | decompression => exact .inl ⟨_, rfl, .closed point ok rfl⟩
      · exact .inr ⟨_, _, if_pos ok, .unclosed point ok⟩
  | compare =>
      by_cases same : Matches running
      · exact .inr ⟨_, _, if_neg (by rw [(matches_iff running).mpr same]; exact Bool.false_ne_true), .matched point same⟩
      · have differs := (not_congr (matches_iff running)).mpr same
        exact .inr ⟨_, _, if_pos (Bool.not_eq_false _ ▸ differs), .mismatched point same⟩

theorem turn_again (next : Running σ) (turned : turn library program running = .again next) :
    Moves library program running next := by
  rcases turn_cases library program running _ turned with ⟨other, same, moves⟩ | ⟨exit, last, same, _⟩
  · cases same
    exact moves
  · cases same

theorem turn_done (exit : Exit) (last : Running σ) (turned : turn library program running = .done (exit, last)) :
    Stops library program running exit last := by
  rcases turn_cases library program running _ turned with ⟨next, same, _⟩ | ⟨other, final, same, stops⟩
  · cases same
  · cases same
    exact stops

end Moves

inductive Phase where
  | unsized
  | sized
  | ready
  | compressed
  | stalled
  | drained
  | closed
  | failed
deriving DecidableEq

def onOk (status : Status) (phase : Phase) : Phase := if status = .ok then phase else .failed

def follow : Phase → Call → Option Phase
  | .unsized, .getJobSize _ status => some (onOk status .sized)
  | .sized, .initJob _ status => some (onOk status .ready)
  | .ready, .executeJob .compress ⟨true, true, _, _⟩ status => some (onOk status .compressed)
  | .compressed, .executeJob .decompress ⟨true, true, false, false⟩ .moreOutputNeeded => some .stalled
  | .compressed, .executeJob .decompress ⟨true, true, false, false⟩ status => some (onOk status .drained)
  | .stalled, .executeJob .decompress ⟨false, true, false, false⟩ status => some (onOk status .drained)
  | .compressed, .finiJob status => some (onOk status .closed)
  | .drained, .finiJob status => some (onOk status .closed)
  | _, _ => none

def phaseOf (calls : List Call) : Option Phase := calls.foldlM follow .unsized

theorem phase_snoc (calls : List Call) (call : Call) (phase : Phase) (before : phaseOf calls = some phase) :
    phaseOf (calls ++ [call]) = follow phase call := by
  have appended : phaseOf (calls ++ [call]) = (follow phase call).bind some := by
    rw [phaseOf, List.foldlM_append, ← phaseOf, before]
    rfl
  rw [appended, Option.bind_fun_some]

inductive Awaits : Point → Phase → Prop where
  | parsePath : Awaits .parsePath .unsized
  | getJobSize : Awaits .getJobSize .unsized
  | initJob : Awaits .initJob .sized
  | compress : Awaits .compress .ready
  | decompress : Awaits .decompress .compressed
  | resubmit : Awaits .resubmit .stalled
  | closeCompressed : Awaits .finiJob .compressed
  | closeDrained : Awaits .finiJob .drained
  | compare : Awaits .compare .closed

structure Lawful {σ : Type} (running : Running σ) : Prop where
  phase : ∃ phase, phaseOf running.calls = some phase ∧ Awaits running.point phase
  submitted : running.point = .resubmit →
    running.job.op = .decompress ∧ running.job.flags = ⟨true, true, false, false⟩

structure Settled {σ : Type} (exit : Exit) (last : Running σ) (phase : Phase) : Prop where
  followed : phaseOf last.calls = some phase
  success : exit = .returned 0 → phase = .closed
  failure : exit = .returned 1 → phase = .unsized ∨ phase = .failed ∨ phase = .closed
  stops : phase = .failed → exit = .returned 1

section Protocol

variable {σ : Type} (library : Library σ) (program : Example)

theorem start_lawful (garbage : Job σ) : Lawful (start garbage program) := by
  cases program with
  | compression => exact ⟨⟨.unsized, rfl, .getJobSize⟩, fun point => by cases point⟩
  | decompression => exact ⟨⟨.unsized, rfl, .parsePath⟩, fun point => by cases point⟩

theorem resubmit_flags (running : Running σ) (lawful : Lawful running) (point : running.point = .resubmit) :
    (resubmitJob running.job).op = .decompress ∧ (resubmitJob running.job).flags = ⟨false, true, false, false⟩ := by
  obtain ⟨op, flags⟩ := lawful.submitted point
  exact ⟨op, by rw [resubmitJob, flags]⟩

theorem executed_calls (running called : Running σ) (job : Job σ) (status : Status)
    (executed : execute library running job = some (status, called)) :
    called.calls = running.calls ++ [.executeJob job.op job.flags status] := by
  obtain ⟨cells, _, _, rfl⟩ := execute_cases library running called job status executed
  rfl

theorem turn_lawful (running next : Running σ) (lawful : Lawful running)
    (turned : turn library program running = .again next) : Lawful next := by
  obtain ⟨phase, followed, awaits⟩ := lawful.phase
  have moved := turn_again library program running next turned
  cases moved with
  | parsed point ok =>
      rw [point] at awaits
      cases awaits
      exact ⟨⟨.unsized, followed, .getJobSize⟩, nofun⟩
  | sized point ok =>
      rw [point] at awaits
      cases awaits
      refine ⟨⟨.sized, ?_, .initJob⟩, nofun⟩
      rw [sized, phase_snoc _ _ _ followed, ok]
      rfl
  | initialised point ok =>
      rw [point] at awaits
      cases awaits
      refine ⟨⟨.ready, ?_, .compress⟩, nofun⟩
      rw [initialised, phase_snoc _ _ _ followed, ok]
      rfl
  | compressed called point executed =>
      rw [point] at awaits
      cases awaits
      have calls := executed_calls library running called _ _ executed
      refine ⟨⟨.compressed, ?_, ?_⟩, fun other => ?_⟩
      · show phaseOf called.calls = _
        rw [calls, phase_snoc _ _ _ followed]
        rfl
      · cases program with
        | compression => exact .closeCompressed
        | decompression => exact .decompress
      · cases program with
        | compression => cases other
        | decompression => cases other
  | drained called point executed =>
      rw [point] at awaits
      cases awaits
      have calls := executed_calls library running called _ _ executed
      refine ⟨⟨.drained, ?_, .closeDrained⟩, nofun⟩
      show phaseOf called.calls = _
      rw [calls, phase_snoc _ _ _ followed]
      rfl
  | stalled called point executed =>
      rw [point] at awaits
      cases awaits
      have calls := executed_calls library running called _ _ executed
      obtain ⟨cells, _, _, rfl⟩ := execute_cases library running called _ _ executed
      refine ⟨⟨.stalled, ?_, .resubmit⟩, fun _ => ⟨rfl, rfl⟩⟩
      rw [calls, phase_snoc _ _ _ followed]
      rfl
  | resumed called point executed =>
      obtain ⟨op, flags⟩ := resubmit_flags running lawful point
      rw [point] at awaits
      cases awaits
      have calls := executed_calls library running called _ _ executed
      refine ⟨⟨.drained, ?_, .closeDrained⟩, nofun⟩
      show phaseOf called.calls = _
      rw [calls, op, flags, phase_snoc _ _ _ followed]
      rfl
  | closed point ok checked =>
      have closes : follow phase (.finiJob .ok) = some .closed := by
        rw [point] at awaits
        cases awaits with
        | closeCompressed => rfl
        | closeDrained => rfl
      refine ⟨⟨.closed, ?_, .compare⟩, nofun⟩
      rw [finalised, phase_snoc _ _ _ followed, ok, closes]

theorem refused_failed (running called : Running σ) (lawful : Lawful running) (job : Job σ) (status : Status)
    (submits : Submits library running job) (executed : execute library running job = some (status, called))
    (bad : status ≠ .ok) (hopeless : running.point = .decompress → status ≠ .moreOutputNeeded) :
    phaseOf called.calls = some .failed := by
  obtain ⟨phase, followed, awaits⟩ := lawful.phase
  have calls := executed_calls library running called job status executed
  rw [calls, phase_snoc _ _ _ followed]
  cases submits with
  | compress point =>
      rw [point] at awaits
      cases awaits
      exact congrArg some (if_neg bad)
  | decompress point =>
      rw [point] at awaits
      cases awaits
      cases status with
      | ok => exact absurd rfl bad
      | moreOutputNeeded => exact absurd rfl (hopeless point)
      | error code => rfl
  | resubmit point =>
      obtain ⟨op, flags⟩ := resubmit_flags running lawful point
      rw [point] at awaits
      cases awaits
      rw [op, flags]
      exact congrArg some (if_neg bad)

theorem awaits_running (point : Point) (phase : Phase) (awaits : Awaits point phase) : phase ≠ .failed := by
  intro failed
  subst failed
  cases awaits

theorem failed_settled (last : Running σ) (followed : phaseOf last.calls = some .failed) :
    Settled (.returned 1) last .failed :=
  ⟨followed, nofun, fun _ => .inr (.inl rfl), fun _ => rfl⟩

theorem stops_settled (running last : Running σ) (exit : Exit) (lawful : Lawful running)
    (stops : Stops library program running exit last) : ∃ phase, Settled exit last phase := by
  obtain ⟨phase, followed, awaits⟩ := lawful.phase
  cases stops with
  | unparsed point bad =>
      rw [point] at awaits
      cases awaits
      exact ⟨.unsized, followed, nofun, fun _ => .inl rfl, fun _ => rfl⟩
  | unsized point bad =>
      rw [point] at awaits
      cases awaits
      refine ⟨.failed, failed_settled _ ?_⟩
      rw [sized, phase_snoc _ _ _ followed]
      exact congrArg some (if_neg bad)
  | uninitialised point bad =>
      rw [point] at awaits
      cases awaits
      refine ⟨.failed, failed_settled _ ?_⟩
      rw [initialised, phase_snoc _ _ _ followed]
      exact congrArg some (if_neg bad)
  | overrun job submits executed =>
      exact ⟨phase, followed, nofun, nofun,
        fun failed => absurd failed (awaits_running _ phase awaits)⟩
  | refused job status called submits executed bad hopeless =>
      exact ⟨.failed, failed_settled last
        (refused_failed library running last lawful job status submits executed bad hopeless)⟩
  | unclosed point bad =>
      refine ⟨.failed, failed_settled _ ?_⟩
      rw [finalised, phase_snoc _ _ _ followed]
      rw [point] at awaits
      cases awaits with
      | closeCompressed => exact congrArg some (if_neg bad)
      | closeDrained => exact congrArg some (if_neg bad)
  | closed point ok unchecked =>
      refine ⟨.closed, ?_, fun _ => rfl, nofun, nofun⟩
      rw [finalised, phase_snoc _ _ _ followed, ok]
      rw [point] at awaits
      cases awaits with
      | closeCompressed => rfl
      | closeDrained => rfl
  | mismatched point differs =>
      rw [point] at awaits
      cases awaits
      exact ⟨.closed, followed, fun _ => rfl, fun _ => .inr (.inr rfl), nofun⟩
  | matched point same =>
      rw [point] at awaits
      cases awaits
      exact ⟨.closed, followed, fun _ => rfl, nofun, nofun⟩

def Point.rank : Point → Nat
  | .parsePath => 7
  | .getJobSize => 6
  | .initJob => 5
  | .compress => 4
  | .decompress => 3
  | .resubmit => 2
  | .finiJob => 1
  | .compare => 0

theorem turn_lowers (running next : Running σ) (turned : turn library program running = .again next) :
    next.point.rank < running.point.rank := by
  cases turn_again library program running next turned with
  | compressed called point executed =>
      rw [point]
      cases program with
      | compression => exact Nat.succ_lt_succ (Nat.succ_pos 2)
      | decompression => exact Nat.lt_succ_self 3
  | parsed point => rw [point]; exact Nat.lt_succ_self 6
  | sized point => rw [point]; exact Nat.lt_succ_self 5
  | initialised point => rw [point]; exact Nat.lt_succ_self 4
  | drained called point => rw [point]; exact Nat.succ_lt_succ (Nat.succ_pos 1)
  | stalled called point => rw [point]; exact Nat.lt_succ_self 2
  | resumed called point => rw [point]; exact Nat.lt_succ_self 1
  | closed point => rw [point]; exact Nat.lt_succ_self 0

theorem program_ends (keeps : Running σ → Prop)
    (step : ∀ running next, keeps running → turn library program running = .again next → keeps next)
    (garbage : Job σ) (holds : keeps (start garbage program)) :
    ∃ exit last before, Ends (turn library program) (start garbage program) (exit, last) ∧
      keeps before ∧ Stops library program before exit last := by
  obtain ⟨⟨exit, last⟩, ended⟩ := terminates_of_rank (turn library program) (fun running => running.point.rank)
    (turn_lowers library program) (start garbage program)
  obtain ⟨before, kept, turned⟩ := ends_invariant (turn library program) keeps step _ (exit, last) holds ended
  exact ⟨exit, last, before, ended, kept, turn_done library program before exit last turned⟩

theorem job_protocol (garbage : Job σ) : ∃ exit last phase,
    Ends (turn library program) (start garbage program) (exit, last) ∧ Settled exit last phase := by
  obtain ⟨exit, last, before, ended, lawful, stops⟩ := program_ends library program Lawful
    (turn_lawful library program) garbage (start_lawful program garbage)
  obtain ⟨phase, settled⟩ := stops_settled library program before last exit lawful stops
  exact ⟨exit, last, phase, ended, settled⟩

end Protocol

end SprAccelProfiling.Qpl
