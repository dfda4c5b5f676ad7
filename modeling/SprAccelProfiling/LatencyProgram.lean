import SprAccelProfiling.Divisors
import SprAccelProfiling.IntWidth
import Mathlib.Algebra.Ring.Rat

set_option autoImplicit false

namespace SprAccelProfiling.Latency

open SprAccelProfiling.Loop SprAccelProfiling.Buffer SprAccelProfiling.Corpus

inductive Line where
  | openFailed (filename : String)
  | smaller
  | iterations (num_iters : Nat)
  | bufs (num_bufs : Nat)
  | compressionFailed (status : Option Int)
  | header
  | row (row : Row)
  | decompressionFailed (status : Int)
  | mismatch (buffer index : Int)

-- The last two are ends of the other loader only.
def LoadStop.stop : LoadStop → Stop
  | .exit code => .exit code
  | .overrun => .overrun
  | .unfinished => .unfinished
  | .returned code => .exit code
  | .nullFile => .abort

section Program

variable {σ : Type} (h : Harness) (codec : Deflater σ) (inflater : Inflater) (size fuel : Nat)

-- printf before return -1. Only the zlib harness knows the status there.
def compressComplaint (inputs : List Bytes) (nanos : Nat → UInt64) (i : Nat) (state : State σ) : List Line :=
  match compressBody h codec size fuel inputs nanos i state with
  | .error (.exit _) =>
      match run (compressTurn h codec) fuel (h.setUp codec size (inputs.getD (i % inputs.length) []) state.stream) with
      | some (.left _ status) => [.compressionFailed (some status)]
      | _ => [.compressionFailed none]
  | _ => []

def decompressComplaint (num_iters : Nat) (inputs : List Bytes) (nanos : Nat → UInt64) (i : Nat) (state : State σ) :
    List Line :=
  match decompressBody h inflater size num_iters inputs nanos i state with
  | .error (.exit _) =>
      let slot := i % inputs.length
      let reply := inflater.call i ((state.output_buffers.getD slot []).take (state.compressed_sizes.getD slot 0).toNat) size
      if h.decoded reply.status then
        match writeAt (state.output_buffers_2.getD slot []) 0 reply.written with
        | some written => [.mismatch 0 (compareBuffers written (inputs.getD slot []) size)]
        | none => []
      else [.decompressionFailed reply.status]
  | _ => []

def complaint (words : Nat → State σ → List Line) : Option (Nat × State σ) → List Line
  | some (i, state) => words i state
  | none => []

def mainLines (num_iters : Int) (inputs : Payloads size) (storage : Storage σ size inputs.buffers.length)
    (nanos : Nat → UInt64) : List Line × Except Stop Unit :=
  let count := inputs.buffers.length
  let rounds := iterations num_iters count
  let opening := [.iterations rounds, .bufs count]
  let compress := compressBody h codec size fuel inputs.buffers nanos
  match upTo compress rounds (start h codec rounds storage) with
  | .error stop =>
      (opening ++ complaint (compressComplaint h codec size fuel inputs.buffers nanos)
        (leavesAt compress rounds (start h codec rounds storage)), .error stop)
  | .ok compressed =>
      let avg_ratio := avgRatio compressed.compressed_sizes size count
      match summary size h.level avg_ratio .Compress rounds compressed.times with
      | .error stop => (opening ++ [.header], .error stop)
      | .ok compressRow =>
          let shown := opening ++ [.header, .row compressRow]
          let decompress := decompressBody h inflater size rounds inputs.buffers nanos
          match upTo decompress rounds (readSizes count compressed) with
          | .error stop =>
              (shown ++ complaint (decompressComplaint h inflater size rounds inputs.buffers nanos)
                (leavesAt decompress rounds (readSizes count compressed)), .error stop)
          | .ok last =>
              match summary size h.level avg_ratio .Decompress rounds last.times with
              | .error stop => (shown, .error stop)
              | .ok decompressRow => (shown ++ [.row decompressRow], .ok ())

inductive Ending where
  | unopened
  | crashed (stop : Stop)
  | uncompressed
  | undecompressed
  | returned
deriving DecidableEq

def mainEnding (num_iters : Int) (inputs : Payloads size) (storage : Storage σ size inputs.buffers.length)
    (nanos : Nat → UInt64) : Ending :=
  let count := inputs.buffers.length
  let rounds := iterations num_iters count
  match upTo (compressBody h codec size fuel inputs.buffers nanos) rounds (start h codec rounds storage) with
  | .error (.exit _) => .uncompressed
  | .error stop => .crashed stop
  | .ok compressed =>
      if rounds = 0 then .crashed .divisionByZero
      else
        match upTo (decompressBody h inflater size rounds inputs.buffers nanos) rounds (readSizes count compressed) with
        | .error (.exit _) => .undecompressed
        | .error stop => .crashed stop
        | .ok _ => .returned

/-- What is printed on each way through main. What a crash leaves in the buffer of the output is lost. -/
inductive Transcript (row_size : Nat) (opening : List Line) : Ending → List Line × Except Stop Unit → Prop where
  | crashed (lines : List Line) (stop : Stop) (signal : ∀ code, stop ≠ .exit code) :
      Transcript row_size opening (.crashed stop) (lines, .error stop)
  | uncompressed (status : Option Int) :
      Transcript row_size opening .uncompressed (opening ++ [.compressionFailed status], .error (.exit (-1)))
  | undecoded (first : Row) (status : Int) (own : first.size = row_size ∧ first.direction = .Compress) :
      Transcript row_size opening .undecompressed
        (opening ++ [.header, .row first, .decompressionFailed status], .error (.exit (-1)))
  | mismatched (first : Row) (index : Int) (own : first.size = row_size ∧ first.direction = .Compress) :
      Transcript row_size opening .undecompressed
        (opening ++ [.header, .row first, .mismatch 0 index], .error (.exit (-1)))
  | complete (first second : Row) (own : first.size = row_size ∧ first.direction = .Compress)
      (other : second.size = row_size ∧ second.direction = .Decompress)
      (ratio : first.avg_ratio = second.avg_ratio) :
      Transcript row_size opening .returned (opening ++ [.header, .row first, .row second], .ok ())

theorem compress_exit (inputs : List Bytes) (nanos : Nat → UInt64) (i : Nat) (state : State σ) (code : Int)
    (left : compressBody h codec size fuel inputs nanos i state = .error (.exit code)) :
    code = -1 ∧ ∃ status, compressComplaint h codec size fuel inputs nanos i state = [.compressionFailed status] := by
  refine ⟨?_, ?_⟩
  · rw [compressBody] at left
    by_cases empty : inputs.length = 0
    · rw [if_pos empty] at left
      cases left
    · rw [if_neg empty] at left
      dsimp only at left
      split at left
      · cases left
      · cases left
        rfl
      · split at left
        · cases left
        · split at left
          · cases left
          · cases left
            rfl
  · simp only [compressComplaint, left]
    split
    · exact ⟨_, rfl⟩
    · exact ⟨_, rfl⟩

theorem decompress_exit (num_iters : Nat) (inputs : List Bytes) (nanos : Nat → UInt64) (i : Nat) (state : State σ)
    (code : Int) (left : decompressBody h inflater size num_iters inputs nanos i state = .error (.exit code)) :
    code = -1 ∧
      ((∃ status, decompressComplaint h inflater size num_iters inputs nanos i state = [.decompressionFailed status]) ∨
        ∃ index, decompressComplaint h inflater size num_iters inputs nanos i state = [.mismatch 0 index]) := by
  have source := left
  rw [decompressBody] at left
  split at left
  · cases left
  · split at left
    · cases left
    · dsimp only at left
      split at left
      · cases left
      · rename_i written wrote
        split at left
        · rename_i decoded
          split at left
          · cases left
          · cases left
            refine ⟨rfl, .inr ?_⟩
            simp only [decompressComplaint, source, decoded, if_true, wrote]
            exact ⟨_, rfl⟩
        · rename_i undecoded
          cases left
          refine ⟨rfl, .inl ?_⟩
          simp only [decompressComplaint, source, undecoded]
          exact ⟨_, rfl⟩

theorem summary_row (level : Int) (avg_ratio : Rat) (direction : Direction) (num_iters : Nat) (times : List Nat)
    (positive : num_iters ≠ 0) :
    ∃ row, summary size level avg_ratio direction num_iters times = .ok row ∧ row.size = size ∧
      row.direction = direction ∧ row.avg_ratio = avg_ratio :=
  ⟨_, if_neg positive, rfl, rfl, rfl⟩

theorem main_lines_transcript (num_iters : Int) (inputs : Payloads size)
    (storage : Storage σ size inputs.buffers.length) (nanos : Nat → UInt64) :
    Transcript size [.iterations (iterations num_iters inputs.buffers.length), .bufs inputs.buffers.length]
      (mainEnding h codec inflater size fuel num_iters inputs storage nanos)
      (mainLines h codec inflater size fuel num_iters inputs storage nanos) := by
  cases compressing : upTo (compressBody h codec size fuel inputs.buffers nanos)
      (iterations num_iters inputs.buffers.length) (start h codec (iterations num_iters inputs.buffers.length) storage) with
  | error stop =>
      obtain ⟨i, before, found, left⟩ := leaves_at_stop _ _ _ _ compressing
      simp only [mainLines, mainEnding, compressing, found, complaint]
      cases stop with
      | exit code =>
          obtain ⟨rfl, status, words⟩ := compress_exit h codec size fuel inputs.buffers nanos i before code left
          rw [words]
          exact .uncompressed status
      | abort => exact .crashed _ _ nofun
      | divisionByZero => exact .crashed _ _ nofun
      | overrun => exact .crashed _ _ nofun
      | unfinished => exact .crashed _ _ nofun
  | ok compressed =>
      simp only [mainLines, mainEnding, compressing]
      by_cases zero : iterations num_iters inputs.buffers.length = 0
      · simp only [summary, if_pos zero]
        exact .crashed _ _ nofun
      · obtain ⟨first, shown, own, direction, ratio⟩ := summary_row size h.level
          (avgRatio compressed.compressed_sizes size inputs.buffers.length) .Compress
          (iterations num_iters inputs.buffers.length) compressed.times zero
        simp only [shown, if_neg zero]
        cases decompressing : upTo (decompressBody h inflater size (iterations num_iters inputs.buffers.length)
            inputs.buffers nanos) (iterations num_iters inputs.buffers.length)
            (readSizes inputs.buffers.length compressed) with
        | error stop =>
            obtain ⟨i, before, found, left⟩ := leaves_at_stop _ _ _ _ decompressing
            simp only [found, complaint]
            cases stop with
            | exit code =>
                obtain ⟨rfl, ⟨status, words⟩ | ⟨index, words⟩⟩ :=
                  decompress_exit h inflater size _ inputs.buffers nanos i before code left
                · rw [words]
                  exact .undecoded first status ⟨own, direction⟩
                · rw [words]
                  exact .mismatched first index ⟨own, direction⟩
            | abort => exact .crashed _ _ nofun
            | divisionByZero => exact .crashed _ _ nofun
            | overrun => exact .crashed _ _ nofun
            | unfinished => exact .crashed _ _ nofun
        | ok last =>
            obtain ⟨second, printed, other, sense, same⟩ := summary_row size h.level
              (avgRatio compressed.compressed_sizes size inputs.buffers.length) .Decompress
              (iterations num_iters inputs.buffers.length) last.times zero
            simp only [printed]
            exact .complete first second ⟨own, direction⟩ ⟨other, sense⟩ (ratio.trans same.symm)

end Program

section Loaded

theorem fill_turn_length (sizePerBuf : Nat) (filling next : Filling)
    (turned : fillTurn sizePerBuf filling = .again next) : next.testBuf.length = filling.testBuf.length := by
  simp only [fillTurn] at turned
  split at turned
  · cases turned
  · rename_i testBuf wrote
    split at turned
    · cases turned
      exact write_at_length _ _ _ _ wrote
    · cases turned

theorem fill_done_length (sizePerBuf : Nat) (filling last : Filling)
    (turned : fillTurn sizePerBuf filling = .done (some last)) : last.testBuf.length = filling.testBuf.length := by
  simp only [fillTurn] at turned
  split at turned
  · cases turned
  · rename_i testBuf wrote
    split at turned
    · cases turned
    · cases turned
      exact write_at_length _ _ _ _ wrote

theorem load_body_sized {sizePerBuf : Nat} (malloc : Malloc sizePerBuf) (fuel i : Nat) (before after : Loading)
    (sized : ∀ b ∈ before.testBufs, b.length = sizePerBuf) (moved : loadBody malloc fuel i before = .ok after) :
    ∀ b ∈ after.testBufs, b.length = sizePerBuf := by
  rw [loadBody] at moved
  split at moved
  · cases moved
  · cases moved
  · rename_i filled ran
    cases moved
    obtain ⟨last, kept, turned⟩ := ends_invariant (fillTurn sizePerBuf)
      (fun filling => filling.testBuf.length = sizePerBuf)
      (fun filling next holds turned => (fill_turn_length sizePerBuf filling next turned).trans holds)
      _ _ (malloc.sized i) ⟨fuel, ran⟩
    intro b member
    rcases List.mem_append.mp member with earlier | own
    · exact sized b earlier
    · rw [List.mem_singleton.mp own, fill_done_length sizePerBuf last filled turned]
      exact kept

theorem load_sized_sized (content : Corpus.Bytes) (length : Int) (size : Nat) (malloc : Malloc size) (fuel : Nat)
    (loaded : Loaded) (read : loadSized content length size malloc fuel = .ok loaded) :
    ∀ b ∈ loaded.testBufs, b.length = size := by
  rw [loadSized] at read
  split at read
  · cases read
  · rename_i last ended
    cases read
    exact up_to_invariant (loadBody malloc fuel) (fun _ loading => ∀ b ∈ loading.testBufs, b.length = size) _ _ last
      (fun b absent => by cases absent)
      (fun i before after _ holds moved => load_body_sized malloc fuel i before after holds moved) ended

theorem loaded_sized (file : Option Corpus.Bytes) (size : Nat) (malloc : Malloc size) (fuel : Nat) (loaded : Loaded)
    (read : corpusToInputBuffer file size malloc fuel = .ok loaded) : ∀ b ∈ loaded.testBufs, b.length = size := by
  cases file with
  | none => cases read
  | some content => exact load_sized_sized content (ftellInt content) size malloc fuel loaded read

def payloads {size : Nat} (buffers : List Bytes) (sized : ∀ b ∈ buffers, b.length = size) : Payloads size where
  buffers := buffers
  sized := fun j within => by
    rw [List.getD_eq_getElem?_getD, List.getElem?_eq_getElem within]
    exact sized _ (List.getElem_mem within)

end Loaded

section Whole

variable {σ : Type} (h : Harness) (codec : Deflater σ) (inflater : Inflater) (size loadFuel fuel : Nat)

def warning (length : Int) : List Line := if length < size then [.smaller] else []

def loadedLines (num_iters : Int) (warned : List Line) (storage : ∀ count, Storage σ size count)
    (nanos : Nat → UInt64) (read : Except LoadStop Loaded)
    (sized : ∀ loaded, read = .ok loaded → ∀ b ∈ loaded.testBufs, b.length = size) : List Line × Except Stop Unit :=
  match read, sized with
  | .error stop, _ => (warned, .error (LoadStop.stop stop))
  | .ok loaded, sized =>
      let report := mainLines h codec inflater size fuel num_iters (payloads loaded.testBufs (sized loaded rfl))
        (storage loaded.testBufs.length) nanos
      (warned ++ report.1, report.2)

def loadedEnding (num_iters : Int) (storage : ∀ count, Storage σ size count) (nanos : Nat → UInt64)
    (read : Except LoadStop Loaded)
    (sized : ∀ loaded, read = .ok loaded → ∀ b ∈ loaded.testBufs, b.length = size) : Ending :=
  match read, sized with
  | .error stop, _ => .crashed (LoadStop.stop stop)
  | .ok loaded, sized =>
      mainEnding h codec inflater size fuel num_iters (payloads loaded.testBufs (sized loaded rfl))
        (storage loaded.testBufs.length) nanos

-- The program on the arguments size num_iters filename. The storage is what the stack and the
-- heap hold for each number of buffers.
def program (num_iters : Int) (filename : String) (file : Option Bytes) (malloc : Malloc size)
    (storage : ∀ count, Storage σ size count) (nanos : Nat → UInt64) : List Line × Except Stop Unit :=
  match file with
  | none => ([.openFailed filename], .error (.exit (-1)))
  | some content =>
      if size = 0 then (warning size (ftellInt content), .error .divisionByZero)
      else
        loadedLines h codec inflater size fuel num_iters (warning size (ftellInt content)) storage nanos
          (corpusToInputBuffer (some content) size malloc loadFuel) (loaded_sized (some content) size malloc loadFuel)

def programEnding (num_iters : Int) (file : Option Bytes) (malloc : Malloc size)
    (storage : ∀ count, Storage σ size count) (nanos : Nat → UInt64) : Ending :=
  match file with
  | none => .unopened
  | some content =>
      if size = 0 then .crashed .divisionByZero
      else
        loadedEnding h codec inflater size fuel num_iters storage nanos
          (corpusToInputBuffer (some content) size malloc loadFuel) (loaded_sized (some content) size malloc loadFuel)

theorem load_exit (content : Bytes) (length : Int) (malloc : Malloc size) (stop : LoadStop)
    (read : loadSized content length size malloc loadFuel = .error stop) : ∀ code, LoadStop.stop stop ≠ .exit code := by
  rw [loadSized] at read
  split at read
  · rename_i reason ended
    cases read
    obtain ⟨i, before, _, _, left⟩ := up_to_leaves _ _ _ _ ended
    rw [loadBody] at left
    intro code same
    split at left
    · cases left
      cases same
    · cases left
      cases same
    · cases left
  · cases read

theorem transcript_warned (warned opening : List Line) (ending : Ending) (report : List Line × Except Stop Unit)
    (transcript : Transcript size opening ending report) :
    Transcript size (warned ++ opening) ending (warned ++ report.1, report.2) := by
  cases transcript with
  | crashed lines stop signal => exact .crashed _ stop signal
  | uncompressed status =>
      rw [← List.append_assoc]
      exact .uncompressed status
  | undecoded first status own =>
      rw [← List.append_assoc]
      exact .undecoded first status own
  | mismatched first index own =>
      rw [← List.append_assoc]
      exact .mismatched first index own
  | complete first second own other ratio =>
      rw [← List.append_assoc]
      exact .complete first second own other ratio

theorem loaded_transcript (num_iters : Int) (warned : List Line) (storage : ∀ count, Storage σ size count)
    (nanos : Nat → UInt64) (read : Except LoadStop Loaded)
    (sized : ∀ loaded, read = .ok loaded → ∀ b ∈ loaded.testBufs, b.length = size)
    (ends : ∀ stop, read = .error stop → ∀ code, LoadStop.stop stop ≠ .exit code) :
    ∃ rounds count, Transcript size (warned ++ [.iterations rounds, .bufs count])
      (loadedEnding h codec inflater size fuel num_iters storage nanos read sized)
      (loadedLines h codec inflater size fuel num_iters warned storage nanos read sized) := by
  cases read with
  | error stop => exact ⟨0, 0, .crashed _ _ (ends stop rfl)⟩
  | ok loaded =>
      exact ⟨_, _, transcript_warned size warned _ _ _
        (main_lines_transcript h codec inflater size fuel num_iters _ (storage _) nanos)⟩

theorem program_transcript (num_iters : Int) (filename : String) (content : Bytes) (malloc : Malloc size)
    (storage : ∀ count, Storage σ size count) (nanos : Nat → UInt64) :
    ∃ warned rounds count, (warned = [] ∨ warned = [.smaller]) ∧
      Transcript size (warned ++ [.iterations rounds, .bufs count])
        (programEnding h codec inflater size loadFuel fuel num_iters (some content) malloc storage nanos)
        (program h codec inflater size loadFuel fuel num_iters filename (some content) malloc storage nanos) := by
  have warned : ∀ length : Int, warning size length = [] ∨ warning size length = [.smaller] := by
    intro length
    by_cases small : length < size
    · exact .inr (if_pos small)
    · exact .inl (if_neg small)
  by_cases zero : size = 0
  · refine ⟨_, 0, 0, warned (ftellInt content), ?_⟩
    rw [program, programEnding, if_pos zero, if_pos zero]
    exact .crashed _ _ nofun
  · obtain ⟨rounds, count, transcript⟩ := loaded_transcript h codec inflater size fuel num_iters
      (warning size (ftellInt content)) storage nanos _ (loaded_sized (some content) size malloc loadFuel)
      (fun stop read => load_exit size loadFuel content (ftellInt content) malloc stop read)
    refine ⟨_, rounds, count, warned (ftellInt content), ?_⟩
    rw [program, programEnding, if_neg zero, if_neg zero]
    exact transcript

end Whole

section Reported

variable {σ : Type} (h : Harness) (codec : Deflater σ) (inflater : Inflater) (size : Nat)

theorem slices_sized (content : Bytes) : ∀ b ∈ slices content size (content.length / size), b.length = size := by
  intro b member
  obtain ⟨i, listed, rfl⟩ := List.mem_map.mp member
  exact slice_length content size i (List.mem_range.mp listed)

def corpusPayloads (content : Bytes) : Payloads size :=
  payloads (slices content size (content.length / size)) (slices_sized size content)

def timedRow (ratio : Rat) (direction : Direction) (durations : List Nat) : Row :=
  ⟨size, h.level, ratio, direction, durations.foldl (· + ·) 0 / durations.length, durations.foldl max 0⟩

theorem sum_time_mod (times : List Nat) : sumTime times = times.foldl (· + ·) 0 % UInt64.size := by
  have general : ∀ sum_time : Nat, times.foldl (fun sum_time time => (sum_time + time) % UInt64.size)
      (sum_time % UInt64.size) = times.foldl (· + ·) sum_time % UInt64.size := by
    induction times with
    | nil => exact fun _ => rfl
    | cons time rest ih =>
        intro sum_time
        rw [List.foldl_cons, List.foldl_cons, Nat.mod_add_mod]
        exact ih (sum_time + time)
  exact general 0

theorem duration_exact (nanos : Nat → UInt64) (monotone : ∀ k, nanos k ≤ nanos (k + 1)) (i : Nat) :
    duration nanos i + (nanos (2 * i)).toNat = (nanos (2 * i + 1)).toNat := by
  have order := UInt64.le_iff_toNat_le.mp (monotone (2 * i))
  rw [duration, UInt64.toNat_sub_of_le _ _ (monotone (2 * i))]
  omega

-- The timed sections do not overlap, so that they add up to no more than the time between the ends.
theorem durations_fit (nanos : Nat → UInt64) (monotone : ∀ k, nanos k ≤ nanos (k + 1)) (first count : Nat) :
    ((List.range count).map (fun i => duration nanos (first + i))).foldl (· + ·) 0 + (nanos (2 * first)).toNat ≤
      (nanos (2 * (first + count))).toNat := by
  induction count with
  | zero => simp
  | succ count ih =>
      have section_time := duration_exact nanos monotone (first + count)
      have between := UInt64.le_iff_toNat_le.mp (monotone (2 * (first + count) + 1))
      have next : 2 * (first + (count + 1)) = 2 * (first + count) + 1 + 1 := by omega
      rw [List.range_succ, List.map_append, List.foldl_append, next]
      simp only [List.map_cons, List.map_nil, List.foldl_cons, List.foldl_nil]
      omega

theorem summary_timed (nanos : Nat → UInt64) (monotone : ∀ k, nanos k ≤ nanos (k + 1)) (ratio : Rat)
    (direction : Direction) (first rounds : Nat) (positive : 0 < rounds) :
    summary size h.level ratio direction rounds ((List.range rounds).map (fun i => duration nanos (first + i))) =
      .ok (timedRow h size ratio direction ((List.range rounds).map (fun i => duration nanos (first + i)))) := by
  have fits := durations_fit nanos monotone first rounds
  have bound := (nanos (2 * (first + rounds))).toNat_lt_size
  rw [summary, if_neg (Nat.ne_of_gt positive), timedRow, List.length_map, List.length_range, sum_time_mod,
    Nat.mod_eq_of_lt (by omega)]

theorem main_reported (num_iters : Int) (inputs : Payloads size) (storage : Storage σ size inputs.buffers.length)
    (nanos : Nat → UInt64) (enc : Bytes → Bytes) (count : Nat) (counted : inputs.buffers.length = count)
    (nonempty : 0 < count) (monotone : ∀ k, nanos k ≤ nanos (k + 1))
    (works : LibraryWorks h codec inflater size inputs enc)
    (fits : ∀ j, j < count → (enc (inputs.buffers.getD j [])).length ≤ maxExpandIsal size) :
    ∃ fuel, mainLines h codec inflater size fuel num_iters inputs storage nanos =
      ([.iterations (iterations num_iters count), .bufs count, .header,
        .row (timedRow h size (avgRatio (encodedSizes enc inputs.buffers) size count) .Compress
          ((List.range (iterations num_iters count)).map (duration nanos))),
        .row (timedRow h size (avgRatio (encodedSizes enc inputs.buffers) size count) .Decompress
          ((List.range (iterations num_iters count)).map
            (fun i => duration nanos (iterations num_iters count + i))))], .ok ()) := by
  subst counted
  have enough := iterations_cover num_iters inputs.buffers.length
  generalize roundsEq : iterations num_iters inputs.buffers.length = rounds at enough
  obtain ⟨fuel, middle, compressedOk, compressedInv⟩ :=
    compress_loop_fills h codec inflater size rounds inputs storage nanos enc nonempty works fits
  have ready := compressed_ready size inputs.buffers enc rounds middle enough compressedInv
  obtain ⟨last, decompressedOk, _⟩ :=
    decompress_loop_checks h codec inflater size rounds inputs nanos enc nonempty works _ ready
  have sizes : middle.compressed_sizes = encodedSizes enc inputs.buffers :=
    sizes_of_ready size inputs.buffers enc (readSizes inputs.buffers.length middle) ready
  have compressTimes := compress_times h codec size fuel rounds inputs.buffers nanos nonempty _ middle
    List.length_replicate compressedOk
  have decompressTimes := decompress_times h inflater size rounds inputs.buffers nanos nonempty _ last
    (by simp [readSizes, compressTimes]) decompressedOk
  have positive : 0 < rounds := Nat.lt_of_lt_of_le nonempty enough
  have compressRow := summary_timed h size nanos monotone (avgRatio (encodedSizes enc inputs.buffers) size
    inputs.buffers.length) .Compress 0 rounds positive
  have decompressRow := summary_timed h size nanos monotone (avgRatio (encodedSizes enc inputs.buffers) size
    inputs.buffers.length) .Decompress rounds rounds positive
  simp only [Nat.zero_add] at compressRow
  refine ⟨fuel, ?_⟩
  simp only [mainLines, roundsEq, compressedOk, decompressedOk, sizes, compressTimes, decompressTimes,
    compressRow, decompressRow, List.cons_append, List.nil_append]

theorem loaded_lines_ok (fuel : Nat) (num_iters : Int) (warned : List Line) (storage : ∀ count, Storage σ size count)
    (nanos : Nat → UInt64) (read : Except LoadStop Loaded)
    (sized : ∀ loaded, read = .ok loaded → ∀ b ∈ loaded.testBufs, b.length = size) (loaded : Loaded)
    (ok : read = .ok loaded) (buffers : List Bytes) (same : loaded.testBufs = buffers)
    (own : ∀ b ∈ buffers, b.length = size) :
    loadedLines h codec inflater size fuel num_iters warned storage nanos read sized =
      (warned ++ (mainLines h codec inflater size fuel num_iters (payloads buffers own) (storage _) nanos).1,
        (mainLines h codec inflater size fuel num_iters (payloads buffers own) (storage _) nanos).2) := by
  subst ok
  subst same
  rfl

def corpusLengths (enc : Bytes → Bytes) (content : Bytes) : List Nat :=
  (slices content size (content.length / size)).map (fun b => (enc b).length)

-- Both rows of a run over a file that holds a buffer at least. The bounds are those of the int variables.
theorem corpus_reported (num_iters : Int) (filename : String) (content : Bytes) (malloc : Malloc size)
    (storage : ∀ count, Storage σ size count) (nanos : Nat → UInt64) (enc : Bytes → Bytes)
    (short : content.length < 2 ^ 31) (positive : 0 < size) (enough : size ≤ content.length)
    (_room : size + 1024 < 2 ^ 31) (small : (corpusLengths size enc content).sum < 2 ^ 31)
    (monotone : ∀ k, nanos k ≤ nanos (k + 1))
    (works : LibraryWorks h codec inflater size (corpusPayloads size content) enc)
    (fits : h = .isal ∨ ∀ j, j < content.length / size → (enc (slice content size j)).length ≤ maxExpandIsal size) :
    ∃ fuel rounds compressed_sum, content.length / size ≤ rounds ∧
      rounds = iterations num_iters (content.length / size) ∧
      compressedSum ((corpusLengths size enc content).map storedSize) = some compressed_sum ∧
      program h codec inflater size 1 fuel num_iters filename (some content) malloc storage nanos =
        ([.iterations rounds, .bufs (content.length / size), .header,
          .row (timedRow h size (compressed_sum / (size * (content.length / size) : Nat)) .Compress
            ((List.range rounds).map (duration nanos))),
          .row (timedRow h size (compressed_sum / (size * (content.length / size) : Nat)) .Decompress
            ((List.range rounds).map (fun i => duration nanos (rounds + i))))], .ok ()) := by
  have counted : (corpusPayloads size content).buffers.length = content.length / size := by
    show (slices content size (content.length / size)).length = _
    rw [slices, List.length_map, List.length_range]
  have room : ∀ j, j < content.length / size →
      (enc ((corpusPayloads size content).buffers.getD j [])).length ≤ maxExpandIsal size := by
    intro j within
    rcases fits with isal | fits
    · subst isal
      exact isal_fits codec inflater size (corpusPayloads size content) enc (storage 0).stream works j
        (by rw [counted]; exact within)
    · have own : (corpusPayloads size content).buffers.getD j [] = slice content size j := by
        show (slices content size (content.length / size)).getD j [] = _
        simp [slices, within]
      rw [own]
      exact fits j within
  obtain ⟨fuel, reported⟩ := main_reported h codec inflater size num_iters (corpusPayloads size content) (storage _)
    nanos enc (content.length / size) counted (Nat.div_pos enough positive) monotone works room
  obtain ⟨compressed_sum, added, ratio⟩ := avg_ratio_int enc (corpusPayloads size content).buffers size small
  rw [counted] at ratio
  refine ⟨fuel, _, compressed_sum, iterations_cover num_iters _, rfl, added, ?_⟩
  have large : ¬ ((content.length : Int) < size) := by omega
  rw [program, if_neg (Nat.ne_of_gt positive), loaded_lines_ok h codec inflater size fuel num_iters _ storage nanos _ _ _
    (corpus_loads content size malloc short) _ rfl (slices_sized size content)]
  rw [ratio] at reported
  rw [ftell_int_exact content short, warning, if_neg large, List.nil_append]
  exact reported

end Reported

theorem sevens_works (h : Harness) (length : Nat) (short : length < h.availOut 1) :
    LibraryWorks h (h.storing (padTo length)) (h.answering [7]) 1 (corpusPayloads 1 [7, 7, 7]) (padTo length) where
  compresses := fun j _ prior => storing_pass h (padTo length) 1 _ prior (by simpa [padTo] using short)
  opens := fun i => by cases h <;> rfl
  decompresses := fun i j within => by
    have slots : j = 0 ∨ j = 1 ∨ j = 2 := by
      have bound : j < 3 := within
      omega
    rcases slots with rfl | rfl | rfl <;> cases h <;> exact ⟨rfl, rfl⟩

def slowClock (k : Nat) : UInt64 := UInt64.ofNat (min k 1000)

theorem slow_clock_monotone (k : Nat) : slowClock k ≤ slowClock (k + 1) := by
  have exact : ∀ i, (slowClock i).toNat = min i 1000 := fun i =>
    UInt64.toNat_ofNat_of_lt' (Nat.lt_of_le_of_lt (Nat.min_le_right i 1000) (by decide))
  rw [UInt64.le_iff_toNat_le, exact, exact]
  omega

theorem sevens_reported : ∃ fuel rounds compressed_sum, 3 ≤ rounds ∧ rounds = iterations 2 3 ∧
    compressedSum ((corpusLengths 1 (padTo 9) [7, 7, 7]).map storedSize) = some compressed_sum ∧
    program .zlib (Harness.zlib.storing (padTo 9)) (Harness.zlib.answering [7]) 1 1 fuel 2 "sevens" (some [7, 7, 7])
        (cleared 1) (blankStorage 1) slowClock =
      ([.iterations rounds, .bufs 3, .header,
        .row (timedRow .zlib 1 (compressed_sum / (1 * 3 : Nat)) .Compress
          ((List.range rounds).map (duration slowClock))),
        .row (timedRow .zlib 1 (compressed_sum / (1 * 3 : Nat)) .Decompress
          ((List.range rounds).map (fun i => duration slowClock (rounds + i))))], .ok ()) :=
  corpus_reported .zlib (Harness.zlib.storing (padTo 9)) (Harness.zlib.answering [7]) 1 2 "sevens" [7, 7, 7]
    (cleared 1) (blankStorage 1) slowClock (padTo 9) (by decide) (by decide) (by decide) (by decide) (by decide)
    slow_clock_monotone (sevens_works .zlib 9 (by decide))
    (.inr (fun _ _ => by rw [padTo, List.length_replicate]; decide))

end SprAccelProfiling.Latency
