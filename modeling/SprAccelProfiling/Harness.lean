import SprAccelProfiling.Buffer
import SprAccelProfiling.Stream

set_option autoImplicit false

namespace SprAccelProfiling.Latency

open SprAccelProfiling.Loop SprAccelProfiling.Buffer

-- What ends main before its last line. The overrun is a write behind an allocation,
-- which leaves the program without a meaning. The do-while may also not end.
inductive Stop where
  | exit (code : Int)
  | abort
  | divisionByZero
  | overrun
  | unfinished
deriving DecidableEq

inductive Direction where
  | Compress
  | Decompress
deriving DecidableEq

inductive Access where
  | wroteOutput (slot source : Nat)
  | readOutput (slot : Nat)
  | wroteSize (slot source : Nat)
  | readSize (slot : Nat)
deriving DecidableEq

structure InflateReply where
  written : Bytes
  status : Int

structure Inflater where
  init : Nat → Int
  call : Nat → Bytes → Nat → InflateReply
  within : ∀ i input room, (call i input room).written.length ≤ room

structure Storage (σ : Type) (size count : Nat) where
  stream : Stream σ
  compressed_sizes : List Int
  output_buffers : List Bytes
  output_buffers_2 : List Bytes
  sizes_count : compressed_sizes.length = count
  outputs_count : output_buffers.length = count
  outputs_size : ∀ j, j < count → (output_buffers.getD j []).length = maxExpandIsal size
  outputs_2_count : output_buffers_2.length = count
  outputs_2_size : ∀ j, j < count → (output_buffers_2.getD j []).length = size

structure Payloads (size : Nat) where
  buffers : List Bytes
  sized : ∀ j, j < buffers.length → (buffers.getD j []).length = size

-- The log is not part of the program. It lists the accesses to the slots in order.
structure State (σ : Type) where
  stream : Stream σ
  output_buffers : List Bytes
  compressed_sizes : List Int
  output_buffers_2 : List Bytes
  times : List Nat
  log : List Access

structure Row where
  size : Nat
  level : Int
  avg_ratio : Rat
  direction : Direction
  avg_time : Nat
  max_time : Nat

def Harness.initFails : Harness → Int → Bool
  | .zlib, status => status != Z_OK
  | .isal, _ => false

def Harness.decoded : Harness → Int → Bool
  | .zlib, status => status == Z_STREAM_END
  | .isal, status => status == ISAL_DECOMP_OK

def compareBuffers (a b : Bytes) (size : Nat) : Int :=
  match (List.range size).find? (fun i => a.getD i 0 != b.getD i 0) with
  | some i => i
  | none => -1

def duration (nanos : Nat → UInt64) (i : Nat) : Nat := (nanos (2 * i + 1) - nanos (2 * i)).toNat

def iterations (num_iters : Int) (num_bufs : Nat) : Nat :=
  (if num_iters > num_bufs then num_iters else (num_bufs : Int)).toNat

section Program

variable {σ : Type}

def compressBody (h : Harness) (codec : Deflater σ) (size fuel : Nat) (inputs : List Bytes) (nanos : Nat → UInt64)
    (i : Nat) (state : State σ) : Except Stop (State σ) :=
  if inputs.length = 0 then .error .divisionByZero
  else
    let slot := i % inputs.length
    match run (compressTurn h codec) fuel (h.setUp codec size (inputs.getD slot []) state.stream) with
    | none => .error .unfinished
    | some .failed => .error (.exit (-1))
    | some (.left last status) =>
        match writeAt (state.output_buffers.getD slot []) 0 last.next_out with
        | none => .error .overrun
        | some written =>
            if h.finished status then
              .ok
                { stream := last
                  output_buffers := state.output_buffers.set slot written
                  compressed_sizes := state.compressed_sizes.set slot last.total_out
                  output_buffers_2 := state.output_buffers_2
                  times := state.times.set i (duration nanos i)
                  log := state.log ++ [.wroteOutput slot slot, .wroteSize slot slot] }
            else .error (.exit (-1))

def decompressBody (h : Harness) (inflater : Inflater) (size num_iters : Nat) (inputs : List Bytes)
    (nanos : Nat → UInt64) (i : Nat) (state : State σ) : Except Stop (State σ) :=
  if inputs.length = 0 then .error .divisionByZero
  else if h.initFails (inflater.init i) then .error .abort
  else
    let slot := i % inputs.length
    let avail_in := (state.compressed_sizes.getD slot 0).toNat
    let reply := inflater.call i ((state.output_buffers.getD slot []).take avail_in) size
    match writeAt (state.output_buffers_2.getD slot []) 0 reply.written with
    | none => .error .overrun
    | some written =>
        if h.decoded reply.status then
          if compareBuffers written (inputs.getD slot []) size = -1 then
            .ok
              { state with
                output_buffers_2 := state.output_buffers_2.set slot written
                times := state.times.set i (duration nanos (num_iters + i))
                log := state.log ++ [.readOutput slot, .readSize slot] }
          else .error (.exit (-1))
        else .error (.exit (-1))

def start (h : Harness) (codec : Deflater σ) (num_iters : Nat) {size count : Nat} (storage : Storage σ size count) :
    State σ where
  stream := h.configure codec storage.stream
  output_buffers := storage.output_buffers
  compressed_sizes := storage.compressed_sizes
  output_buffers_2 := storage.output_buffers_2
  times := List.replicate num_iters 0
  log := []

def avgRatio (compressed_sizes : List Int) (size num_bufs : Nat) : Rat :=
  (compressed_sizes.foldl (· + ·) 0 : Int) / (size * num_bufs : Nat)

def readSizes (count : Nat) (state : State σ) : State σ :=
  { state with log := state.log ++ (List.range count).map .readSize }

-- sum_time is a uint64_t, as the times are.
def sumTime (times : List Nat) : Nat := times.foldl (fun sum_time time => (sum_time + time) % UInt64.size) 0

def summary (size : Nat) (level : Int) (avg_ratio : Rat) (direction : Direction) (num_iters : Nat)
    (times : List Nat) : Except Stop Row :=
  if num_iters = 0 then .error .divisionByZero
  else .ok ⟨size, level, avg_ratio, direction, sumTime times / num_iters, times.foldl max 0⟩

-- main from the point where the input buffers are loaded. A result means return 0.
def main (h : Harness) (codec : Deflater σ) (inflater : Inflater) (size : Nat) (num_iters : Int)
    (inputs : Payloads size) (storage : Storage σ size inputs.buffers.length) (nanos : Nat → UInt64) (fuel : Nat) :
    Except Stop (State σ × List Row) :=
  let count := inputs.buffers.length
  let rounds := iterations num_iters count
  match upTo (compressBody h codec size fuel inputs.buffers nanos) rounds (start h codec rounds storage) with
  | .error stop => .error stop
  | .ok compressed =>
      let avg_ratio := avgRatio compressed.compressed_sizes size count
      match summary size h.level avg_ratio .Compress rounds compressed.times with
      | .error stop => .error stop
      | .ok compressRow =>
          match upTo (decompressBody h inflater size rounds inputs.buffers nanos) rounds
              (readSizes count compressed) with
          | .error stop => .error stop
          | .ok last =>
              match summary size h.level avg_ratio .Decompress rounds last.times with
              | .error stop => .error stop
              | .ok decompressRow => .ok (last, [compressRow, decompressRow])

def compressed (inputs : List Bytes) (nanos : Nat → UInt64) (i : Nat) (state : State σ) (last : Stream σ)
    (written : Bytes) : State σ where
  stream := last
  output_buffers := state.output_buffers.set (i % inputs.length) written
  compressed_sizes := state.compressed_sizes.set (i % inputs.length) last.total_out
  output_buffers_2 := state.output_buffers_2
  times := state.times.set i (duration nanos i)
  log := state.log ++ [.wroteOutput (i % inputs.length) (i % inputs.length),
    .wroteSize (i % inputs.length) (i % inputs.length)]

theorem compress_body_iff (h : Harness) (codec : Deflater σ) (size fuel i : Nat) (inputs : List Bytes)
    (nanos : Nat → UInt64) (state next : State σ) (nonempty : 0 < inputs.length) :
    compressBody h codec size fuel inputs nanos i state = .ok next ↔
      ∃ last status written,
        run (compressTurn h codec) fuel (h.setUp codec size (inputs.getD (i % inputs.length) []) state.stream) =
          some (.left last status) ∧
        writeAt (state.output_buffers.getD (i % inputs.length) []) 0 last.next_out = some written ∧
        h.finished status = true ∧ next = compressed inputs nanos i state last written := by
  rw [compressBody, if_neg (Nat.ne_of_gt nonempty)]
  constructor
  · intro moved
    dsimp only at moved
    split at moved
    · cases moved
    · cases moved
    · rename_i last status passed
      split at moved
      · cases moved
      · rename_i written wrote
        split at moved
        · rename_i finished
          exact ⟨last, status, written, passed, wrote, finished, (Except.ok.inj moved).symm⟩
        · cases moved
  · intro ⟨last, status, written, passed, wrote, finished, same⟩
    simp only [passed, wrote, finished, if_true, same, compressed]

def answer (inflater : Inflater) (size : Nat) (inputs : List Bytes) (i : Nat) (state : State σ) : InflateReply :=
  inflater.call i ((state.output_buffers.getD (i % inputs.length) []).take
    (state.compressed_sizes.getD (i % inputs.length) 0).toNat) size

def decompressed (num_iters : Nat) (inputs : List Bytes) (nanos : Nat → UInt64) (i : Nat) (state : State σ)
    (written : Bytes) : State σ :=
  { state with
    output_buffers_2 := state.output_buffers_2.set (i % inputs.length) written
    times := state.times.set i (duration nanos (num_iters + i))
    log := state.log ++ [.readOutput (i % inputs.length), .readSize (i % inputs.length)] }

theorem decompress_body_iff (h : Harness) (inflater : Inflater) (size num_iters i : Nat) (inputs : List Bytes)
    (nanos : Nat → UInt64) (state next : State σ) (nonempty : 0 < inputs.length) :
    decompressBody h inflater size num_iters inputs nanos i state = .ok next ↔
      ∃ written, h.initFails (inflater.init i) = false ∧
        writeAt (state.output_buffers_2.getD (i % inputs.length) []) 0
          (answer inflater size inputs i state).written = some written ∧
        h.decoded (answer inflater size inputs i state).status = true ∧
        compareBuffers written (inputs.getD (i % inputs.length) []) size = -1 ∧
        next = decompressed num_iters inputs nanos i state written := by
  rw [decompressBody, if_neg (Nat.ne_of_gt nonempty)]
  constructor
  · intro moved
    split at moved
    · cases moved
    · rename_i opened
      dsimp only at moved
      split at moved
      · cases moved
      · rename_i written wrote
        split at moved
        · rename_i decoded
          split at moved
          · rename_i matched
            exact ⟨written, by simpa using opened, wrote, decoded, matched, (Except.ok.inj moved).symm⟩
          · cases moved
        · cases moved
  · intro ⟨written, opened, wrote, decoded, matched, same⟩
    simp only [answer] at wrote decoded
    simp only [opened, wrote, decoded, matched, if_true, same, decompressed, Bool.false_eq_true, if_false]

structure Shaped (size count : Nat) (state : State σ) : Prop where
  outputs_count : state.output_buffers.length = count
  outputs_size : ∀ j, j < count → (state.output_buffers.getD j []).length = maxExpandIsal size
  sizes_count : state.compressed_sizes.length = count
  outputs_2_count : state.output_buffers_2.length = count
  outputs_2_size : ∀ j, j < count → (state.output_buffers_2.getD j []).length = size

theorem start_shaped (h : Harness) (codec : Deflater σ) (num_iters : Nat) {size count : Nat}
    (storage : Storage σ size count) : Shaped size count (start h codec num_iters storage) :=
  ⟨storage.outputs_count, storage.outputs_size, storage.sizes_count, storage.outputs_2_count, storage.outputs_2_size⟩

theorem get_set {α : Type} (cells : List α) (slot j : Nat) (value absent : α) (within : slot < cells.length) :
    (cells.set slot value).getD j absent = if j = slot then value else cells.getD j absent := by
  by_cases same : j = slot
  · subst j
    simp [within]
  · simp [same, List.getElem?_set_ne (Ne.symm same)]

theorem compress_body_shaped (h : Harness) (codec : Deflater σ) (size fuel i : Nat) (inputs : List Bytes)
    (nanos : Nat → UInt64) (state next : State σ) (nonempty : 0 < inputs.length)
    (shaped : Shaped size inputs.length state)
    (moved : compressBody h codec size fuel inputs nanos i state = .ok next) : Shaped size inputs.length next := by
  obtain ⟨last, status, written, _, wrote, _, rfl⟩ :=
    (compress_body_iff h codec size fuel i inputs nanos state next nonempty).mp moved
  have within : i % inputs.length < inputs.length := Nat.mod_lt i nonempty
  refine ⟨?_, ?_, ?_, shaped.outputs_2_count, shaped.outputs_2_size⟩
  · simpa [compressed] using shaped.outputs_count
  · intro j inRange
    rw [compressed, get_set _ _ _ _ _ (by rw [shaped.outputs_count]; exact within)]
    split
    · rw [write_at_length _ _ _ _ wrote]
      exact shaped.outputs_size _ within
    · exact shaped.outputs_size j inRange
  · simpa [compressed] using shaped.sizes_count

theorem decompress_body_shaped (h : Harness) (inflater : Inflater) (size num_iters i : Nat) (inputs : List Bytes)
    (nanos : Nat → UInt64) (state next : State σ) (nonempty : 0 < inputs.length)
    (shaped : Shaped size inputs.length state)
    (moved : decompressBody h inflater size num_iters inputs nanos i state = .ok next) :
    Shaped size inputs.length next := by
  obtain ⟨written, _, wrote, _, _, rfl⟩ :=
    (decompress_body_iff h inflater size num_iters i inputs nanos state next nonempty).mp moved
  have within : i % inputs.length < inputs.length := Nat.mod_lt i nonempty
  refine ⟨shaped.outputs_count, shaped.outputs_size, shaped.sizes_count, ?_, ?_⟩
  · simpa [decompressed] using shaped.outputs_2_count
  · intro j inRange
    rw [decompressed, get_set _ _ _ _ _ (by rw [shaped.outputs_2_count]; exact within)]
    split
    · rw [write_at_length _ _ _ _ wrote]
      exact shaped.outputs_2_size _ within
    · exact shaped.outputs_2_size j inRange

theorem main_ok (h : Harness) (codec : Deflater σ) (inflater : Inflater) (size fuel : Nat) (num_iters : Int)
    (inputs : Payloads size) (storage : Storage σ size inputs.buffers.length) (nanos : Nat → UInt64)
    (last : State σ) (rows : List Row)
    (returned : main h codec inflater size num_iters inputs storage nanos fuel = .ok (last, rows)) :
    ∃ middle,
      upTo (compressBody h codec size fuel inputs.buffers nanos) (iterations num_iters inputs.buffers.length)
        (start h codec (iterations num_iters inputs.buffers.length) storage) = .ok middle ∧
      upTo (decompressBody h inflater size (iterations num_iters inputs.buffers.length) inputs.buffers nanos)
        (iterations num_iters inputs.buffers.length) (readSizes inputs.buffers.length middle) = .ok last := by
  simp only [main] at returned
  split at returned
  · cases returned
  · rename_i middle compressedOk
    split at returned
    · cases returned
    · split at returned
      · cases returned
      · rename_i final decompressedOk
        split at returned
        · cases returned
        · cases returned
          exact ⟨middle, compressedOk, decompressedOk⟩

end Program

theorem compare_buffers_agree (a b : Bytes) (size : Nat) :
    compareBuffers a b size = -1 ↔ ∀ i, i < size → a.getD i 0 = b.getD i 0 := by
  cases found : (List.range size).find? (fun i => a.getD i 0 != b.getD i 0) with
  | some i =>
      have differ := List.find?_some found
      have within := List.mem_of_find?_eq_some found
      simp only [compareBuffers, found]
      constructor
      · intro negative
        omega
      · intro agree
        exact absurd (agree i (by simpa using within)) (by simpa using differ)
  | none =>
      simp only [compareBuffers, found, true_iff]
      intro i within
      simpa using List.find?_eq_none.mp found i (by simpa using within)

theorem compare_buffers_same (a b : Bytes) (size : Nat) (left : a.length = size) (right : b.length = size) :
    compareBuffers a b size = -1 ↔ a = b := by
  rw [compare_buffers_agree]
  constructor
  · intro agree
    apply List.ext_getElem (left.trans right.symm)
    intro i inA inB
    simpa [inA, inB] using agree i (by omega)
  · rintro rfl _ _
    rfl

theorem iterations_cover (num_iters : Int) (num_bufs : Nat) : num_bufs ≤ iterations num_iters num_bufs := by
  unfold iterations
  split <;> omega

end SprAccelProfiling.Latency
