import SprAccelProfiling.Bookkeeping

set_option autoImplicit false

namespace SprAccelProfiling.Latency

open SprAccelProfiling.Loop SprAccelProfiling.Buffer

variable {σ : Type}

def firstReply (h : Harness) (codec : Deflater σ) (size : Nat) (input : Bytes) (stream : Stream σ) : DeflateReply σ :=
  h.deflate codec (h.setUp codec size input stream)

theorem first_reply_fresh (h : Harness) (codec : Deflater σ) (size : Nat) (input : Bytes) (a b : Stream σ) :
    firstReply h codec size input a = firstReply h codec size input b := by
  rw [firstReply, set_up_fresh h codec size input a b, firstReply]

section Passes

variable (codec : Deflater σ) (start : Stream σ)

theorem full_turn_again (stream : Stream σ) (full : stream.avail_out = 0) :
    compressTurn .zlib codec stream = .again (advance stream (Harness.zlib.deflate codec stream)) ∧
      (advance stream (Harness.zlib.deflate codec stream)).avail_out = 0 := by
  have still : (advance stream (Harness.zlib.deflate codec stream)).avail_out = 0 := by simp [advance, full]
  exact ⟨by simp [compressTurn, Harness.rejects, still], still⟩

-- The zlib harness has no other way out of the do-while than room that is left over.
theorem full_pass_never_ends (full : start.avail_out = 0) : ¬ Terminates (compressTurn .zlib codec) start := by
  apply never_ends (compressTurn .zlib codec) (fun stream => stream.avail_out = 0) _ start full
  intro stream stuck
  exact ⟨_, full_turn_again codec stream stuck⟩

theorem first_turn_left (room : (Harness.zlib.deflate codec start).written.length < start.avail_out) :
    compressTurn .zlib codec start =
      .done (.left (advance start (Harness.zlib.deflate codec start)) (Harness.zlib.deflate codec start).status) := by
  have left : (advance start (Harness.zlib.deflate codec start)).avail_out ≠ 0 := by
    simp only [advance]
    omega
  simp [compressTurn, Harness.rejects, left]

theorem first_turn_again (filled : (Harness.zlib.deflate codec start).written.length = start.avail_out) :
    compressTurn .zlib codec start = .again (advance start (Harness.zlib.deflate codec start)) ∧
      (advance start (Harness.zlib.deflate codec start)).avail_out = 0 := by
  have full : (advance start (Harness.zlib.deflate codec start)).avail_out = 0 := by simp [advance, filled]
  exact ⟨by simp [compressTurn, Harness.rejects, full], full⟩

theorem pass_left_iff (result : PassEnd σ) :
    Ends (compressTurn .zlib codec) start result ↔
      (Harness.zlib.deflate codec start).written.length < start.avail_out ∧
        result = .left (advance start (Harness.zlib.deflate codec start)) (Harness.zlib.deflate codec start).status := by
  have within := deflate_within .zlib codec start
  by_cases room : (Harness.zlib.deflate codec start).written.length < start.avail_out
  · rw [ends_done _ _ _ _ (first_turn_left codec start room)]
    exact ⟨fun same => ⟨room, same.symm⟩, fun same => same.2.symm⟩
  · obtain ⟨turned, full⟩ := first_turn_again codec start (by omega)
    rw [ends_again _ _ _ _ turned]
    exact ⟨fun ended => absurd ⟨result, ended⟩ (full_pass_never_ends codec _ full), fun same => absurd same.1 room⟩

theorem visited_accounted (h : Harness) (size : Nat) (input : Bytes) (prior stream : Stream σ)
    (visited : Visits (compressTurn h codec) (h.setUp codec size input prior) stream) :
    Accounted (h.availOut size) stream := by
  apply visits_invariant (compressTurn h codec) (Accounted (h.availOut size)) _ _ stream
    (set_up_accounted h codec size input prior) visited
  intro state next holds turned
  obtain ⟨_, rfl, _⟩ := turn_again h codec state next turned
  exact advance_accounted h codec _ state holds

theorem visited_start_or_full (h : Harness) (stream : Stream σ) (visited : Visits (compressTurn h codec) start stream) :
    stream = start ∨ stream.avail_out = 0 := by
  rcases visits_later _ _ _ visited with same | ⟨before, turned⟩
  · exact .inl same
  · exact .inr (turn_again h codec before stream turned).2.2

end Passes

section Program

variable (h : Harness) (codecs : Nat → Deflater σ) (inflater : Inflater) (size : Nat) (num_iters : Int)
variable (inputs : Payloads size) (storage : Storage σ size inputs.buffers.length) (nanos : Nat → UInt64)

def compressUpTo (fuel count : Nat) : Except Stop (State σ) :=
  upTo (fun i => compressBody h (codecs i) size fuel inputs.buffers nanos i) count
    (start h (codecs 0) (iterations num_iters inputs.buffers.length) storage)

def slotInput (i : Nat) : Bytes := inputs.buffers.getD (i % inputs.buffers.length) []

structure TimedCall (i : Nat) (before : State σ) (stream : Stream σ) : Prop where
  within : i < iterations num_iters inputs.buffers.length
  divides : 0 < inputs.buffers.length
  entered : ∃ fuel, compressUpTo h codecs size num_iters inputs storage nanos fuel i = .ok before
  visited : Visits (compressTurn h (codecs i)) (h.setUp (codecs i) size (slotInput size inputs i) before.stream) stream

structure DecodeCall (i : Nat) (before : State σ) : Prop where
  within : i < iterations num_iters inputs.buffers.length
  divides : 0 < inputs.buffers.length
  entered : ∃ fuel middle, compressUpTo h codecs size num_iters inputs storage nanos fuel
      (iterations num_iters inputs.buffers.length) = .ok middle ∧
    upTo (decompressBody h inflater size (iterations num_iters inputs.buffers.length) inputs.buffers nanos) i
      (readSizes inputs.buffers.length middle) = .ok before
  opened : h.initFails (inflater.init i) = false

theorem compress_up_to_shaped (fuel count : Nat) (before : State σ) (divides : 0 < inputs.buffers.length)
    (reached : compressUpTo h codecs size num_iters inputs storage nanos fuel count = .ok before) :
    Shaped size inputs.buffers.length before :=
  up_to_invariant _ (fun _ state => Shaped size inputs.buffers.length state) count _ before
    (start_shaped h (codecs 0) _ storage)
    (fun i earlier later _ shaped moved => compress_body_shaped h (codecs i) size fuel i inputs.buffers nanos
      earlier later divides shaped moved) reached

theorem decode_call_shaped (i : Nat) (before : State σ)
    (call : DecodeCall h codecs inflater size num_iters inputs storage nanos i before) :
    Shaped size inputs.buffers.length before := by
  obtain ⟨fuel, middle, compressed, reached⟩ := call.entered
  have shaped := compress_up_to_shaped h codecs size num_iters inputs storage nanos fuel _ middle call.divides compressed
  exact up_to_invariant _ (fun _ state => Shaped size inputs.buffers.length state) i
    (readSizes inputs.buffers.length middle) before
    ⟨shaped.outputs_count, shaped.outputs_size, shaped.sizes_count, shaped.outputs_2_count, shaped.outputs_2_size⟩
    (fun j earlier later _ shaped moved => decompress_body_shaped h inflater size _ j inputs.buffers nanos
      earlier later call.divides shaped moved) reached

structure Completes (j : Nat) : Prop where
  fits : (firstReply .zlib (codecs j) size (slotInput size inputs j) storage.stream).written.length ≤ maxExpandIsal size
  ends : (firstReply .zlib (codecs j) size (slotInput size inputs j) storage.stream).status = Z_STREAM_END

theorem zlib_reply (j : Nat) (stream : Stream σ) :
    Harness.zlib.deflate (codecs j) (Harness.zlib.setUp (codecs j) size (slotInput size inputs j) stream) =
      firstReply .zlib (codecs j) size (slotInput size inputs j) storage.stream :=
  first_reply_fresh .zlib (codecs j) size _ stream storage.stream

theorem zlib_finished_iff (status : Int) : Harness.zlib.finished status = true ↔ status = Z_STREAM_END :=
  beq_iff_eq

theorem zlib_emitted (j : Nat) (stream : Stream σ) :
    (advance (Harness.zlib.setUp (codecs j) size (slotInput size inputs j) stream)
      (firstReply .zlib (codecs j) size (slotInput size inputs j) storage.stream)).next_out =
      (firstReply .zlib (codecs j) size (slotInput size inputs j) storage.stream).written := by
  rw [advance, set_up_next_out, List.nil_append]

theorem zlib_body_iff (fuel j : Nat) (before : State σ) (divides : 0 < inputs.buffers.length)
    (shaped : Shaped size inputs.buffers.length before) :
    (∃ after, compressBody .zlib (codecs j) size (fuel + 1) inputs.buffers nanos j before = .ok after) ↔
      Completes codecs size inputs storage j := by
  have slot := shaped.outputs_size _ (Nat.mod_lt j divides)
  have granted := set_up_avail .zlib (codecs j) size (slotInput size inputs j) before.stream
  have reply := zlib_reply codecs size inputs storage j before.stream
  have emitted := zlib_emitted codecs size inputs storage j before.stream
  constructor
  · intro ⟨after, moved⟩
    obtain ⟨last, status, written, passed, wrote, finished, _⟩ :=
      (compress_body_iff .zlib (codecs j) size _ j inputs.buffers nanos before after divides).mp moved
    obtain ⟨_, same⟩ := (pass_left_iff (codecs j) _ _).mp ⟨_, passed⟩
    cases same
    have room := ((write_start_iff _ _ _).mp wrote).1
    rw [slot, ← slotInput, reply, emitted] at room
    rw [← slotInput, reply] at finished
    exact ⟨room, (zlib_finished_iff _).mp finished⟩
  · intro completes
    have fits := completes.fits
    have room : (Harness.zlib.deflate (codecs j) (Harness.zlib.setUp (codecs j) size (slotInput size inputs j)
        before.stream)).written.length < (Harness.zlib.setUp (codecs j) size (slotInput size inputs j)
        before.stream).avail_out := by
      rw [reply, granted]
      simp only [maxExpandIsal, ISAL_DEF_MAX_HDR_SIZE, Harness.availOut] at fits ⊢
      omega
    have passed := run_done _ fuel _ _ (first_turn_left (codecs j) _ room)
    refine ⟨_, (compress_body_iff .zlib (codecs j) size _ j inputs.buffers nanos before _ divides).mpr
      ⟨_, _, _, passed, (write_start_iff _ _ _).mpr ⟨?_, rfl⟩, ?_, rfl⟩⟩
    · rw [slot, reply, emitted]
      exact fits
    · rw [reply]
      exact (zlib_finished_iff _).mpr completes.ends

theorem zlib_entered_iff (fuel i : Nat) (divides : 0 < inputs.buffers.length) :
    (∃ before, compressUpTo .zlib codecs size num_iters inputs storage nanos (fuel + 1) i = .ok before) ↔
      ∀ j, j < i → Completes codecs size inputs storage j := by
  constructor
  · intro ⟨last, ended⟩ j within
    obtain ⟨before, after, reached, moved, _⟩ := up_to_visits _ i j _ last ended within
    have shaped := compress_up_to_shaped .zlib codecs size num_iters inputs storage nanos _ j before divides reached
    exact (zlib_body_iff codecs size inputs storage nanos fuel j before divides shaped).mp ⟨after, moved⟩
  · intro completes
    obtain ⟨last, ended, _⟩ := up_to_total
      (fun i => compressBody .zlib (codecs i) size (fuel + 1) inputs.buffers nanos i)
      (fun _ state => Shaped size inputs.buffers.length state) i
      (start .zlib (codecs 0) (iterations num_iters inputs.buffers.length) storage)
      (start_shaped .zlib (codecs 0) _ storage) (by
        intro j before within shaped
        obtain ⟨after, moved⟩ :=
          (zlib_body_iff codecs size inputs storage nanos fuel j before divides shaped).mpr (completes j within)
        exact ⟨after, moved, compress_body_shaped .zlib (codecs j) size _ j inputs.buffers nanos before after divides
          shaped moved⟩)
    exact ⟨last, ended⟩

theorem zlib_call_completes (i : Nat) (before : State σ) (stream : Stream σ)
    (call : TimedCall .zlib codecs size num_iters inputs storage nanos i before stream) :
    ∀ j, j < i → Completes codecs size inputs storage j := by
  obtain ⟨fuel, entered⟩ := call.entered
  cases i with
  | zero =>
      intro j impossible
      cases impossible
  | succ i =>
      cases fuel with
      | zero =>
          -- without fuel the first pass of all gives no result
          obtain ⟨first, after, _, moved, _⟩ := up_to_visits _ (i + 1) 0 _ before entered (Nat.succ_pos i)
          obtain ⟨_, _, _, passed, _⟩ :=
            (compress_body_iff .zlib (codecs 0) size 0 0 inputs.buffers nanos first after call.divides).mp moved
          cases passed
      | succ fuel =>
          exact (zlib_entered_iff codecs size num_iters inputs storage nanos fuel (i + 1) call.divides).mp
            ⟨before, entered⟩

theorem zlib_first_call (i : Nat) (within : i < iterations num_iters inputs.buffers.length)
    (divides : 0 < inputs.buffers.length) (completes : ∀ j, j < i → Completes codecs size inputs storage j) :
    ∃ before, TimedCall .zlib codecs size num_iters inputs storage nanos i before
      (Harness.zlib.setUp (codecs i) size (slotInput size inputs i) before.stream) := by
  obtain ⟨before, entered⟩ :=
    (zlib_entered_iff codecs size num_iters inputs storage nanos 0 i divides).mpr completes
  exact ⟨before, within, divides, ⟨1, entered⟩, .start⟩

structure WritesInside : Prop where
  encoder : ∀ i before stream, TimedCall h codecs size num_iters inputs storage nanos i before stream →
    ∀ k, k < (h.deflate (codecs i) stream).written.length →
      stream.next_out.length + k < (before.output_buffers.getD (i % inputs.buffers.length) []).length
  decoder : ∀ i before, DecodeCall h codecs inflater size num_iters inputs storage nanos i before →
    ∀ k, k < (answer inflater size inputs.buffers i before).written.length →
      k < (before.output_buffers_2.getD (i % inputs.buffers.length) []).length

theorem call_output_size (i : Nat) (before : State σ) (stream : Stream σ)
    (call : TimedCall h codecs size num_iters inputs storage nanos i before stream) :
    (before.output_buffers.getD (i % inputs.buffers.length) []).length = maxExpandIsal size := by
  obtain ⟨fuel, entered⟩ := call.entered
  exact (compress_up_to_shaped h codecs size num_iters inputs storage nanos fuel i before call.divides
    entered).outputs_size _ (Nat.mod_lt i call.divides)

theorem decoder_inside (i : Nat) (before : State σ)
    (call : DecodeCall h codecs inflater size num_iters inputs storage nanos i before) (k : Nat)
    (within : k < (answer inflater size inputs.buffers i before).written.length) :
    k < (before.output_buffers_2.getD (i % inputs.buffers.length) []).length := by
  have shaped := decode_call_shaped h codecs inflater size num_iters inputs storage nanos i before call
  have bound := inflater.within i ((before.output_buffers.getD (i % inputs.buffers.length) []).take
    (before.compressed_sizes.getD (i % inputs.buffers.length) 0).toNat) size
  rw [shaped.outputs_2_size _ (Nat.mod_lt i call.divides)]
  rw [answer] at within
  omega

theorem isal_encoder_inside (i : Nat) (before : State σ) (stream : Stream σ)
    (call : TimedCall .isal codecs size num_iters inputs storage nanos i before stream) (k : Nat)
    (within : k < (Harness.isal.deflate (codecs i) stream).written.length) :
    stream.next_out.length + k < (before.output_buffers.getD (i % inputs.buffers.length) []).length := by
  have room := (visited_accounted (codecs i) .isal size _ before.stream stream call.visited).room
  have bound := deflate_within .isal (codecs i) stream
  rw [call_output_size .isal codecs size num_iters inputs storage nanos i before stream call]
  simp only [Harness.availOut] at room
  omega

theorem zlib_encoder_inside (i : Nat) (before : State σ) (stream : Stream σ)
    (call : TimedCall .zlib codecs size num_iters inputs storage nanos i before stream)
    (fits : (firstReply .zlib (codecs i) size (slotInput size inputs i) storage.stream).written.length ≤
      maxExpandIsal size) (k : Nat) (within : k < (Harness.zlib.deflate (codecs i) stream).written.length) :
    stream.next_out.length + k < (before.output_buffers.getD (i % inputs.buffers.length) []).length := by
  rw [call_output_size .zlib codecs size num_iters inputs storage nanos i before stream call]
  rcases visited_start_or_full (codecs i) _ .zlib stream call.visited with first | full
  · rw [first, zlib_reply codecs size inputs storage i before.stream] at within
    rw [first, set_up_next_out, List.length_nil]
    omega
  · have bound := deflate_within .zlib (codecs i) stream
    omega

theorem writes_inside_iff :
    WritesInside h codecs inflater size num_iters inputs storage nanos ↔
      h = .isal ∨ ∀ i, i < iterations num_iters inputs.buffers.length → 0 < inputs.buffers.length →
        (∀ j, j < i → Completes codecs size inputs storage j) →
        (firstReply .zlib (codecs i) size (slotInput size inputs i) storage.stream).written.length ≤
          maxExpandIsal size := by
  have decoder := decoder_inside h codecs inflater size num_iters inputs storage nanos
  cases h with
  | isal =>
      refine ⟨fun _ => .inl rfl, fun _ => ⟨?_, decoder⟩⟩
      exact isal_encoder_inside codecs size num_iters inputs storage nanos
  | zlib =>
      constructor
      · intro inside
        refine .inr (fun i within divides completes => ?_)
        obtain ⟨before, call⟩ := zlib_first_call codecs size num_iters inputs storage nanos i within divides completes
        have bytes := inside.encoder i before _ call
        rw [call_output_size .zlib codecs size num_iters inputs storage nanos i before _ call,
          zlib_reply codecs size inputs storage i before.stream, set_up_next_out] at bytes
        apply Nat.le_of_not_lt
        intro longer
        exact absurd (bytes (maxExpandIsal size) longer) (by simp)
      · intro condition
        rcases condition with isal | fits
        · cases isal
        · refine ⟨fun i before stream call => ?_, decoder⟩
          exact zlib_encoder_inside codecs size num_iters inputs storage nanos i before stream call
            (fits i call.within call.divides
              (zlib_call_completes codecs size num_iters inputs storage nanos i before stream call))

structure Fresh (i : Nat) (stream : Stream σ) : Prop where
  level : stream.level = h.level
  initialised : stream.internal_state = (codecs i).reset
  input : stream.next_in = slotInput size inputs i
  emitted : stream.next_out = [] ∧ stream.total_out = 0
  finish : h.finish stream = true

theorem zlib_set_up_fresh (i : Nat) (stream : Stream σ) (divides : 0 < inputs.buffers.length) :
    Fresh .zlib codecs size inputs i (Harness.zlib.setUp (codecs i) size (slotInput size inputs i) stream) where
  level := rfl
  initialised := rfl
  input := List.take_of_length_le (Nat.le_of_eq (inputs.sized _ (Nat.mod_lt i divides)))
  emitted := ⟨rfl, rfl⟩
  finish := rfl

-- isal_deflate_init comes after the level is set.
theorem isal_set_up_level (i : Nat) (stream : Stream σ) :
    (Harness.isal.setUp (codecs i) size (slotInput size inputs i) stream).level ≠ Harness.isal.level := by
  intro same
  exact absurd same (show (0 : Int) ≠ 2 by decide)

theorem timed_calls_fresh_iff (divides : 0 < inputs.buffers.length) :
    (∀ i before stream, TimedCall h codecs size num_iters inputs storage nanos i before stream →
      Fresh h codecs size inputs i stream) ↔
      h = .zlib ∧ ∀ i, i < iterations num_iters inputs.buffers.length →
        (∀ j, j < i → Completes codecs size inputs storage j) →
        (firstReply .zlib (codecs i) size (slotInput size inputs i) storage.stream).written.length < size + 1024 := by
  cases h with
  | isal =>
      refine ⟨fun fresh => ?_, fun condition => by cases condition.1⟩
      have enough := iterations_cover num_iters inputs.buffers.length
      have first := fresh 0 _ _ ⟨by omega, divides, ⟨0, rfl⟩, .start⟩
      exact absurd first.level (isal_set_up_level codecs size inputs 0 _)
  | zlib =>
      constructor
      · intro fresh
        refine ⟨rfl, fun i within completes => ?_⟩
        obtain ⟨before, call⟩ := zlib_first_call codecs size num_iters inputs storage nanos i within divides completes
        have bound := deflate_within .zlib (codecs i)
          (Harness.zlib.setUp (codecs i) size (slotInput size inputs i) before.stream)
        rw [zlib_reply codecs size inputs storage i before.stream, set_up_avail] at bound
        apply Nat.lt_of_le_of_ne bound
        intro filled
        -- a first call that fills the room is followed by one that finds the output written
        obtain ⟨turned, full⟩ := first_turn_again (codecs i)
          (Harness.zlib.setUp (codecs i) size (slotInput size inputs i) before.stream)
          (by rw [zlib_reply codecs size inputs storage i before.stream, set_up_avail]; exact filled)
        have second := fresh i before _ ⟨within, divides, call.entered, .again _ _ .start turned⟩
        have room := (visited_accounted (codecs i) .zlib size _ before.stream _ (.again _ _ .start turned)).room
        rw [second.emitted.1, full] at room
        simp [Harness.availOut] at room
      · intro condition i before stream call
        have room := condition.2 i call.within
          (zlib_call_completes codecs size num_iters inputs storage nanos i before stream call)
        have only := first_turn_left (codecs i)
          (Harness.zlib.setUp (codecs i) size (slotInput size inputs i) before.stream)
          (by rw [zlib_reply codecs size inputs storage i before.stream, set_up_avail]; exact room)
        rw [visits_only _ _ _ _ only call.visited]
        exact zlib_set_up_fresh codecs size inputs i before.stream divides

end Program

theorem first_call (h : Harness) (length : Nat) :
    TimedCall h (fun _ => h.storing (padTo length)) 1 1 oneByte oneSlot (fun _ => 0) 0
      (start h (h.storing (padTo length)) 1 oneSlot)
      (h.setUp (h.storing (padTo length)) 1 [7] (start h (h.storing (padTo length)) 1 oneSlot).stream) :=
  ⟨by decide, by decide, ⟨0, rfl⟩, .start⟩

theorem first_written (h : Harness) (length : Nat) (short : length ≤ h.availOut 1) (stream : Stream (Option Bytes)) :
    (h.deflate (h.storing (padTo length)) (h.setUp (h.storing (padTo length)) 1 [7] stream)).written.length = length := by
  rw [(storing_streaming h (padTo length)).writes, stored_set_up, set_up_avail, List.length_take, padTo,
    List.length_replicate, Nat.min_eq_right short]

theorem long_encoding_outside :
    ¬ WritesInside .zlib (fun _ => Harness.zlib.storing (padTo 330)) (Harness.zlib.answering [7]) 1 1 oneByte oneSlot
      (fun _ => 0) := by
  intro inside
  have call := first_call .zlib 330
  have byte := inside.encoder 0 _ _ call 329 (by rw [first_written .zlib 330 (by decide)]; decide)
  rw [call_output_size .zlib _ 1 1 oneByte oneSlot _ 0 _ _ call, set_up_next_out] at byte
  exact absurd byte (by decide)

theorem one_byte_fresh :
    (∀ i before stream, TimedCall .zlib (fun _ => Harness.zlib.storing (padTo 9)) 1 1 oneByte oneSlot (fun _ => 0)
        i before stream → Fresh .zlib (fun _ => Harness.zlib.storing (padTo 9)) 1 oneByte i stream) ↔
      Harness.zlib = .zlib ∧ ∀ i, i < iterations 1 oneByte.buffers.length →
        (∀ j, j < i → Completes (fun _ => Harness.zlib.storing (padTo 9)) 1 oneByte oneSlot j) →
        (firstReply .zlib (Harness.zlib.storing (padTo 9)) 1 (slotInput 1 oneByte i) oneSlot.stream).written.length <
          1 + 1024 :=
  timed_calls_fresh_iff .zlib _ 1 1 oneByte oneSlot (fun _ => 0) (by decide)

theorem level_lost :
    ¬ ∀ i before stream, TimedCall .isal (fun _ => Harness.isal.storing (padTo 9)) 1 1 oneByte oneSlot (fun _ => 0)
      i before stream → Fresh .isal (fun _ => Harness.isal.storing (padTo 9)) 1 oneByte i stream := by
  intro fresh
  exact absurd (fresh 0 _ _ (first_call .isal 9)).level (by decide)

end SprAccelProfiling.Latency
