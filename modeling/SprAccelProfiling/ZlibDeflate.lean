import SprAccelProfiling.AssertSites

set_option autoImplicit false

namespace SprAccelProfiling.Asserts

open SprAccelProfiling.Latency SprAccelProfiling.Cbuf

/-- What the manual says beyond single calls: deflate stops for want of input or of room, and what
it gives out without a flush is the start of what a flush completes. -/
structure Continues {σ : Type} (library : Zlib σ) : Prop where
  exhausts : ∀ flush stream, stream.next_in.length ≤ (library.deflate flush stream).consumed ∨
    (library.deflate flush stream).written.length = stream.avail_out
  begins : ∀ stream, stream.internal_state = library.reset → (library.deflate .Z_NO_FLUSH stream).written <+:
    library.flushed (stream.next_in.take (library.deflate .Z_NO_FLUSH stream).consumed)

section Calls

variable {σ : Type} (library : Zlib σ) (obeys : Obeys library) (flush : Flush) (stream : Stream σ)

include obeys

theorem status_ok_iff : (library.deflate flush stream).status = Z_OK ↔
    0 < (library.deflate flush stream).consumed + (library.deflate flush stream).written.length := by
  constructor
  · intro status
    refine Nat.pos_of_ne_zero (fun none => ?_)
    rw [(obeys.stuck flush stream none).1] at status
    exact absurd status (by decide)
  · exact obeys.progress flush stream

theorem ok_has_room (status : (library.deflate flush stream).status = Z_OK) : 0 < stream.avail_out := by
  have moved := (status_ok_iff library obeys flush stream).mp status
  refine Nat.pos_of_ne_zero (fun full => ?_)
  rw [obeys.full flush stream full] at moved
  exact Nat.lt_irrefl 0 moved

end Calls

section Deflate

variable {σ : Type} (library : Zlib σ) (ZSTATE_END : Int) (input : Bytes)

def unflushed : Stream σ := deflated library .Z_NO_FLUSH (zlibOpening library input)

def early : Bytes := (library.deflate .Z_NO_FLUSH (zlibOpening library input)).written

variable (obeys : Obeys library) (continues : Continues library) (small : input.length < 4294967296)

include small

theorem opened_whole : (zlibOpening library input).next_in = input ∧ (zlibOpening library input).avail_out = input.length := by
  simp only [zlibOpening, opening, Nat.mod_eq_of_lt small, List.take_length, and_self]

theorem unflushed_room : (unflushed library input).avail_out = input.length - (early library input).length := by
  rw [unflushed, deflated, advance, (opened_whole library input small).2]
  rfl

include continues

theorem room_consumed (room : (early library input).length < input.length) :
    input.length ≤ (library.deflate .Z_NO_FLUSH (zlibOpening library input)).consumed ∧
      (unflushed library input).next_in = [] := by
  obtain ⟨whole, capacity⟩ := opened_whole library input small
  have stopped := continues.exhausts .Z_NO_FLUSH (zlibOpening library input)
  rw [whole, capacity] at stopped
  have consumed := stopped.resolve_right (Nat.ne_of_lt room)
  refine ⟨consumed, ?_⟩
  rw [unflushed, deflated, advance]
  dsimp only
  rw [whole]
  exact List.drop_eq_nil_of_le consumed

theorem early_prefix (room : (early library input).length < input.length) :
    early library input <+: library.flushed input := by
  have begins := continues.begins (zlibOpening library input) rfl
  rwa [(opened_whole library input small).1,
    List.take_of_length_le (room_consumed library input continues small room).1] at begins

include obeys

theorem unflushed_state (room : (early library input).length < input.length) :
    library.taken (unflushed library input).internal_state = input ∧
      library.emitted (unflushed library input).internal_state = early library input := by
  have whole := (opened_whole library input small).1
  have consumed := (room_consumed library input continues small room).1
  have reset : (zlibOpening library input).internal_state = library.reset := rfl
  obtain ⟨taken, emitted⟩ := obeys.starts
  refine ⟨?_, ?_⟩
  · rw [unflushed, deflated, advance]
    dsimp only
    rw [obeys.takes, reset, taken, whole, List.nil_append, List.take_of_length_le consumed]
  · rw [unflushed, deflated, advance]
    dsimp only
    rw [obeys.emits, reset, emitted, List.nil_append, early]

theorem flush_written (room : (early library input).length < input.length) :
    (library.deflate .Z_SYNC_FLUSH (unflushed library input)).written =
      ((library.flushed input).drop (early library input).length).take (input.length - (early library input).length) := by
  obtain ⟨taken, emitted⟩ := unflushed_state library input obeys continues small room
  rw [obeys.flushes _ (room_consumed library input continues small room).2, taken, emitted,
    unflushed_room library input small]

theorem flush_ok_iff (room : (early library input).length < input.length) :
    (library.deflate .Z_SYNC_FLUSH (unflushed library input)).status = Z_OK ↔
      (early library input).length < (library.flushed input).length := by
  have consumes := obeys.consumes .Z_SYNC_FLUSH (unflushed library input)
  rw [(room_consumed library input continues small room).2, List.length_nil] at consumes
  rw [status_ok_iff library obeys, flush_written library input obeys continues small room, List.length_take,
    List.length_drop]
  omega

theorem zlib_deflate_passes : (∃ strm, zlibDeflate library ZSTATE_END input = some strm) ↔
    (early library input).length < input.length ∧ (early library input).length < (library.flushed input).length := by
  have passes := zlib_deflate_passes_iff ZSTATE_END library input
  constructor
  · intro passed
    obtain ⟨strm, passed⟩ := passed
    obtain ⟨_, flushed, _⟩ := (passes strm).mp passed
    have open_room := ok_has_room library obeys .Z_SYNC_FLUSH (unflushed library input) flushed
    rw [unflushed_room library input small] at open_room
    have room : (early library input).length < input.length := by omega
    exact ⟨room, (flush_ok_iff library input obeys continues small room).mp flushed⟩
  · intro condition
    obtain ⟨room, more⟩ := condition
    have consumed := (room_consumed library input continues small room).1
    refine ⟨_, (passes _).mpr ⟨?_, (flush_ok_iff library input obeys continues small room).mpr more, rfl⟩⟩
    apply (status_ok_iff library obeys .Z_NO_FLUSH _).mpr
    omega

theorem zlib_deflate_output (strm : Stream σ) (passed : zlibDeflate library ZSTATE_END input = some strm) :
    strm.next_in = [] ∧ strm.next_out = (library.flushed input).take input.length := by
  obtain ⟨_, _, last⟩ := (zlib_deflate_passes_iff ZSTATE_END library input strm).mp passed
  obtain ⟨room, _⟩ := (zlib_deflate_passes library ZSTATE_END input obeys continues small).mp ⟨strm, passed⟩
  have consumed := (room_consumed library input continues small room).2
  obtain ⟨rest, split⟩ := early_prefix library input continues small room
  have again : strm = deflated library .Z_SYNC_FLUSH (unflushed library input) := last
  rw [again, deflated, advance]
  dsimp only
  refine ⟨by rw [consumed, List.drop_nil], ?_⟩
  rw [flush_written library input obeys continues small room, ← split, List.drop_left, List.take_append,
    List.take_of_length_le (Nat.le_of_lt room)]
  rfl

theorem zlib_deflate_exact :
    ((∃ strm, zlibDeflate library ZSTATE_END input = some strm) ↔
      (early library input).length < input.length ∧ (early library input).length < (library.flushed input).length) ∧
    ∀ strm, zlibDeflate library ZSTATE_END input = some strm →
      strm.next_in = [] ∧ strm.next_out = (library.flushed input).take input.length ∧
      (strm.next_out = library.flushed input ↔ (library.flushed input).length ≤ input.length) ∧
      ((library.flushed input).length ≤ input.length → library.inflate strm.next_out = some input) := by
  refine ⟨zlib_deflate_passes library ZSTATE_END input obeys continues small, fun strm passed => ?_⟩
  obtain ⟨consumed, output⟩ := zlib_deflate_output library ZSTATE_END input obeys continues small strm passed
  have whole : strm.next_out = library.flushed input ↔ (library.flushed input).length ≤ input.length := by
    rw [output]
    constructor
    · intro same
      rw [← same]
      exact List.length_take_le input.length _
    · exact List.take_of_length_le
  refine ⟨consumed, output, whole, fun fits => ?_⟩
  rw [whole.mpr fits]
  exact obeys.inflates input

end Deflate

theorem squeezing_continues : Continues squeezing where
  exhausts := by
    intro flush stream
    by_cases full : stream.avail_out = 0
    · simp [squeezing_full, full]
    · simp [squeezing_room, full]
  begins := by
    intro stream _
    by_cases full : stream.avail_out = 0
    · simp [squeezing_full, full]
    · rw [squeezing_room .Z_NO_FLUSH stream full]
      exact List.nil_prefix

theorem three_fives_exact :
    ((∃ strm, zlibDeflate squeezing 11 [5, 5, 5] = some strm) ↔
      (early squeezing [5, 5, 5]).length < 3 ∧ (early squeezing [5, 5, 5]).length < (squeeze [5, 5, 5]).length) ∧
    ∀ strm, zlibDeflate squeezing 11 [5, 5, 5] = some strm →
      strm.next_in = [] ∧ strm.next_out = (squeeze [5, 5, 5]).take 3 ∧
      (strm.next_out = squeeze [5, 5, 5] ↔ (squeeze [5, 5, 5]).length ≤ 3) ∧
      ((squeeze [5, 5, 5]).length ≤ 3 → unsqueeze strm.next_out = some [5, 5, 5]) :=
  zlib_deflate_exact squeezing 11 [5, 5, 5] squeezing_obeys squeezing_continues (by decide)

end SprAccelProfiling.Asserts
