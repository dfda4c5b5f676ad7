import SprAccelProfiling.Stream

set_option autoImplicit false

namespace SprAccelProfiling.Latency

open SprAccelProfiling.Loop

variable {σ : Type}

/-- The library contract of a streaming encoder: pending is what it still has to emit. -/
structure Streaming (h : Harness) (codec : Deflater σ) (pending : Stream σ → Bytes) : Prop where
  writes : ∀ stream, (h.deflate codec stream).written = (pending stream).take stream.avail_out
  keeps : ∀ stream, pending (advance stream (h.deflate codec stream)) = (pending stream).drop stream.avail_out
  accepts : ∀ stream, stream.avail_out = 0 → h.rejects (h.deflate codec stream).status = false

def Settles (h : Harness) (codec : Deflater σ) (pending : Stream σ → Bytes) (start : Stream σ) : Prop :=
  Ends (compressTurn h codec) start .failed ∨
    ∃ last status, Ends (compressTurn h codec) start (.left last status) ∧ last.next_out = pending start

-- avail_out is the loop condition and is never replenished inside the loop.
theorem full_never_ends (h : Harness) (codec : Deflater σ) (pending : Stream σ → Bytes)
    (streaming : Streaming h codec pending) (stream : Stream σ) (full : stream.avail_out = 0) :
    ¬ Terminates (compressTurn h codec) stream := by
  apply never_ends (compressTurn h codec) (fun state => state.avail_out = 0) _ stream full
  intro state stuck
  have still : (advance state (h.deflate codec state)).avail_out = 0 := by simp [advance, stuck]
  refine ⟨advance state (h.deflate codec state), ?_, still⟩
  simp [compressTurn, streaming.accepts state stuck, still]

theorem too_long_never_ends (h : Harness) (codec : Deflater σ) (pending : Stream σ → Bytes)
    (streaming : Streaming h codec pending) (start : Stream σ) (long : start.avail_out ≤ (pending start).length)
    (accepted : h.rejects (h.deflate codec start).status = false) :
    ¬ Terminates (compressTurn h codec) start := by
  have written : (h.deflate codec start).written.length = start.avail_out := by
    rw [streaming.writes, List.length_take, Nat.min_eq_left long]
  have full : (advance start (h.deflate codec start)).avail_out = 0 := by simp [advance, written]
  have turned : compressTurn h codec start = .again (advance start (h.deflate codec start)) := by
    simp [compressTurn, accepted, full]
  intro stops
  obtain ⟨result, ended⟩ := stops
  exact full_never_ends h codec pending streaming _ full ⟨result, (ends_again _ _ _ _ turned).mp ended⟩

theorem short_settles (h : Harness) (codec : Deflater σ) (pending : Stream σ → Bytes)
    (streaming : Streaming h codec pending) (start : Stream σ) (fresh : start.next_out = [])
    (short : (pending start).length < start.avail_out)
    (accepted : h.rejects (h.deflate codec start).status = false) :
    ∃ last, Ends (compressTurn h codec) start (.left last (h.deflate codec start).status) ∧
      last.next_out = pending start := by
  have written : (h.deflate codec start).written = pending start := by
    rw [streaming.writes, List.take_of_length_le (Nat.le_of_lt short)]
  have room : (advance start (h.deflate codec start)).avail_out ≠ 0 := by
    simp only [advance, written]
    omega
  have turned : compressTurn h codec start =
      .done (.left (advance start (h.deflate codec start)) (h.deflate codec start).status) := by
    simp [compressTurn, accepted, room]
  refine ⟨_, (ends_done _ _ _ _ turned).mpr rfl, ?_⟩
  simp [advance, fresh, written]

theorem compress_loop_settles_iff (h : Harness) (codec : Deflater σ) (pending : Stream σ → Bytes)
    (streaming : Streaming h codec pending) (size : Nat) (input : Bytes) (prior : Stream σ) :
    Settles h codec pending (h.setUp codec size input prior) ↔
      (pending (h.setUp codec size input prior)).length < h.availOut size ∨
        h.rejects (h.deflate codec (h.setUp codec size input prior)).status = true := by
  have granted := set_up_avail h codec size input prior
  have fresh := set_up_next_out h codec size input prior
  generalize h.setUp codec size input prior = start at granted fresh
  rw [← granted]
  cases accepted : h.rejects (h.deflate codec start).status with
  | true =>
      have turned : compressTurn h codec start = .done .failed := by simp [compressTurn, accepted]
      have failed : Settles h codec pending start := .inl ((ends_done _ _ _ _ turned).mpr rfl)
      simp [failed]
  | false =>
      simp only [Bool.false_eq_true, or_false]
      constructor
      · intro settles
        apply Nat.lt_of_not_le
        intro long
        have diverges := too_long_never_ends h codec pending streaming start long accepted
        rcases settles with failed | ⟨last, status, left, _⟩
        · exact diverges ⟨_, failed⟩
        · exact diverges ⟨_, left⟩
      · intro short
        obtain ⟨last, ended, whole⟩ := short_settles h codec pending streaming start fresh short accepted
        exact .inr ⟨last, _, ended, whole⟩

-- An encoder that reads its whole input in the first call and hands the encoding out
-- piece by piece. The internal state is what is left of it.
def stored (encode : Bytes → Bytes) (stream : Stream (Option Bytes)) : Bytes :=
  stream.internal_state.getD (encode stream.next_in)

def Harness.storing (h : Harness) (encode : Bytes → Bytes) : Deflater (Option Bytes) where
  reset := none
  call := fun _ stream =>
    { consumed := stream.next_in.length
      written := (stored encode stream).take stream.avail_out
      internal_state := some ((stored encode stream).drop stream.avail_out)
      status :=
        match h with
        | .zlib => if (stored encode stream).length ≤ stream.avail_out then Z_STREAM_END else Z_OK
        | .isal => COMP_OK }
  within := by
    intro _ stream
    simp only [List.length_take]
    exact Nat.min_le_left _ _

theorem storing_streaming (h : Harness) (encode : Bytes → Bytes) :
    Streaming h (h.storing encode) (stored encode) := by
  cases h with
  | zlib => exact ⟨fun _ => rfl, fun _ => rfl, fun _ _ => rfl⟩
  | isal => exact ⟨fun _ => rfl, fun _ => rfl, fun _ _ => rfl⟩

theorem stored_set_up (h : Harness) (encode : Bytes → Bytes) (size : Nat) (input : Bytes)
    (prior : Stream (Option Bytes)) :
    stored encode (h.setUp (h.storing encode) size input prior) = encode (input.take size) := by
  cases h <;> rfl

theorem storing_accepted (h : Harness) (encode : Bytes → Bytes) (stream : Stream (Option Bytes)) :
    h.rejects (h.deflate (h.storing encode) stream).status = false := by
  cases h <;> rfl

theorem storing_pass (h : Harness) (encode : Bytes → Bytes) (size : Nat) (input : Bytes)
    (prior : Stream (Option Bytes)) (short : (encode (input.take size)).length < h.availOut size) :
    ∃ last status, Ends (compressTurn h (h.storing encode)) (h.setUp (h.storing encode) size input prior)
        (.left last status) ∧ h.finished status = true ∧ last.next_out = encode (input.take size) := by
  have content := stored_set_up h encode size input prior
  have granted := set_up_avail h (h.storing encode) size input prior
  obtain ⟨last, ended, whole⟩ := short_settles h _ _ (storing_streaming h encode) _
    (set_up_next_out h _ size input prior) (by rw [content, granted]; exact short) (storing_accepted h encode _)
  refine ⟨last, _, ended, ?_, whole.trans content⟩
  cases h with
  | isal => rfl
  | zlib =>
      have fits : (stored encode (Harness.zlib.setUp (Harness.zlib.storing encode) size input prior)).length ≤
          (Harness.zlib.setUp (Harness.zlib.storing encode) size input prior).avail_out := by
        rw [content, granted]
        exact Nat.le_of_lt short
      have status : (Harness.zlib.deflate (Harness.zlib.storing encode)
          (Harness.zlib.setUp (Harness.zlib.storing encode) size input prior)).status = Z_STREAM_END := if_pos fits
      rw [status]
      rfl

def cleanStream : Stream (Option Bytes) := ⟨0, false, [], [], 0, 0, none⟩

theorem four_bytes_settle :
    Settles .isal (Harness.isal.storing id) (stored id)
      (Harness.isal.setUp (Harness.isal.storing id) 4 [10, 20, 30, 40] cleanStream) :=
  (compress_loop_settles_iff .isal (Harness.isal.storing id) (stored id) (storing_streaming .isal id) 4
    [10, 20, 30, 40] cleanStream).mpr (.inl (by decide))

def padTo (length : Nat) (_ : Bytes) : Bytes := List.replicate length 0

theorem padded_never_settles (h : Harness) (length : Nat) (long : h.availOut 1 ≤ length) :
    ¬ Settles h (h.storing (padTo length)) (stored (padTo length))
      (h.setUp (h.storing (padTo length)) 1 [7] cleanStream) := by
  have diverges := too_long_never_ends h _ _ (storing_streaming h (padTo length))
    (h.setUp (h.storing (padTo length)) 1 [7] cleanStream)
    (by rw [stored_set_up, set_up_avail, padTo, List.length_replicate]; exact long) (storing_accepted h _ _)
  intro settles
  rcases settles with failed | ⟨last, status, left, _⟩
  · exact diverges ⟨_, failed⟩
  · exact diverges ⟨_, left⟩

theorem exact_fit_never_settles :
    ¬ Settles .isal (Harness.isal.storing (padTo 329)) (stored (padTo 329))
      (Harness.isal.setUp (Harness.isal.storing (padTo 329)) 1 [7] cleanStream) ∧
    ¬ Settles .zlib (Harness.zlib.storing (padTo 1025)) (stored (padTo 1025))
      (Harness.zlib.setUp (Harness.zlib.storing (padTo 1025)) 1 [7] cleanStream) :=
  ⟨padded_never_settles .isal 329 (by decide), padded_never_settles .zlib 1025 (by decide)⟩

end SprAccelProfiling.Latency
