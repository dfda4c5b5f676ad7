import SprAccelProfiling.Bookkeeping

set_option autoImplicit false

namespace SprAccelProfiling.Latency

open SprAccelProfiling.Loop SprAccelProfiling.Buffer

structure Script (size : Nat) where
  opens : Nat → Int
  replies : Nat → InflateReply
  within : ∀ i, (replies i).written.length ≤ size

def Script.inflater {size : Nat} (script : Script size) : Inflater where
  init := script.opens
  call := fun i _ room => { script.replies i with written := (script.replies i).written.take room }
  within := by
    intro _ _ room
    simp only [List.length_take]
    exact Nat.min_le_left _ _

section Check

variable {σ : Type} {size : Nat} (h : Harness) (codec : Deflater σ) (script : Script size) (num_iters : Int)
  (inputs : Payloads size) (storage : Storage σ size inputs.buffers.length) (nanos : Nat → UInt64)

def payload (i : Nat) : Bytes := inputs.buffers.getD (i % inputs.buffers.length) []

def CheckSound : Prop :=
  ∀ fuel last rows, main h codec script.inflater size num_iters inputs storage nanos fuel = .ok (last, rows) →
    ∀ i, i < iterations num_iters inputs.buffers.length → (script.replies i).written = payload inputs i

def CompressEnds : Prop :=
  ∃ fuel middle, upTo (compressBody h codec size fuel inputs.buffers nanos)
    (iterations num_iters inputs.buffers.length)
    (start h codec (iterations num_iters inputs.buffers.length) storage) = .ok middle

-- The unwritten rest of a slot only shows on the first pass over the slots, and only
-- if fresh memory differs from the payload there.
def Caught (i : Nat) : Prop :=
  h.initFails (script.opens i) = true ∨ h.decoded (script.replies i).status = false ∨
    ¬ (script.replies i).written <+: payload inputs i ∨
    (i < inputs.buffers.length ∧ (storage.output_buffers_2.getD i []).drop (script.replies i).written.length ≠
      (payload inputs i).drop (script.replies i).written.length)

structure Checked (i : Nat) (state : State σ) : Prop where
  shaped : Shaped size inputs.buffers.length state
  passed : ∀ j, j < inputs.buffers.length → j < i → state.output_buffers_2.getD j [] = inputs.buffers.getD j []
  fresh : ∀ j, j < inputs.buffers.length → i ≤ j →
    state.output_buffers_2.getD j [] = storage.output_buffers_2.getD j []

theorem patch_iff (old written target : Bytes) :
    written ++ old.drop written.length = target ↔
      written <+: target ∧ old.drop written.length = target.drop written.length := by
  constructor
  · intro patched
    refine ⟨⟨_, patched⟩, ?_⟩
    rw [← patched, List.drop_left]
  · intro ⟨⟨rest, whole⟩, same⟩
    rw [same, ← whole, List.drop_left]

theorem script_answer (i : Nat) (state : State σ) :
    answer script.inflater size inputs.buffers i state = script.replies i := by
  have whole : (script.replies i).written.take size = (script.replies i).written :=
    List.take_of_length_le (script.within i)
  simp only [answer, Script.inflater, whole]

theorem payload_sized (i : Nat) (nonempty : 0 < inputs.buffers.length) : (payload inputs i).length = size :=
  inputs.sized _ (Nat.mod_lt i nonempty)

theorem slot_content (i : Nat) (state : State σ) (nonempty : 0 < inputs.buffers.length)
    (inv : Checked inputs storage i state) :
    state.output_buffers_2.getD (i % inputs.buffers.length) [] =
      if i < inputs.buffers.length then storage.output_buffers_2.getD i [] else payload inputs i := by
  by_cases first : i < inputs.buffers.length
  · rw [if_pos first, Nat.mod_eq_of_lt first]
    exact inv.fresh i first (Nat.le_refl i)
  · rw [if_neg first]
    have within := Nat.mod_lt i nonempty
    exact inv.passed _ within (by omega)

theorem slot_patched_iff (i : Nat) (state : State σ) (nonempty : 0 < inputs.buffers.length)
    (inv : Checked inputs storage i state) :
    (script.replies i).written ++ (state.output_buffers_2.getD (i % inputs.buffers.length) []).drop
        (script.replies i).written.length = payload inputs i ↔
      (script.replies i).written <+: payload inputs i ∧
        ¬ (i < inputs.buffers.length ∧ (storage.output_buffers_2.getD i []).drop (script.replies i).written.length ≠
          (payload inputs i).drop (script.replies i).written.length) := by
  rw [patch_iff, slot_content inputs storage i state nonempty inv]
  by_cases first : i < inputs.buffers.length
  · simp [first]
  · simp [first]

theorem slot_written (i : Nat) (state : State σ) (nonempty : 0 < inputs.buffers.length)
    (shaped : Shaped size inputs.buffers.length state) :
    writeAt (state.output_buffers_2.getD (i % inputs.buffers.length) []) 0 (script.replies i).written =
      some ((script.replies i).written ++ (state.output_buffers_2.getD (i % inputs.buffers.length) []).drop
        (script.replies i).written.length) := by
  rw [write_start_iff]
  refine ⟨?_, rfl⟩
  rw [shaped.outputs_2_size _ (Nat.mod_lt i nonempty)]
  exact script.within i

theorem check_body_iff (i : Nat) (state next : State σ) (nonempty : 0 < inputs.buffers.length)
    (inv : Checked inputs storage i state) :
    decompressBody h script.inflater size (iterations num_iters inputs.buffers.length) inputs.buffers nanos i state =
        .ok next ↔
      ¬ Caught h script inputs storage i ∧
        next = decompressed (iterations num_iters inputs.buffers.length) inputs.buffers nanos i state
          (payload inputs i) := by
  have wrote := slot_written script inputs i state nonempty inv.shaped
  have patched := slot_patched_iff script inputs storage i state nonempty inv
  have lengths := write_at_length _ _ _ _ wrote
  rw [inv.shaped.outputs_2_size _ (Nat.mod_lt i nonempty)] at lengths
  have compared := compare_buffers_same _ _ size lengths (payload_sized inputs i nonempty)
  rw [decompress_body_iff h _ size _ i _ nanos state next nonempty, script_answer, wrote]
  constructor
  · intro ⟨written, opened, same, decoded, matched, after⟩
    cases same
    have equal := compared.mp matched
    have clean := patched.mp equal
    refine ⟨?_, by rw [after, equal]⟩
    intro caught
    rcases caught with failed | undecoded | wrong | stale
    · exact absurd (opened.symm.trans failed) (by decide)
    · exact absurd (decoded.symm.trans undecoded) (by decide)
    · exact wrong clean.1
    · exact clean.2 stale
  · intro ⟨uncaught, after⟩
    simp only [Caught, not_or, Bool.not_eq_true, Bool.not_eq_false] at uncaught
    obtain ⟨opened, decoded, correct, unstale⟩ := uncaught
    have equal := patched.mpr ⟨not_not.mp correct, unstale⟩
    exact ⟨_, opened, rfl, decoded, compared.mpr equal, by rw [after, equal]⟩

theorem check_step (i : Nat) (state next : State σ) (nonempty : 0 < inputs.buffers.length)
    (inv : Checked inputs storage i state)
    (moved : decompressBody h script.inflater size (iterations num_iters inputs.buffers.length) inputs.buffers nanos
      i state = .ok next) : Checked inputs storage (i + 1) next := by
  have within := Nat.mod_lt i nonempty
  have shaped := decompress_body_shaped h script.inflater size _ i inputs.buffers nanos state next nonempty
    inv.shaped moved
  obtain ⟨_, rfl⟩ := (check_body_iff h script num_iters inputs storage nanos i state next nonempty inv).mp moved
  refine ⟨shaped, ?_, ?_⟩
  · exact slots_next (fun j output => output = inputs.buffers.getD j []) _ [] _ i _ nonempty inv.shaped.outputs_2_count
      inv.passed rfl
  · intro j inRange later
    have small : i % inputs.buffers.length ≤ i := Nat.mod_le i _
    have other : j ≠ i % inputs.buffers.length := by omega
    rw [decompressed, get_set _ _ _ _ _ (by rw [inv.shaped.outputs_2_count]; exact within), if_neg other]
    exact inv.fresh j inRange (by omega)

theorem ran_nonempty (fuel rounds : Nat) (first last : State σ) (some : 0 < rounds)
    (ended : upTo (compressBody h codec size fuel inputs.buffers nanos) rounds first = .ok last) :
    0 < inputs.buffers.length := by
  obtain ⟨before, after, _, moved, _⟩ := up_to_visits _ _ 0 _ _ ended some
  apply Nat.pos_of_ne_zero
  intro empty
  rw [compressBody, if_pos empty] at moved
  cases moved

theorem check_starts (fuel rounds : Nat) (middle : State σ) (nonempty : 0 < inputs.buffers.length)
    (ended : upTo (compressBody h codec size fuel inputs.buffers nanos) rounds (start h codec rounds storage) =
      .ok middle) : Checked inputs storage 0 (readSizes inputs.buffers.length middle) := by
  have kept : Shaped size inputs.buffers.length middle ∧ middle.output_buffers_2 = storage.output_buffers_2 := by
    apply up_to_invariant (compressBody h codec size fuel inputs.buffers nanos)
      (fun _ state => Shaped size inputs.buffers.length state ∧ state.output_buffers_2 = storage.output_buffers_2)
      rounds _ middle ⟨start_shaped h codec rounds storage, rfl⟩ _ ended
    intro i before after _ holds moved
    refine ⟨compress_body_shaped h codec size fuel i _ nanos before after nonempty holds.1 moved, ?_⟩
    obtain ⟨_, _, _, _, _, _, rfl⟩ := (compress_body_iff h codec size fuel i _ nanos before after nonempty).mp moved
    exact holds.2
  obtain ⟨shaped, same⟩ := kept
  refine ⟨⟨shaped.outputs_count, shaped.outputs_size, shaped.sizes_count, shaped.outputs_2_count,
    shaped.outputs_2_size⟩, fun j _ impossible => by omega, fun j _ _ => ?_⟩
  simp only [readSizes, same]

theorem ended_uncaught (rounds : Nat) (roundsEq : rounds = iterations num_iters inputs.buffers.length)
    (first last : State σ) (nonempty : 0 < inputs.buffers.length) (inv : Checked inputs storage 0 first)
    (ended : upTo (decompressBody h script.inflater size rounds inputs.buffers nanos) rounds first = .ok last)
    (i : Nat) (within : i < rounds) : ¬ Caught h script inputs storage i := by
  subst rounds
  obtain ⟨before, after, reached, moved, _⟩ := up_to_visits _ _ i _ _ ended within
  have checked : Checked inputs storage i before :=
    up_to_invariant _ (fun k state => Checked inputs storage k state) i first before inv
      (fun k earlier later _ holds step =>
        check_step h script num_iters inputs storage nanos k earlier later nonempty holds step) reached
  exact ((check_body_iff h script num_iters inputs storage nanos i before after nonempty checked).mp moved).1

theorem uncaught_returns (some : 0 < iterations num_iters inputs.buffers.length)
    (ends : CompressEnds h codec num_iters inputs storage nanos)
    (uncaught : ∀ i, i < iterations num_iters inputs.buffers.length → ¬ Caught h script inputs storage i) :
    ∃ fuel last rows, main h codec script.inflater size num_iters inputs storage nanos fuel = .ok (last, rows) := by
  obtain ⟨fuel, middle, compressedOk⟩ := ends
  have nonempty := ran_nonempty h codec inputs nanos fuel _ _ _ some compressedOk
  obtain ⟨last, decompressedOk, _⟩ := up_to_total
    (decompressBody h script.inflater size (iterations num_iters inputs.buffers.length) inputs.buffers nanos)
    (fun i state => Checked inputs storage i state) (iterations num_iters inputs.buffers.length)
    (readSizes inputs.buffers.length middle)
    (check_starts h codec inputs storage nanos fuel _ middle nonempty compressedOk)
    (by
      intro i state within inv
      have moved := (check_body_iff h script num_iters inputs storage nanos i state _ nonempty inv).mpr
        ⟨uncaught i within, rfl⟩
      exact ⟨_, moved, check_step h script num_iters inputs storage nanos i state _ nonempty inv moved⟩)
  obtain ⟨first, firstOk, _⟩ := summary_ok size h.level
    (avgRatio middle.compressed_sizes size inputs.buffers.length) .Compress _ middle.times some
  obtain ⟨second, secondOk, _⟩ := summary_ok size h.level
    (avgRatio middle.compressed_sizes size inputs.buffers.length) .Decompress _ last.times some
  exact ⟨fuel, last, [first, second], by simp only [main, compressedOk, firstOk, decompressedOk, secondOk]⟩

theorem returned_uncaught (fuel : Nat) (last : State σ) (rows : List Row)
    (returned : main h codec script.inflater size num_iters inputs storage nanos fuel = .ok (last, rows))
    (i : Nat) (within : i < iterations num_iters inputs.buffers.length) :
    CompressEnds h codec num_iters inputs storage nanos ∧ ¬ Caught h script inputs storage i := by
  obtain ⟨middle, compressedOk, decompressedOk⟩ :=
    main_ok h codec script.inflater size fuel num_iters inputs storage nanos last rows returned
  have nonempty := ran_nonempty h codec inputs nanos fuel _ _ _ (by omega) compressedOk
  refine ⟨⟨fuel, middle, compressedOk⟩, ?_⟩
  exact ended_uncaught h script num_iters inputs storage nanos _ rfl _ last nonempty
    (check_starts h codec inputs storage nanos fuel _ middle nonempty compressedOk) decompressedOk i within

theorem uncaught_prefix (i : Nat) (uncaught : ¬ Caught h script inputs storage i) :
    (script.replies i).written <+: payload inputs i := by
  simp only [Caught, not_or, not_not] at uncaught
  exact uncaught.2.2.1

theorem check_sound_iff :
    CheckSound h codec script num_iters inputs storage nanos ↔
      (CompressEnds h codec num_iters inputs storage nanos →
        (∃ i, i < iterations num_iters inputs.buffers.length ∧ Caught h script inputs storage i) ∨
          ∀ i, i < iterations num_iters inputs.buffers.length → (script.replies i).written.length = size) := by
  constructor
  · intro sound ends
    by_cases caught : ∃ i, i < iterations num_iters inputs.buffers.length ∧ Caught h script inputs storage i
    · exact .inl caught
    · apply Or.inr
      intro i within
      have uncaught : ∀ k, k < iterations num_iters inputs.buffers.length → ¬ Caught h script inputs storage k :=
        fun k reached found => caught ⟨k, reached, found⟩
      obtain ⟨fuel, last, rows, returned⟩ :=
        uncaught_returns h codec script num_iters inputs storage nanos (by omega) ends uncaught
      obtain ⟨ended, compressedOk⟩ := ends
      rw [sound fuel last rows returned i within]
      exact payload_sized inputs i (ran_nonempty h codec inputs nanos ended _ _ _ (by omega) compressedOk.choose_spec)
  · intro condition fuel last rows returned i within
    obtain ⟨ends, uncaught⟩ :=
      returned_uncaught h codec script num_iters inputs storage nanos fuel last rows returned i within
    rcases condition ends with ⟨k, reached, caught⟩ | whole
    · exact absurd caught
        (returned_uncaught h codec script num_iters inputs storage nanos fuel last rows returned k reached).2
    · have written := uncaught_prefix h script inputs storage i uncaught
      obtain ⟨ended, middle, compressedOk⟩ := ends
      have nonempty := ran_nonempty h codec inputs nanos ended _ _ _ (by omega) compressedOk
      exact written.eq_of_length (by rw [whole i within, payload_sized inputs i nonempty])

end Check

def onceThenNothing : Script 1 where
  opens := fun _ => Z_OK
  replies := fun i => if i = 0 then ⟨[7], Z_STREAM_END⟩ else ⟨[], Z_STREAM_END⟩
  within := fun i => by
    split <;> decide

theorem one_byte_compresses : CompressEnds .zlib (Harness.zlib.storing (padTo 9)) 2 oneByte oneSlot (fun _ => 0) := by
  obtain ⟨fuel, middle, _, _, _, compressedOk, _⟩ := fitting_books_balance .zlib _ _ 1 2 oneByte oneSlot (fun _ => 0)
    (padTo 9) (by decide) (storing_works .zlib 9 (by decide))
    (fun _ _ => by rw [padTo, List.length_replicate]; decide)
  exact ⟨fuel, middle, compressedOk⟩

theorem second_pass_unsound :
    ¬ CheckSound .zlib (Harness.zlib.storing (padTo 9)) onceThenNothing 2 oneByte oneSlot (fun _ => 0) := by
  intro sound
  have uncaught : ∀ i, i < 2 → ¬ Caught .zlib onceThenNothing oneByte oneSlot i := by
    unfold Caught
    decide
  obtain ⟨fuel, last, rows, returned⟩ := uncaught_returns .zlib (Harness.zlib.storing (padTo 9)) onceThenNothing 2
    oneByte oneSlot (fun _ => 0) (by decide) one_byte_compresses uncaught
  have written := sound fuel last rows returned 1 (by decide)
  revert written
  decide

end SprAccelProfiling.Latency
