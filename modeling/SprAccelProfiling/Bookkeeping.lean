import SprAccelProfiling.CompressLoop
import SprAccelProfiling.Harness
import Mathlib.Algebra.Ring.Rat

set_option autoImplicit false

namespace SprAccelProfiling.Latency

open SprAccelProfiling.Loop SprAccelProfiling.Buffer

section Log

-- A slot is read after it was filled from the input buffer with the same index, and
-- it is never filled from another one.
def Justified (before : List Access) : Access → Prop
  | .wroteOutput slot source => source = slot
  | .wroteSize slot source => source = slot
  | .readOutput slot => .wroteOutput slot slot ∈ before
  | .readSize slot => .wroteSize slot slot ∈ before

def Covered (log : List Access) : Prop :=
  ∀ before access after, log = before ++ access :: after → Justified before access

theorem justified_mono (before extra : List Access) (access : Access) (justified : Justified before access) :
    Justified (before ++ extra) access := by
  cases access with
  | readOutput slot => exact List.mem_append_left extra justified
  | readSize slot => exact List.mem_append_left extra justified
  | wroteOutput slot source => exact justified
  | wroteSize slot source => exact justified

theorem covered_append (log items : List Access) (covered : Covered log)
    (justified : ∀ access ∈ items, Justified log access) : Covered (log ++ items) := by
  intro before access after split
  rcases List.append_eq_append_iff.mp split with ⟨extra, longer, tail⟩ | ⟨extra, shorter, tail⟩
  · rw [longer]
    exact justified_mono log extra access (justified access (by simp [tail]))
  · cases extra with
    | nil =>
        have same : log = before := by simpa using shorter
        rw [← same]
        exact justified access (by rw [List.nil_append] at tail; simp [← tail])
    | cons head rest =>
        obtain ⟨rfl, _⟩ := List.cons.inj tail
        exact covered before access rest shorter

end Log

section Times

variable {σ : Type} (h : Harness) (codec : Deflater σ) (inflater : Inflater) (size fuel : Nat)

structure Timed (clock : Nat → Nat) (rounds i : Nat) (times : List Nat) : Prop where
  length : times.length = rounds
  taken : ∀ k, k < i → times.getD k 0 = clock k

theorem timed_next (clock : Nat → Nat) (rounds i : Nat) (times : List Nat) (within : i < rounds)
    (timed : Timed clock rounds i times) : Timed clock rounds (i + 1) (times.set i (clock i)) := by
  refine ⟨by rw [List.length_set, timed.length], fun k reached => ?_⟩
  rw [get_set _ _ _ _ _ (by rw [timed.length]; exact within)]
  by_cases last : k = i
  · rw [if_pos last, last]
  · rw [if_neg last]
    exact timed.taken k (by omega)

theorem timed_whole (clock : Nat → Nat) (rounds : Nat) (times : List Nat) (timed : Timed clock rounds rounds times) :
    times = (List.range rounds).map clock := by
  apply List.ext_getElem (by simp [timed.length])
  intro k inTimes inRange
  have taken := timed.taken k (by rw [← timed.length]; exact inTimes)
  rw [List.getD_eq_getElem?_getD, List.getElem?_eq_getElem inTimes] at taken
  simpa using taken

theorem compress_times (rounds : Nat) (inputs : List Bytes) (nanos : Nat → UInt64) (nonempty : 0 < inputs.length)
    (first last : State σ) (sized : first.times.length = rounds)
    (ended : upTo (compressBody h codec size fuel inputs nanos) rounds first = .ok last) :
    last.times = (List.range rounds).map (duration nanos) := by
  apply timed_whole
  refine up_to_invariant _ (fun i (state : State σ) => Timed (duration nanos) rounds i state.times) rounds first last
    ⟨sized, fun k impossible => absurd impossible (Nat.not_lt_zero k)⟩ ?_ ended
  intro i before after within timed moved
  obtain ⟨_, _, _, _, _, _, rfl⟩ := (compress_body_iff h codec size fuel i inputs nanos before after nonempty).mp moved
  exact timed_next (duration nanos) rounds i before.times within timed

theorem decompress_times (rounds : Nat) (inputs : List Bytes) (nanos : Nat → UInt64) (nonempty : 0 < inputs.length)
    (first last : State σ) (sized : first.times.length = rounds)
    (ended : upTo (decompressBody h inflater size rounds inputs nanos) rounds first = .ok last) :
    last.times = (List.range rounds).map (fun i => duration nanos (rounds + i)) := by
  apply timed_whole
  refine up_to_invariant _ (fun i (state : State σ) => Timed (fun i => duration nanos (rounds + i)) rounds i state.times)
    rounds first last ⟨sized, fun k impossible => absurd impossible (Nat.not_lt_zero k)⟩ ?_ ended
  intro i before after within timed moved
  obtain ⟨_, _, _, _, _, rfl⟩ :=
    (decompress_body_iff h inflater size rounds i inputs nanos before after nonempty).mp moved
  exact timed_next (fun i => duration nanos (rounds + i)) rounds i before.times within timed

end Times

variable {σ : Type}

/-- What is assumed of the two libraries: one pass of the do-while over b succeeds and
emits enc b, and decoding enc b into size bytes succeeds and yields b. -/
structure LibraryWorks (h : Harness) (codec : Deflater σ) (inflater : Inflater) (size : Nat)
    (inputs : Payloads size) (enc : Bytes → Bytes) : Prop where
  compresses : ∀ j, j < inputs.buffers.length → ∀ prior, ∃ last status,
    Ends (compressTurn h codec) (h.setUp codec size (inputs.buffers.getD j []) prior) (.left last status) ∧
      h.finished status = true ∧ last.next_out = enc (inputs.buffers.getD j [])
  opens : ∀ i, h.initFails (inflater.init i) = false
  decompresses : ∀ i j, j < inputs.buffers.length →
    (inflater.call i (enc (inputs.buffers.getD j [])) size).written = inputs.buffers.getD j [] ∧
      h.decoded (inflater.call i (enc (inputs.buffers.getD j [])) size).status = true

def encodedSizes (enc : Bytes → Bytes) (inputs : List Bytes) : List Int :=
  inputs.map (fun b => ((enc b).length : Int))

/-- main returns 0; no slot is read before it is filled from its own input; each size
is counted once; and both phases leave their own durations in every entry of times. -/
def BooksBalance (h : Harness) (codec : Deflater σ) (inflater : Inflater) (size : Nat) (num_iters : Int)
    (inputs : Payloads size) (storage : Storage σ size inputs.buffers.length) (nanos : Nat → UInt64)
    (enc : Bytes → Bytes) : Prop :=
  let rounds := iterations num_iters inputs.buffers.length
  ∃ fuel middle last rows, main h codec inflater size num_iters inputs storage nanos fuel = .ok (last, rows) ∧
    upTo (compressBody h codec size fuel inputs.buffers nanos) rounds (start h codec rounds storage) = .ok middle ∧
    Covered last.log ∧
    last.compressed_sizes = encodedSizes enc inputs.buffers ∧
    (∀ row ∈ rows, row.avg_ratio =
      ((encodedSizes enc inputs.buffers).sum : Rat) / (size * inputs.buffers.length : Nat)) ∧
    middle.times = (List.range rounds).map (duration nanos) ∧
    last.times = (List.range rounds).map (fun i => duration nanos (rounds + i))

structure Compressed (size : Nat) (inputs : List Bytes) (enc : Bytes → Bytes) (i : Nat) (state : State σ) : Prop where
  shaped : Shaped size inputs.length state
  outputs : ∀ j, j < inputs.length → j < i → enc (inputs.getD j []) <+: state.output_buffers.getD j []
  sizes : ∀ j, j < inputs.length → j < i → state.compressed_sizes.getD j 0 = (enc (inputs.getD j [])).length
  logged : ∀ j, j < inputs.length → j < i → .wroteOutput j j ∈ state.log ∧ .wroteSize j j ∈ state.log
  covered : Covered state.log

theorem slot_or_earlier (i j count : Nat) (within : j < count) (reached : j < i + 1) :
    j = i % count ∨ j < i := by
  by_cases last : j = i
  · subst j
    exact .inl (Nat.mod_eq_of_lt within).symm
  · exact .inr (by omega)

theorem slots_next {α : Type} (holds : Nat → α → Prop) (cells : List α) (absent value : α) (i count : Nat)
    (nonempty : 0 < count) (counted : cells.length = count)
    (before : ∀ j, j < count → j < i → holds j (cells.getD j absent)) (written : holds (i % count) value)
    (j : Nat) (inRange : j < count) (reached : j < i + 1) : holds j ((cells.set (i % count) value).getD j absent) := by
  have within : i % count < cells.length := by
    rw [counted]
    exact Nat.mod_lt i nonempty
  rw [get_set _ _ _ _ _ within]
  by_cases same : j = i % count
  · rw [if_pos same, same]
    exact written
  · rw [if_neg same]
    exact before j inRange ((slot_or_earlier i j count inRange reached).resolve_left same)

theorem compress_step (h : Harness) (codec : Deflater σ) (size fuel i : Nat) (inputs : List Bytes)
    (nanos : Nat → UInt64) (enc : Bytes → Bytes) (state : State σ) (last : Stream σ) (status : Int)
    (nonempty : 0 < inputs.length)
    (fits : (enc (inputs.getD (i % inputs.length) [])).length ≤ maxExpandIsal size)
    (passed : run (compressTurn h codec) fuel
      (h.setUp codec size (inputs.getD (i % inputs.length) []) state.stream) = some (.left last status))
    (finished : h.finished status = true) (emitted : last.next_out = enc (inputs.getD (i % inputs.length) []))
    (inv : Compressed size inputs enc i state) :
    ∃ next, compressBody h codec size fuel inputs nanos i state = .ok next ∧
      Compressed size inputs enc (i + 1) next := by
  have within : i % inputs.length < inputs.length := Nat.mod_lt i nonempty
  have total : last.total_out = (enc (inputs.getD (i % inputs.length) [])).length := by
    rw [(pass_accounted h codec size _ state.stream last status ⟨fuel, passed⟩).1.total, emitted]
  have room : last.next_out.length ≤ (state.output_buffers.getD (i % inputs.length) []).length := by
    rw [emitted, inv.shaped.outputs_size _ within]
    exact fits
  have wrote := (write_start_iff _ _ _).mpr ⟨room, rfl⟩
  have moved := (compress_body_iff h codec size fuel i inputs nanos state _ nonempty).mpr
    ⟨last, status, _, passed, wrote, finished, rfl⟩
  refine ⟨_, moved, compress_body_shaped h codec size fuel i inputs nanos state _ nonempty inv.shaped moved,
    ?_, ?_, ?_, ?_⟩
  · apply slots_next (fun j output => enc (inputs.getD j []) <+: output) _ [] _ i _ nonempty inv.shaped.outputs_count
      inv.outputs
    rw [emitted]
    exact List.prefix_append _ _
  · apply slots_next (fun j (size : Int) => size = (enc (inputs.getD j [])).length) _ 0 _ i _ nonempty inv.shaped.sizes_count
      inv.sizes
    rw [total]
  · intro j inRange reached
    rcases slot_or_earlier i j _ inRange reached with rfl | earlier
    · simp [compressed]
    · have old := inv.logged j inRange earlier
      exact ⟨List.mem_append_left _ old.1, List.mem_append_left _ old.2⟩
  · apply covered_append _ _ inv.covered
    intro access member
    simp only [List.mem_cons, List.not_mem_nil, or_false] at member
    rcases member with rfl | rfl
    · rfl
    · rfl

structure Ready (size : Nat) (inputs : List Bytes) (enc : Bytes → Bytes) (state : State σ) : Prop where
  shaped : Shaped size inputs.length state
  outputs : ∀ j, j < inputs.length → enc (inputs.getD j []) <+: state.output_buffers.getD j []
  sizes : ∀ j, j < inputs.length → state.compressed_sizes.getD j 0 = (enc (inputs.getD j [])).length
  logged : ∀ j, j < inputs.length → .wroteOutput j j ∈ state.log ∧ .wroteSize j j ∈ state.log
  covered : Covered state.log

theorem compressed_ready (size : Nat) (inputs : List Bytes) (enc : Bytes → Bytes) (rounds : Nat) (state : State σ)
    (enough : inputs.length ≤ rounds) (inv : Compressed size inputs enc rounds state) :
    Ready size inputs enc (readSizes inputs.length state) where
  shaped := ⟨inv.shaped.outputs_count, inv.shaped.outputs_size, inv.shaped.sizes_count, inv.shaped.outputs_2_count,
    inv.shaped.outputs_2_size⟩
  outputs := fun j within => inv.outputs j within (by omega)
  sizes := fun j within => inv.sizes j within (by omega)
  logged := by
    intro j within
    have old := inv.logged j within (by omega)
    exact ⟨List.mem_append_left _ old.1, List.mem_append_left _ old.2⟩
  covered := by
    apply covered_append _ _ inv.covered
    intro access member
    obtain ⟨j, inRange, rfl⟩ := List.mem_map.mp member
    have within : j < inputs.length := by simpa using inRange
    exact (inv.logged j within (by omega)).2

theorem decompress_step (h : Harness) (inflater : Inflater) (size rounds i : Nat) (inputs : List Bytes)
    (nanos : Nat → UInt64) (enc : Bytes → Bytes) (state : State σ) (nonempty : 0 < inputs.length)
    (sized : (inputs.getD (i % inputs.length) []).length = size)
    (opened : h.initFails (inflater.init i) = false)
    (wrote : (inflater.call i (enc (inputs.getD (i % inputs.length) [])) size).written =
      inputs.getD (i % inputs.length) [])
    (decoded : h.decoded (inflater.call i (enc (inputs.getD (i % inputs.length) [])) size).status = true)
    (ready : Ready size inputs enc state) :
    ∃ next, decompressBody h inflater size rounds inputs nanos i state = .ok next ∧ Ready size inputs enc next := by
  have within : i % inputs.length < inputs.length := Nat.mod_lt i nonempty
  have fed : answer inflater size inputs i state =
      inflater.call i (enc (inputs.getD (i % inputs.length) [])) size := by
    rw [answer, ready.sizes _ within, Int.toNat_natCast, ← List.prefix_iff_eq_take.mp (ready.outputs _ within)]
  have stored : writeAt (state.output_buffers_2.getD (i % inputs.length) []) 0
      (answer inflater size inputs i state).written = some (inputs.getD (i % inputs.length) []) := by
    rw [fed, wrote]
    exact write_whole _ _ (by rw [sized, ready.shaped.outputs_2_size _ within])
  have moved := (decompress_body_iff h inflater size rounds i inputs nanos state _ nonempty).mpr
    ⟨_, opened, stored, by rw [fed]; exact decoded, (compare_buffers_same _ _ size sized sized).mpr rfl, rfl⟩
  refine ⟨_, moved, decompress_body_shaped h inflater size rounds i inputs nanos state _ nonempty ready.shaped moved,
    ready.outputs, ready.sizes, ?_, ?_⟩
  · intro j inRange
    have old := ready.logged j inRange
    exact ⟨List.mem_append_left _ old.1, List.mem_append_left _ old.2⟩
  · apply covered_append _ _ ready.covered
    intro access member
    simp only [List.mem_cons, List.not_mem_nil, or_false] at member
    rcases member with rfl | rfl
    · exact (ready.logged _ within).1
    · exact (ready.logged _ within).2

theorem start_compressed (h : Harness) (codec : Deflater σ) (rounds size : Nat) (inputs : List Bytes)
    (enc : Bytes → Bytes) (storage : Storage σ size inputs.length) :
    Compressed size inputs enc 0 (start h codec rounds storage) where
  shaped := start_shaped h codec rounds storage
  outputs := fun j _ impossible => by omega
  sizes := fun j _ impossible => by omega
  logged := fun j _ impossible => by omega
  covered := by
    intro before access after split
    simp [start] at split

theorem summary_ok (size : Nat) (level : Int) (avg_ratio : Rat) (direction : Direction) (num_iters : Nat)
    (times : List Nat) (positive : 0 < num_iters) :
    ∃ row, summary size level avg_ratio direction num_iters times = .ok row ∧ row.avg_ratio = avg_ratio :=
  ⟨_, by rw [summary, if_neg (Nat.ne_of_gt positive)], rfl⟩

theorem sizes_of_ready (size : Nat) (inputs : List Bytes) (enc : Bytes → Bytes) (state : State σ)
    (ready : Ready size inputs enc state) : state.compressed_sizes = encodedSizes enc inputs := by
  apply List.ext_getElem
  · simp [encodedSizes, ready.shaped.sizes_count]
  · intro j inSizes inInputs
    have within : j < inputs.length := by simpa [encodedSizes] using inInputs
    simpa [encodedSizes, inSizes, within] using ready.sizes j within

theorem compress_loop_fills (h : Harness) (codec : Deflater σ) (inflater : Inflater) (size rounds : Nat)
    (inputs : Payloads size) (storage : Storage σ size inputs.buffers.length) (nanos : Nat → UInt64)
    (enc : Bytes → Bytes) (nonempty : 0 < inputs.buffers.length)
    (works : LibraryWorks h codec inflater size inputs enc)
    (fits : ∀ j, j < inputs.buffers.length → (enc (inputs.buffers.getD j [])).length ≤ maxExpandIsal size) :
    ∃ fuel middle, upTo (compressBody h codec size fuel inputs.buffers nanos) rounds (start h codec rounds storage) =
        .ok middle ∧ Compressed size inputs.buffers enc rounds middle := by
  -- the set-up forgets the object's past, so one pass and one fuel serve a slot for good
  choose result status ended finished emitted using
    fun j within => works.compresses j within storage.stream
  obtain ⟨fuel, passes⟩ := common_fuel (compressTurn h codec)
    (fun j => h.setUp codec size (inputs.buffers.getD j []) storage.stream)
    (fun j => if within : j < inputs.buffers.length then .left (result j within) (status j within) else .failed)
    inputs.buffers.length (fun j within => by simpa only [dif_pos within] using ended j within)
  refine ⟨fuel, up_to_total (compressBody h codec size fuel inputs.buffers nanos) (Compressed size inputs.buffers enc)
    rounds (start h codec rounds storage) (start_compressed h codec rounds size inputs.buffers enc storage) ?_⟩
  intro i state _ inv
  have within : i % inputs.buffers.length < inputs.buffers.length := Nat.mod_lt i nonempty
  have passed := passes _ within
  simp only [dif_pos within] at passed
  rw [set_up_fresh h codec size _ storage.stream state.stream] at passed
  exact compress_step h codec size fuel i inputs.buffers nanos enc state _ _ nonempty (fits _ within)
    passed (finished _ within) (emitted _ within) inv

theorem decompress_loop_checks (h : Harness) (codec : Deflater σ) (inflater : Inflater) (size rounds : Nat)
    (inputs : Payloads size) (nanos : Nat → UInt64) (enc : Bytes → Bytes) (nonempty : 0 < inputs.buffers.length)
    (works : LibraryWorks h codec inflater size inputs enc) (state : State σ)
    (ready : Ready size inputs.buffers enc state) :
    ∃ last, upTo (decompressBody h inflater size rounds inputs.buffers nanos) rounds state = .ok last ∧
      Ready size inputs.buffers enc last := by
  apply up_to_total (decompressBody h inflater size rounds inputs.buffers nanos) (fun _ => Ready size inputs.buffers enc)
    rounds state ready
  intro i before _ inv
  have within : i % inputs.buffers.length < inputs.buffers.length := Nat.mod_lt i nonempty
  have decodes := works.decompresses i _ within
  exact decompress_step h inflater size rounds i inputs.buffers nanos enc before nonempty
    (inputs.sized _ within) (works.opens i) decodes.1 decodes.2 inv

theorem fitting_books_balance (h : Harness) (codec : Deflater σ) (inflater : Inflater) (size : Nat) (num_iters : Int)
    (inputs : Payloads size) (storage : Storage σ size inputs.buffers.length) (nanos : Nat → UInt64)
    (enc : Bytes → Bytes) (nonempty : 0 < inputs.buffers.length)
    (works : LibraryWorks h codec inflater size inputs enc)
    (fits : ∀ j, j < inputs.buffers.length → (enc (inputs.buffers.getD j [])).length ≤ maxExpandIsal size) :
    BooksBalance h codec inflater size num_iters inputs storage nanos enc := by
  have enough := iterations_cover num_iters inputs.buffers.length
  generalize roundsEq : iterations num_iters inputs.buffers.length = rounds at enough
  obtain ⟨fuel, middle, compressedOk, compressedInv⟩ :=
    compress_loop_fills h codec inflater size rounds inputs storage nanos enc nonempty works fits
  have ready := compressed_ready size inputs.buffers enc rounds middle enough compressedInv
  obtain ⟨last, decompressedOk, still⟩ :=
    decompress_loop_checks h codec inflater size rounds inputs nanos enc nonempty works _ ready
  have compressTimes := compress_times h codec size fuel rounds inputs.buffers nanos nonempty _ middle
    List.length_replicate compressedOk
  have decompressTimes := decompress_times h inflater size rounds inputs.buffers nanos nonempty _ last
    (by simp [readSizes, compressTimes]) decompressedOk
  have positive : 0 < rounds := by omega
  obtain ⟨first, firstOk, firstRatio⟩ := summary_ok size h.level
    (avgRatio middle.compressed_sizes size inputs.buffers.length) .Compress rounds middle.times positive
  obtain ⟨second, secondOk, secondRatio⟩ := summary_ok size h.level
    (avgRatio middle.compressed_sizes size inputs.buffers.length) .Decompress rounds last.times positive
  have counted : middle.compressed_sizes = encodedSizes enc inputs.buffers :=
    sizes_of_ready size inputs.buffers enc (readSizes inputs.buffers.length middle) ready
  have ratio : avgRatio middle.compressed_sizes size inputs.buffers.length =
      ((encodedSizes enc inputs.buffers).sum : Rat) / (size * inputs.buffers.length : Nat) := by
    rw [avgRatio, counted, List.sum_eq_foldl]
  rw [BooksBalance, roundsEq]
  refine ⟨fuel, middle, last, [first, second], ?_, compressedOk, still.covered,
    sizes_of_ready size inputs.buffers enc last still, ?_, compressTimes, decompressTimes⟩
  · simp only [main, roundsEq, compressedOk, firstOk, decompressedOk, secondOk]
  · intro row member
    simp only [List.mem_cons, List.not_mem_nil, or_false] at member
    rcases member with rfl | rfl
    · rw [firstRatio, ratio]
    · rw [secondRatio, ratio]

theorem balanced_books_fit (h : Harness) (codec : Deflater σ) (inflater : Inflater) (size : Nat) (num_iters : Int)
    (inputs : Payloads size) (storage : Storage σ size inputs.buffers.length) (nanos : Nat → UInt64)
    (enc : Bytes → Bytes) (works : LibraryWorks h codec inflater size inputs enc)
    (balance : BooksBalance h codec inflater size num_iters inputs storage nanos enc)
    (j : Nat) (within : j < inputs.buffers.length) :
    (enc (inputs.buffers.getD j [])).length ≤ maxExpandIsal size := by
  obtain ⟨fuel, _, last, rows, returned, _⟩ := balance
  obtain ⟨middle, compressedOk, _⟩ :=
    main_ok h codec inflater size fuel num_iters inputs storage nanos last rows returned
  have nonempty : 0 < inputs.buffers.length := by omega
  have enough := iterations_cover num_iters inputs.buffers.length
  obtain ⟨before, after, reached, moved, _⟩ := up_to_visits _ _ j _ _ compressedOk (by omega)
  have shaped : Shaped size inputs.buffers.length before :=
    up_to_invariant _ (fun _ state => Shaped size inputs.buffers.length state) j _ before
      (start_shaped h codec _ storage)
      (fun i earlier later _ holds step => compress_body_shaped h codec size fuel i inputs.buffers nanos
        earlier later nonempty holds step) reached
  obtain ⟨stream, status, written, passed, wrote, _, _⟩ :=
    (compress_body_iff h codec size fuel j inputs.buffers nanos before after nonempty).mp moved
  rw [Nat.mod_eq_of_lt within] at passed wrote
  obtain ⟨result, otherStatus, ended, _, emitted⟩ := works.compresses j within before.stream
  cases ends_unique _ _ _ _ ended ⟨fuel, passed⟩
  rw [← emitted, ← shaped.outputs_size j within]
  exact ((write_start_iff _ _ _).mp wrote).1

theorem isal_fits (codec : Deflater σ) (inflater : Inflater) (size : Nat) (inputs : Payloads size)
    (enc : Bytes → Bytes) (prior : Stream σ) (works : LibraryWorks .isal codec inflater size inputs enc)
    (j : Nat) (within : j < inputs.buffers.length) :
    (enc (inputs.buffers.getD j [])).length ≤ maxExpandIsal size := by
  obtain ⟨last, status, ended, _, emitted⟩ := works.compresses j within prior
  have accounted := (pass_accounted .isal codec size _ prior last status ended).1.room
  rw [emitted] at accounted
  simp only [Harness.availOut] at accounted
  omega

-- The zlib harness grants size + 1024 bytes of room in an allocation of size + 328.
theorem books_balance_iff (h : Harness) (codec : Deflater σ) (inflater : Inflater) (size : Nat) (num_iters : Int)
    (inputs : Payloads size) (storage : Storage σ size inputs.buffers.length) (nanos : Nat → UInt64)
    (enc : Bytes → Bytes) (nonempty : 0 < inputs.buffers.length)
    (works : LibraryWorks h codec inflater size inputs enc) :
    BooksBalance h codec inflater size num_iters inputs storage nanos enc ↔
      h = .isal ∨ ∀ j, j < inputs.buffers.length →
        (enc (inputs.buffers.getD j [])).length ≤ maxExpandIsal size := by
  constructor
  · intro balance
    exact .inr (balanced_books_fit h codec inflater size num_iters inputs storage nanos enc works balance)
  · intro condition
    apply fitting_books_balance h codec inflater size num_iters inputs storage nanos enc nonempty works
    rcases condition with rfl | fits
    · exact isal_fits codec inflater size inputs enc storage.stream works
    · exact fits

def Harness.answering (h : Harness) (bytes : Bytes) : Inflater where
  init := fun _ => Z_OK
  call := fun _ _ room =>
    { written := bytes.take room
      status :=
        match h with
        | .zlib => Z_STREAM_END
        | .isal => ISAL_DECOMP_OK }
  within := by
    intro _ _ room
    simp only [List.length_take]
    exact Nat.min_le_left _ _

def oneByte : Payloads 1 where
  buffers := [[7]]
  sized := fun j within => by
    have first : j = 0 := by simpa using within
    subst j
    rfl

def oneSlot : Storage (Option Bytes) 1 oneByte.buffers.length where
  stream := cleanStream
  compressed_sizes := [-1]
  output_buffers := [List.replicate 329 0]
  output_buffers_2 := [[0]]
  sizes_count := rfl
  outputs_count := rfl
  outputs_size := fun j within => by
    have first : j = 0 := by simpa [oneByte] using within
    subst j
    exact List.length_replicate
  outputs_2_count := rfl
  outputs_2_size := fun j within => by
    have first : j = 0 := by simpa [oneByte] using within
    subst j
    rfl

theorem storing_works (h : Harness) (length : Nat) (short : length < h.availOut 1) :
    LibraryWorks h (h.storing (padTo length)) (h.answering [7]) 1 oneByte (padTo length) where
  compresses := fun j within prior => storing_pass h (padTo length) 1 _ prior (by simpa [padTo] using short)
  opens := fun i => by cases h <;> rfl
  decompresses := fun i j within => by
    have first : j = 0 := by simpa [oneByte] using within
    subst j
    cases h <;> exact ⟨rfl, rfl⟩

theorem one_byte_balances :
    BooksBalance .zlib (Harness.zlib.storing (padTo 9)) (Harness.zlib.answering [7]) 1 3 oneByte oneSlot (fun _ => 0)
      (padTo 9) :=
  (books_balance_iff .zlib _ _ 1 3 oneByte oneSlot (fun _ => 0) (padTo 9) (by decide)
    (storing_works .zlib 9 (by decide))).mpr
    (.inr (fun _ _ => by rw [padTo, List.length_replicate]; decide))

theorem long_encoding_unbalances :
    LibraryWorks .zlib (Harness.zlib.storing (padTo 330)) (Harness.zlib.answering [7]) 1 oneByte (padTo 330) ∧
    ¬ BooksBalance .zlib (Harness.zlib.storing (padTo 330)) (Harness.zlib.answering [7]) 1 1 oneByte oneSlot
      (fun _ => 0) (padTo 330) := by
  have works := storing_works .zlib 330 (by decide)
  refine ⟨works, fun balance => ?_⟩
  have fits := balanced_books_fit .zlib _ _ 1 1 oneByte oneSlot (fun _ => 0) (padTo 330) works balance 0 (by decide)
  rw [padTo, List.length_replicate] at fits
  revert fits
  decide

end SprAccelProfiling.Latency
