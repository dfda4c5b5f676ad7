import SprAccelProfiling.CorpusGenerator
import SprAccelProfiling.RandomRuns
import SprAccelProfiling.ZlibDeflate

set_option autoImplicit false

namespace SprAccelProfiling.Asserts

open SprAccelProfiling.CExpr SprAccelProfiling.Latency SprAccelProfiling.Cbuf SprAccelProfiling.Random
open SprAccelProfiling.RunLength

def size : Nat := 16 * 1024

-- What main meets outside: the three results of posix_memalign, what the memory it hands out holds,
-- the results of rand, the two libraries and the clock.
structure World (σ : Type) where
  memalign_buf : Int
  memalign_cbuf : Int
  memalign_obuf : Int
  buf : Nat
  cbuf : Nat
  memory : Nat → UInt8
  rand : Nat → Nat
  stream : IsalStream
  isal : Isal
  isal_inflate : Nat → Int
  zlib : Zlib σ
  clock : Nat → UInt64

inductive Line where
  | deflated (uncompressed compressed : UInt64)
  | inflate (elapsed : UInt64)
  | inflateFlushed (elapsed : UInt64)
  | avail (avail_in avail_out : Nat)
deriving DecidableEq

-- rand_txt is what was written to rand.txt and closed, stopped the assert that main did not pass.
structure Ended where
  rand_txt : Option Bytes
  displayed : List Line
  stopped : Option Site
deriving DecidableEq

section Program

variable {σ : Type} (ZSTATE_END : Int) (world : World σ)

def retFails (ret : Int) (site : Site) : Prop := Fails ZSTATE_END (values ret 0 0 0) site

instance (ret : Int) (site : Site) : Decidable (retFails ZSTATE_END ret site) :=
  inferInstanceAs (Decidable (Fails ZSTATE_END (values ret 0 0 0) site))

def zlibDisplayed (data : Bytes) : List Line × Option Site :=
  let strm := zlibOpening world.zlib data
  let ret := (world.zlib.deflate .Z_NO_FLUSH strm).status
  let strm := deflated world.zlib .Z_NO_FLUSH strm
  if retFails ZSTATE_END ret .zlibDeflateNoFlush then ([], some .zlibDeflateNoFlush)
  else
    let first := Line.avail strm.next_in.length strm.avail_out
    let ret := (world.zlib.deflate .Z_SYNC_FLUSH strm).status
    let strm := deflated world.zlib .Z_SYNC_FLUSH strm
    if retFails ZSTATE_END ret .zlibDeflateFinish then ([first], some .zlibDeflateFinish)
    else
      let sizes := Line.deflated (UInt64.ofNat data.length) (UInt64.ofNat data.length - UInt64.ofNat strm.avail_out)
      ([first, .avail strm.next_in.length strm.avail_out, sizes], none)

def isalDone : IsalStream := isalDeflated world.isal world.stream world.buf world.cbuf (UInt64.ofNat size)

-- main from do_isal_deflate on. The result of the second isal_inflate is not looked at.
def compressing (data : Bytes) : Ended :=
  if Fails ZSTATE_END (isalEnv (isalDone world)) .doIsalDeflateInput then ⟨some data, [], some .doIsalDeflateInput⟩
  else if Fails ZSTATE_END (isalEnv (isalDone world)) .doIsalDeflateState then
    ⟨some data, [], some .doIsalDeflateState⟩
  else
    let lines := [Line.deflated (UInt64.ofNat size) (UInt64.ofNat size - (isalDone world).avail_out.toUInt64)]
    if retFails ZSTATE_END (world.isal_inflate 0) .mainInflate then ⟨some data, lines, some .mainInflate⟩
    else
      let timed := [Line.inflate (world.clock 1 - world.clock 0), .inflateFlushed (world.clock 3 - world.clock 2)]
      let shown := zlibDisplayed ZSTATE_END world data
      ⟨some data, lines ++ timed ++ shown.1, shown.2⟩

def randomData (writing : Writing) : Bytes :=
  (List.range size).map (fun i => (dataAfter writing (fun i => some (world.memory i)) i).getD 0)

def main (fuel : Nat) : Option Ended :=
  if retFails ZSTATE_END world.memalign_buf .mainBuf then some ⟨none, [], some .mainBuf⟩
  else if retFails ZSTATE_END world.memalign_cbuf .mainCbuf then some ⟨none, [], some .mainCbuf⟩
  else if retFails ZSTATE_END world.memalign_obuf .mainObuf then some ⟨none, [], some .mainObuf⟩
  else (Loop.run (randomTurn world.rand size) fuel unwritten).map
    (fun writing => compressing ZSTATE_END world (randomData world writing))

def Allocated : Prop := world.memalign_buf = 0 ∧ world.memalign_cbuf = 0 ∧ world.memalign_obuf = 0

theorem ret_fails_iff (ret : Int) (site : Site) (compared : site.stmt ZSTATE_END = [.name .ret, .eqEq, .number 0]) :
    retFails ZSTATE_END ret site ↔ ret ≠ 0 := by
  rw [retFails, Fails, compared]
  exact zero_pasted (values ret 0 0 0) .ret

theorem random_data_cut (writing : Writing) (ended : Loop.Ends (randomTurn world.rand size) unwritten writing) :
    ∃ count, size ≤ total (pair world.rand) count ∧
      randomData world writing = (expand (pair world.rand) count).take size := by
  obtain ⟨count, cut⟩ := random_ends_cut world.rand size writing ended
  refine ⟨count, cut.filled, ?_⟩
  have long : size ≤ (expand (pair world.rand) count).length := by
    rw [expand_length]
    exact cut.filled
  apply List.ext_getElem
  · rw [randomData, List.length_map, List.length_range, List.length_take_of_le long]
  · intro i inData inTake
    have inside : i < size := by simpa [randomData] using inData
    simp only [randomData, List.getElem_map, List.getElem_range, List.getElem_take]
    rw [cut_data world.rand size count writing cut, if_pos inside, List.getElem?_eq_getElem (by omega), Option.getD_some]

theorem zlib_displayed_passes (data : Bytes) : (zlibDisplayed ZSTATE_END world data).2 = none ↔
    ∃ strm, zlibDeflate world.zlib ZSTATE_END data = some strm := by
  have first : ∀ ret, retFails ZSTATE_END ret .zlibDeflateNoFlush ↔ ret ≠ Z_OK :=
    fun ret => ret_fails_iff ZSTATE_END ret .zlibDeflateNoFlush rfl
  have second : ∀ ret, retFails ZSTATE_END ret .zlibDeflateFinish ↔ ret ≠ Z_OK :=
    fun ret => ret_fails_iff ZSTATE_END ret .zlibDeflateFinish rfl
  have passes := zlib_deflate_passes_iff ZSTATE_END world.zlib data
  simp only [passes, exists_and_left, exists_eq, and_true]
  by_cases unflushed : (world.zlib.deflate .Z_NO_FLUSH (zlibOpening world.zlib data)).status = Z_OK
  · by_cases flushed : (world.zlib.deflate .Z_SYNC_FLUSH
        (deflated world.zlib .Z_NO_FLUSH (zlibOpening world.zlib data))).status = Z_OK
    · simp [zlibDisplayed, first, second, unflushed, flushed]
    · simp [zlibDisplayed, first, second, unflushed, flushed]
  · simp [zlibDisplayed, first, unflushed]

theorem compressing_data (data : Bytes) : (compressing ZSTATE_END world data).rand_txt = some data := by
  unfold compressing
  dsimp only
  split_ifs <;> rfl

def ReachesEnd (data : Bytes) : Prop :=
  (isalDone world).avail_in = 0 ∧ world.isal_inflate 0 = 0 ∧
    ∃ strm, zlibDeflate world.zlib ZSTATE_END data = some strm

theorem compressing_end_iff (above : 1 < ZSTATE_END) (data : Bytes) :
    (compressing ZSTATE_END world data).stopped = none ↔ ReachesEnd ZSTATE_END world data := by
  have input : Fails ZSTATE_END (isalEnv (isalDone world)) .doIsalDeflateInput ↔ (isalDone world).avail_in ≠ 0 := by
    refine (zero_pasted _ .streamAvailIn).trans (not_congr ?_)
    rw [← UInt32.toNat_inj]
    exact Int.natCast_eq_zero
  have state : ¬ Fails ZSTATE_END (isalEnv (isalDone world)) .doIsalDeflateState :=
    above_pasted _ .streamInternalStateState ZSTATE_END above
  have inflate : ∀ ret, retFails ZSTATE_END ret .mainInflate ↔ ret ≠ 0 :=
    fun ret => ret_fails_iff ZSTATE_END ret .mainInflate rfl
  rw [ReachesEnd, ← zlib_displayed_passes]
  by_cases consumed : (isalDone world).avail_in = 0
  · by_cases inflated : world.isal_inflate 0 = 0
    · simp [compressing, input, state, inflate, consumed, inflated]
    · simp [compressing, input, state, inflate, consumed, inflated]
  · simp [compressing, input, consumed]

theorem main_allocated (fuel : Nat) (allocated : Allocated world) : main ZSTATE_END world fuel =
    (Loop.run (randomTurn world.rand size) fuel unwritten).map
      (fun writing => compressing ZSTATE_END world (randomData world writing)) := by
  have first := ret_fails_iff ZSTATE_END world.memalign_buf .mainBuf rfl
  have second := ret_fails_iff ZSTATE_END world.memalign_cbuf .mainCbuf rfl
  have third := ret_fails_iff ZSTATE_END world.memalign_obuf .mainObuf rfl
  rw [main, if_neg (first.not.mpr (not_not_intro allocated.1)), if_neg (second.not.mpr (not_not_intro allocated.2.1)),
    if_neg (third.not.mpr (not_not_intro allocated.2.2))]

theorem main_unallocated (fuel : Nat) (failed : ¬ Allocated world) :
    ∃ site, main ZSTATE_END world fuel = some ⟨none, [], some site⟩ := by
  have first := ret_fails_iff ZSTATE_END world.memalign_buf .mainBuf rfl
  have second := ret_fails_iff ZSTATE_END world.memalign_cbuf .mainCbuf rfl
  have third := ret_fails_iff ZSTATE_END world.memalign_obuf .mainObuf rfl
  rw [main]
  split_ifs with bufFails cbufFails obufFails
  · exact ⟨.mainBuf, rfl⟩
  · exact ⟨.mainCbuf, rfl⟩
  · exact ⟨.mainObuf, rfl⟩
  · rw [first, not_not] at bufFails
    rw [second, not_not] at cbufFails
    rw [third, not_not] at obufFails
    exact absurd ⟨bufFails, cbufFails, obufFails⟩ failed

theorem main_ends_iff : (∃ fuel ended, main ZSTATE_END world fuel = some ended) ↔
    (Allocated world → ∃ count, size ≤ total (pair world.rand) count) := by
  by_cases allocated : Allocated world
  · simp only [main_allocated ZSTATE_END world _ allocated, Option.map_eq_some_iff, allocated, true_implies,
      ← random_terminates_iff]
    constructor
    · intro ended
      obtain ⟨fuel, _, writing, ran, _⟩ := ended
      exact ⟨writing, fuel, ran⟩
    · intro terminates
      obtain ⟨writing, fuel, ran⟩ := terminates
      exact ⟨fuel, _, writing, ran, rfl⟩
  · obtain ⟨site, stopped⟩ := main_unallocated ZSTATE_END world 0 allocated
    exact iff_of_true ⟨0, _, stopped⟩ (fun impossible => absurd impossible allocated)

structure Leaves (ended : Ended) : Prop where
  untouched : ended.rand_txt = none ↔ ¬ Allocated world
  whole : ∀ data, ended.rand_txt = some data → data.length = size ∧
    ∃ count, size ≤ total (pair world.rand) count ∧ data = (expand (pair world.rand) count).take size
  completes : ended.stopped = none ↔ ∃ data, ended.rand_txt = some data ∧ ReachesEnd ZSTATE_END world data
  compresses : ∀ (codecs : Generator.Codecs) (disk : Generator.Disk) infile data, ended.rand_txt = some data →
    disk "rand.txt" = some data → ∃ write, Generator.zlibCompressFile codecs disk infile = .ok write ∧
      write.name = .zlib6 infile ∧ codecs.decode .zlib write.content = some data

theorem unallocated_leaves (site : Site) (failed : ¬ Allocated world) :
    Leaves ZSTATE_END world ⟨none, [], some site⟩ := by
  refine ⟨iff_of_true rfl failed, ?_, ?_, ?_⟩
  · intro data absent
    cases absent
  · refine iff_of_false (fun passed => by cases passed) ?_
    intro ⟨data, absent, _⟩
    cases absent
  · intro codecs disk infile data absent
    cases absent

theorem compressing_leaves (above : 1 < ZSTATE_END) (writing : Writing) (allocated : Allocated world)
    (ended : Loop.Ends (randomTurn world.rand size) unwritten writing) :
    Leaves ZSTATE_END world (compressing ZSTATE_END world (randomData world writing)) := by
  have kept := compressing_data ZSTATE_END world (randomData world writing)
  refine ⟨?_, ?_, ?_, ?_⟩
  · rw [kept]
    exact iff_of_false (fun absent => by cases absent) (not_not_intro allocated)
  · intro data same
    rw [kept] at same
    rw [← Option.some.inj same]
    exact ⟨by rw [randomData, List.length_map, List.length_range], random_data_cut world writing ended⟩
  · rw [compressing_end_iff ZSTATE_END world above, kept]
    simp
  · intro codecs disk infile data _ saved
    refine ⟨⟨infile, .zlib6 infile, codecs.encode .zlib 6 data⟩, ?_, rfl, codecs.inverts .zlib 6 data⟩
    rw [Generator.zlibCompressFile, saved]

theorem main_leaves (above : 1 < ZSTATE_END) :
    ((∃ fuel ended, main ZSTATE_END world fuel = some ended) ↔
      (Allocated world → ∃ count, size ≤ total (pair world.rand) count)) ∧
    ∀ fuel ended, main ZSTATE_END world fuel = some ended → Leaves ZSTATE_END world ended := by
  refine ⟨main_ends_iff ZSTATE_END world, fun fuel ended done => ?_⟩
  by_cases allocated : Allocated world
  · rw [main_allocated ZSTATE_END world fuel allocated] at done
    obtain ⟨writing, ran, rfl⟩ := Option.map_eq_some_iff.mp done
    exact compressing_leaves ZSTATE_END world above writing allocated ⟨fuel, ran⟩
  · obtain ⟨site, stopped⟩ := main_unallocated ZSTATE_END world fuel allocated
    rw [stopped] at done
    cases done
    exact unallocated_leaves ZSTATE_END world site allocated

end Program

def ninetyNines : World (Bytes × Bytes) where
  memalign_buf := 0
  memalign_cbuf := 0
  memalign_obuf := 0
  buf := 4096
  cbuf := 24576
  memory := fun _ => 0
  rand := fun _ => 99
  stream := waiting
  isal := waitingIsal
  isal_inflate := fun _ => 0
  zlib := squeezing
  clock := fun reading => UInt64.ofNat reading

theorem ninety_nines_leave :
    ((∃ fuel ended, main 11 ninetyNines fuel = some ended) ↔
      (Allocated ninetyNines → ∃ count, size ≤ total (pair ninetyNines.rand) count)) ∧
    ∀ fuel ended, main 11 ninetyNines fuel = some ended → Leaves 11 ninetyNines ended :=
  main_leaves 11 ninetyNines (by decide)

end SprAccelProfiling.Asserts
