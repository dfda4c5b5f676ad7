import SprAccelProfiling.DecompRows
import SprAccelProfiling.FlushBuf
import SprAccelProfiling.Residency
import SprAccelProfiling.Runs

set_option autoImplicit false

namespace SprAccelProfiling.Cold

open SprAccelProfiling.Decomp SprAccelProfiling.FlushBuf SprAccelProfiling.Lines SprAccelProfiling.Residency
open SprAccelProfiling.Runs

inductive Reading where
  | start
  | stop

abbrev Trace := List (Event Reading)

-- for (k=0; k<size; k+=64) _mm_clflush(buf + k); none is an index that leaves int.
def flushLoop (buf size : Nat) : Option Trace :=
  (Loop.run (flushTurn buf size) (size / LINE + 2) FlushBuf.start).join.map (fun addresses => addresses.map .evict)

-- Where malloc and numa_alloc_onnode put the buffers, the latter at the start of a page.
structure Placement where
  file_buffer : Nat
  input_buffer : Nat → Nat
  output_buffer : Nat → Nat
  pages : ∀ node, input_buffer node % 4096 = 0 ∧ output_buffer node % 4096 = 0

/-- How much of its two buffers a call of ZSTD_decompress goes through, which the source decides. -/
structure Decompressor where
  reads : Corpus.Bytes → Nat
  writes : Corpus.Bytes → Nat
  source : ∀ content, reads content ≤ content.length
  capacity : ∀ content, writes content ≤ SIZE

section Numa

variable (library : Decompressor) (place : Placement) (content : Corpus.Bytes) (iterations_per_run runs node : Nat)

def decompress : Event Reading :=
  .access [(place.input_buffer node, library.reads content), (place.output_buffer node, library.writes content)]

-- outlen is SIZE in every run: ZSTD_decompress is given its value and not its address.
def runEvents : Option Trace := do
  let inputs ← flushLoop (place.input_buffer node) (readFile content)
  let outputs ← flushLoop (place.output_buffer node) SIZE
  let calls := List.replicate iterations_per_run (decompress library place content node)
  some (inputs ++ outputs ++ [.mark .start] ++ calls ++ [.mark .stop])

def nodeEvents : Option Trace := do
  let block ← runEvents library place content iterations_per_run node
  let copy := .access [(place.file_buffer, readFile content), (place.input_buffer node, readFile content)]
  some ([copy] ++ (List.replicate runs block).flatten)

end Numa

-- The memory traffic of harness-zstd-numa; assert(compressed_size < SIZE) stops it before any.
def numaEvents (library : Decompressor) (place : Placement) (content : Corpus.Bytes) (iterations_per_run runs : Nat) :
    Option Trace :=
  let compressed_size := readFile content
  if compressed_size < SIZE then do
    let first ← nodeEvents library place content iterations_per_run runs 0
    let second ← nodeEvents library place content iterations_per_run runs 1
    some (first ++ second)
  else some []

def count (timed : Option Nat) : Event Reading → Option Nat
  | .mark .start => some 0
  | .mark .stop => none
  | .access _ => timed.map (· + 1)
  | .evict _ => timed

def timedCalls (history : Trace) : Option Nat := history.foldl count none

def FirstCold (history : Trace) (event : Event Reading) : Prop :=
  ∀ regions earlier line, event = .access regions → timedCalls history = some earlier → Touches LINE line regions →
    (Resident LINE line history ↔ earlier ≠ 0)

theorem timed_snoc (history : Trace) (event : Event Reading) :
    timedCalls (history ++ [event]) = count (timedCalls history) event := by
  rw [timedCalls, List.foldl_append]
  rfl

theorem flush_loop_events (buf size : Nat) (small : size ≤ 2147483584) :
    flushLoop buf size = some ((strides buf (steps LINE size)).map .evict) := by
  have fits := (last_index_fits_iff size).mpr small
  have inside := step_inside_iff LINE size (by decide)
  have outside : size ≤ LINE * steps LINE size :=
    Nat.le_of_not_lt (fun below => Nat.lt_irrefl _ ((inside _).mpr below))
  have reaches := Loop.run_reaches (flushTurn buf size) (reached buf) (some (strides buf (steps LINE size)))
    (steps LINE size) (size / LINE + 1 - steps LINE size) ?_ (last_turn buf size _ outside)
  · have fuel : steps LINE size + (size / LINE + 1 - steps LINE size) + 1 = size / LINE + 2 := by
      unfold steps LINE
      omega
    rw [fuel] at reaches
    have started : FlushBuf.start = reached buf 0 := rfl
    rw [flushLoop, started, reaches]
    rfl
  · intro m below
    apply fitting_turn buf size m ((inside m).mp below)
    rw [index_fits_iff] at fits ⊢
    omega

theorem flushed_lines (history : Trace) (buf size line : Nat) (aligned : buf % LINE = 0) (small : size ≤ 2147483584)
    (meets : Meets LINE buf size line) :
    ¬ Resident LINE line (history ++ (strides buf (steps LINE size)).map .evict) := by
  rw [resident_evictions]
  intro resident
  exact resident.2 (((aligned_flushes buf size aligned small).lines line).mpr meets)

theorem meets_longer (width start shorter size line : Nat) (within : shorter ≤ size)
    (meets : Meets width start shorter line) : Meets width start size line := by
  obtain ⟨address, low, high, same⟩ := meets
  exact ⟨address, low, by omega, same⟩

theorem first_cold_silent (label : Event Reading) (quiet : ∀ regions, label ≠ .access regions) (before : Trace) :
    FirstCold before label :=
  fun regions _ _ same _ _ => absurd same (quiet regions)

section Sections

variable (regions : List (Nat × Nat))

def Due (history : Trace) (earlier : Nat) : Prop :=
  timedCalls history = some earlier ∧
    ∀ line, Touches LINE line regions → (Resident LINE line history ↔ earlier ≠ 0)

theorem due_again (history : Trace) (earlier : Nat) (due : Due regions history earlier) :
    Due regions (history ++ [.access regions]) (earlier + 1) := by
  refine ⟨by rw [timed_snoc, due.1]; rfl, fun line touched => ?_⟩
  exact iff_of_true (resident_accessed LINE line history regions touched) (Nat.succ_ne_zero earlier)

theorem due_cold (history : Trace) (earlier : Nat) (due : Due regions history earlier) :
    FirstCold history (.access regions) := by
  intro others number line same timed touched
  cases same
  cases due.1.symm.trans timed
  exact due.2 line touched

theorem calls_along (history : Trace) (earlier calls : Nat) (due : Due regions history earlier) :
    Along FirstCold history (List.replicate calls (.access regions)) := by
  induction calls generalizing history earlier with
  | zero => trivial
  | succ calls ih =>
      exact ⟨due_cold regions history earlier due, ih _ (earlier + 1) (due_again regions history earlier due)⟩

theorem evictions_along (history : Trace) (addresses : List Nat) :
    Along FirstCold history (addresses.map .evict) := by
  apply along_silent
  intro label member before
  obtain ⟨address, _, rfl⟩ := List.mem_map.mp member
  exact first_cold_silent _ (fun regions same => by cases same) before

end Sections

section Runs

variable (library : Decompressor) (place : Placement) (content : Corpus.Bytes) (iterations_per_run runs node : Nat)

theorem mark_cold (reading : Reading) (history : Trace) : FirstCold history (.mark reading) :=
  first_cold_silent _ (fun regions same => by cases same) history

theorem placed_lines : place.input_buffer node % LINE = 0 ∧ place.output_buffer node % LINE = 0 := by
  have pages := place.pages node
  unfold LINE
  omega

theorem started_due (history : Trace) (short : content.length < SIZE) :
    Due [(place.input_buffer node, library.reads content), (place.output_buffer node, library.writes content)]
      (history ++ (strides (place.input_buffer node) (steps LINE content.length)).map .evict ++
        (strides (place.output_buffer node) (steps LINE SIZE)).map .evict ++ [.mark .start]) 0 := by
  have room : content.length ≤ 2147483584 := by
    unfold SIZE at short
    omega
  obtain ⟨inputs, outputs⟩ := placed_lines place node
  refine ⟨by rw [timed_snoc]; rfl, fun line touched => iff_of_false ?_ (fun absurdity => absurdity rfl)⟩
  rw [resident_snoc]
  obtain ⟨region, member, meets⟩ := touched
  rcases List.mem_pair.mp member with rfl | rfl
  · intro resident
    have before := (resident_evictions LINE line _ _).mp resident
    exact flushed_lines history _ content.length line inputs room (meets_longer _ _ _ _ _ (library.source content) meets)
      before.1
  · exact flushed_lines _ _ SIZE line outputs (by decide) (meets_longer _ _ _ _ _ (library.capacity content) meets)

theorem run_events_recorded (short : content.length < SIZE) :
    runEvents library place content iterations_per_run node =
      some ((strides (place.input_buffer node) (steps LINE content.length)).map .evict ++
        (strides (place.output_buffer node) (steps LINE SIZE)).map .evict ++ [.mark .start] ++
        List.replicate iterations_per_run (decompress library place content node) ++ [.mark .stop]) := by
  have room : content.length ≤ 2147483584 := by
    unfold SIZE at short
    omega
  rw [runEvents, read_file_whole content short, flush_loop_events _ _ room, flush_loop_events _ SIZE (by decide)]
  rfl

theorem run_events_along (block : Trace) (short : content.length < SIZE)
    (recorded : runEvents library place content iterations_per_run node = some block) (history : Trace) :
    Along FirstCold history block ∧ timedCalls (history ++ block) = none := by
  rw [run_events_recorded library place content iterations_per_run node short] at recorded
  cases recorded
  have due := started_due library place content node history short
  generalize strides (place.input_buffer node) (steps LINE content.length) = first at due ⊢
  generalize strides (place.output_buffer node) (steps LINE SIZE) = second at due ⊢
  refine ⟨?_, ?_⟩
  · simp only [along_append, ← List.append_assoc]
    refine ⟨⟨⟨⟨evictions_along _ first, evictions_along _ second⟩, mark_cold _ _, trivial⟩, ?_⟩, mark_cold _ _, trivial⟩
    exact calls_along _ _ 0 iterations_per_run due
  · rw [← List.append_assoc, timed_snoc]
    rfl

def isStart : Event Reading → Bool
  | .mark .start => true
  | _ => false

theorem run_events_starts (block : Trace) (short : content.length < SIZE)
    (recorded : runEvents library place content iterations_per_run node = some block) : block.countP isStart = 1 := by
  rw [run_events_recorded library place content iterations_per_run node short] at recorded
  cases recorded
  have evictions : ∀ addresses : List Nat, (addresses.map (Event.evict (μ := Reading))).countP isStart = 0 := by
    intro addresses
    rw [List.countP_map]
    exact List.countP_eq_zero.mpr (fun address _ started => by cases started)
  have calls : (List.replicate iterations_per_run (decompress library place content node)).countP isStart = 0 := by
    apply List.countP_eq_zero.mpr
    intro event member
    rw [List.eq_of_mem_replicate member]
    exact Bool.false_ne_true
  simp only [List.countP_append, evictions, calls]
  rfl

structure NodeTrace (history trace : Trace) : Prop where
  along : Along FirstCold history trace
  idle : timedCalls (history ++ trace) = none
  starts : trace.countP isStart = runs

theorem node_events_trace (history : Trace) (short : content.length < SIZE) (idle : timedCalls history = none) :
    ∃ trace, nodeEvents library place content iterations_per_run runs node = some trace ∧ NodeTrace runs history trace := by
  have ran := run_events_recorded library place content iterations_per_run node short
  rw [nodeEvents, ran, read_file_whole content short]
  refine ⟨_, rfl, ?_⟩
  have once := run_events_along library place content iterations_per_run node _ short ran
  have started := run_events_starts library place content iterations_per_run node _ short ran
  generalize (strides (place.input_buffer node) (steps LINE content.length)).map Event.evict ++ _ ++ _ ++ _ ++ _ = block
    at once started ⊢
  have copied : FirstCold history
      (.access [(place.file_buffer, content.length), (place.input_buffer node, content.length)]) := by
    intro regions earlier line _ timed _
    rw [idle] at timed
    cases timed
  have after : timedCalls (history ++
      [.access [(place.file_buffer, content.length), (place.input_buffer node, content.length)]]) = none := by
    rw [timed_snoc, idle]
    rfl
  obtain ⟨along, last⟩ := along_repeated FirstCold (fun before => timedCalls before = none) block
    (fun before _ => once before) runs _ after
  refine ⟨⟨copied, along⟩, ?_, ?_⟩
  · rw [← List.append_assoc]
    exact last
  · rw [List.countP_append, List.countP_flatten, List.map_replicate, started, List.sum_replicate_nat]
    simp [isStart]

end Runs

theorem numa_first_cold (library : Decompressor) (place : Placement) (content : Corpus.Bytes)
    (iterations_per_run runs : Nat) (short : content.length < SIZE) :
    ∃ trace, numaEvents library place content iterations_per_run runs = some trace ∧
      trace.countP isStart = 2 * runs ∧ Along FirstCold [] trace := by
  have whole := read_file_whole content short
  rw [numaEvents, whole, if_pos short]
  obtain ⟨first, recorded, low⟩ := node_events_trace library place content iterations_per_run runs 0 [] short rfl
  obtain ⟨second, recordedNext, high⟩ := node_events_trace library place content iterations_per_run runs 1 ([] ++ first)
    short low.idle
  rw [recorded, recordedNext]
  refine ⟨first ++ second, rfl, ?_, (along_append _ _ _ _).mpr ⟨low.along, high.along⟩⟩
  rw [List.countP_append, low.starts, high.starts, Nat.two_mul]

def apartPages : Placement :=
  ⟨16, fun node => 268435456 * (node + 1), fun node => 268435456 * (node + 1) + 134217728, by intro node; omega⟩

def threeHundred : Decompressor :=
  ⟨List.length, fun _ => 300, fun _ => Nat.le_refl _, fun _ => by decide⟩

theorem apart_pages_cold :
    ∃ trace, numaEvents threeHundred apartPages [1, 2, 3] 2 3 = some trace ∧ trace.countP isStart = 2 * 3 ∧
      Along FirstCold [] trace :=
  numa_first_cold threeHundred apartPages [1, 2, 3] 2 3 (by decide)

end SprAccelProfiling.Cold
