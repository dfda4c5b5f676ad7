import SprAccelProfiling.CInt
import SprAccelProfiling.CorpusLoader
import Mathlib.Algebra.Ring.Rat
import Mathlib.Logic.Function.Iterate

set_option autoImplicit false

namespace SprAccelProfiling.Decomp

open SprAccelProfiling.Corpus

def SIZE : Nat := 64 * 1024 * 1024

def toInt (n : Int) : Int := Int.bmod n (2 ^ 32)

inductive Reply where
  | done (length : Nat)
  | failed (code : Nat)
deriving DecidableEq

def Reply.succeeds : Reply → Bool
  | .done _ => true
  | .failed _ => false

-- ZSTD_decompress reports an error as a size_t just below 2 ^ 64.
def zstdReturn : Reply → Int
  | .done length => length
  | .failed code => 2 ^ 64 - code

def lz4Return : Reply → Int
  | .done length => length
  | .failed code => -code

structure QzReply where
  status : Int
  consumed : Nat
  produced : Nat
deriving DecidableEq

def QZ_OK : Int := 0

structure Qatzip where
  qzInit : Int
  qzGetDefaults : Int
  qzSetDefaults : Int
  qzDecompress : Nat → Nat → QzReply
  consumes : ∀ call source, (qzDecompress call source).consumed ≤ source

-- A reply depends on the number of the call and on the source length it was given.
structure Libraries where
  zstd : Nat → Nat → Reply
  lz4 : Nat → Nat → Reply
  qatzip : Qatzip

structure Call where
  source : Nat
  capacity : Nat
  succeeded : Bool
deriving DecidableEq

-- made counts the library calls; timed keeps those between the two clock readings.
structure Vars where
  compressed_size : Nat
  outlen : Nat
  size : Int
  made : Nat
  timed : List Call

def callReply (library : Nat → Nat → Reply) (returned : Reply → Int) (vars : Vars) : Vars :=
  let given := { vars with outlen := SIZE }
  let reply := library given.made given.compressed_size
  { given with
    size := returned reply
    made := given.made + 1
    timed := given.timed ++ [⟨given.compressed_size, given.outlen, reply.succeeds⟩] }

def callZstd (libraries : Libraries) : Vars → Vars := callReply libraries.zstd (fun reply => toInt (zstdReturn reply))

def callLz4 (libraries : Libraries) : Vars → Vars := callReply libraries.lz4 lz4Return

-- outlen is set again before the call, compressed_size is what the last call left.
def callQatzip (libraries : Libraries) (vars : Vars) : Vars :=
  let given := { vars with outlen := SIZE }
  let reply := libraries.qatzip.qzDecompress given.made given.compressed_size
  { given with
    compressed_size := reply.consumed
    outlen := reply.produced
    made := given.made + 1
    timed := given.timed ++ [⟨given.compressed_size, given.outlen, decide (reply.status = QZ_OK)⟩] }

-- The call before the loops: its status is kept in a variable that nothing reads.
def untimed (call : Vars → Vars) (vars : Vars) : Vars := { call vars with size := vars.size, timed := vars.timed }

structure Measured where
  vars : Vars
  times : List Rat
  bands : List Rat

-- Doubles are exact rationals here, so a quotient by zero is 0 and not an infinity.
def timedRun (call : Vars → Vars) (amount : Vars → Int) (iterations_per_run : Nat) (clock : Nat → Nat × Nat)
    (measured : Measured) : Measured :=
  let reading := clock measured.times.length
  let elapsed : Rat := (reading.2 - reading.1 : Nat)
  let vars := call^[iterations_per_run] measured.vars
  ⟨vars, measured.times ++ [elapsed / iterations_per_run], measured.bands ++ [amount vars / elapsed]⟩

def timedRuns (call : Vars → Vars) (amount : Vars → Int) (iterations_per_run runs : Nat) (clock : Nat → Nat × Nat)
    (vars : Vars) : Measured :=
  (timedRun call amount iterations_per_run clock)^[runs] ⟨vars, [], []⟩

def sorted (values : List Rat) : List Rat := values.mergeSort (fun a b => decide (a ≤ b))

-- The initial value 0 makes the accumulator an int: every partial sum is cut to one, and
-- there is no sum when one does not fit.
def accumulate (values : List Rat) : Option Int :=
  CInt.foldChecked (fun acc value => CInt.cut (acc + value)) values 0

inductive Field where
  | node (n : Nat)
  | ratio (q : Rat)
  | time (q : Rat)
  | mean (q : Option Rat)
  | band (q : Rat)
  | compressedSize (n : Int)
  | size (n : Int)

structure Report where
  row : List Field
  calls : List Call

structure Outcome where
  messages : List String
  reports : List Report
  exit : Int

-- clock gives the two readings of each run; fresh is the int size before any assignment.
structure Machine where
  clock : Nat → Nat × Nat
  fresh : Int

def readFile (content : Bytes) : Nat := (fread ⟨content, 0⟩ SIZE).1.length

def startVars (machine : Machine) (content : Bytes) : Vars := ⟨readFile content, SIZE, machine.fresh, 0, []⟩

def sizeAmount (iterations_per_run : Nat) (vars : Vars) : Int := toInt (vars.size * iterations_per_run)

def outlenAmount (iterations_per_run : Nat) (vars : Vars) : Int := (vars.outlen * iterations_per_run) % 2 ^ 32

def median (values : List Rat) (runs : Nat) : Rat := (sorted values).getD (runs / 2) 0

def zstdFields (measured : Measured) (runs : Nat) : List Field :=
  let times := sorted measured.times
  [.ratio (measured.vars.size / measured.vars.compressed_size), .time (median measured.times runs),
    .mean ((accumulate times).map (fun (sum : Int) => (sum : Rat) / runs)), .band (median measured.bands runs),
    .compressedSize measured.vars.compressed_size, .size measured.vars.size]

def harnessZstd (libraries : Libraries) (machine : Machine) (content : Bytes) (iterations_per_run runs : Nat) :
    Outcome :=
  let measured := timedRuns (callZstd libraries) (sizeAmount iterations_per_run) iterations_per_run runs
    machine.clock (untimed (callZstd libraries) (startVars machine content))
  ⟨[], [⟨zstdFields measured runs, measured.vars.timed⟩], 0⟩

def numaNode (libraries : Libraries) (machine : Machine) (iterations_per_run runs node : Nat) (vars : Vars) :
    Report × Vars :=
  let measured := timedRuns (callZstd libraries) (sizeAmount iterations_per_run) iterations_per_run runs
    (fun j => machine.clock (node * runs + j)) { vars with timed := [] }
  (⟨.node node :: zstdFields measured runs, measured.vars.timed⟩, measured.vars)

-- assert(compressed_size < SIZE) aborts; the allocations are taken to succeed.
def harnessZstdNuma (libraries : Libraries) (machine : Machine) (content : Bytes) (iterations_per_run runs : Nat) :
    Outcome :=
  let vars := startVars machine content
  if vars.compressed_size < SIZE then
    let first := numaNode libraries machine iterations_per_run runs 0 vars
    let second := numaNode libraries machine iterations_per_run runs 1 first.2
    ⟨[], [first.1, second.1], 0⟩
  else ⟨[], [], 134⟩

def lz4Fields (measured : Measured) (runs : Nat) : List Field :=
  let times := sorted measured.times
  [.size measured.vars.size, .time (median measured.times runs),
    .mean ((accumulate times).map (fun (sum : Int) => (sum.tdiv runs : Rat))), .time (times.getD (runs - 2) 0),
    .time (times.getD 0 0)]

def harnessLz4 (libraries : Libraries) (machine : Machine) (content : Bytes) (iterations_per_run runs : Nat) :
    Outcome :=
  let measured := timedRuns (callLz4 libraries) (fun _ => 0) iterations_per_run runs
    machine.clock (untimed (callLz4 libraries) (startVars machine content))
  ⟨[], [⟨lz4Fields measured runs, measured.vars.timed⟩], 0⟩

def qatzipFields (measured : Measured) (runs : Nat) : List Field :=
  [.ratio (measured.vars.outlen / measured.vars.compressed_size), .time (median measured.times runs),
    .band (median measured.bands runs), .compressedSize measured.vars.compressed_size, .size measured.vars.outlen]

def setupMessages (qatzip : Qatzip) : List String :=
  (if qatzip.qzGetDefaults ≠ QZ_OK then ["Err: set params fail to set defaults\n"] else []) ++
    (if qatzip.qzSetDefaults ≠ QZ_OK then ["Err: set params fail to set defaults\n"] else [])

-- The message after the first call prints rc, which is QZ_OK, and not the status.
def firstCallMessage (status : Int) : List String :=
  if status ≠ QZ_OK then ["ERROR: Decompression FAILED with return value: 0\n"] else []

def harnessQatzip (libraries : Libraries) (machine : Machine) (content : Bytes) (iterations_per_run runs : Nat) :
    Outcome :=
  if libraries.qatzip.qzInit ≠ QZ_OK then ⟨[], [], libraries.qatzip.qzInit⟩
  else
    let vars := startVars machine content
    let status := (libraries.qatzip.qzDecompress 0 vars.compressed_size).status
    let measured := timedRuns (callQatzip libraries) (outlenAmount iterations_per_run) iterations_per_run runs
      machine.clock (untimed (callQatzip libraries) vars)
    ⟨setupMessages libraries.qatzip ++ firstCallMessage status,
      [⟨qatzipFields measured runs, measured.vars.timed⟩], 0⟩

inductive Harness where
  | zstd
  | zstdNuma
  | lz4
  | qatzip
deriving DecidableEq

def main : Harness → Libraries → Machine → Bytes → Nat → Nat → Outcome
  | .zstd => harnessZstd
  | .zstdNuma => harnessZstdNuma
  | .lz4 => harnessLz4
  | .qatzip => harnessQatzip

structure Integrity (fileLength length : Nat) (report : Report) : Prop where
  whole : ∀ call ∈ report.calls, call.source = fileLength
  room : ∀ call ∈ report.calls, call.capacity = SIZE
  success : ∀ call ∈ report.calls, call.succeeded = true
  fileSize : ∀ printed, Field.compressedSize printed ∈ report.row → printed = fileLength
  outputSize : ∀ printed, Field.size printed ∈ report.row → printed = length

def Delivers (libraries : Libraries) (fileLength length : Nat) : Harness → Prop
  | .zstd => ∀ call n, libraries.zstd call fileLength = .done n → n = length
  | .zstdNuma => ∀ call n, libraries.zstd call fileLength = .done n → n = length
  | .lz4 => ∀ call n, libraries.lz4 call fileLength = .done n → n = length
  | .qatzip => ∀ call, (libraries.qatzip.qzDecompress call fileLength).status = QZ_OK →
      (libraries.qatzip.qzDecompress call fileLength).consumed = fileLength →
      (libraries.qatzip.qzDecompress call fileLength).produced = length

-- Call 0 is the one before the loops, except in the numa harness, whose nodes share one count.
def Clean (libraries : Libraries) (fileLength calls : Nat) : Harness → Prop
  | .zstd => ∀ call, call < calls → (libraries.zstd (1 + call) fileLength).succeeds = true
  | .zstdNuma => ∀ call, call < 2 * calls → (libraries.zstd call fileLength).succeeds = true
  | .lz4 => ∀ call, call < calls → (libraries.lz4 (1 + call) fileLength).succeeds = true
  | .qatzip => libraries.qatzip.qzInit = QZ_OK →
      (∀ call, call < calls → (libraries.qatzip.qzDecompress (1 + call) fileLength).status = QZ_OK) ∧
      (∀ call, call < 1 + calls → (libraries.qatzip.qzDecompress call fileLength).consumed = fileLength)

theorem read_file_whole (content : Bytes) (short : content.length < SIZE) : readFile content = content.length := by
  simp only [readFile, fread, List.drop_zero, List.length_take]
  omega

theorem to_int_small (n : Nat) (small : n ≤ SIZE) : toInt n = n := by
  unfold SIZE at small
  unfold toInt
  rw [Int.bmod_def]
  omega

theorem timed_runs_vars (call : Vars → Vars) (amount : Vars → Int) (iterations_per_run runs : Nat)
    (clock : Nat → Nat × Nat) (vars : Vars) :
    (timedRuns call amount iterations_per_run runs clock vars).vars = call^[iterations_per_run * runs] vars := by
  have each : Function.Semiconj Measured.vars (timedRun call amount iterations_per_run clock)
      call^[iterations_per_run] := fun measured => rfl
  rw [Function.iterate_mul]
  exact each.iterate_right runs ⟨vars, [], []⟩

section Logged

variable (call : Vars → Vars) (entry : Vars → Call)

theorem calls_logged (logs : ∀ vars, (call vars).timed = vars.timed ++ [entry vars]) (count : Nat) (vars : Vars) :
    (call^[count] vars).timed = vars.timed ++ (List.range count).map (fun k => entry (call^[k] vars)) := by
  induction count with
  | zero => simp
  | succ count ih =>
      rw [Function.iterate_succ_apply', logs, ih, List.range_succ, List.map_append, List.append_assoc]
      rfl

theorem calls_counted (counts : ∀ vars, (call vars).made = vars.made + 1) (count : Nat) (vars : Vars) :
    (call^[count] vars).made = vars.made + count := by
  induction count with
  | zero => rfl
  | succ count ih =>
      rw [Function.iterate_succ_apply', counts, ih]
      omega

theorem every_call (logs : ∀ vars, (call vars).timed = vars.timed ++ [entry vars]) (count : Nat) (vars : Vars)
    (empty : vars.timed = []) (good : Call → Prop) :
    (∀ logged ∈ (call^[count] vars).timed, good logged) ↔ ∀ k, k < count → good (entry (call^[k] vars)) := by
  rw [calls_logged call entry logs, empty, List.nil_append]
  simp only [List.forall_mem_map, List.mem_range]

end Logged

section Replying

variable (library : Nat → Nat → Reply) (returned : Reply → Int)

def replyEntry (vars : Vars) : Call :=
  ⟨vars.compressed_size, SIZE, (library vars.made vars.compressed_size).succeeds⟩

theorem source_kept (count : Nat) (vars : Vars) :
    ((callReply library returned)^[count] vars).compressed_size = vars.compressed_size := by
  induction count with
  | zero => rfl
  | succ count ih =>
      rw [Function.iterate_succ_apply']
      exact ih

theorem made_by (count : Nat) (vars : Vars) :
    ((callReply library returned)^[count] vars).made = vars.made + count :=
  calls_counted (callReply library returned) (fun _ => rfl) count vars

theorem last_size (count : Nat) (vars : Vars) :
    ((callReply library returned)^[count + 1] vars).size =
      returned (library (vars.made + count) vars.compressed_size) := by
  rw [Function.iterate_succ_apply', callReply]
  simp only [made_by, source_kept]

theorem reply_integrity (row : List Field) (fileLength length count : Nat) (vars : Vars) (positive : 0 < count)
    (whole : vars.compressed_size = fileLength) (empty : vars.timed = [])
    (exact : ∀ reply : Reply, reply.succeeds = true → (∀ n, reply = .done n → n = length) → returned reply = length)
    (delivers : ∀ call n, library call fileLength = .done n → n = length)
    (printsFile : ∀ printed, Field.compressedSize printed ∈ row → printed = fileLength)
    (printsSize : ∀ printed, Field.size printed ∈ row →
      printed = ((callReply library returned)^[count] vars).size) :
    Integrity fileLength length ⟨row, ((callReply library returned)^[count] vars).timed⟩ ↔
      ∀ k, k < count → (library (vars.made + k) fileLength).succeeds = true := by
  have logged := every_call (callReply library returned) (replyEntry library) (fun _ => rfl) count vars empty
  have outcome : ∀ k, (replyEntry library ((callReply library returned)^[k] vars)).succeeded =
      (library (vars.made + k) fileLength).succeeds := by
    intro k
    rw [replyEntry, made_by, source_kept, whole]
  refine ⟨fun integrity k within => ?_, fun clean => ⟨?_, ?_, ?_, printsFile, ?_⟩⟩
  · have good := (logged (fun call => call.succeeded = true)).mp integrity.success k within
    rw [← outcome k, good]
  · apply (logged (fun call => call.source = fileLength)).mpr
    intro k within
    rw [replyEntry, source_kept, whole]
  · exact (logged (fun call => call.capacity = SIZE)).mpr (fun k within => rfl)
  · apply (logged (fun call => call.succeeded = true)).mpr
    intro k within
    rw [outcome k, clean k within]
  · intro printed member
    obtain ⟨before, rfl⟩ := Nat.exists_eq_add_of_le' positive
    rw [printsSize printed member, last_size, whole]
    exact exact _ (clean before (by omega)) (delivers _)

end Replying

theorem zstd_exact (length : Nat) (fits : length ≤ SIZE) (reply : Reply) (success : reply.succeeds = true)
    (delivered : ∀ n, reply = .done n → n = length) : toInt (zstdReturn reply) = length := by
  cases reply with
  | failed code => exact absurd success (by simp [Reply.succeeds])
  | done n =>
      rw [delivered n rfl]
      exact to_int_small length fits

theorem lz4_exact (length : Nat) (reply : Reply) (success : reply.succeeds = true)
    (delivered : ∀ n, reply = .done n → n = length) : lz4Return reply = length := by
  cases reply with
  | failed code => exact absurd success (by simp [Reply.succeeds])
  | done n => rw [delivered n rfl, lz4Return]

theorem zstd_fields_file (measured : Measured) (runs : Nat) (printed : Int) :
    Field.compressedSize printed ∈ zstdFields measured runs ↔ printed = measured.vars.compressed_size := by
  simp [zstdFields]

theorem zstd_fields_size (measured : Measured) (runs : Nat) (printed : Int) :
    Field.size printed ∈ zstdFields measured runs ↔ printed = measured.vars.size := by
  simp [zstdFields]

section Consuming

variable (libraries : Libraries)

def qatzipEntry (vars : Vars) : Call :=
  ⟨vars.compressed_size, SIZE,
    decide ((libraries.qatzip.qzDecompress vars.made vars.compressed_size).status = QZ_OK)⟩

theorem qatzip_made (count : Nat) (vars : Vars) : ((callQatzip libraries)^[count] vars).made = vars.made + count :=
  calls_counted (callQatzip libraries) (fun _ => rfl) count vars

theorem qatzip_next (count : Nat) (vars : Vars) (fileLength : Nat)
    (whole : ((callQatzip libraries)^[count] vars).compressed_size = fileLength) :
    ((callQatzip libraries)^[count + 1] vars).compressed_size =
        (libraries.qatzip.qzDecompress (vars.made + count) fileLength).consumed ∧
      ((callQatzip libraries)^[count + 1] vars).outlen =
        (libraries.qatzip.qzDecompress (vars.made + count) fileLength).produced := by
  rw [Function.iterate_succ_apply', callQatzip, qatzip_made, whole]
  exact ⟨rfl, rfl⟩

theorem source_whole_iff (count : Nat) (vars : Vars) (fileLength : Nat) :
    (∀ k, k < count + 1 → ((callQatzip libraries)^[k] vars).compressed_size = fileLength) ↔
      vars.compressed_size = fileLength ∧
        ∀ k, k < count → (libraries.qatzip.qzDecompress (vars.made + k) fileLength).consumed = fileLength := by
  refine ⟨fun whole => ⟨whole 0 (by omega), fun k within => ?_⟩, fun ⟨start, consumed⟩ k within => ?_⟩
  · rw [← (qatzip_next libraries k vars fileLength (whole k (by omega))).1]
    exact whole (k + 1) (by omega)
  · induction k with
    | zero => exact start
    | succ k ih => rw [(qatzip_next libraries k vars fileLength (ih (by omega))).1, consumed k (by omega)]

theorem qatzip_integrity (row : List Field) (fileLength length count : Nat) (vars : Vars) (positive : 0 < count)
    (empty : vars.timed = []) (delivers : Delivers libraries fileLength length .qatzip)
    (printsFile : ∀ printed : Int, Field.compressedSize printed ∈ row ↔
      printed = ((callQatzip libraries)^[count] vars).compressed_size)
    (printsSize : ∀ printed : Int, Field.size printed ∈ row → printed = ((callQatzip libraries)^[count] vars).outlen) :
    Integrity fileLength length ⟨row, ((callQatzip libraries)^[count] vars).timed⟩ ↔
      vars.compressed_size = fileLength ∧
      (∀ k, k < count → (libraries.qatzip.qzDecompress (vars.made + k) fileLength).status = QZ_OK) ∧
      (∀ k, k < count → (libraries.qatzip.qzDecompress (vars.made + k) fileLength).consumed = fileLength) := by
  have logged := every_call (callQatzip libraries) (qatzipEntry libraries) (fun _ => rfl) count vars empty
  have outcome : ∀ k, ((callQatzip libraries)^[k] vars).compressed_size = fileLength →
      ((qatzipEntry libraries ((callQatzip libraries)^[k] vars)).succeeded = true ↔
        (libraries.qatzip.qzDecompress (vars.made + k) fileLength).status = QZ_OK) := by
    intro k whole
    rw [qatzipEntry, qatzip_made, whole, decide_eq_true_iff]
  refine ⟨fun integrity => ?_, fun ⟨start, success, consumed⟩ => ?_⟩
  · have given := (logged (fun call => call.source = fileLength)).mp integrity.whole
    have printed := integrity.fileSize _ ((printsFile _).mpr rfl)
    have whole : ∀ k, k < count + 1 → ((callQatzip libraries)^[k] vars).compressed_size = fileLength := by
      intro k within
      by_cases last : k = count
      · subst k
        exact Int.ofNat_inj.mp printed
      · exact given k (by omega)
    obtain ⟨start, consumed⟩ := (source_whole_iff libraries count vars fileLength).mp whole
    refine ⟨start, fun k within => ?_, consumed⟩
    exact (outcome k (whole k (by omega))).mp ((logged (fun call => call.succeeded = true)).mp integrity.success k within)
  · have whole := (source_whole_iff libraries count vars fileLength).mpr ⟨start, consumed⟩
    refine ⟨?_, ?_, ?_, ?_, ?_⟩
    · exact (logged (fun call => call.source = fileLength)).mpr (fun k within => whole k (by omega))
    · exact (logged (fun call => call.capacity = SIZE)).mpr (fun k within => rfl)
    · exact (logged (fun call => call.succeeded = true)).mpr
        (fun k within => (outcome k (whole k (by omega))).mpr (success k within))
    · intro printed member
      rw [(printsFile printed).mp member, whole count (by omega)]
    · intro printed member
      obtain ⟨before, rfl⟩ := Nat.exists_eq_add_of_le' positive
      rw [printsSize printed member, (qatzip_next libraries before vars fileLength (whole before (by omega))).2,
        delivers _ (success before (by omega)) (consumed before (by omega))]

end Consuming

theorem two_halves (count : Nat) (good : Nat → Prop) :
    (∀ k, k < 2 * count → good k) ↔ (∀ k, k < count → good k) ∧ (∀ k, k < count → good (count + k)) := by
  refine ⟨fun all => ⟨fun k within => all k (by omega), fun k within => all (count + k) (by omega)⟩,
    fun ⟨low, high⟩ k within => ?_⟩
  by_cases early : k < count
  · exact low k early
  · have late := high (k - count) (by omega)
    rwa [Nat.add_sub_cancel' (by omega)] at late

section Files

variable (libraries : Libraries) (machine : Machine) (content : Bytes) (iterations_per_run runs length : Nat)

theorem zstd_rows (short : content.length < SIZE) (calls : 0 < iterations_per_run * runs) (fits : length ≤ SIZE)
    (delivers : Delivers libraries content.length length .zstd) :
    (∀ report ∈ (harnessZstd libraries machine content iterations_per_run runs).reports,
      Integrity content.length length report) ↔ Clean libraries content.length (iterations_per_run * runs) .zstd := by
  have whole := read_file_whole content short
  simp only [harnessZstd, List.mem_singleton, forall_eq, timed_runs_vars]
  refine reply_integrity libraries.zstd _ _ content.length length _ _ calls whole rfl
    (fun reply => zstd_exact length fits reply) delivers ?_ ?_
  · intro printed member
    rw [zstd_fields_file, timed_runs_vars, callZstd, source_kept] at member
    rw [member, ← whole]
    rfl
  · intro printed member
    rw [zstd_fields_size, timed_runs_vars] at member
    exact member

theorem numa_node_source (node : Nat) (vars : Vars) :
    (numaNode libraries machine iterations_per_run runs node vars).2.compressed_size = vars.compressed_size := by
  rw [numaNode, timed_runs_vars, callZstd, source_kept]

theorem numa_node_made (node : Nat) (vars : Vars) :
    (numaNode libraries machine iterations_per_run runs node vars).2.made =
      vars.made + iterations_per_run * runs := by
  rw [numaNode, timed_runs_vars, callZstd, made_by]

theorem numa_node_rows (node : Nat) (vars : Vars) (calls : 0 < iterations_per_run * runs) (fits : length ≤ SIZE)
    (whole : vars.compressed_size = content.length) (delivers : Delivers libraries content.length length .zstdNuma) :
    Integrity content.length length (numaNode libraries machine iterations_per_run runs node vars).1 ↔
      ∀ k, k < iterations_per_run * runs → (libraries.zstd (vars.made + k) content.length).succeeds = true := by
  simp only [numaNode, timed_runs_vars]
  refine reply_integrity libraries.zstd _ _ content.length length _ _ calls whole rfl
    (fun reply => zstd_exact length fits reply) delivers ?_ ?_
  · intro printed member
    rw [List.mem_cons, zstd_fields_file, timed_runs_vars, callZstd, source_kept, or_iff_right (by simp)] at member
    rw [member, ← whole]
  · intro printed member
    rw [List.mem_cons, zstd_fields_size, timed_runs_vars, or_iff_right (by simp)] at member
    exact member

theorem numa_rows (short : content.length < SIZE) (calls : 0 < iterations_per_run * runs) (fits : length ≤ SIZE)
    (delivers : Delivers libraries content.length length .zstdNuma) :
    (∀ report ∈ (harnessZstdNuma libraries machine content iterations_per_run runs).reports,
      Integrity content.length length report) ↔
        Clean libraries content.length (iterations_per_run * runs) .zstdNuma := by
  have whole := read_file_whole content short
  have fileFits : (startVars machine content).compressed_size < SIZE := by rwa [startVars, whole]
  simp only [harnessZstdNuma, if_pos fileFits, List.mem_cons, List.not_mem_nil, or_false, forall_eq_or_imp, forall_eq]
  rw [numa_node_rows libraries machine content iterations_per_run runs length 0 _ calls fits whole delivers,
    numa_node_rows libraries machine content iterations_per_run runs length 1 _ calls fits
      (by rw [numa_node_source]; exact whole) delivers, numa_node_made, Clean, two_halves]
  simp only [startVars, Nat.zero_add]

theorem lz4_rows (short : content.length < SIZE) (calls : 0 < iterations_per_run * runs)
    (delivers : Delivers libraries content.length length .lz4) :
    (∀ report ∈ (harnessLz4 libraries machine content iterations_per_run runs).reports,
      Integrity content.length length report) ↔ Clean libraries content.length (iterations_per_run * runs) .lz4 := by
  have whole := read_file_whole content short
  simp only [harnessLz4, List.mem_singleton, forall_eq, timed_runs_vars]
  refine reply_integrity libraries.lz4 _ _ content.length length _ _ calls whole rfl
    (fun reply => lz4_exact length reply) delivers ?_ ?_
  · intro printed member
    simp [lz4Fields] at member
  · intro printed member
    simp only [lz4Fields, timed_runs_vars, List.mem_cons, Field.size.injEq, reduceCtorEq, List.not_mem_nil, or_false]
      at member
    exact member

theorem qatzip_rows (short : content.length < SIZE) (calls : 0 < iterations_per_run * runs)
    (delivers : Delivers libraries content.length length .qatzip) :
    (∀ report ∈ (harnessQatzip libraries machine content iterations_per_run runs).reports,
      Integrity content.length length report) ↔
        Clean libraries content.length (iterations_per_run * runs) .qatzip := by
  by_cases opened : libraries.qatzip.qzInit = QZ_OK
  · have whole := read_file_whole content short
    simp only [harnessQatzip, opened, ne_eq, not_true, if_false, List.mem_singleton, forall_eq, timed_runs_vars, Clean,
      true_implies]
    have start : (untimed (callQatzip libraries) (startVars machine content)).compressed_size =
        (libraries.qatzip.qzDecompress 0 content.length).consumed := by rw [← whole]; rfl
    have made : (untimed (callQatzip libraries) (startVars machine content)).made = 1 := rfl
    rw [qatzip_integrity libraries _ content.length length _ _ calls rfl delivers ?_ ?_, start, made]
    · refine ⟨fun ⟨first, success, consumed⟩ => ⟨success, fun call within => ?_⟩,
        fun ⟨success, consumed⟩ => ⟨consumed 0 (by omega), success, fun k within => consumed (1 + k) (by omega)⟩⟩
      cases call with
      | zero => exact first
      | succ k =>
          rw [Nat.add_comm k 1]
          exact consumed k (by omega)
    · intro printed
      simp [qatzipFields, timed_runs_vars]
    · intro printed member
      simpa [qatzipFields, timed_runs_vars] using member
  · simp [harnessQatzip, Clean, opened]

theorem rows_integrity_iff (harness : Harness) (short : content.length < SIZE) (iterated : 1 ≤ iterations_per_run)
    (ran : 2 ≤ runs) (fits : length ≤ SIZE) (delivers : Delivers libraries content.length length harness) :
    (∀ report ∈ (main harness libraries machine content iterations_per_run runs).reports,
      Integrity content.length length report) ↔
        Clean libraries content.length (iterations_per_run * runs) harness := by
  have calls : 0 < iterations_per_run * runs := Nat.mul_pos (by omega) (by omega)
  cases harness with
  | zstd => exact zstd_rows libraries machine content iterations_per_run runs length short calls fits delivers
  | zstdNuma => exact numa_rows libraries machine content iterations_per_run runs length short calls fits delivers
  | lz4 => exact lz4_rows libraries machine content iterations_per_run runs length short calls delivers
  | qatzip => exact qatzip_rows libraries machine content iterations_per_run runs length short calls delivers

end Files

def steadyMachine : Machine := ⟨fun j => (10 * j, 10 * j + 7), 0⟩

def unreliable : Libraries where
  zstd call _ := if call = 2 then .failed 20 else .done 9
  lz4 call _ := if call = 2 then .failed 20 else .done 9
  qatzip := {
    qzInit := 0
    qzGetDefaults := 0
    qzSetDefaults := 0
    qzDecompress := fun call source => if call = 1 then ⟨0, source - 2, 5⟩ else ⟨0, source, 2 * source + 1⟩
    consumes := by
      intro call source
      by_cases first : call = 1
      · rw [if_pos first]
        exact Nat.sub_le source 2
      · rw [if_neg first] }

theorem four_bytes_integrity :
    (∀ report ∈ (main .qatzip unreliable steadyMachine [1, 2, 3, 4] 1 2).reports, Integrity 4 9 report) ↔
      Clean unreliable 4 (1 * 2) .qatzip := by
  apply rows_integrity_iff unreliable steadyMachine [1, 2, 3, 4] 1 2 9 .qatzip (by decide) (by decide) (by decide)
    (by decide)
  intro call success consumed
  by_cases first : call = 1
  · subst call
    exact absurd consumed (by decide)
  · simp [unreliable, first]

theorem row_after_partial_call :
    ¬ (∀ report ∈ (main .qatzip unreliable steadyMachine [1, 2, 3, 4] 1 2).reports, Integrity 4 9 report) ∧
      ¬ (∀ report ∈ (main .zstd unreliable steadyMachine [1, 2, 3, 4] 1 2).reports, Integrity 4 9 report) := by
  refine ⟨fun sound => ?_, fun sound => ?_⟩
  · have given := (sound _ (List.mem_singleton.mpr rfl)).whole ⟨2, SIZE, true⟩ (by decide)
    exact absurd given (by decide)
  · have success := (sound _ (List.mem_singleton.mpr rfl)).success ⟨4, SIZE, false⟩ (by decide)
    exact absurd success (by decide)

end SprAccelProfiling.Decomp
