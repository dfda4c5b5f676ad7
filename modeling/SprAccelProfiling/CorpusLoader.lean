import SprAccelProfiling.Buffer
import SprAccelProfiling.Loop
import Mathlib.Algebra.Ring.Rat

set_option autoImplicit false

namespace SprAccelProfiling.Corpus

open SprAccelProfiling.Loop SprAccelProfiling.Buffer

abbrev Bytes := List UInt8

structure File where
  content : Bytes
  cursor : Nat

-- A short count only at the end of the file.
def fread (file : File) (count : Nat) : Bytes × File :=
  let got := (file.content.drop file.cursor).take count
  (got, { file with cursor := file.cursor + got.length })

def rewind (file : File) : File := { file with cursor := 0 }

-- int size = ftell(file) keeps the low 32 bits of the length.
def ftellInt (content : Bytes) : Int := Int.bmod content.length (2 ^ 32)

inductive LoadStop where
  | exit (code : Int)
  | returned (code : Int)
  | nullFile
  | overrun
  | unfinished
deriving DecidableEq

structure Filling where
  file : File
  offset : Nat
  testBuf : Bytes
  rewinds : Nat

def fillTurn (sizePerBuf : Nat) (filling : Filling) : Turn Filling (Option Filling) :=
  let (got, file) := fread filling.file (sizePerBuf - filling.offset)
  match writeAt filling.testBuf filling.offset got with
  | none => .done none
  | some testBuf =>
      if got.length < sizePerBuf then
        .again ⟨rewind file, filling.offset + got.length, testBuf, filling.rewinds + 1⟩
      else .done (some ⟨file, filling.offset, testBuf, filling.rewinds⟩)

structure Loading where
  file : File
  testBufs : List Bytes
  rewinds : Nat

structure Loaded where
  num_bufs : Int
  testBufs : List Bytes
  cursor : Nat
  rewinds : Nat
  warned : Bool
deriving DecidableEq

-- What malloc returns is not cleared.
structure Malloc (sizePerBuf : Nat) where
  contents : Nat → Bytes
  sized : ∀ i, (contents i).length = sizePerBuf

def loadBody {sizePerBuf : Nat} (malloc : Malloc sizePerBuf) (fuel i : Nat) (loading : Loading) :
    Except LoadStop Loading :=
  match run (fillTurn sizePerBuf) fuel ⟨loading.file, 0, malloc.contents i, loading.rewinds⟩ with
  | none => .error .unfinished
  | some none => .error .overrun
  | some (some filled) => .ok ⟨filled.file, loading.testBufs ++ [filled.testBuf], filled.rewinds⟩

def loadSized (content : Bytes) (size : Int) (sizePerBuf : Nat) (malloc : Malloc sizePerBuf) (fuel : Nat) :
    Except LoadStop Loaded :=
  let num_bufs := size.tdiv sizePerBuf
  match upTo (loadBody malloc fuel) num_bufs.toNat ⟨⟨content, 0⟩, [], 0⟩ with
  | .error stop => .error stop
  | .ok loaded =>
      .ok ⟨num_bufs, loaded.testBufs, loaded.file.cursor, loaded.rewinds, decide (size < sizePerBuf)⟩

def corpusToInputBuffer (file : Option Bytes) (sizePerBuf : Nat) (malloc : Malloc sizePerBuf) (fuel : Nat) :
    Except LoadStop Loaded :=
  match file with
  | none => .error (.exit (-1))
  | some content => loadSized content (ftellInt content) sizePerBuf malloc fuel

def calgaryBody {sizePerBuf : Nat} (malloc : Malloc sizePerBuf) (i : Nat) (loading : Loading) :
    Except LoadStop Loading :=
  let (got, file) := fread loading.file sizePerBuf
  match writeAt (malloc.contents i) 0 got with
  | none => .error .overrun
  | some testBuf =>
      if got.length < sizePerBuf then .error (.returned (-1))
      else .ok ⟨file, loading.testBufs ++ [testBuf], loading.rewinds⟩

def calgaryLoadSized (content : Bytes) (size : Int) (sizePerBuf : Nat) (malloc : Malloc sizePerBuf) :
    Except LoadStop Loaded :=
  let num_bufs := size.tdiv sizePerBuf
  match upTo (calgaryBody malloc) num_bufs.toNat ⟨⟨content, 0⟩, [], 0⟩ with
  | .error stop => .error stop
  | .ok loaded => .ok ⟨num_bufs, loaded.testBufs, loaded.file.cursor, loaded.rewinds, false⟩

-- The FILE is only measured; the bytes come through the ifstream and its own cursor.
def calgaryCorpusToInputBuffer (file : Option Bytes) (sizePerBuf : Nat) (malloc : Malloc sizePerBuf) :
    Except LoadStop Loaded :=
  match file with
  | none => .error .nullFile
  | some content => calgaryLoadSized content (ftellInt content) sizePerBuf malloc

def slice (content : Bytes) (sizePerBuf i : Nat) : Bytes :=
  (content.drop (i * sizePerBuf)).take sizePerBuf

def slices (content : Bytes) (sizePerBuf count : Nat) : List Bytes :=
  (List.range count).map (slice content sizePerBuf)

theorem slices_succ (content : Bytes) (sizePerBuf count : Nat) :
    slices content sizePerBuf (count + 1) = slices content sizePerBuf count ++ [slice content sizePerBuf count] := by
  rw [slices, List.range_succ, List.map_append]
  rfl

theorem ftell_int_exact (content : Bytes) (short : content.length < 2 ^ 31) : ftellInt content = content.length := by
  unfold ftellInt
  rw [Int.bmod_def]
  omega

theorem buffer_within (length sizePerBuf i : Nat) (inside : i < length / sizePerBuf) :
    i * sizePerBuf + sizePerBuf ≤ length := by
  have below : (i + 1) * sizePerBuf ≤ length / sizePerBuf * sizePerBuf := Nat.mul_le_mul_right sizePerBuf inside
  have whole := Nat.div_mul_le_self length sizePerBuf
  rw [Nat.succ_mul] at below
  omega

theorem slice_length (content : Bytes) (sizePerBuf i : Nat) (inside : i < content.length / sizePerBuf) :
    (slice content sizePerBuf i).length = sizePerBuf := by
  have within := buffer_within content.length sizePerBuf i inside
  simp only [slice, List.length_take, List.length_drop]
  omega

structure Reading (content : Bytes) (sizePerBuf i : Nat) (loading : Loading) : Prop where
  file : loading.file = ⟨content, i * sizePerBuf⟩
  testBufs : loading.testBufs = slices content sizePerBuf i
  rewinds : loading.rewinds = 0

theorem fread_slice (content : Bytes) (sizePerBuf i : Nat) (inside : i < content.length / sizePerBuf) :
    fread ⟨content, i * sizePerBuf⟩ sizePerBuf = (slice content sizePerBuf i, ⟨content, (i + 1) * sizePerBuf⟩) := by
  have whole : ((content.drop (i * sizePerBuf)).take sizePerBuf).length = sizePerBuf :=
    slice_length content sizePerBuf i inside
  simp only [fread, whole, slice, Nat.succ_mul]

theorem reading_next (content : Bytes) (sizePerBuf i : Nat) (loading : Loading)
    (reading : Reading content sizePerBuf i loading) :
    Reading content sizePerBuf (i + 1)
      ⟨⟨content, (i + 1) * sizePerBuf⟩, loading.testBufs ++ [slice content sizePerBuf i], loading.rewinds⟩ where
  file := rfl
  testBufs := by rw [reading.testBufs, slices_succ]
  rewinds := reading.rewinds

theorem slice_fills {sizePerBuf : Nat} (content : Bytes) (malloc : Malloc sizePerBuf) (i : Nat)
    (inside : i < content.length / sizePerBuf) :
    writeAt (malloc.contents i) 0 (slice content sizePerBuf i) = some (slice content sizePerBuf i) := by
  apply write_whole
  rw [slice_length content sizePerBuf i inside, malloc.sized i]

theorem load_step {sizePerBuf : Nat} (content : Bytes) (malloc : Malloc sizePerBuf) (i : Nat) (loading : Loading)
    (inside : i < content.length / sizePerBuf) (reading : Reading content sizePerBuf i loading) :
    ∃ next, loadBody malloc 1 i loading = .ok next ∧ Reading content sizePerBuf (i + 1) next := by
  have sized := slice_length content sizePerBuf i inside
  have filled : fillTurn sizePerBuf ⟨loading.file, 0, malloc.contents i, loading.rewinds⟩ =
      .done (some ⟨⟨content, (i + 1) * sizePerBuf⟩, 0, slice content sizePerBuf i, loading.rewinds⟩) := by
    simp only [fillTurn, Nat.sub_zero, reading.file, fread_slice content sizePerBuf i inside,
      slice_fills content malloc i inside, sized, Nat.lt_irrefl, if_false]
  refine ⟨_, ?_, reading_next content sizePerBuf i loading reading⟩
  simp only [loadBody, run, filled]

theorem calgary_step {sizePerBuf : Nat} (content : Bytes) (malloc : Malloc sizePerBuf) (i : Nat) (loading : Loading)
    (inside : i < content.length / sizePerBuf) (reading : Reading content sizePerBuf i loading) :
    ∃ next, calgaryBody malloc i loading = .ok next ∧ Reading content sizePerBuf (i + 1) next := by
  have sized := slice_length content sizePerBuf i inside
  refine ⟨_, ?_, reading_next content sizePerBuf i loading reading⟩
  simp only [calgaryBody, reading.file, fread_slice content sizePerBuf i inside, slice_fills content malloc i inside,
    sized, Nat.lt_irrefl, if_false]

theorem start_reading (content : Bytes) (sizePerBuf : Nat) : Reading content sizePerBuf 0 ⟨⟨content, 0⟩, [], 0⟩ where
  file := by rw [Nat.zero_mul]
  testBufs := rfl
  rewinds := rfl

theorem corpus_loads (content : Bytes) (sizePerBuf : Nat) (malloc : Malloc sizePerBuf)
    (short : content.length < 2 ^ 31) :
    corpusToInputBuffer (some content) sizePerBuf malloc 1 =
      .ok ⟨(content.length / sizePerBuf : Nat), slices content sizePerBuf (content.length / sizePerBuf),
        content.length / sizePerBuf * sizePerBuf, 0, decide (content.length < sizePerBuf)⟩ := by
  obtain ⟨last, ended, reading⟩ := up_to_total (loadBody malloc 1) (Reading content sizePerBuf)
    (content.length / sizePerBuf) ⟨⟨content, 0⟩, [], 0⟩ (start_reading content sizePerBuf)
    (fun i loading inside reading => load_step content malloc i loading inside reading)
  rw [corpusToInputBuffer, ftell_int_exact content short, loadSized, ← Int.ofNat_tdiv]
  simp only [Int.toNat_natCast, ended, reading.file, reading.testBufs, reading.rewinds, Int.ofNat_lt]

theorem calgary_loads (content : Bytes) (sizePerBuf : Nat) (malloc : Malloc sizePerBuf)
    (short : content.length < 2 ^ 31) :
    calgaryCorpusToInputBuffer (some content) sizePerBuf malloc =
      .ok ⟨(content.length / sizePerBuf : Nat), slices content sizePerBuf (content.length / sizePerBuf),
        content.length / sizePerBuf * sizePerBuf, 0, false⟩ := by
  obtain ⟨last, ended, reading⟩ := up_to_total (calgaryBody malloc) (Reading content sizePerBuf)
    (content.length / sizePerBuf) ⟨⟨content, 0⟩, [], 0⟩ (start_reading content sizePerBuf)
    (fun i loading inside reading => calgary_step content malloc i loading inside reading)
  rw [calgaryCorpusToInputBuffer, ftell_int_exact content short, calgaryLoadSized, ← Int.ofNat_tdiv]
  simp only [Int.toNat_natCast, ended, reading.file, reading.testBufs, reading.rewinds]

theorem loaders_agree (content : Bytes) (sizePerBuf : Nat) (malloc other : Malloc sizePerBuf)
    (positive : 1 ≤ sizePerBuf) (short : content.length < 2 ^ 31) :
    ∃ fuel first second,
      corpusToInputBuffer (some content) sizePerBuf malloc fuel = .ok first ∧
      calgaryCorpusToInputBuffer (some content) sizePerBuf other = .ok second ∧
      first.num_bufs = (content.length / sizePerBuf : Nat) ∧ second.num_bufs = first.num_bufs ∧
      first.testBufs = slices content sizePerBuf (content.length / sizePerBuf) ∧
      second.testBufs = first.testBufs ∧ first.rewinds = 0 ∧
      content.length - first.cursor < sizePerBuf ∧ second.cursor = first.cursor := by
  refine ⟨1, _, _, corpus_loads content sizePerBuf malloc short, calgary_loads content sizePerBuf other short,
    rfl, rfl, rfl, rfl, rfl, ?_, rfl⟩
  have split := Nat.div_add_mod' content.length sizePerBuf
  have rest := Nat.mod_lt content.length positive
  dsimp only
  omega

def cleared (sizePerBuf : Nat) : Malloc sizePerBuf := ⟨fun _ => List.replicate sizePerBuf 0, fun _ => by simp⟩

theorem seven_bytes_agree :
    ∃ fuel first second,
      corpusToInputBuffer (some [1, 2, 3, 4, 5, 6, 7]) 3 (cleared 3) fuel = .ok first ∧
      calgaryCorpusToInputBuffer (some [1, 2, 3, 4, 5, 6, 7]) 3 (cleared 3) = .ok second ∧
      first.num_bufs = (7 / 3 : Nat) ∧ second.num_bufs = first.num_bufs ∧
      first.testBufs = [[1, 2, 3], [4, 5, 6]] ∧ second.testBufs = first.testBufs ∧ first.rewinds = 0 ∧
      7 - first.cursor < 3 ∧ second.cursor = first.cursor :=
  loaders_agree [1, 2, 3, 4, 5, 6, 7] 3 (cleared 3) (cleared 3) (by decide) (by decide)

end SprAccelProfiling.Corpus
