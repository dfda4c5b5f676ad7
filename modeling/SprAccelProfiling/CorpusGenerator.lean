import Mathlib.Data.List.GetD
import Mathlib.Data.List.Infix
import Mathlib.Logic.Basic

set_option autoImplicit false

namespace SprAccelProfiling.Generator

abbrev Bytes := List UInt8
abbrev Disk := String → Option Bytes

inductive Codec where
  | zstd
  | gzip
  | lz4
  | zlib
deriving DecidableEq

structure Codecs where
  encode : Codec → Int → Bytes → Bytes
  decode : Codec → Bytes → Option Bytes
  inverts : ∀ codec level data, decode codec (encode codec level data) = some data
  apart : ∀ codec other level data, codec ≠ other → decode other (encode codec level data) = none

inductive Tag where
  | zstd (level : Int)
  | gz (level : Int)
  | lz4
  | plain
deriving DecidableEq

def Tag.text : Tag → String
  | .zstd level => "_zstd" ++ toString level
  | .gz level => "_gz" ++ toString level
  | .lz4 => "_lz4"
  | .plain => ""

inductive OutName where
  | corpus (base : String) (tag : Tag) (size : Nat)
  | zlib6 (infile : String)
deriving DecidableEq

def outdir : String := "google-corpus"

def folder : String := "HyperCompressBench/extracted_benchmarks"

def OutName.path : OutName → String
  | .corpus base tag size => outdir ++ "/" ++ base ++ tag.text ++ "_" ++ toString size
  | .zlib6 infile => infile ++ ".zlib" ++ toString 6

def Tag.codec : Tag → Codec
  | .zstd _ => .zstd
  | .gz _ => .gzip
  | .lz4 => .lz4
  | .plain => .zstd

def Tag.level : Tag → Option Int
  | .zstd level => some level
  | .gz level => some level
  | .lz4 => none
  | .plain => none

def OutName.codec : OutName → Codec
  | .corpus _ tag _ => tag.codec
  | .zlib6 _ => .zlib

def OutName.level : OutName → Option Int
  | .corpus _ tag _ => tag.level
  | .zlib6 _ => some 6

def OutName.size : OutName → Option Nat
  | .corpus _ _ size => some size
  | .zlib6 _ => none

structure Write where
  infile : String
  name : OutName
  content : Bytes
deriving DecidableEq

inductive PyError where
  | fileNotFound (path : String)
  | nameError (name : String)
  | indexError
deriving DecidableEq

def compressFile (compress : Bytes → Bytes) (disk : Disk) (infile : String) (outfile : OutName) :
    Except PyError Write :=
  match disk infile with
  | none => .error (.fileNotFound infile)
  | some data => .ok ⟨infile, outfile, compress data⟩

-- The bytes come from rand.txt, whatever infile is; the default level of zlib.compress is 6.
def zlibCompressFile (codecs : Codecs) (disk : Disk) (infile : String) : Except PyError Write :=
  match disk "rand.txt" with
  | none => .error (.fileNotFound "rand.txt")
  | some data => .ok ⟨infile, .zlib6 infile, codecs.encode .zlib 6 data⟩

-- level = 1 is set and never passed on, so the package takes its default.
def zstdCompressFile (codecs : Codecs) : Disk → String → OutName → Except PyError Write :=
  compressFile (codecs.encode .zstd 3)

def zstdCompressFileLevel (codecs : Codecs) (level : Int) : Disk → String → OutName → Except PyError Write :=
  compressFile (codecs.encode .zstd level)

def gzipCompressFileLevel (codecs : Codecs) (level : Int) : Disk → String → OutName → Except PyError Write :=
  compressFile (codecs.encode .gzip level)

-- The function imports zstd and then names lz4.
def lz4CompressFile (disk : Disk) (infile : String) (_ : OutName) : Except PyError Write :=
  match disk infile with
  | none => .error (.fileNotFound infile)
  | some _ => .error (.nameError "lz4")

def store (disk : Disk) (write : Write) : Disk :=
  fun path => if path = write.name.path then some write.content else disk path

structure Outcome where
  writes : List Write
  disk : Disk
  raised : Option PyError

def forFiles (body : Disk → String → Except PyError Write) : Disk → List String → Outcome
  | disk, [] => ⟨[], disk, none⟩
  | disk, file :: rest =>
      match body disk file with
      | .error error => ⟨[], disk, some error⟩
      | .ok write =>
          let outcome := forFiles body (store disk write) rest
          ⟨write :: outcome.writes, outcome.disk, outcome.raised⟩

def basename (path : String) : String :=
  String.ofList (path.toList.reverse.takeWhile (fun c => c != '/')).reverse

-- What glob.glob(folder + '/*/*') finds.
structure Corpus (disk : Disk) where
  files : List String
  present : ∀ file ∈ files, (disk file).isSome
  under : ∀ file ∈ files, folder.toList <+: file.toList

def genCorpus (tag : Tag) (compress : Disk → String → OutName → Except PyError Write) (disk : Disk)
    (files : List String) : Outcome :=
  forFiles (fun disk file =>
    match disk file with
    | none => .error (.fileNotFound file)
    | some data => compress disk file (.corpus (basename file) tag data.length)) disk files

section Generators

variable (codecs : Codecs) (disk : Disk) (corpus : Corpus disk)

def ofSize (size : Nat) : List String := corpus.files.filter (fun file => (disk file).map List.length == some size)

def genCorpusGoogleSizeLevel (size : Nat) (level : Int) : Outcome :=
  genCorpus (.zstd level) (zstdCompressFileLevel codecs level) disk (ofSize disk corpus size)

def genCorpusGoogleSizeLevelGzip (size : Nat) (level : Int) : Outcome :=
  genCorpus (.gz level) (gzipCompressFileLevel codecs level) disk (ofSize disk corpus size)

def genCorpusGoogleSize (size : Nat) : Outcome :=
  genCorpus (.zstd 1) (zstdCompressFile codecs) disk (ofSize disk corpus size)

-- random.choice: choose names the ten draws, and an empty corpus raises at the first.
def genCorpusGoogle (choose : Nat → Nat) : Outcome :=
  match corpus.files with
  | [] => ⟨[], disk, some .indexError⟩
  | first :: rest => genCorpus .plain (zstdCompressFile codecs) disk
      ((List.range 10).map (fun i => (first :: rest).getD (choose i % (rest.length + 1)) first))

def genCorpusGoogle4kb : Outcome :=
  genCorpus .plain (fun _ _ _ => .error (.nameError "filje")) disk (ofSize disk corpus 4096)

def genCorpusGoogle16kb : Outcome :=
  genCorpus .plain (zstdCompressFile codecs) disk (ofSize disk corpus (16 * 1024))

def genCorpusGoogle4kbLz4 : Outcome :=
  genCorpus .lz4 (zstdCompressFile codecs) disk (ofSize disk corpus (4 * 1024))

end Generators

inductive Job where
  | sizeLevel (size : Nat) (level : Int)
  | sizeLevelGzip (size : Nat) (level : Int)
  | size (size : Nat)
  | google (choose : Nat → Nat)
  | google4kb
  | google16kb
  | google4kbLz4
  | zlib (infile : String)
  | lz4 (infile : String) (outfile : OutName)

def writes (codecs : Codecs) (disk : Disk) (corpus : Corpus disk) : Job → List Write
  | .sizeLevel size level => (genCorpusGoogleSizeLevel codecs disk corpus size level).writes
  | .sizeLevelGzip size level => (genCorpusGoogleSizeLevelGzip codecs disk corpus size level).writes
  | .size size => (genCorpusGoogleSize codecs disk corpus size).writes
  | .google choose => (genCorpusGoogle codecs disk corpus choose).writes
  | .google4kb => (genCorpusGoogle4kb disk corpus).writes
  | .google16kb => (genCorpusGoogle16kb codecs disk corpus).writes
  | .google4kbLz4 => (genCorpusGoogle4kbLz4 codecs disk corpus).writes
  | .zlib infile =>
      match zlibCompressFile codecs disk infile with
      | .error _ => []
      | .ok write => [write]
  | .lz4 infile outfile =>
      match lz4CompressFile disk infile outfile with
      | .error _ => []
      | .ok write => [write]

structure Labelled (codecs : Codecs) (source : Bytes) (write : Write) : Prop where
  encoded : ∃ level, (∀ announced ∈ write.name.level, level = announced) ∧
    write.content = codecs.encode write.name.codec level source
  decodes : codecs.decode write.name.codec write.content = some source
  sized : ∀ size ∈ write.name.size, source.length = size

def AllLabelled (codecs : Codecs) (disk : Disk) (corpus : Corpus disk) (job : Job) : Prop :=
  ∀ write ∈ writes codecs disk corpus job, ∃ source, disk write.infile = some source ∧ Labelled codecs source write

def Faithful (codecs : Codecs) (disk : Disk) (corpus : Corpus disk) : Job → Prop
  | .size size => ∀ file ∈ ofSize disk corpus size, ∀ source, disk file = some source →
      codecs.encode .zstd 3 source = codecs.encode .zstd 1 source
  | .google4kbLz4 => ofSize disk corpus 4096 = []
  | .zlib infile => ∀ data, disk "rand.txt" = some data → disk infile = some data
  | _ => True

theorem encode_inj (codecs : Codecs) (codec : Codec) (level other : Int) (a b : Bytes)
    (same : codecs.encode codec level a = codecs.encode codec other b) : a = b := by
  have decoded := congrArg (codecs.decode codec) same
  rw [codecs.inverts, codecs.inverts] at decoded
  exact Option.some.inj decoded

theorem compress_file_ok (compress : Bytes → Bytes) (disk : Disk) (infile : String) (outfile : OutName) (data : Bytes)
    (found : disk infile = some data) : compressFile compress disk infile outfile = .ok ⟨infile, outfile, compress data⟩ := by
  rw [compressFile, found]

theorem lz4_compress_file_raises (disk : Disk) (infile : String) (outfile : OutName) :
    ∃ error, lz4CompressFile disk infile outfile = .error error := by
  cases found : disk infile with
  | none => exact ⟨.fileNotFound infile, by rw [lz4CompressFile, found]⟩
  | some data => exact ⟨.nameError "lz4", by rw [lz4CompressFile, found]⟩

theorem output_outside (file base : String) (tag : Tag) (size : Nat) (under : folder.toList <+: file.toList) :
    file ≠ (OutName.corpus base tag size).path := by
  intro same
  obtain ⟨rest, split⟩ := under
  rw [same] at split
  simp [OutName.path, folder, outdir] at split

section Loops

variable (disk : Disk)

def sourceOf (file : String) : Bytes := (disk file).getD []

theorem source_of_present (file : String) (present : (disk file).isSome) : disk file = some (sourceOf disk file) := by
  rw [sourceOf, Option.eq_some_of_isSome present]
  rfl

def written (tag : Tag) (compress : Bytes → Bytes) (file : String) : Write :=
  ⟨file, .corpus (basename file) tag (sourceOf disk file).length, compress (sourceOf disk file)⟩

theorem gen_corpus_writes (tag : Tag) (compress : Bytes → Bytes) (files : List String)
    (present : ∀ file ∈ files, (disk file).isSome) (under : ∀ file ∈ files, folder.toList <+: file.toList)
    (now : Disk) (agrees : ∀ file ∈ files, now file = disk file) :
    (genCorpus tag (compressFile compress) now files).writes = files.map (written disk tag compress) := by
  induction files generalizing now with
  | nil => rfl
  | cons file rest ih =>
      have found : now file = some (sourceOf disk file) := by
        rw [agrees file List.mem_cons_self]
        exact source_of_present disk file (present file List.mem_cons_self)
      have kept : ∀ other ∈ rest, store now (written disk tag compress file) other = disk other := by
        intro other inside
        have outside := output_outside other (basename file) tag (sourceOf disk file).length
          (under other (List.mem_cons_of_mem file inside))
        rw [store, written, if_neg outside, agrees other (List.mem_cons_of_mem file inside)]
      have others := ih (fun other inside => present other (List.mem_cons_of_mem file inside))
        (fun other inside => under other (List.mem_cons_of_mem file inside)) _ kept
      rw [genCorpus] at others ⊢
      simp only [forFiles, found, compress_file_ok compress now file _ _ found]
      exact congrArg (List.cons (written disk tag compress file)) others

end Loops

section Generators

variable (codecs : Codecs) (disk : Disk) (corpus : Corpus disk)

theorem of_size_mem (size : Nat) (file : String) (inside : file ∈ ofSize disk corpus size) : file ∈ corpus.files :=
  (List.mem_filter.mp inside).1

theorem written_labelled_iff (tag : Tag) (compress : Bytes → Bytes) (file : String) (present : (disk file).isSome) :
    (∃ source, disk (written disk tag compress file).infile = some source ∧
      Labelled codecs source (written disk tag compress file)) ↔
      ∃ level, (∀ announced ∈ tag.level, level = announced) ∧
        compress (sourceOf disk file) = codecs.encode tag.codec level (sourceOf disk file) := by
  have found := source_of_present disk file present
  refine ⟨fun ⟨source, read, labelled⟩ => ?_, fun ⟨level, announced, same⟩ => ?_⟩
  · have equal : sourceOf disk file = source := Option.some.inj (found.symm.trans read)
    obtain ⟨level, announced, same⟩ := labelled.encoded
    rw [← equal] at same
    exact ⟨level, announced, same⟩
  · refine ⟨sourceOf disk file, found, ⟨level, announced, same⟩, ?_, ?_⟩
    · rw [written, same]
      exact codecs.inverts tag.codec level (sourceOf disk file)
    · intro size announced
      exact Option.some.inj announced

theorem gen_labelled_iff (tag : Tag) (compress : Bytes → Bytes) (files : List String)
    (inside : ∀ file ∈ files, file ∈ corpus.files) :
    (∀ write ∈ (genCorpus tag (compressFile compress) disk files).writes,
      ∃ source, disk write.infile = some source ∧ Labelled codecs source write) ↔
      ∀ file ∈ files, ∃ level, (∀ announced ∈ tag.level, level = announced) ∧
        compress (sourceOf disk file) = codecs.encode tag.codec level (sourceOf disk file) := by
  rw [gen_corpus_writes disk tag compress files (fun file member => corpus.present file (inside file member))
    (fun file member => corpus.under file (inside file member)) disk (fun file member => rfl), List.forall_mem_map]
  exact forall₂_congr (fun file member =>
    written_labelled_iff codecs disk tag compress file (corpus.present file (inside file member)))

theorem error_writes_nothing (tag : Tag) (error : PyError) (files : List String) :
    (genCorpus tag (fun _ _ _ => .error error) disk files).writes = [] := by
  cases files with
  | nil => rfl
  | cons file rest => cases found : disk file <;> simp [genCorpus, forFiles, found]

theorem draws_inside (choose : Nat → Nat) (first : String) (rest : List String) :
    ∀ file ∈ (List.range 10).map (fun i => (first :: rest).getD (choose i % (rest.length + 1)) first),
      file ∈ first :: rest := by
  intro file member
  obtain ⟨i, _, rfl⟩ := List.mem_map.mp member
  have within : choose i % (rest.length + 1) < (first :: rest).length := Nat.mod_lt _ (by simp)
  rw [List.getD_eq_getElem _ _ within]
  exact List.getElem_mem within

theorem level_labelled (tag : Tag) (level : Int) (announces : tag.level = some level) (size : Nat) :
    ∀ write ∈ (genCorpus tag (compressFile (codecs.encode tag.codec level)) disk (ofSize disk corpus size)).writes,
      ∃ source, disk write.infile = some source ∧ Labelled codecs source write := by
  apply (gen_labelled_iff codecs disk corpus tag _ _ (of_size_mem disk corpus size)).mpr
  intro file member
  refine ⟨level, fun announced same => ?_, rfl⟩
  rw [announces] at same
  exact Option.some.inj same

theorem plain_labelled (files : List String) (inside : ∀ file ∈ files, file ∈ corpus.files) :
    ∀ write ∈ (genCorpus .plain (zstdCompressFile codecs) disk files).writes,
      ∃ source, disk write.infile = some source ∧ Labelled codecs source write := by
  apply (gen_labelled_iff codecs disk corpus .plain _ files inside).mpr
  intro file member
  refine ⟨3, fun announced none => ?_, rfl⟩
  cases none

theorem google_labelled (choose : Nat → Nat) :
    ∀ write ∈ (genCorpusGoogle codecs disk corpus choose).writes,
      ∃ source, disk write.infile = some source ∧ Labelled codecs source write := by
  cases listed : corpus.files with
  | nil => simp [genCorpusGoogle, listed]
  | cons first rest =>
      simp only [genCorpusGoogle, listed]
      apply plain_labelled codecs disk corpus
      intro file member
      rw [listed]
      exact draws_inside choose first rest file member

theorem size_labelled_iff (size : Nat) :
    AllLabelled codecs disk corpus (.size size) ↔ Faithful codecs disk corpus (.size size) := by
  refine (gen_labelled_iff codecs disk corpus (.zstd 1) _ _ (of_size_mem disk corpus size)).trans
    (forall₂_congr (fun file member => ?_))
  have found := source_of_present disk file (corpus.present file (of_size_mem disk corpus size file member))
  refine ⟨fun ⟨level, announced, same⟩ source read => ?_, fun same => ⟨1, ?_, same _ found⟩⟩
  · cases Option.some.inj (found.symm.trans read)
    rw [announced 1 rfl] at same
    exact same
  · intro announced one
    exact Option.some.inj one

theorem lz4_labelled_iff :
    AllLabelled codecs disk corpus .google4kbLz4 ↔ Faithful codecs disk corpus .google4kbLz4 := by
  refine (gen_labelled_iff codecs disk corpus .lz4 _ _ (of_size_mem disk corpus (4 * 1024))).trans
    ⟨fun labelled => ?_, fun empty file member => ?_⟩
  · apply List.eq_nil_iff_forall_not_mem.mpr
    intro file member
    obtain ⟨level, _, same⟩ := labelled file member
    have foreign := codecs.apart .zstd .lz4 3 (sourceOf disk file) (by decide)
    rw [same] at foreign
    rw [Tag.codec, codecs.inverts] at foreign
    cases foreign
  · have none := List.eq_nil_iff_forall_not_mem.mp empty file
    exact absurd member none

theorem zlib_labelled_iff (infile : String) :
    AllLabelled codecs disk corpus (.zlib infile) ↔ Faithful codecs disk corpus (.zlib infile) := by
  cases found : disk "rand.txt" with
  | none => simp [AllLabelled, Faithful, writes, zlibCompressFile, found]
  | some data =>
      simp only [AllLabelled, Faithful, writes, zlibCompressFile, found, List.mem_singleton, forall_eq, Option.some.injEq,
        forall_eq']
      refine ⟨fun ⟨source, read, labelled⟩ => ?_, fun read => ⟨data, read, ⟨6, ?_, rfl⟩, codecs.inverts _ _ _, ?_⟩⟩
      · obtain ⟨level, announced, same⟩ := labelled.encoded
        rw [read, encode_inj codecs .zlib 6 level data source same]
      · intro announced six
        exact Option.some.inj six
      · intro size none
        cases none

theorem labelled_iff (job : Job) : AllLabelled codecs disk corpus job ↔ Faithful codecs disk corpus job := by
  cases job with
  | sizeLevel size level => exact iff_true_intro (level_labelled codecs disk corpus (.zstd level) level rfl size)
  | sizeLevelGzip size level => exact iff_true_intro (level_labelled codecs disk corpus (.gz level) level rfl size)
  | size size => exact size_labelled_iff codecs disk corpus size
  | google choose => exact iff_true_intro (google_labelled codecs disk corpus choose)
  | google4kb =>
      apply iff_true_intro
      intro write member
      rw [writes, genCorpusGoogle4kb, error_writes_nothing] at member
      cases member
  | google16kb => exact iff_true_intro (plain_labelled codecs disk corpus _ (of_size_mem disk corpus (16 * 1024)))
  | google4kbLz4 => exact lz4_labelled_iff codecs disk corpus
  | zlib infile => exact zlib_labelled_iff codecs disk corpus infile
  | lz4 infile outfile =>
      apply iff_true_intro
      intro write member
      obtain ⟨error, raised⟩ := lz4_compress_file_raises disk infile outfile
      rw [writes, raised] at member
      cases member

end Generators

def Codec.magic : Codec → UInt8
  | .zstd => 40
  | .gzip => 31
  | .lz4 => 4
  | .zlib => 120

theorem magic_inj (codec other : Codec) (same : codec.magic = other.magic) : codec = other := by
  revert same
  cases codec <;> cases other <;> decide

def storedCodecs : Codecs where
  encode := fun codec level data => codec.magic :: UInt8.ofInt level :: data
  decode := fun codec bytes =>
    match bytes with
    | magic :: _ :: data => if magic = codec.magic then some data else none
    | _ => none
  inverts := fun _ _ _ => if_pos rfl
  apart := fun codec other _ _ differs => if_neg (fun same => differs (magic_inj codec other same))

def benchmark : String := "HyperCompressBench/extracted_benchmarks/Snappy-COMP/1"

-- Four bytes that come again and again, which the levels of zstd look for in different ways.
def repetitive : Bytes :=
  [1, 2, 3, 4, 9, 1, 2, 3, 4, 8, 1, 2, 3, 4, 7, 1, 2, 3, 4, 6, 1, 2, 3, 4, 9, 1, 2, 3, 4, 8, 1, 2, 3, 4, 7, 1, 2, 3, 4, 6]

def oneBenchmark : Disk := fun path =>
  if path = benchmark then some repetitive else if path = "rand.txt" then some [9] else none

def oneFile : Corpus oneBenchmark where
  files := [benchmark]
  present := by decide
  under := by decide

theorem mislabelled_files :
    ¬ AllLabelled storedCodecs oneBenchmark oneFile (.size 40) ∧
      ¬ AllLabelled storedCodecs oneBenchmark oneFile (.zlib benchmark) := by
  refine ⟨fun labelled => ?_, fun labelled => ?_⟩
  · have faithful := (size_labelled_iff storedCodecs oneBenchmark oneFile 40).mp labelled benchmark (by decide)
      repetitive (by decide)
    exact absurd faithful (by decide)
  · have faithful := (zlib_labelled_iff storedCodecs oneBenchmark oneFile benchmark).mp labelled [9] (by decide)
    exact absurd faithful (by decide)

end SprAccelProfiling.Generator
