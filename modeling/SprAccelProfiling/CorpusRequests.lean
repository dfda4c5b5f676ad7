import SprAccelProfiling.CorpusGenerator
import SprAccelProfiling.FileStore
import SprAccelProfiling.ShellText

set_option autoImplicit false

namespace SprAccelProfiling.Generator

open SprAccelProfiling.FileStore SprAccelProfiling.ShellText

section Names

theorem path_text (base : String) (tag : Tag) (size : Nat) :
    (OutName.corpus base tag size).path.toList =
      (outdir ++ "/").toList ++ (base.toList ++ tag.text.toList) ++ '_' :: digits size := by
  simp [OutName.path, digits, List.append_assoc]

def Tag.stem : Tag → List Char × Char
  | .zstd _ => (['_', 'z', 's', 't'], 'd')
  | .gz _ => (['_', 'g'], 'z')
  | .lz4 => ([], '_')
  | .plain => ([], '_')

theorem leveled_text (tag : Tag) (level : Int) (announced : tag.level = some level) :
    tag.text.toList = tag.stem.1 ++ tag.stem.2 :: (toString level).toList := by
  cases tag with
  | zstd own =>
      cases announced
      simp [Tag.text, Tag.stem]
  | gz own =>
      cases announced
      simp [Tag.text, Tag.stem]
  | lz4 => cases announced
  | plain => cases announced

theorem stem_mark (tag : Tag) : ¬ (tag.stem.2.isDigit = true ∨ tag.stem.2 = '-') := by
  cases tag <;> simp [Tag.stem]

theorem stem_inj (tag other : Tag) (level : Int) (announced : tag.level = some level)
    (announcedOther : other.level = some level) (same : tag.stem.2 = other.stem.2) : tag = other := by
  cases tag <;> cases other <;> simp_all [Tag.level, Tag.stem]

-- The size follows the last underscore, and the level the last letter before it, so
-- no base name can imitate a suffix.
theorem corpus_path_inj (base otherBase : String) (tag other : Tag) (size otherSize : Nat) (level otherLevel : Int)
    (announced : tag.level = some level) (announcedOther : other.level = some otherLevel)
    (same : (OutName.corpus base tag size).path = (OutName.corpus otherBase other otherSize).path) :
    base = otherBase ∧ tag = other ∧ size = otherSize := by
  have text := congrArg String.toList same
  rw [path_text, path_text] at text
  obtain ⟨front, _, sizes⟩ := last_mark _ _ _ _ '_' '_' (fun c => c.isDigit = true) (digits_digit size)
    (digits_digit otherSize) (by decide) (by decide) text
  have middle := List.append_cancel_left front
  rw [leveled_text tag level announced, leveled_text other otherLevel announcedOther, ← List.append_assoc,
    ← List.append_assoc] at middle
  obtain ⟨stems, marks, levels⟩ := last_mark _ _ _ _ tag.stem.2 other.stem.2 (fun c => c.isDigit = true ∨ c = '-')
    (to_string_signed level) (to_string_signed otherLevel) (stem_mark tag) (stem_mark other) middle
  have sameLevel := to_string_int_inj level otherLevel levels
  subst otherLevel
  have sameTag := stem_inj tag other level announced announcedOther marks
  subst other
  exact ⟨String.toList_injective (List.append_cancel_right stems), rfl, digits_inj size otherSize sizes⟩

end Names

structure Tree where
  disk : Disk
  corpus : Corpus disk

inductive Request where
  | sizeLevel (size : Nat) (level : Int)
  | sizeLevelGzip (size : Nat) (level : Int)
  | size (size : Nat)
deriving DecidableEq

def Request.filter : Request → Nat
  | .sizeLevel wanted _ => wanted
  | .sizeLevelGzip wanted _ => wanted
  | .size wanted => wanted

def Request.tag : Request → Tag
  | .sizeLevel _ level => .zstd level
  | .sizeLevelGzip _ level => .gz level
  | .size _ => .zstd 1

-- The level the package works with, which is not always the one in the name.
def Request.passed : Request → Int
  | .sizeLevel _ level => level
  | .sizeLevelGzip _ level => level
  | .size _ => 3

def Request.compress (codecs : Codecs) (request : Request) : Bytes → Bytes :=
  codecs.encode request.tag.codec request.passed

def Request.outcome (codecs : Codecs) (tree : Tree) : Request → Outcome
  | .sizeLevel wanted level => genCorpusGoogleSizeLevel codecs tree.disk tree.corpus wanted level
  | .sizeLevelGzip wanted level => genCorpusGoogleSizeLevelGzip codecs tree.disk tree.corpus wanted level
  | .size wanted => genCorpusGoogleSize codecs tree.disk tree.corpus wanted

def selected (tree : Tree) (request : Request) : List String := ofSize tree.disk tree.corpus request.filter

def outfile (tree : Tree) (request : Request) (file : String) : OutName :=
  .corpus (basename file) request.tag (sourceOf tree.disk file).length

def Write.entry (write : Write) : String × Bytes := (write.name.path, write.content)

section Calls

variable (codecs : Codecs)

theorem outcome_gen (tree : Tree) (request : Request) :
    request.outcome codecs tree =
      genCorpus request.tag (compressFile (request.compress codecs)) tree.disk (selected tree request) := by
  cases request <;> rfl

theorem selected_mem (tree : Tree) (request : Request) (file : String) (inside : file ∈ selected tree request) :
    file ∈ tree.corpus.files :=
  of_size_mem tree.disk tree.corpus request.filter file inside

theorem selected_size (tree : Tree) (request : Request) (file : String) (inside : file ∈ selected tree request) :
    (sourceOf tree.disk file).length = request.filter := by
  have found := source_of_present tree.disk file (tree.corpus.present file (selected_mem tree request file inside))
  have sized := (List.mem_filter.mp inside).2
  rw [found] at sized
  simpa using sized

theorem for_files_disk (body : Disk → String → Except PyError Write) (disk : Disk) (files : List String) :
    (forFiles body disk files).disk = putAll ((forFiles body disk files).writes.map Write.entry) disk := by
  induction files generalizing disk with
  | nil => rfl
  | cons file rest ih =>
      cases written : body disk file with
      | error error => simp only [forFiles, written]; rfl
      | ok write =>
          simp only [forFiles, written]
          exact ih (store disk write)

theorem outcome_disk (tree : Tree) (request : Request) :
    (request.outcome codecs tree).disk =
      putAll ((request.outcome codecs tree).writes.map Write.entry) tree.disk := by
  rw [outcome_gen]
  exact for_files_disk _ tree.disk (selected tree request)

theorem outcome_writes (tree : Tree) (request : Request) :
    (request.outcome codecs tree).writes =
      (selected tree request).map (written tree.disk request.tag (request.compress codecs)) := by
  rw [outcome_gen]
  exact gen_corpus_writes tree.disk request.tag (request.compress codecs) (selected tree request)
    (fun file inside => tree.corpus.present file (selected_mem tree request file inside))
    (fun file inside => tree.corpus.under file (selected_mem tree request file inside)) tree.disk (fun _ _ => rfl)

theorem outcome_keeps (tree : Tree) (request : Request) (file : String) (under : folder.toList <+: file.toList) :
    (request.outcome codecs tree).disk file = tree.disk file := by
  rw [outcome_disk, outcome_writes]
  apply put_all_outside
  intro entry member
  obtain ⟨write, listed, rfl⟩ := List.mem_map.mp member
  obtain ⟨source, _, rfl⟩ := List.mem_map.mp listed
  exact output_outside file (basename source) request.tag _ under

def Request.run (tree : Tree) (request : Request) : Tree where
  disk := (request.outcome codecs tree).disk
  corpus :=
    { files := tree.corpus.files
      present := by
        intro file inside
        rw [outcome_keeps codecs tree request file (tree.corpus.under file inside)]
        exact tree.corpus.present file inside
      under := tree.corpus.under }

def runAll (tree : Tree) (requests : List Request) : Tree := requests.foldl (Request.run codecs) tree

def allWrites : Tree → List Request → List Write
  | _, [] => []
  | tree, request :: rest => (request.outcome codecs tree).writes ++ allWrites (request.run codecs tree) rest

theorem run_all_disk (tree : Tree) (requests : List Request) :
    (runAll codecs tree requests).disk = putAll ((allWrites codecs tree requests).map Write.entry) tree.disk := by
  induction requests generalizing tree with
  | nil => rfl
  | cons request rest ih =>
      rw [allWrites, List.map_append, put_all_append, ← outcome_disk]
      exact ih (request.run codecs tree)

structure Undisturbed (tree later : Tree) : Prop where
  files : later.corpus.files = tree.corpus.files
  sources : ∀ file ∈ tree.corpus.files, later.disk file = tree.disk file

theorem undisturbed_run (tree later : Tree) (request : Request) (undisturbed : Undisturbed tree later) :
    Undisturbed tree (request.run codecs later) where
  files := undisturbed.files
  sources := by
    intro file inside
    rw [← undisturbed.sources file inside]
    exact outcome_keeps codecs later request file (tree.corpus.under file inside)

theorem undisturbed_selected (tree later : Tree) (request : Request) (undisturbed : Undisturbed tree later) :
    selected later request = selected tree request := by
  rw [selected, selected, ofSize, ofSize, undisturbed.files]
  apply List.filter_congr
  intro file inside
  rw [undisturbed.sources file inside]

theorem undisturbed_writes (tree later : Tree) (request : Request) (undisturbed : Undisturbed tree later) :
    (request.outcome codecs later).writes = (request.outcome codecs tree).writes := by
  rw [outcome_writes, outcome_writes, undisturbed_selected tree later request undisturbed]
  apply List.map_congr_left
  intro file inside
  have same := undisturbed.sources file (selected_mem tree request file inside)
  simp only [written, sourceOf, same]

theorem all_writes_flat (tree later : Tree) (requests : List Request) (undisturbed : Undisturbed tree later) :
    allWrites codecs later requests =
      requests.flatMap (fun request => (request.outcome codecs tree).writes) := by
  induction requests generalizing later with
  | nil => rfl
  | cons request rest ih =>
      rw [allWrites, List.flatMap_cons, undisturbed_writes codecs tree later request undisturbed,
        ih (request.run codecs later) (undisturbed_run codecs tree later request undisturbed)]

theorem mem_all_writes (tree : Tree) (requests : List Request) (write : Write) :
    write ∈ allWrites codecs tree requests ↔
      ∃ request ∈ requests, ∃ file ∈ selected tree request,
        write = written tree.disk request.tag (request.compress codecs) file := by
  rw [all_writes_flat codecs tree tree requests ⟨rfl, fun _ _ => rfl⟩, List.mem_flatMap]
  refine exists_congr (fun request => and_congr_right (fun _ => ?_))
  rw [outcome_writes, List.mem_map]
  exact exists_congr (fun file => and_congr_right (fun _ => eq_comm))

structure NothingLost (tree : Tree) (requests : List Request) : Prop where
  kept : ∀ request ∈ requests, ∀ file ∈ selected tree request,
    (runAll codecs tree requests).disk (outfile tree request file).path =
      some (request.compress codecs (sourceOf tree.disk file))
  apart : ∀ write ∈ allWrites codecs tree requests, ∀ other ∈ allWrites codecs tree requests,
    write.name.path = other.name.path → write.content = other.content

structure Separated (tree : Tree) (requests : List Request) : Prop where
  names : ∀ request ∈ requests, ∀ file ∈ selected tree request, ∀ other ∈ selected tree request,
    basename file = basename other → sourceOf tree.disk file = sourceOf tree.disk other
  levels : ∀ size, .sizeLevel size 1 ∈ requests → .size size ∈ requests →
    ∀ file ∈ selected tree (.size size),
      codecs.encode .zstd 1 (sourceOf tree.disk file) = codecs.encode .zstd 3 (sourceOf tree.disk file)

theorem request_level (request : Request) : ∃ level, request.tag.level = some level := by
  cases request with
  | sizeLevel wanted level => exact ⟨level, rfl⟩
  | sizeLevelGzip wanted level => exact ⟨level, rfl⟩
  | size wanted => exact ⟨1, rfl⟩

theorem same_path (tree : Tree) (request other : Request) (file another : String)
    (same : (outfile tree request file).path = (outfile tree other another).path) :
    basename file = basename another ∧ request.tag = other.tag ∧
      (sourceOf tree.disk file).length = (sourceOf tree.disk another).length := by
  obtain ⟨level, announced⟩ := request_level request
  obtain ⟨otherLevel, announcedOther⟩ := request_level other
  exact corpus_path_inj _ _ _ _ _ _ level otherLevel announced announcedOther same

theorem same_tag (request other : Request) (tags : request.tag = other.tag) (filters : request.filter = other.filter) :
    request.passed = other.passed ∨
      (request = .sizeLevel request.filter 1 ∧ other = .size request.filter) ∨
      (other = .sizeLevel request.filter 1 ∧ request = .size request.filter) := by
  cases request <;> cases other <;> simp_all [Request.tag, Request.passed, Request.filter]

theorem separated_contents (tree : Tree) (requests : List Request) (separated : Separated codecs tree requests)
    (request other : Request) (first : request ∈ requests) (second : other ∈ requests) (file another : String)
    (inside : file ∈ selected tree request) (insideOther : another ∈ selected tree other)
    (same : (outfile tree request file).path = (outfile tree other another).path) :
    request.compress codecs (sourceOf tree.disk file) = other.compress codecs (sourceOf tree.disk another) := by
  obtain ⟨bases, tags, lengths⟩ := same_path tree request other file another same
  rw [selected_size tree request file inside, selected_size tree other another insideOther] at lengths
  have shared : another ∈ selected tree request := by rwa [selected, lengths]
  have sources := separated.names request first file inside another shared bases
  rw [Request.compress, Request.compress, ← sources, tags]
  rcases same_tag request other tags lengths with passed | ⟨left, right⟩ | ⟨right, left⟩
  · rw [passed]
  · rw [left] at first inside
    rw [right] at second
    have levels := separated.levels request.filter first second file inside
    rw [left, right]
    exact levels
  · rw [left] at first inside
    rw [right] at second
    have levels := separated.levels request.filter second first file inside
    rw [left, right]
    exact levels.symm

theorem separated_consistent (tree : Tree) (requests : List Request) (separated : Separated codecs tree requests) :
    Consistent ((allWrites codecs tree requests).map Write.entry) := by
  intro entry member other inOther same
  obtain ⟨write, logged, rfl⟩ := List.mem_map.mp member
  obtain ⟨later, loggedLater, rfl⟩ := List.mem_map.mp inOther
  obtain ⟨request, first, file, inside, rfl⟩ := (mem_all_writes codecs tree requests write).mp logged
  obtain ⟨another, second, source, insideOther, rfl⟩ := (mem_all_writes codecs tree requests later).mp loggedLater
  exact separated_contents codecs tree requests separated request another first second file source inside insideOther
    same

theorem apart_separated (tree : Tree) (requests : List Request)
    (apart : ∀ write ∈ allWrites codecs tree requests, ∀ other ∈ allWrites codecs tree requests,
      write.name.path = other.name.path → write.content = other.content) : Separated codecs tree requests where
  names := by
    intro request inRequests file inside other insideOther bases
    have first := (mem_all_writes codecs tree requests _).mpr ⟨request, inRequests, file, inside, rfl⟩
    have second := (mem_all_writes codecs tree requests _).mpr ⟨request, inRequests, other, insideOther, rfl⟩
    have lengths := (selected_size tree request file inside).trans (selected_size tree request other insideOther).symm
    have contents := apart _ first _ second (by simp only [written, bases, lengths])
    exact encode_inj codecs request.tag.codec request.passed request.passed _ _ contents
  levels := by
    intro size leveled plain file inside
    exact apart _ ((mem_all_writes codecs tree requests _).mpr ⟨.sizeLevel size 1, leveled, file, inside, rfl⟩)
      _ ((mem_all_writes codecs tree requests _).mpr ⟨.size size, plain, file, inside, rfl⟩) rfl

theorem nothing_lost_iff (tree : Tree) (requests : List Request) :
    NothingLost codecs tree requests ↔ Separated codecs tree requests := by
  constructor
  · intro nothingLost
    exact apart_separated codecs tree requests nothingLost.apart
  · intro separated
    have consistent := separated_consistent codecs tree requests separated
    refine ⟨?_, ?_⟩
    · intro request inRequests file inside
      have logged := (mem_all_writes codecs tree requests _).mpr ⟨request, inRequests, file, inside, rfl⟩
      rw [run_all_disk]
      exact put_all_kept _ tree.disk consistent _ (List.mem_map_of_mem logged)
    · intro write logged other loggedOther same
      exact consistent _ (List.mem_map_of_mem logged) _ (List.mem_map_of_mem loggedOther) same

end Calls

def twinLeft : String := "HyperCompressBench/extracted_benchmarks/Snappy-COMP/1"
def twinRight : String := "HyperCompressBench/extracted_benchmarks/ZSTD-COMP/1"

def twins : Disk := fun path =>
  if path = twinLeft then some [7, 8] else if path = twinRight then some [9, 9] else none

def twoFolders : Tree where
  disk := twins
  corpus := ⟨[twinLeft, twinRight], by decide, by decide⟩

def oneFolder : Tree := ⟨oneBenchmark, oneFile⟩

theorem overwritten_outputs :
    ¬ NothingLost storedCodecs twoFolders [.sizeLevel 2 3] ∧
      ¬ NothingLost storedCodecs oneFolder [.sizeLevel 40 1, .size 40] := by
  refine ⟨fun nothingLost => ?_, fun nothingLost => ?_⟩
  · have separated := apart_separated storedCodecs twoFolders _ nothingLost.apart
    exact absurd (separated.names (.sizeLevel 2 3) (by decide) twinLeft (by decide) twinRight (by decide) (by decide))
      (by decide)
  · have separated := apart_separated storedCodecs oneFolder _ nothingLost.apart
    exact absurd (separated.levels 40 (by decide) (by decide) benchmark (by decide)) (by decide)

end SprAccelProfiling.Generator
