import SprAccelProfiling.CorpusRequests
import SprAccelProfiling.DecompRows

set_option autoImplicit false

namespace SprAccelProfiling.Generator

open SprAccelProfiling.FileStore

def Reads : Decomp.Harness → Codec → Prop
  | .zstd, .zstd => True
  | .zstdNuma, .zstd => True
  | .lz4, .lz4 => True
  | .qatzip, .gzip => True
  | _, _ => False

def Honours (libraries : Decomp.Libraries) (content data : Bytes) : Decomp.Harness → Prop
  | .zstd | .zstdNuma => ∀ call, libraries.zstd call content.length = .done data.length
  | .lz4 => ∀ call, libraries.lz4 call content.length = .done data.length
  | .qatzip => ∀ call, libraries.qatzip.qzDecompress call content.length =
      ⟨Decomp.QZ_OK, content.length, data.length⟩

section Rows

variable (codecs : Codecs) (tree : Tree) (requests : List Request)

structure Stored (write : Write) (size : Nat) (content data : Bytes) : Prop where
  stored : (runAll codecs tree requests).disk write.name.path = some content
  named : write.name.size = some size
  decodes : codecs.decode write.name.codec content = some data
  sized : data.length = size

theorem stored_after_all (write : Write) (logged : write ∈ allWrites codecs tree requests) :
    ∃ size content data, Stored codecs tree requests write size content data := by
  obtain ⟨entry, member, named, holds⟩ := put_all_holds ((allWrites codecs tree requests).map Write.entry) tree.disk
    write.name.path ⟨write.entry, List.mem_map_of_mem logged, rfl⟩
  obtain ⟨holder, loggedHolder, rfl⟩ := List.mem_map.mp member
  obtain ⟨request, _, file, inside, rfl⟩ := (mem_all_writes codecs tree requests write).mp logged
  obtain ⟨other, _, another, _, rfl⟩ := (mem_all_writes codecs tree requests holder).mp loggedHolder
  obtain ⟨_, tags, lengths⟩ := same_path tree other request another file named
  refine ⟨(sourceOf tree.disk file).length, other.compress codecs (sourceOf tree.disk another),
    sourceOf tree.disk another, ?_, rfl, ?_, lengths⟩
  · rw [run_all_disk]
    exact holds
  · show codecs.decode request.tag.codec _ = _
    rw [Request.compress, tags]
    exact codecs.inverts request.tag.codec other.passed _

theorem honoured_delivers (libraries : Decomp.Libraries) (content data : Bytes) (harness : Decomp.Harness)
    (honours : Honours libraries content data harness) :
    Decomp.Delivers libraries content.length data.length harness := by
  cases harness with
  | zstd | zstdNuma | lz4 =>
      intro call n replied
      rw [honours call] at replied
      cases replied
      rfl
  | qatzip =>
      intro call _ _
      rw [honours call]

theorem honoured_clean (libraries : Decomp.Libraries) (content data : Bytes) (harness : Decomp.Harness) (calls : Nat)
    (honours : Honours libraries content data harness) : Decomp.Clean libraries content.length calls harness := by
  cases harness with
  | zstd | zstdNuma | lz4 =>
      intro call _
      rw [honours]
      rfl
  | qatzip =>
      intro _
      refine ⟨fun call _ => ?_, fun call _ => ?_⟩
      · rw [honours]
      · rw [honours]

def rowCount (libraries : Decomp.Libraries) : Decomp.Harness → Nat
  | .zstd | .lz4 => 1
  | .zstdNuma => 2
  | .qatzip => if libraries.qatzip.qzInit = Decomp.QZ_OK then 1 else 0

structure Rows (libraries : Decomp.Libraries) (harness : Decomp.Harness) (fileLength size : Nat)
    (reports : List Decomp.Report) : Prop where
  count : reports.length = rowCount libraries harness
  integrity : ∀ report ∈ reports, Decomp.Integrity fileLength size report

variable (machine : Decomp.Machine) (iterations_per_run runs : Nat)

theorem honoured_rows (libraries : Decomp.Libraries) (content data : Bytes) (harness : Decomp.Harness)
    (short : content.length < Decomp.SIZE) (fits : data.length ≤ Decomp.SIZE) (iterated : 1 ≤ iterations_per_run)
    (ran : 2 ≤ runs) (honours : Honours libraries content data harness) :
    Rows libraries harness content.length data.length
      (Decomp.main harness libraries machine content iterations_per_run runs).reports := by
  have calls : 0 < iterations_per_run * runs := Nat.mul_pos (by omega) (by omega)
  have delivers := honoured_delivers libraries content data harness honours
  have clean := honoured_clean libraries content data harness (iterations_per_run * runs) honours
  cases harness with
  | zstd =>
      exact ⟨rfl, (Decomp.zstd_rows libraries machine content iterations_per_run runs data.length short calls fits
        delivers).mpr clean⟩
  | zstdNuma =>
      refine ⟨?_, (Decomp.numa_rows libraries machine content iterations_per_run runs data.length short calls fits
        delivers).mpr clean⟩
      have fileFits : (Decomp.startVars machine content).compressed_size < Decomp.SIZE := by
        rwa [Decomp.startVars, Decomp.read_file_whole content short]
      rw [Decomp.main, Decomp.harnessZstdNuma, if_pos fileFits]
      rfl
  | lz4 =>
      exact ⟨rfl, (Decomp.lz4_rows libraries machine content iterations_per_run runs data.length short calls
        delivers).mpr clean⟩
  | qatzip =>
      refine ⟨?_, (Decomp.qatzip_rows libraries machine content iterations_per_run runs data.length short calls
        delivers).mpr clean⟩
      by_cases opened : libraries.qatzip.qzInit = Decomp.QZ_OK
      · rw [Decomp.main, Decomp.harnessQatzip, if_neg (not_not_intro opened), rowCount, if_pos opened]
        rfl
      · rw [Decomp.main, Decomp.harnessQatzip, if_pos opened, rowCount, if_neg opened]
        rfl

theorem corpus_rows (libraries : Bytes → Decomp.Libraries) (write : Write) (harness : Decomp.Harness)
    (logged : write ∈ allWrites codecs tree requests) (reads : Reads harness write.name.codec)
    (honest : ∀ codec content data, Reads harness codec → codecs.decode codec content = some data →
      data.length ≤ Decomp.SIZE → Honours (libraries content) content data harness)
    (iterated : 1 ≤ iterations_per_run) (ran : 2 ≤ runs) :
    ∃ size content data, Stored codecs tree requests write size content data ∧
      (content.length < Decomp.SIZE → size ≤ Decomp.SIZE →
        Rows (libraries content) harness content.length size
          (Decomp.main harness (libraries content) machine content iterations_per_run runs).reports) := by
  obtain ⟨size, content, data, stored⟩ := stored_after_all codecs tree requests write logged
  refine ⟨size, content, data, stored, fun short fits => ?_⟩
  rw [← stored.sized] at fits ⊢
  have honours := honest write.name.codec content data reads stored.decodes fits
  exact honoured_rows machine iterations_per_run runs (libraries content) content data harness short fits iterated ran
    honours

end Rows

def decoding (content : Bytes) : Decomp.Libraries :=
  { Decomp.unreliable with
    zstd := fun _ _ => match storedCodecs.decode .zstd content with
      | some data => .done data.length
      | none => .failed 10 }

def leveled : Write := written oneBenchmark (.zstd 1) (storedCodecs.encode .zstd 1) benchmark

theorem overwritten_file_rows :
    ∃ size content data, Stored storedCodecs oneFolder [.sizeLevel 40 1, .size 40] leveled size content data ∧
      (content.length < Decomp.SIZE → size ≤ Decomp.SIZE →
        Rows (decoding content) .zstd content.length size
          (Decomp.main .zstd (decoding content) Decomp.steadyMachine content 1 2).reports) := by
  apply corpus_rows storedCodecs oneFolder [.sizeLevel 40 1, .size 40] Decomp.steadyMachine 1 2 decoding leveled .zstd _ trivial
    _ (by decide) (by decide)
  · exact (mem_all_writes storedCodecs oneFolder _ leveled).mpr
      ⟨.sizeLevel 40 1, List.mem_cons_self, benchmark, by decide, rfl⟩
  · intro codec content data reads decoded _
    cases codec with
    | zstd =>
        intro call
        simp only [decoding, decoded]
    | gzip | lz4 | zlib => cases reads

end SprAccelProfiling.Generator
