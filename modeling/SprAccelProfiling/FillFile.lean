import SprAccelProfiling.CorpusLoader
import Mathlib.Data.List.Basic

set_option autoImplicit false

namespace SprAccelProfiling.Corpus

open SprAccelProfiling.Loop SprAccelProfiling.Buffer

variable (content testBuf : Bytes) (sizePerBuf cursor rewinds : Nat)

def FillsAround : Prop :=
  ∃ filled, Ends (fillTurn sizePerBuf) ⟨⟨content, cursor⟩, 0, testBuf, rewinds⟩ (some filled) ∧
    filled.testBuf.length = sizePerBuf ∧
    ∀ k, k < sizePerBuf → filled.testBuf[k]? = content[(cursor + k) % content.length]?

theorem fread_count (file : File) (count : Nat) :
    (fread file count).1.length = min count (file.content.length - file.cursor) := by
  simp [fread]

theorem short_read_again (filling : Filling) (room : filling.testBuf.length = sizePerBuf)
    (inside : filling.offset ≤ sizePerBuf)
    (short : (fread filling.file (sizePerBuf - filling.offset)).1.length < sizePerBuf) :
    ∃ testBuf, testBuf.length = sizePerBuf ∧
      fillTurn sizePerBuf filling = .again
        ⟨rewind (fread filling.file (sizePerBuf - filling.offset)).2,
          filling.offset + (fread filling.file (sizePerBuf - filling.offset)).1.length, testBuf, filling.rewinds + 1⟩ := by
  have bound := fread_count filling.file (sizePerBuf - filling.offset)
  have fits : filling.offset + (fread filling.file (sizePerBuf - filling.offset)).1.length ≤
      filling.testBuf.length := by omega
  have wrote := (write_at_iff filling.testBuf _ _ filling.offset).mpr ⟨fits, rfl⟩
  refine ⟨_, (write_at_length _ _ _ _ wrote).trans room, ?_⟩
  simp only [fillTurn, wrote, if_pos short]

-- Once a byte is in, the rest of the buffer is less than the payload.
theorem started_never_ends (filling : Filling) (room : filling.testBuf.length = sizePerBuf)
    (inside : filling.offset ≤ sizePerBuf) (begun : 0 < filling.offset) :
    ¬ Terminates (fillTurn sizePerBuf) filling := by
  apply never_ends (fillTurn sizePerBuf)
    (fun filling => filling.testBuf.length = sizePerBuf ∧ filling.offset ≤ sizePerBuf ∧ 0 < filling.offset) _
    filling ⟨room, inside, begun⟩
  intro state stuck
  obtain ⟨room, inside, begun⟩ := stuck
  have bound := fread_count state.file (sizePerBuf - state.offset)
  obtain ⟨testBuf, sized, turned⟩ := short_read_again sizePerBuf state room inside (by omega)
  refine ⟨_, turned, sized, ?_, ?_⟩
  · dsimp only
    omega
  · exact Nat.add_pos_left begun _

theorem get_wrapped (k : Nat) (fits : cursor + sizePerBuf ≤ content.length) (within : k < sizePerBuf) :
    ((content.drop cursor).take sizePerBuf)[k]? = content[(cursor + k) % content.length]? := by
  rw [List.getElem?_take_of_lt within, List.getElem?_drop, Nat.mod_eq_of_lt (by omega)]

theorem whole_read_ends (filling : Filling) (fresh : filling.offset = 0)
    (room : filling.testBuf.length = sizePerBuf)
    (whole : filling.file.cursor + sizePerBuf ≤ filling.file.content.length) :
    fillTurn sizePerBuf filling = .done (some ⟨(fread filling.file sizePerBuf).2, 0,
      (filling.file.content.drop filling.file.cursor).take sizePerBuf, filling.rewinds⟩) := by
  have count := fread_count filling.file sizePerBuf
  have sized : (fread filling.file sizePerBuf).1.length = sizePerBuf := by omega
  have wrote := write_whole filling.testBuf (fread filling.file sizePerBuf).1 (sized.trans room.symm)
  simp only [fillTurn, fresh, Nat.sub_zero, wrote, sized, Nat.lt_irrefl, if_false]
  rfl

theorem fits_fills (sized : testBuf.length = sizePerBuf) (fits : cursor + sizePerBuf ≤ content.length) :
    FillsAround content testBuf sizePerBuf cursor rewinds := by
  have turned := whole_read_ends sizePerBuf ⟨⟨content, cursor⟩, 0, testBuf, rewinds⟩ rfl sized fits
  refine ⟨_, (ends_done _ _ _ _ turned).mpr rfl, ?_, ?_⟩
  · simp only [List.length_take, List.length_drop]
    omega
  · intro k within
    exact get_wrapped content sizePerBuf cursor k fits within

theorem at_end_again (sized : testBuf.length = sizePerBuf) (positive : 1 ≤ sizePerBuf) :
    ∃ next, next.length = sizePerBuf ∧ fillTurn sizePerBuf ⟨⟨content, content.length⟩, 0, testBuf, rewinds⟩ =
      .again ⟨⟨content, 0⟩, 0, next, rewinds + 1⟩ := by
  have nothing : (fread ⟨content, content.length⟩ (sizePerBuf - 0)).1.length = 0 := by simp [fread]
  obtain ⟨next, nextSized, turned⟩ := short_read_again sizePerBuf ⟨⟨content, content.length⟩, 0, testBuf, rewinds⟩
    sized (Nat.zero_le _) (by dsimp only; omega)
  refine ⟨next, nextSized, turned.trans ?_⟩
  simp only [nothing]
  rfl

theorem end_fills (sized : testBuf.length = sizePerBuf) (positive : 1 ≤ sizePerBuf)
    (short : sizePerBuf ≤ content.length) : FillsAround content testBuf sizePerBuf content.length rewinds := by
  obtain ⟨next, nextSized, turned⟩ := at_end_again content testBuf sizePerBuf rewinds sized positive
  obtain ⟨filled, ended, length, wrapped⟩ :=
    fits_fills content next sizePerBuf 0 (rewinds + 1) nextSized (by omega)
  refine ⟨filled, (ends_again _ _ _ _ turned).mpr ended, length, ?_⟩
  intro k within
  rw [wrapped k within, Nat.zero_add, Nat.add_mod_left]

theorem partial_read_never (sized : testBuf.length = sizePerBuf) (begun : cursor < content.length)
    (short : content.length < cursor + sizePerBuf) :
    ¬ Terminates (fillTurn sizePerBuf) ⟨⟨content, cursor⟩, 0, testBuf, rewinds⟩ := by
  have count := fread_count ⟨content, cursor⟩ (sizePerBuf - 0)
  dsimp only at count
  obtain ⟨next, nextSized, turned⟩ := short_read_again sizePerBuf ⟨⟨content, cursor⟩, 0, testBuf, rewinds⟩ sized
    (Nat.zero_le _) (by dsimp only; omega)
  intro stops
  obtain ⟨result, ended⟩ := stops
  refine started_never_ends sizePerBuf _ nextSized ?_ ?_ ⟨result, (ends_again _ _ _ _ turned).mp ended⟩
  · dsimp only
    omega
  · dsimp only
    omega

theorem fills_around_iff (nonempty : 0 < content.length) (positive : 1 ≤ sizePerBuf)
    (within : cursor ≤ content.length) (sized : testBuf.length = sizePerBuf) :
    FillsAround content testBuf sizePerBuf cursor rewinds ↔
      cursor + sizePerBuf ≤ content.length ∨ cursor = content.length ∧ sizePerBuf ≤ content.length := by
  constructor
  · intro ⟨filled, ended, _⟩
    by_cases fits : cursor + sizePerBuf ≤ content.length
    · exact .inl fits
    · have inFile : ¬ cursor < content.length := fun begun =>
        partial_read_never content testBuf sizePerBuf cursor rewinds sized begun (by omega) ⟨_, ended⟩
      have atEnd : cursor = content.length := by omega
      refine .inr ⟨atEnd, Nat.le_of_not_lt (fun longer => ?_)⟩
      -- the empty read at the end does no harm, the short one after it does
      subst cursor
      obtain ⟨next, nextSized, turned⟩ := at_end_again content testBuf sizePerBuf rewinds sized positive
      exact partial_read_never content next sizePerBuf 0 (rewinds + 1) nextSized nonempty (by omega)
        ⟨_, (ends_again _ _ _ _ turned).mp ended⟩
  · intro condition
    rcases condition with fits | ⟨atEnd, short⟩
    · exact fits_fills content testBuf sizePerBuf cursor rewinds sized fits
    · subst cursor
      exact end_fills content testBuf sizePerBuf rewinds sized positive short

theorem three_bytes_around :
    FillsAround [1, 2, 3] [0, 0] 2 3 0 ↔ 3 + 2 ≤ [1, 2, 3].length ∨ 3 = [1, 2, 3].length ∧ 2 ≤ [1, 2, 3].length :=
  fills_around_iff [1, 2, 3] [0, 0] 2 3 0 (by decide) (by decide) (by decide) (by decide)

theorem partial_read_loops : ¬ FillsAround [1, 2, 3] [0, 0] 2 2 0 := by
  intro ⟨filled, ended, _⟩
  exact partial_read_never [1, 2, 3] [0, 0] 2 2 0 (by decide) (by decide) (by decide) ⟨_, ended⟩

end SprAccelProfiling.Corpus
