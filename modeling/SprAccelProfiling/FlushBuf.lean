import SprAccelProfiling.CInt
import SprAccelProfiling.Lines
import SprAccelProfiling.Loop

set_option autoImplicit false

namespace SprAccelProfiling.FlushBuf

open SprAccelProfiling.CInt SprAccelProfiling.Lines SprAccelProfiling.Loop

-- _mm_clflush takes out the line of 64 bytes that its argument lies in.
def LINE : Nat := 64

structure Flushing where
  i : Int
  flushed : List Nat

-- flushed logs the addresses; the result none stands for an index that leaves int.
def flushTurn (buf : Nat) (size : Int) (flushing : Flushing) : Turn Flushing (Option (List Nat)) :=
  if flushing.i < size then
    let flushed := flushing.flushed ++ [buf + flushing.i.toNat]
    match checked (flushing.i + 64) with
    | some i => .again ⟨i, flushed⟩
    | none => .done none
  else .done (some flushing.flushed)

def start : Flushing := ⟨0, []⟩

structure Flushes (buf size : Nat) (addresses : List Nat) : Prop where
  ends : Ends (flushTurn buf size) start (some addresses)
  lines : ∀ line, line ∈ addresses.map (fun address => address / LINE) ↔ Meets LINE buf size line

section Loop

variable (buf size : Nat)

def strides (count : Nat) : List Nat := (List.range count).map (fun k => buf + LINE * k)

def reached (count : Nat) : Flushing := ⟨((LINE * count : Nat) : Int), strides buf count⟩

theorem stride_turn (count : Nat) (inside : LINE * count < size) :
    flushTurn buf size (reached buf count) =
      match checked ((LINE * (count + 1) : Nat) : Int) with
      | some i => .again ⟨i, strides buf (count + 1)⟩
      | none => .done none := by
  have within : (reached buf count).i < (size : Int) := Int.ofNat_lt.mpr inside
  have logged : strides buf count ++ [buf + LINE * count] = strides buf (count + 1) := by
    rw [strides, strides, List.range_succ, List.map_append, List.map_singleton]
  have next : ((LINE * count : Nat) : Int) + 64 = ((LINE * (count + 1) : Nat) : Int) := by
    unfold LINE
    omega
  rw [flushTurn, if_pos within]
  simp only [reached, Int.toNat_natCast, logged, next]

theorem last_turn (count : Nat) (outside : size ≤ LINE * count) :
    flushTurn buf size (reached buf count) = .done (some (strides buf count)) := by
  have beyond : ¬ (reached buf count).i < (size : Int) := by
    have cast := Int.ofNat_le.mpr outside
    simp only [reached]
    omega
  rw [flushTurn, if_neg beyond]
  rfl

def indexFits (count : Nat) : Prop := Fits ((LINE * count : Nat) : Int)

theorem index_fits_iff (count : Nat) : indexFits count ↔ count ≤ 33554431 := by
  unfold indexFits Fits INT_MIN INT_MAX LINE
  omega

theorem fitting_turn (count : Nat) (inside : LINE * count < size) (fits : indexFits (count + 1)) :
    flushTurn buf size (reached buf count) = .again (reached buf (count + 1)) := by
  have inRange : Fits ((LINE * (count + 1) : Nat) : Int) := fits
  rw [stride_turn buf size count inside, checked, if_pos inRange]
  rfl

theorem overflowing_turn (count : Nat) (inside : LINE * count < size) (beyond : ¬ indexFits (count + 1)) :
    flushTurn buf size (reached buf count) = .done none := by
  have outOfRange : ¬ Fits ((LINE * (count + 1) : Nat) : Int) := beyond
  rw [stride_turn buf size count inside, checked, if_neg outOfRange]

def stops (count : Nat) : Prop := size ≤ LINE * count ∨ ¬ indexFits (count + 1)

def flushResult (count : Nat) : Option (List Nat) := if size ≤ LINE * count then some (strides buf count) else none

theorem goes_on (count : Nat) (going : ¬ stops size count) :
    flushTurn buf size (reached buf count) = .again (reached buf (count + 1)) := by
  rw [stops, not_or, not_not] at going
  exact fitting_turn buf size count (Nat.lt_of_not_le going.1) going.2

theorem leaves (count : Nat) (stopped : stops size count) :
    flushTurn buf size (reached buf count) = .done (flushResult buf size count) := by
  by_cases outside : size ≤ LINE * count
  · rw [flushResult, if_pos outside]
    exact last_turn buf size count outside
  · rw [flushResult, if_neg outside]
    exact overflowing_turn buf size count (Nat.lt_of_not_le outside) (stopped.resolve_left outside)

theorem flush_ends_iff (addresses : List Nat) :
    Ends (flushTurn buf size) start (some addresses) ↔
      indexFits (steps LINE size) ∧ addresses = strides buf (steps LINE size) := by
  have inside := step_inside_iff LINE size (by decide)
  refine (ends_at_first (flushTurn buf size) (reached buf) (flushResult buf size) (stops size) (goes_on buf size)
    (leaves buf size) (some addresses)).trans ?_
  constructor
  · intro found
    obtain ⟨count, _, before, result⟩ := found
    by_cases outside : size ≤ LINE * count
    · rw [flushResult, if_pos outside] at result
      have all : steps LINE size = count := steps_first LINE size (by decide) count outside
        (fun m below => Nat.lt_of_not_le (not_or.mp (before m below)).1)
      rw [all]
      refine ⟨?_, Option.some.inj result⟩
      cases count with
      | zero => exact (index_fits_iff 0).mpr (Nat.zero_le _)
      | succ earlier => exact not_not.mp (not_or.mp (before earlier (Nat.lt_succ_self earlier))).2
    · rw [flushResult, if_neg outside] at result
      cases result
  · intro condition
    obtain ⟨fits, rfl⟩ := condition
    have outside : size ≤ LINE * steps LINE size :=
      Nat.le_of_not_lt (fun below => Nat.lt_irrefl _ ((inside _).mpr below))
    refine ⟨steps LINE size, .inl outside, fun earlier below stopped => ?_, by rw [flushResult, if_pos outside]⟩
    rcases stopped with ended | beyond
    · exact Nat.not_lt.mpr ended ((inside earlier).mp below)
    · rw [index_fits_iff] at beyond fits
      omega

theorem last_index_fits_iff : indexFits (steps LINE size) ↔ size ≤ 2147483584 := by
  rw [index_fits_iff]
  unfold steps LINE
  omega

theorem strides_lines (count line : Nat) :
    line ∈ (strides buf count).map (fun address => address / LINE) ↔
      ∃ k, k < count ∧ (buf + LINE * k) / LINE = line := by
  simp [strides]

end Loop

theorem flushes_placed (buf size : Nat) (addresses : List Nat) (flushes : Flushes buf size addresses) :
    size = 0 ∨ size ≤ 2147483584 ∧ buf % LINE + (size - 1) % LINE < LINE := by
  obtain ⟨fits, rfl⟩ := (flush_ends_iff buf size addresses).mp flushes.ends
  have lines := flushes.lines
  simp only [strides_lines] at lines
  rcases (steps_meet_iff LINE buf size (by decide)).mp lines with empty | placed
  · exact .inl empty
  · exact .inr ⟨(last_index_fits_iff size).mp fits, placed⟩

theorem placed_flushes (buf size : Nat) (small : size ≤ 2147483584)
    (placed : size = 0 ∨ buf % LINE + (size - 1) % LINE < LINE) :
    Flushes buf size (strides buf (steps LINE size)) where
  ends := (flush_ends_iff buf size _).mpr ⟨(last_index_fits_iff size).mpr small, rfl⟩
  lines := by
    simp only [strides_lines]
    exact (steps_meet_iff LINE buf size (by decide)).mpr placed

theorem aligned_flushes (buf size : Nat) (aligned : buf % LINE = 0) (small : size ≤ 2147483584) :
    Flushes buf size (strides buf (steps LINE size)) := by
  refine placed_flushes buf size small (.inr ?_)
  rw [aligned, Nat.zero_add]
  exact Nat.mod_lt _ (by decide)

theorem flush_buf_iff (buf size : Nat) :
    (∃ addresses, Flushes buf size addresses) ↔
      size = 0 ∨ size ≤ 2147483584 ∧ buf % LINE + (size - 1) % LINE < LINE := by
  constructor
  · intro flushes
    obtain ⟨addresses, flushes⟩ := flushes
    exact flushes_placed buf size addresses flushes
  · intro condition
    rcases condition with empty | ⟨small, placed⟩
    · exact ⟨_, placed_flushes buf size (by omega) (.inl empty)⟩
    · exact ⟨_, placed_flushes buf size small (.inr placed)⟩

theorem half_line_missed :
    (¬ ∃ addresses, Flushes 32 64 addresses) ∧ ¬ ∃ addresses, Flushes 0 2147483585 addresses := by
  refine ⟨fun flushes => ?_, fun flushes => ?_⟩
  · obtain ⟨addresses, flushes⟩ := flushes
    exact absurd (flushes_placed 32 64 addresses flushes) (by decide)
  · obtain ⟨addresses, flushes⟩ := flushes
    exact absurd (flushes_placed 0 2147483585 addresses flushes) (by decide)

end SprAccelProfiling.FlushBuf
