import SprAccelProfiling.LatencyProgram
import SprAccelProfiling.ShellText
import Mathlib.Data.List.Infix

set_option autoImplicit false

namespace SprAccelProfiling.Report

open SprAccelProfiling.Latency SprAccelProfiling.ShellText

abbrev Text := List Char

section Tools

def grep (pattern : Text) (lines : List Text) : List Text := lines.filter (fun line => decide (pattern <:+: line))

-- awk -F, '{print $i}'
def field (line : Text) (i : Nat) : Text := (line.splitOn ',').getD (i - 1) []

def cut (columns : List Nat) (line : Text) : Text := [','].intercalate (columns.map (field line))

-- sort -g compares the numbers that lines start with, and a line without one comes first.
def key (line : Text) : Nat :=
  match line.takeWhile Char.isDigit with
  | [] => 0
  | first :: rest => Nat.ofDigitChars 10 (first :: rest) 0 + 1

-- The order of lines with equal keys is left to the locale.
structure Sorted (lines log : List Text) : Prop where
  perm : log.Perm lines
  ordered : log.Pairwise (fun a b => key a ≤ key b)

theorem grep_perm (pattern : Text) (a b : List Text) (same : a.Perm b) : (grep pattern a).Perm (grep pattern b) :=
  same.filter _

theorem keyless_first (lines : List Text) (ordered : lines.Pairwise (fun a b => key a ≤ key b)) :
    lines = lines.filter (fun line => key line = 0) ++ lines.filter (fun line => ¬ key line = 0) := by
  induction lines with
  | nil => rfl
  | cons head rest ih =>
      obtain ⟨least, tail⟩ := List.pairwise_cons.mp ordered
      by_cases zero : key head = 0
      · rw [List.filter_cons_of_pos (by simpa using zero), List.filter_cons_of_neg (by simpa using zero),
          List.cons_append, ← ih tail]
      · have none : rest.filter (fun line => key line = 0) = [] := by
          rw [List.filter_eq_nil_iff]
          intro line member
          have above := least line member
          simp only [decide_eq_true_eq]
          omega
        have whole := ih tail
        rw [none, List.nil_append] at whole
        rw [List.filter_cons_of_neg (by simpa using zero), List.filter_cons_of_pos (by simpa using zero), none,
          List.nil_append, ← whole]

theorem keyed_order (a b : List Text) (perm : a.Perm b) (left : a.Pairwise (fun x y => key x ≤ key y))
    (right : b.Pairwise (fun x y => key x < key y)) : a = b := by
  apply List.Perm.eq_of_pairwise _ left (right.imp Nat.le_of_lt) perm
  intro x y inA inB below above
  have inB' : x ∈ b := perm.mem_iff.mp inA
  by_contra differ
  rcases List.pairwise_iff_getElem.mp right with ordered
  obtain ⟨i, iWithin, rfl⟩ := List.getElem_of_mem inB'
  obtain ⟨j, jWithin, rfl⟩ := List.getElem_of_mem inB
  rcases Nat.lt_trichotomy i j with before | same | after
  · have := ordered i j iWithin jWithin before
    omega
  · subst same
    exact differ rfl
  · have := ordered j i jWithin iWithin after
    omega

end Tools

section Texts

variable (formatted : Rat → Text)

-- %f prints a number, inf or nan.
def Plain : Prop := ∀ ratio, ∀ c ∈ formatted ratio, c.isDigit = true ∨ c ∈ "-.infa".toList

def int (n : Int) : Text := (toString n).toList

-- %ld takes the 64 bits of a uint64_t for a signed number.
def ld (n : Nat) : Text := int (Int.bmod n (2 ^ 64))

def directionText : Direction → Text
  | .Compress => "Compress".toList
  | .Decompress => "Decompress".toList

def rowText (row : Row) : Text :=
  digits row.size ++ ',' :: (int row.level ++ ',' :: (formatted row.avg_ratio ++ ',' :: (directionText row.direction ++
    ',' :: (ld row.avg_time ++ ',' :: ld row.max_time))))

def warningText : Text :=
  "Warning: corpus file is smaller than payload size -- results may be skewed".toList

def headerText : Text := "Size,Level,AvgRatio,Direction,AvgLatency,MaxLatency".toList

def uncompressedText : Text := "Error: Compression failed".toList

def lineText : Line → Text
  | .openFailed filename => "Failed to open file:".toList ++ filename.toList
  | .smaller => warningText
  | .iterations num_iters => "num iterations:".toList ++ digits num_iters
  | .bufs num_bufs => "num bufs:".toList ++ digits num_bufs
  | .compressionFailed none => uncompressedText
  | .compressionFailed (some status) => uncompressedText ++ (": ".toList ++ int status)
  | .header => headerText
  | .row row => rowText formatted row
  | .decompressionFailed status => "Error: Decompression failed: ".toList ++ int status
  | .mismatch buffer index =>
      "Error: Decompression mismatch buffer:".toList ++ (int buffer ++ (" index:".toList ++ (int index ++ [' '])))

-- A crash loses what is still in the buffer of the output, which is no terminal here.
def delivered : List Line × Except Stop Unit → List Line
  | (lines, .ok _) => lines
  | (lines, .error (.exit _)) => lines
  | (_, .error _) => []

def rowKept (direction : Direction) : Line → Option Row
  | .row row => if row.direction = direction then some row else none
  | _ => none

def rowsOf (direction : Direction) (report : List Line × Except Stop Unit) : List Row :=
  (delivered report).filterMap (rowKept direction)

def complains (direction : Direction) : Line → Bool
  | .compressionFailed _ => direction == .Compress
  | .decompressionFailed _ => direction == .Decompress
  | .mismatch _ _ => direction == .Decompress
  | _ => false

def complaintsOf (direction : Direction) (report : List Line × Except Stop Unit) : List Line :=
  (delivered report).filter (complains direction)

theorem int_characters (n : Int) (c : Char) (inside : c ∈ int n) : c.isDigit = true ∨ c = '-' :=
  to_string_signed n c inside

theorem digit_or_minus (c : Char) (outside : c ∈ [',', 'C', 'D']) (inside : c.isDigit = true ∨ c = '-') : False := by
  simp only [List.mem_cons, List.not_mem_nil, or_false] at outside
  rcases outside with rfl | rfl | rfl <;> exact absurd inside (by decide)

theorem int_avoids (n : Int) (c : Char) (outside : c ∈ [',', 'C', 'D']) : c ∉ int n :=
  fun inside => digit_or_minus c outside (int_characters n c inside)

theorem digits_avoid (n : Nat) (c : Char) (outside : c ∈ [',', 'C', 'D']) : c ∉ digits n :=
  fun inside => digit_or_minus c outside (.inl (digits_digit n c inside))

theorem formatted_avoids (plain : Plain formatted) (ratio : Rat) (c : Char) (outside : c ∈ [',', 'C', 'D']) :
    c ∉ formatted ratio := by
  intro inside
  have characters := plain ratio c inside
  simp only [List.mem_cons, List.not_mem_nil, or_false] at outside
  rcases outside with rfl | rfl | rfl <;> exact absurd characters (by decide)

theorem direction_avoids (direction : Direction) (c : Char) (outside : c = ',') : c ∉ directionText direction := by
  subst outside
  cases direction <;> decide

theorem key_row (row : Row) : key (rowText formatted row) = row.size + 1 := by
  have run : (rowText formatted row).takeWhile Char.isDigit = digits row.size := by
    rw [rowText, List.takeWhile_append_of_pos (digits_digit row.size), List.takeWhile_cons_of_neg (by decide),
      List.append_nil]
  rw [key, run]
  cases read : digits row.size with
  | nil => exact absurd read (digits_nonempty row.size)
  | cons first rest =>
      show Nat.ofDigitChars 10 (first :: rest) 0 + 1 = row.size + 1
      rw [← read, digits, Nat.ofDigitChars_ten_toDigits]

theorem key_letter (first : Char) (rest : Text) (letter : first.isDigit = false) : key (first :: rest) = 0 := by
  rw [key, List.takeWhile_cons_of_neg (by simp [letter])]

theorem key_line (line : Line) : key (lineText formatted line) =
    match line with
    | .row row => row.size + 1
    | _ => 0 := by
  cases line with
  | row row => exact key_row formatted row
  | openFailed filename => exact key_letter 'F' _ (by decide)
  | smaller => exact key_letter 'W' _ (by decide)
  | iterations num_iters => exact key_letter 'n' _ (by decide)
  | bufs num_bufs => exact key_letter 'n' _ (by decide)
  | compressionFailed status => cases status <;> exact key_letter 'E' _ (by decide)
  | header => exact key_letter 'S' _ (by decide)
  | decompressionFailed status => exact key_letter 'E' _ (by decide)
  | mismatch buffer index => exact key_letter 'E' _ (by decide)

def mark : Direction → Char
  | .Compress => 'C'
  | .Decompress => 'D'

theorem unmarked_unfound (direction : Direction) (line : Text) (unmarked : mark direction ∉ line) :
    ¬ directionText direction <:+: line := by
  intro found
  apply unmarked
  apply found.subset
  cases direction <;> decide

theorem avoid_append (c : Char) (a b : Text) (left : c ∉ a) (right : c ∉ b) : c ∉ a ++ b :=
  fun inside => (List.mem_append.mp inside).elim left right

theorem mark_outside (direction : Direction) : mark direction ∈ [',', 'C', 'D'] := by
  cases direction <;> decide

theorem mark_not_comma (direction : Direction) : mark direction ≠ ',' := by
  cases direction <;> decide

theorem row_unmarked (plain : Plain formatted) (row : Row) (direction : Direction) (other : row.direction ≠ direction) :
    mark direction ∉ rowText formatted row := by
  have outside := mark_outside direction
  have own : mark direction ∉ directionText row.direction := by
    cases direction <;> cases sense : row.direction <;> simp_all <;> decide
  simp only [rowText, List.mem_append, List.mem_cons, not_or]
  exact ⟨digits_avoid _ _ outside, mark_not_comma direction, int_avoids _ _ outside, mark_not_comma direction,
    formatted_avoids formatted plain _ _ outside, mark_not_comma direction, own, mark_not_comma direction,
    int_avoids _ _ outside, mark_not_comma direction, int_avoids _ _ outside⟩

theorem row_found (row : Row) : directionText row.direction <:+: rowText formatted row :=
  ⟨digits row.size ++ ',' :: (int row.level ++ ',' :: (formatted row.avg_ratio ++ [','])),
    ',' :: (ld row.avg_time ++ ',' :: ld row.max_time), by simp [rowText]⟩

def isRow (direction : Direction) : Line → Bool
  | .row row => decide (row.direction = direction)
  | _ => false

def Quiet (direction : Direction) (line : Line) : Prop :=
  ∀ filename, line = .openFailed filename → mark direction ∉ filename.toList

theorem found_iff (plain : Plain formatted) (direction : Direction) (line : Line) (quiet : Quiet direction line) :
    directionText direction <:+: lineText formatted line ↔ isRow direction line = true ∨ complains direction line = true := by
  have outside := mark_outside direction
  cases line with
  | openFailed filename =>
      refine iff_of_false (unmarked_unfound direction _ (avoid_append _ _ _ ?_ (quiet filename rfl)))
        (by simp [isRow, complains])
      cases direction <;> decide
  | row row =>
      simp only [isRow, complains, decide_eq_true_eq, Bool.false_eq_true, or_false]
      refine ⟨fun found => ?_, fun same => same ▸ row_found formatted row⟩
      by_contra other
      exact unmarked_unfound direction _ (row_unmarked formatted plain row direction other) found
  | smaller =>
      refine iff_of_false (unmarked_unfound direction warningText ?_) (by simp [isRow, complains])
      cases direction <;> decide
  | iterations num_iters =>
      refine iff_of_false (unmarked_unfound direction _ (avoid_append _ _ _ ?_ (digits_avoid _ _ outside)))
        (by simp [isRow, complains])
      cases direction <;> decide
  | bufs num_bufs =>
      refine iff_of_false (unmarked_unfound direction _ (avoid_append _ _ _ ?_ (digits_avoid _ _ outside)))
        (by simp [isRow, complains])
      cases direction <;> decide
  | header =>
      refine iff_of_false (?_ : ¬ directionText direction <:+: headerText) (by simp [isRow, complains])
      cases direction <;> decide
  | compressionFailed status =>
      cases direction with
      | Compress =>
          refine iff_of_true ?_ (.inr rfl)
          cases status with
          | none => exact ⟨"Error: ".toList, "ion failed".toList, rfl⟩
          | some status => exact ⟨"Error: ".toList, "ion failed: ".toList ++ int status, rfl⟩
      | Decompress =>
          have unmarked : mark .Decompress ∉ uncompressedText := by decide
          refine iff_of_false (unmarked_unfound .Decompress _ ?_) (by simp [isRow, complains])
          cases status with
          | none => exact unmarked
          | some status =>
              exact avoid_append _ _ _ unmarked (avoid_append _ _ _ (by decide) (int_avoids _ _ outside))
  | decompressionFailed status =>
      cases direction with
      | Compress =>
          exact iff_of_false (unmarked_unfound .Compress _ (avoid_append _ _ _ (by decide) (int_avoids _ _ outside)))
            (by simp [isRow, complains])
      | Decompress =>
          exact iff_of_true ⟨"Error: ".toList, "ion failed: ".toList ++ int status, rfl⟩ (.inr rfl)
  | mismatch buffer index =>
      cases direction with
      | Compress =>
          refine iff_of_false (unmarked_unfound .Compress _ ?_) (by simp [isRow, complains])
          refine avoid_append _ _ _ (by decide) (avoid_append _ _ _ (int_avoids _ _ outside) ?_)
          exact avoid_append _ _ _ (by decide) (avoid_append _ _ _ (int_avoids _ _ outside) (by decide))
      | Decompress =>
          exact iff_of_true ⟨"Error: ".toList, "ion mismatch buffer:".toList ++
            (int buffer ++ (" index:".toList ++ (int index ++ [' ']))), rfl⟩ (.inr rfl)

def cells (row : Row) : List Text :=
  [digits row.size, int row.level, formatted row.avg_ratio, directionText row.direction, ld row.avg_time, ld row.max_time]

def pick (columns : List Nat) (fields : List Text) : Text :=
  [','].intercalate (columns.map (fun i => fields.getD (i - 1) []))

theorem ld_avoids (n : Nat) (c : Char) (outside : c ∈ [',', 'C', 'D']) : c ∉ ld n := int_avoids _ c outside

theorem split_row (plain : Plain formatted) (row : Row) : (rowText formatted row).splitOn ',' = cells formatted row := by
  have comma : ',' ∈ [',', 'C', 'D'] := List.mem_cons_self
  rw [rowText, List.splitOn_append_cons_self_of_not_mem (digits_avoid _ _ comma),
    List.splitOn_append_cons_self_of_not_mem (int_avoids _ _ comma),
    List.splitOn_append_cons_self_of_not_mem (formatted_avoids formatted plain _ _ comma),
    List.splitOn_append_cons_self_of_not_mem (direction_avoids _ _ rfl),
    List.splitOn_append_cons_self_of_not_mem (ld_avoids _ _ comma),
    List.splitOn_eq_singleton (ld_avoids _ _ comma), cells]

theorem cut_row (plain : Plain formatted) (columns : List Nat) (row : Row) :
    cut columns (rowText formatted row) = pick columns (cells formatted row) := by
  rw [cut, pick]
  congr 1
  exact List.map_congr_left (fun i _ => by rw [field, split_row formatted plain row])

theorem complaint_comma (direction : Direction) (line : Line) (complaining : complains direction line = true) :
    ',' ∉ lineText formatted line := by
  have comma : ',' ∈ [',', 'C', 'D'] := List.mem_cons_self
  cases line with
  | compressionFailed status =>
      have plain : ',' ∉ uncompressedText := by decide
      cases status with
      | none => exact plain
      | some status => exact avoid_append _ _ _ plain (avoid_append _ _ _ (by decide) (int_avoids _ _ comma))
  | decompressionFailed status => exact avoid_append _ _ _ (by decide) (int_avoids _ _ comma)
  | mismatch buffer index =>
      refine avoid_append _ _ _ (by decide) (avoid_append _ _ _ (int_avoids _ _ comma) ?_)
      exact avoid_append _ _ _ (by decide) (avoid_append _ _ _ (int_avoids _ _ comma) (by decide))
  | openFailed filename => cases complaining
  | smaller => cases complaining
  | iterations num_iters => cases complaining
  | bufs num_bufs => cases complaining
  | header => cases complaining
  | row row => cases complaining

theorem cut_complaint (columns : List Nat) (direction : Direction) (line : Line)
    (complaining : complains direction line = true) :
    cut columns (lineText formatted line) = pick columns [lineText formatted line] := by
  rw [cut, pick]
  congr 1
  exact List.map_congr_left (fun i _ => by
    rw [field, List.splitOn_eq_singleton (complaint_comma formatted direction line complaining)])

end Texts

inductive Script where
  | random
  | calgary
  | ratios
deriving DecidableEq

def Script.harness : Script → Harness
  | .random => .isal
  | .calgary => .isal
  | .ratios => .zlib

-- echo > decomp_output
def Script.before : Script → List Text
  | .random => [[]]
  | .calgary => []
  | .ratios => []

def sizes : List Nat := (List.range' 8 14).map (fun i => 1 <<< i)

def Script.runs : Script → List (Nat × String)
  | .random => sizes.map (fun size => (size, "foo.bin"))
  | .calgary => sizes.map (fun size => (size, "./calgary"))
  | .ratios => [(4096, "r_1"), (4096, "r_2"), (4096, "r_4"), (4096, "r_8")]

def Script.columns : Script → List Nat
  | .random => [1, 5]
  | .calgary => [1, 5]
  | .ratios => [1, 3, 5]

structure World (σ : Type) (size : Nat) where
  file : Option Latency.Bytes
  malloc : Corpus.Malloc size
  storage : ∀ count, Storage σ size count
  nanos : Nat → UInt64
  loadFuel : Nat
  fuel : Nat

section Tables

variable {σ : Type} (codec : Deflater σ) (inflater : Inflater) (formatted : Rat → Text) (script : Script)
  (world : (run : Nat × String) → World σ run.1)

def reportOf (run : Nat × String) : List Line × Except Stop Unit :=
  program script.harness codec inflater run.1 (world run).loadFuel (world run).fuel 1000 run.2 (world run).file
    (world run).malloc (world run).storage (world run).nanos

def endingOf (run : Nat × String) : Ending :=
  programEnding script.harness codec inflater run.1 (world run).loadFuel (world run).fuel 1000 (world run).file
    (world run).malloc (world run).storage (world run).nanos

def shown (run : Nat × String) : List Line := delivered (reportOf codec inflater script world run)

def printed : List Text := script.before ++ (script.runs.flatMap (shown codec inflater script world)).map (lineText formatted)

-- grep direction log | awk -F, ...
def table (direction : Direction) (log : List Text) : List Text :=
  (grep (directionText direction) log).map (cut script.columns)

def rowsShown (direction : Direction) : List Row :=
  script.runs.flatMap (fun run => rowsOf direction (reportOf codec inflater script world run))

def complaintsShown (direction : Direction) : List Line :=
  script.runs.flatMap (fun run => complaintsOf direction (reportOf codec inflater script world run))

theorem row_kept_text (direction : Direction) (line : Line) : (rowKept direction line).map (rowText formatted) =
    if isRow direction line then some (lineText formatted line) else none := by
  cases line with
  | row row =>
      have hit : isRow direction (.row row) = decide (row.direction = direction) := rfl
      by_cases same : row.direction = direction
      · rw [hit, decide_eq_true same, if_pos rfl, rowKept, if_pos same]
        rfl
      · rw [hit, decide_eq_false same, if_neg Bool.false_ne_true, rowKept, if_neg same, Option.map_none]
  | _ => rfl

theorem rows_of_lines (direction : Direction) (lines : List Line) :
    (lines.filter (isRow direction)).map (lineText formatted) =
      (lines.filterMap (rowKept direction)).map (rowText formatted) := by
  rw [List.map_filterMap]
  simp only [row_kept_text]
  induction lines with
  | nil => rfl
  | cons line rest ih =>
      cases hit : isRow direction line with
      | true => rw [List.filter_cons_of_pos hit, List.map_cons, ih, List.filterMap_cons_some (by rw [hit]; rfl)]
      | false => rw [List.filter_cons_of_neg (by rw [hit]; decide), ih, List.filterMap_cons_none (by rw [hit]; rfl)]

theorem found_decided (plain : Plain formatted) (direction : Direction) (line : Line) (quiet : Quiet direction line) :
    decide (directionText direction <:+: lineText formatted line) = (isRow direction line || complains direction line) := by
  rw [Bool.eq_iff_iff, decide_eq_true_eq, Bool.or_eq_true]
  exact found_iff formatted plain direction line quiet

theorem found_keyed (plain : Plain formatted) (direction : Direction) (lines : List Line)
    (quiet : ∀ line ∈ lines, Quiet direction line) :
    (grep (directionText direction) (lines.map (lineText formatted))).filter (fun line => ¬ key line = 0) =
        (lines.filterMap (rowKept direction)).map (rowText formatted) ∧
      (grep (directionText direction) (lines.map (lineText formatted))).filter (fun line => key line = 0) =
        (lines.filter (complains direction)).map (lineText formatted) := by
  rw [← rows_of_lines, grep, List.filter_map, List.filter_map, List.filter_map, List.filter_filter, List.filter_filter]
  refine ⟨congrArg (List.map (lineText formatted)) (List.filter_congr (fun line member => ?_)),
    congrArg (List.map (lineText formatted)) (List.filter_congr (fun line member => ?_))⟩
  · show (decide (¬ key (lineText formatted line) = 0) && decide (directionText direction <:+: lineText formatted line)) =
      isRow direction line
    rw [found_decided formatted plain direction line (quiet line member), key_line]
    cases line with
    | row row => simp [isRow, complains]
    | _ => simp [isRow]
  · show (decide (key (lineText formatted line) = 0) && decide (directionText direction <:+: lineText formatted line)) =
      complains direction line
    rw [found_decided formatted plain direction line (quiet line member), key_line]
    cases line with
    | row row => simp [complains]
    | _ => simp [isRow]

theorem script_quiet (direction : Direction) : ∀ run ∈ script.runs, mark direction ∉ run.2.toList := by
  cases script <;> cases direction <;> decide

theorem crash_delivers (lines : List Line) (stop : Stop) (signal : ∀ code, stop ≠ .exit code) :
    delivered (lines, .error stop) = [] := by
  cases stop with
  | exit code => exact absurd rfl (signal code)
  | abort => rfl
  | divisionByZero => rfl
  | overrun => rfl
  | unfinished => rfl

inductive Findings (size : Nat) (report : List Line × Except Stop Unit) : Ending → Prop where
  | unopened (status : report.2 = .error (.exit (-1))) (rows : ∀ direction, rowsOf direction report = [])
      (complaints : ∀ direction, complaintsOf direction report = []) : Findings size report .unopened
  | crashed (stop : Stop) (status : report.2 = .error stop) (signal : ∀ code, stop ≠ .exit code)
      (rows : ∀ direction, rowsOf direction report = []) (complaints : ∀ direction, complaintsOf direction report = []) :
      Findings size report (.crashed stop)
  | uncompressed (status : report.2 = .error (.exit (-1))) (answer : Option Int)
      (rows : ∀ direction, rowsOf direction report = [])
      (compress : complaintsOf .Compress report = [.compressionFailed answer])
      (decompress : complaintsOf .Decompress report = []) : Findings size report .uncompressed
  | undecompressed (status : report.2 = .error (.exit (-1))) (first : Row) (own : first.size = size)
      (rows : rowsOf .Compress report = [first]) (none : rowsOf .Decompress report = [])
      (compress : complaintsOf .Compress report = [])
      (decompress : (∃ answer, complaintsOf .Decompress report = [.decompressionFailed answer]) ∨
        ∃ index, complaintsOf .Decompress report = [.mismatch 0 index]) : Findings size report .undecompressed
  | returned (status : report.2 = .ok ()) (first second : Row) (own : first.size = size ∧ second.size = size)
      (ratio : first.avg_ratio = second.avg_ratio) (rows : rowsOf .Compress report = [first])
      (others : rowsOf .Decompress report = [second]) (complaints : ∀ direction, complaintsOf direction report = []) :
      Findings size report .returned

theorem opening_silent (rounds count : Nat) (warned : List Line) (plain : warned = [] ∨ warned = [.smaller])
    (direction : Direction) (rest : List Line) :
    (warned ++ [Line.iterations rounds, .bufs count] ++ rest).filterMap (rowKept direction) =
        rest.filterMap (rowKept direction) ∧
      (warned ++ [Line.iterations rounds, .bufs count] ++ rest).filter (complains direction) =
        rest.filter (complains direction) := by
  rcases plain with rfl | rfl
  · exact ⟨rfl, rfl⟩
  · exact ⟨rfl, rfl⟩

theorem undecompressed_findings (size rounds count : Nat) (warned : List Line) (plain : warned = [] ∨ warned = [.smaller])
    (first : Row) (words : Line) (own : first.size = size ∧ first.direction = .Compress)
    (failed : (∃ status, words = .decompressionFailed status) ∨ ∃ index, words = .mismatch 0 index) :
    Findings size (warned ++ [.iterations rounds, .bufs count] ++ [.header, .row first, words], .error (.exit (-1)))
      .undecompressed := by
  obtain ⟨same, sense⟩ := own
  have silent := opening_silent rounds count warned plain
  have rows : ∀ direction, [Line.header, .row first, words].filterMap (rowKept direction) =
      if direction = .Compress then [first] else [] := by
    intro direction
    rcases failed with ⟨_, rfl⟩ | ⟨_, rfl⟩ <;> cases direction <;> simp [List.filterMap_cons, rowKept, sense]
  have complaints : ∀ direction, [Line.header, .row first, words].filter (complains direction) =
      if direction = .Decompress then [words] else [] := by
    intro direction
    rcases failed with ⟨_, rfl⟩ | ⟨_, rfl⟩ <;> cases direction <;> rfl
  refine .undecompressed rfl first same ((silent .Compress _).1.trans (rows .Compress))
    ((silent .Decompress _).1.trans (rows .Decompress)) ((silent .Compress _).2.trans (complaints .Compress)) ?_
  have complained := (silent .Decompress _).2.trans (complaints .Decompress)
  rcases failed with ⟨status, rfl⟩ | ⟨index, rfl⟩
  · exact .inl ⟨status, complained⟩
  · exact .inr ⟨index, complained⟩

theorem transcript_findings (size rounds count : Nat) (warned : List Line) (ending : Ending)
    (report : List Line × Except Stop Unit) (plain : warned = [] ∨ warned = [.smaller])
    (transcript : Transcript size (warned ++ [.iterations rounds, .bufs count]) ending report) :
    Findings size report ending := by
  cases transcript with
  | crashed lines stop signal =>
      have lost := crash_delivers lines stop signal
      exact .crashed stop rfl signal (fun direction => by rw [rowsOf, lost]; rfl)
        (fun direction => by rw [complaintsOf, lost]; rfl)
  | uncompressed status =>
      have silent := opening_silent rounds count warned plain
      exact .uncompressed rfl status (fun direction => (silent direction _).1) (silent .Compress _).2 (silent .Decompress _).2
  | undecoded first status own =>
      exact undecompressed_findings size rounds count warned plain first _ own (.inl ⟨status, rfl⟩)
  | mismatched first index own =>
      exact undecompressed_findings size rounds count warned plain first _ own (.inr ⟨index, rfl⟩)
  | complete first second own other ratio =>
      have silent := opening_silent rounds count warned plain
      refine .returned rfl first second ⟨own.1, other.1⟩ ratio ?_ ?_ (fun direction => (silent direction _).2)
      · rw [rowsOf, delivered, (silent .Compress _).1]
        simp [List.filterMap_cons, rowKept, own.2, other.2]
      · rw [rowsOf, delivered, (silent .Decompress _).1]
        simp [List.filterMap_cons, rowKept, own.2, other.2]

theorem transcript_opened (size rounds count : Nat) (warned : List Line) (ending : Ending)
    (report : List Line × Except Stop Unit) (plain : warned = [] ∨ warned = [.smaller])
    (transcript : Transcript size (warned ++ [.iterations rounds, .bufs count]) ending report) (filename : String) :
    .openFailed filename ∉ delivered report := by
  cases transcript with
  | crashed lines stop signal =>
      rw [crash_delivers lines stop signal]
      exact List.not_mem_nil
  | uncompressed status => rcases plain with rfl | rfl <;> simp [delivered]
  | undecoded first status own => rcases plain with rfl | rfl <;> simp [delivered]
  | mismatched first index own => rcases plain with rfl | rfl <;> simp [delivered]
  | complete first second own other ratio => rcases plain with rfl | rfl <;> simp [delivered]

theorem run_findings (run : Nat × String) :
    Findings run.1 (reportOf codec inflater script world run) (endingOf codec inflater script world run) := by
  cases found : (world run).file with
  | none =>
      simp only [reportOf, endingOf, found]
      exact .unopened rfl (fun _ => rfl) (fun _ => rfl)
  | some content =>
      obtain ⟨warned, rounds, count, plain, transcript⟩ := program_transcript script.harness codec inflater run.1
        (world run).loadFuel (world run).fuel 1000 run.2 content (world run).malloc (world run).storage (world run).nanos
      rw [reportOf, endingOf, found]
      exact transcript_findings run.1 rounds count warned _ _ plain transcript

theorem report_findings (run : Nat × String) :
    Findings run.1 (reportOf codec inflater script world run) (endingOf codec inflater script world run) ∧
      (rowsOf .Decompress (reportOf codec inflater script world run) ≠ [] ↔
        (reportOf codec inflater script world run).2 = .ok ()) ∧
      (rowsOf .Compress (reportOf codec inflater script world run) ≠ [] ↔
        endingOf codec inflater script world run = .undecompressed ∨
          endingOf codec inflater script world run = .returned) := by
  have findings := run_findings codec inflater script world run
  refine ⟨findings, ?_⟩
  revert findings
  generalize reportOf codec inflater script world run = report
  generalize endingOf codec inflater script world run = ending
  intro findings
  cases findings with
  | unopened status rows _ => simp [rows, status]
  | crashed stop status _ rows _ => simp [rows, status]
  | uncompressed status _ rows _ _ => simp [rows, status]
  | undecompressed status first _ rows none _ _ => simp [rows, none, status]
  | returned status first second _ _ rows others _ => simp [rows, others, status]

theorem runs_quiet (direction : Direction) (run : Nat × String) (listed : run ∈ script.runs) :
    ∀ line ∈ shown codec inflater script world run, Quiet direction line := by
  intro line member filename opened
  subst opened
  cases found : (world run).file with
  | none =>
      rw [shown, reportOf, found] at member
      cases List.mem_singleton.mp member
      exact script_quiet script direction run listed
  | some content =>
      obtain ⟨warned, rounds, count, plain, transcript⟩ := program_transcript script.harness codec inflater run.1
        (world run).loadFuel (world run).fuel 1000 run.2 content (world run).malloc (world run).storage (world run).nanos
      rw [shown, reportOf, found] at member
      exact absurd member (transcript_opened run.1 rounds count warned _ _ plain transcript filename)

theorem blank_unfound (direction : Direction) : grep (directionText direction) script.before = [] := by
  cases script <;> cases direction <;> decide

theorem grep_keyed (plain : Plain formatted) (direction : Direction) (log : List Text)
    (sorted : Sorted (printed codec inflater formatted script world) log) :
    ((grep (directionText direction) log).filter (fun line => ¬ key line = 0)).Perm
        ((rowsShown codec inflater script world direction).map (rowText formatted)) ∧
      ((grep (directionText direction) log).filter (fun line => key line = 0)).Perm
        ((complaintsShown codec inflater script world direction).map (lineText formatted)) := by
  have same := grep_perm (directionText direction) log _ sorted.perm
  rw [printed, grep, grep, List.filter_append, ← grep, ← grep, ← grep, blank_unfound, List.nil_append] at same
  obtain ⟨rows, complaints⟩ := found_keyed formatted plain direction
    (script.runs.flatMap (shown codec inflater script world)) (fun line member => by
      obtain ⟨run, listed, inside⟩ := List.mem_flatMap.mp member
      exact runs_quiet codec inflater script world direction run listed line inside)
  refine ⟨(same.filter _).trans (List.Perm.of_eq ?_), (same.filter _).trans (List.Perm.of_eq ?_)⟩
  · rw [rows, List.filterMap_flatMap]
    rfl
  · rw [complaints, List.filter_flatMap]
    rfl

theorem sweep_ascending (swept : script ≠ .ratios) : script.runs.Pairwise (fun a b => a.1 < b.1) := by
  cases script with
  | random => decide
  | calgary => decide
  | ratios => exact absurd rfl swept

theorem rows_sized (direction : Direction) (run : Nat × String) :
    (rowsOf direction (reportOf codec inflater script world run)).Pairwise (fun _ _ => False) ∧
      ∀ row ∈ rowsOf direction (reportOf codec inflater script world run), row.size = run.1 := by
  obtain ⟨ending, findings⟩ : ∃ ending, Findings run.1 (reportOf codec inflater script world run) ending :=
    ⟨_, run_findings codec inflater script world run⟩
  cases findings with
  | unopened _ rows _ => simp [rows direction]
  | crashed _ _ _ rows _ => simp [rows direction]
  | uncompressed _ _ rows _ _ => simp [rows direction]
  | undecompressed _ first own rows none _ _ =>
      cases direction with
      | Compress => simp [rows, own]
      | Decompress => simp [none]
  | returned _ first second own _ rows others _ =>
      cases direction with
      | Compress => simp [rows, own.1]
      | Decompress => simp [others, own.2]

theorem rows_ascending (direction : Direction) (swept : script ≠ .ratios) :
    ((rowsShown codec inflater script world direction).map (rowText formatted)).Pairwise (fun a b => key a < key b) := by
  rw [List.pairwise_map, rowsShown, List.pairwise_flatMap]
  refine ⟨fun run _ => (rows_sized codec inflater script world direction run).1.imp False.elim, ?_⟩
  refine (sweep_ascending script swept).imp (fun below row inFirst other inSecond => ?_)
  rw [key_row, key_row, (rows_sized codec inflater script world direction _).2 row inFirst,
    (rows_sized codec inflater script world direction _).2 other inSecond]
  exact Nat.succ_lt_succ below

theorem script_tables (plain : Plain formatted) (direction : Direction) (log : List Text)
    (sorted : Sorted (printed codec inflater formatted script world) log) :
    ∃ garbage rows, table script direction log = garbage ++ rows ∧
      garbage.Perm ((complaintsShown codec inflater script world direction).map
        (fun line => pick script.columns [lineText formatted line])) ∧
      rows.Perm ((rowsShown codec inflater script world direction).map
        (fun row => pick script.columns (cells formatted row))) ∧
      (script ≠ .ratios → rows = (rowsShown codec inflater script world direction).map
        (fun row => pick script.columns (cells formatted row))) := by
  obtain ⟨keyed, keyless⟩ := grep_keyed codec inflater formatted script world plain direction log sorted
  have ordered : (grep (directionText direction) log).Pairwise (fun a b => key a ≤ key b) :=
    sorted.ordered.sublist List.filter_sublist
  have cuts : ((rowsShown codec inflater script world direction).map (rowText formatted)).map (cut script.columns) =
      (rowsShown codec inflater script world direction).map (fun row => pick script.columns (cells formatted row)) := by
    rw [List.map_map]
    exact List.map_congr_left (fun row _ => cut_row formatted plain script.columns row)
  have complaints : ((complaintsShown codec inflater script world direction).map (lineText formatted)).map
      (cut script.columns) = (complaintsShown codec inflater script world direction).map
        (fun line => pick script.columns [lineText formatted line]) := by
    rw [List.map_map]
    refine List.map_congr_left (fun line member => ?_)
    obtain ⟨run, _, inside⟩ := List.mem_flatMap.mp member
    exact cut_complaint formatted script.columns direction line (List.mem_filter.mp inside).2
  refine ⟨_, _, ?_, complaints ▸ keyless.map (cut script.columns), cuts ▸ keyed.map (cut script.columns), fun swept => ?_⟩
  · exact (congrArg (List.map (cut script.columns)) (keyless_first _ ordered)).trans List.map_append
  · have exact_order := keyed_order _ _ keyed (ordered.sublist List.filter_sublist)
      (rows_ascending codec inflater formatted script world direction swept)
    rw [exact_order, cuts]

end Tables

def sortKeys (lines : List Text) : List Text := lines.mergeSort (fun a b => decide (key a ≤ key b))

theorem sort_keys_sorted (lines : List Text) : Sorted lines (sortKeys lines) where
  perm := List.mergeSort_perm lines _
  ordered := by
    have ordered := @List.pairwise_mergeSort Text (fun a b => decide (key a ≤ key b))
      (fun a b c first second => by
        simp only [decide_eq_true_eq] at first second ⊢
        exact first.trans second)
      (fun a b => by
        simp only [Bool.or_eq_true, decide_eq_true_eq]
        exact Nat.le_total _ _) lines
    exact ordered.imp (fun below => of_decide_eq_true below)

def quarter (_ : Rat) : Text := ['0', '.', '2', '5', '0', '0', '0', '0']

def sevensWorld (run : Nat × String) : World (Option Latency.Bytes) run.1 where
  file := some (List.replicate (2 ^ 21) 7)
  malloc := Corpus.cleared run.1
  storage := blankStorage run.1
  nanos := fun _ => 0
  loadFuel := 1
  fuel := 1

theorem quarter_plain : Plain quarter := by
  intro ratio c inside
  simp only [quarter, List.mem_cons, List.not_mem_nil, or_false] at inside
  rcases inside with rfl | rfl | rfl | rfl | rfl | rfl | rfl | rfl <;> decide

def sevens : Inflater := Harness.isal.answering (List.replicate (2 ^ 21) 7)

theorem calgary_tables : ∃ garbage rows,
    table .calgary .Decompress (sortKeys (printed (Harness.isal.storing (padTo 9)) sevens quarter .calgary sevensWorld)) =
        garbage ++ rows ∧
      garbage.Perm ((complaintsShown (Harness.isal.storing (padTo 9)) sevens .calgary sevensWorld .Decompress).map
        (fun line => pick [1, 5] [lineText quarter line])) ∧
      rows = (rowsShown (Harness.isal.storing (padTo 9)) sevens .calgary sevensWorld .Decompress).map
        (fun row => pick [1, 5] (cells quarter row)) := by
  obtain ⟨garbage, rows, split, complaints, _, ordered⟩ := script_tables (Harness.isal.storing (padTo 9)) sevens quarter
    .calgary sevensWorld quarter_plain .Decompress _ (sort_keys_sorted _)
  exact ⟨garbage, rows, split, complaints, ordered nofun⟩

end SprAccelProfiling.Report
