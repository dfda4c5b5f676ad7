import Mathlib.Data.List.Nodup
import Mathlib.Data.List.Sort

set_option autoImplicit false

namespace SprAccelProfiling.ResultCsv

structure Target where
  name : String
  size : Nat
  tests : List String
deriving DecidableEq

structure Row where
  target : String
  test : String
  output : String
deriving DecidableEq

-- result holds the rows of result.csv, invoked counts the runs of the harness.
structure Script where
  result : List Row
  invoked : Nat

section Script

variable (getsize : String → Nat) (output : Nat → String → String)

def measure (size : Nat) (test : String) (script : Script) (target : Target) : Script :=
  if getsize test = size then
    ⟨script.result ++ [⟨target.name, test, output script.invoked test⟩], script.invoked + 1⟩
  else script

-- The inner loop rebinds target over all of TARGETS.
def measureTest (targets : List Target) (size : Nat) (script : Script) (test : String) : Script :=
  targets.foldl (measure getsize output size test) script

def sortTests (tests : List String) : List String :=
  tests.insertionSort (fun a b => getsize a ≤ getsize b)

-- open('result.csv', 'w') empties the file for every target.
def runTarget (targets : List Target) (script : Script) (target : Target) : Script :=
  (sortTests getsize target.tests).foldl (measureTest getsize output targets target.size) ⟨[], script.invoked⟩

def main (targets : List Target) (script : Script) : Script :=
  targets.foldl (runTarget getsize output targets) script

end Script

section Rows

def Row.label (row : Row) : String × String := (row.target, row.test)

def labels (rows : List Row) : List (String × String) := rows.map Row.label

def named (names : List String) (test : String) : List (String × String) := names.map (fun name => (name, test))

theorem named_count (names : List String) (name test other : String) :
    (named names other).count (name, test) = if other = test then names.count name else 0 := by
  induction names with
  | nil => simp [named]
  | cons head rest ih =>
      rw [named] at ih ⊢
      rw [List.map_cons, List.count_cons, ih, List.count_cons]
      by_cases same : other = test
      · simp [same]
      · simp [same]

theorem product_count (names tests : List String) (name test : String) :
    (tests.flatMap (named names)).count (name, test) = names.count name * tests.count test := by
  induction tests with
  | nil => rfl
  | cons head rest ih =>
      rw [List.flatMap_cons, List.count_append, ih, named_count, List.count_cons]
      by_cases same : head = test
      · rw [if_pos same, if_pos (beq_iff_eq.mpr same), Nat.mul_succ, Nat.add_comm]
      · simp [same]

theorem product_mem (names tests : List String) (name test : String) :
    (name, test) ∈ tests.flatMap (named names) ↔ name ∈ names ∧ test ∈ tests := by
  simp only [List.mem_flatMap, named, List.mem_map, Prod.mk.injEq]
  constructor
  · intro ⟨other, inTests, head, inNames, sameName, sameTest⟩
    rw [← sameName, ← sameTest]
    exact ⟨inNames, inTests⟩
  · intro ⟨inNames, inTests⟩
    exact ⟨test, inTests, name, inNames, rfl, rfl⟩

end Rows

section Runs

variable (getsize : String → Nat) (output : Nat → String → String)

def ofSize (size : Nat) (tests : List String) : List String :=
  tests.filter (fun test => decide (getsize test = size))

def own (target : Target) : List String := ofSize getsize target.size target.tests

theorem measure_labels (size : Nat) (test : String) (targets : List Target) (script : Script) :
    labels (targets.foldl (measure getsize output size test) script).result =
      labels script.result ++ if getsize test = size then named (targets.map Target.name) test else [] := by
  induction targets generalizing script with
  | nil => simp [named]
  | cons target rest ih =>
      rw [List.foldl_cons, ih, measure]
      by_cases sized : getsize test = size
      · simp [sized, labels, Row.label, named]
      · simp [sized]

theorem tests_labels (targets : List Target) (size : Nat) (tests : List String) (script : Script) :
    labels (tests.foldl (measureTest getsize output targets size) script).result =
      labels script.result ++ (ofSize getsize size tests).flatMap (named (targets.map Target.name)) := by
  induction tests generalizing script with
  | nil => simp [ofSize]
  | cons test rest ih =>
      rw [List.foldl_cons, ih, measureTest, measure_labels]
      by_cases sized : getsize test = size
      · simp [ofSize, sized]
      · simp [ofSize, sized]

theorem sort_tests_perm (tests : List String) : (sortTests getsize tests).Perm tests := List.perm_insertionSort _ _

theorem main_labels (targets : List Target) (script : Script) (nonempty : targets ≠ []) :
    ∃ tests : List String, tests.Perm (own getsize (targets.getLast nonempty)) ∧
      labels (main getsize output targets script).result = tests.flatMap (named (targets.map Target.name)) := by
  refine ⟨ofSize getsize (targets.getLast nonempty).size (sortTests getsize (targets.getLast nonempty).tests),
    (sort_tests_perm getsize _).filter _, ?_⟩
  have split := List.dropLast_append_getLast nonempty
  have last : main getsize output targets script =
      runTarget getsize output targets (targets.dropLast.foldl (runTarget getsize output targets) script)
        (targets.getLast nonempty) := by
    rw [main]
    nth_rewrite 2 [← split]
    rw [List.foldl_append]
    rfl
  rw [last, runTarget, tests_labels]
  rfl

def rowsOf (rows : List Row) (name test : String) : Nat :=
  rows.countP (fun row => decide (row.target = name ∧ row.test = test))

structure Complete (targets : List Target) (rows : List Row) : Prop where
  each : ∀ target ∈ targets, ∀ test ∈ own getsize target, rowsOf rows target.name test = 1
  only : ∀ row ∈ rows, ∃ target ∈ targets, row.target = target.name ∧ row.test ∈ own getsize target

structure Alike (targets : List Target) (last : Target) : Prop where
  once : (own getsize last).Nodup
  same : ∀ target ∈ targets, ∀ test, test ∈ own getsize target ↔ test ∈ own getsize last

theorem rows_of_labels (rows : List Row) (name test : String) :
    rowsOf rows name test = (labels rows).count (name, test) := by
  rw [rowsOf, labels, List.count, List.countP_map]
  apply List.countP_congr
  intro row _
  simp [Row.label]

theorem same_name (targets : List Target) (distinct : (targets.map Target.name).Nodup) (target other : Target)
    (first : target ∈ targets) (second : other ∈ targets) (same : target.name = other.name) : target = other :=
  List.inj_on_of_nodup_map distinct first second same

theorem rows_of_main (targets : List Target) (script : Script) (nonempty : targets ≠ [])
    (distinct : (targets.map Target.name).Nodup) (target : Target) (member : target ∈ targets) (test : String) :
    rowsOf (main getsize output targets script).result target.name test =
      (own getsize (targets.getLast nonempty)).count test := by
  obtain ⟨tests, perm, written⟩ := main_labels getsize output targets script nonempty
  rw [rows_of_labels, written, product_count,
    List.count_eq_one_of_mem distinct (List.mem_map_of_mem member), Nat.one_mul, perm.count_eq]

theorem main_labelled (targets : List Target) (script : Script) (nonempty : targets ≠ []) (name test : String) :
    (name, test) ∈ labels (main getsize output targets script).result ↔
      name ∈ targets.map Target.name ∧ test ∈ own getsize (targets.getLast nonempty) := by
  obtain ⟨tests, perm, written⟩ := main_labels getsize output targets script nonempty
  rw [written, product_mem, perm.mem_iff]

theorem csv_complete_iff (targets : List Target) (script : Script) (nonempty : targets ≠ [])
    (distinct : (targets.map Target.name).Nodup) :
    Complete getsize targets (main getsize output targets script).result ↔
      Alike getsize targets (targets.getLast nonempty) := by
  have listed : targets.getLast nonempty ∈ targets := List.getLast_mem nonempty
  have counted := rows_of_main getsize output targets script nonempty distinct
  have labelled := main_labelled getsize output targets script nonempty
  constructor
  · intro complete
    refine ⟨?_, fun target member test => ⟨fun inside => ?_, fun inside => ?_⟩⟩
    · rw [List.nodup_iff_count_le_one]
      intro test
      by_cases inside : test ∈ own getsize (targets.getLast nonempty)
      · rw [← counted _ listed test]
        exact Nat.le_of_eq (complete.each _ listed test inside)
      · rw [List.count_eq_zero_of_not_mem inside]
        exact Nat.zero_le 1
    · have one := complete.each target member test inside
      rw [counted target member test] at one
      exact List.count_pos_iff.mp (by omega)
    · obtain ⟨row, written, label⟩ := List.mem_map.mp
        ((labelled target.name test).mpr ⟨List.mem_map_of_mem member, inside⟩)
      obtain ⟨named, tested⟩ := Prod.mk.inj label
      obtain ⟨other, inTargets, same, owned⟩ := complete.only row written
      rw [named] at same
      rw [same_name targets distinct target other member inTargets same, ← tested]
      exact owned
  · intro alike
    refine ⟨fun target member test inside => ?_, fun row inside => ?_⟩
    · rw [counted target member test]
      exact List.count_eq_one_of_mem alike.once ((alike.same target member test).mp inside)
    · obtain ⟨named, owned⟩ := (labelled row.target row.test).mp (List.mem_map_of_mem inside)
      obtain ⟨target, member, same⟩ := List.mem_map.mp named
      exact ⟨target, member, same.symm, (alike.same target member row.test).mpr owned⟩

end Runs

def fourBytes (_ : String) : Nat := 4

def printed (invoked : Nat) (_ : String) : String := toString invoked

def qatzip : Target := ⟨"qatzip", 4, ["1.gz", "2.gz"]⟩

def zstd : Target := ⟨"zstd", 4, ["1.zst"]⟩

theorem one_target_complete :
    Complete fourBytes [qatzip] (main fourBytes printed [qatzip] ⟨[], 0⟩).result ↔ Alike fourBytes [qatzip] qatzip :=
  csv_complete_iff fourBytes printed [qatzip] ⟨[], 0⟩ (by decide) (by decide)

theorem two_targets_incomplete :
    ¬ Complete fourBytes [qatzip, zstd] (main fourBytes printed [qatzip, zstd] ⟨[], 0⟩).result := by
  intro complete
  have one := complete.each qatzip (by decide) "1.gz" (by decide)
  exact absurd one (by decide)

end SprAccelProfiling.ResultCsv
