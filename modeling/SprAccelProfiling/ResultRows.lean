import Mathlib.Algebra.Order.Ring.Nat
import SprAccelProfiling.ResultCsv

set_option autoImplicit false

namespace SprAccelProfiling.ResultCsv

section Rows

variable (getsize : String → Nat) (output : Nat → String → String)

def rowOf (label : (String × String) × Nat) : Row := ⟨label.1.1, label.1.2, output label.2 label.1.2⟩

def appended (labelled : List (String × String)) (script : Script) : Script :=
  ⟨script.result ++ (labelled.zipIdx script.invoked).map (rowOf output), script.invoked + labelled.length⟩

theorem appended_nil (script : Script) : appended output [] script = script := by
  simp [appended]

theorem appended_append (first second : List (String × String)) (script : Script) :
    appended output (first ++ second) script = appended output second (appended output first script) := by
  simp only [appended, List.zipIdx_append, List.map_append, List.append_assoc, List.length_append, Nat.add_assoc]

theorem measure_appends (size : Nat) (test : String) (targets : List Target) (script : Script) :
    targets.foldl (measure getsize output size test) script =
      appended output (if getsize test = size then named (targets.map Target.name) test else []) script := by
  induction targets generalizing script with
  | nil =>
      rw [List.foldl_nil, List.map_nil, named, List.map_nil, ite_self, appended_nil]
  | cons target rest ih =>
      rw [List.foldl_cons, ih, measure]
      by_cases sized : getsize test = size
      · simp only [if_pos sized]
        have one : named ((target :: rest).map Target.name) test =
            [(target.name, test)] ++ named (rest.map Target.name) test := rfl
        rw [one, appended_append]
        rfl
      · simp only [if_neg sized]

theorem tests_append (targets : List Target) (size : Nat) (tests : List String) (script : Script) :
    tests.foldl (measureTest getsize output targets size) script =
      appended output ((ofSize getsize size tests).flatMap (named (targets.map Target.name))) script := by
  induction tests generalizing script with
  | nil => exact (appended_nil output script).symm
  | cons test rest ih =>
      rw [List.foldl_cons, ih, measureTest, measure_appends, ← appended_append]
      by_cases sized : getsize test = size
      · simp [ofSize, sized]
      · simp [ofSize, sized]

theorem sort_keeps_order (size : Nat) (tests : List String) :
    ofSize getsize size (sortTests getsize tests) = ofSize getsize size tests := by
  have alike : (ofSize getsize size tests).Pairwise (fun a b => getsize a ≤ getsize b) := by
    apply List.pairwise_of_forall_mem_list
    intro a inA b inB
    have sizeA : getsize a = size := by simpa using (List.mem_filter.mp inA).2
    have sizeB : getsize b = size := by simpa using (List.mem_filter.mp inB).2
    rw [sizeA, sizeB]
  have inside := List.sublist_insertionSort alike List.filter_sublist
  have kept := inside.filter (fun test => decide (getsize test = size))
  simp only [ofSize, List.filter_filter, Bool.and_self] at kept
  exact (kept.eq_of_length ((sort_tests_perm getsize tests).filter _).length_eq.symm).symm

def wanted (targets : List Target) (target : Target) : List (String × String) :=
  (own getsize target).flatMap (named (targets.map Target.name))

theorem run_target_rows (targets : List Target) (target : Target) (script : Script) :
    runTarget getsize output targets script target =
      appended output (wanted getsize targets target) ⟨[], script.invoked⟩ := by
  rw [runTarget, tests_append, sort_keeps_order]
  rfl

theorem wanted_length (targets : List Target) (target : Target) :
    (wanted getsize targets target).length = (own getsize target).length * targets.length := by
  rw [wanted, List.length_flatMap]
  simp [named]

def invocations (targets some : List Target) : Nat :=
  (some.map (fun target => (own getsize target).length * targets.length)).sum

theorem targets_invoked (targets some : List Target) (script : Script) :
    (some.foldl (runTarget getsize output targets) script).invoked =
      script.invoked + invocations getsize targets some := by
  induction some generalizing script with
  | nil => rfl
  | cons target rest ih =>
      rw [List.foldl_cons, ih, run_target_rows, appended, wanted_length, invocations, invocations, List.map_cons,
        List.sum_cons, Nat.add_assoc]

theorem main_rows (targets : List Target) (nonempty : targets ≠ []) :
    main getsize output targets ⟨[], 0⟩ =
      ⟨((wanted getsize targets (targets.getLast nonempty)).zipIdx
          (invocations getsize targets targets.dropLast)).map (rowOf output), invocations getsize targets targets⟩ := by
  have split := List.dropLast_append_getLast nonempty
  have last : main getsize output targets ⟨[], 0⟩ =
      runTarget getsize output targets (targets.dropLast.foldl (runTarget getsize output targets) ⟨[], 0⟩)
        (targets.getLast nonempty) := by
    rw [main]
    nth_rewrite 2 [← split]
    rw [List.foldl_append]
    rfl
  have earlier := targets_invoked getsize output targets targets.dropLast ⟨[], 0⟩
  have all := targets_invoked getsize output targets targets ⟨[], 0⟩
  rw [Nat.zero_add] at earlier all
  have counted : (runTarget getsize output targets (targets.dropLast.foldl (runTarget getsize output targets) ⟨[], 0⟩)
      (targets.getLast nonempty)).invoked = invocations getsize targets targets := by
    rw [← last]
    exact all
  rw [run_target_rows, earlier] at counted
  rw [last, run_target_rows, earlier, ← counted]
  rfl

end Rows

theorem two_targets_rows :
    main fourBytes printed [qatzip, zstd] ⟨[], 0⟩ =
      ⟨((wanted fourBytes [qatzip, zstd] ([qatzip, zstd].getLast (by decide))).zipIdx
          (invocations fourBytes [qatzip, zstd] [qatzip, zstd].dropLast)).map (rowOf printed),
        invocations fourBytes [qatzip, zstd] [qatzip, zstd]⟩ :=
  main_rows fourBytes printed [qatzip, zstd] (by decide)

end SprAccelProfiling.ResultCsv
