import SprAccelProfiling.ShellText
import Mathlib.Data.List.Nodup

set_option autoImplicit false

namespace SprAccelProfiling.Iaa

open SprAccelProfiling.ShellText

inductive Mode where
  | shared
  | dedicated
deriving DecidableEq

inductive Command where
  | disableWq (i : Nat)
  | disableDevice (i : Nat)
  | configEngine (i engine : Nat)
  | configWq (i : Nat) (wq_size : List Char) (mode : Mode)
  | configAppWq (i : Nat)
  | enableDevice (i : Nat)
  | enableWq (i : Nat)
deriving DecidableEq

def first : Nat := 1

def step : Nat := 2

-- ${1:-fallback} also takes the fallback for an empty argument.
def orDefault (argument : Option (List Char)) (fallback : List Char) : List Char :=
  match argument with
  | none => fallback
  | some [] => fallback
  | some text => text

-- for ((i = start; i < stop; i += step))
def forStep (start stop : Nat) : List Nat := List.range' start ((stop - start + (step - 1)) / step) step

def disableLoop (num_iax : Nat) : List Nat := forStep first (step * num_iax)

-- start and end of the enable loop; none outside the numbers the usage comment allows.
def deviceRange (num_iax : Nat) (device_num : List Char) : Option (Nat × Nat) :=
  if device_num = digits num_iax then some (first, step * num_iax)
  else
    match fields device_num with
    | [] => none
    | [only] => (number only).map (fun start => (start, start + 1))
    | low :: high :: _ => (number low).bind (fun start => (number high).map (fun last => (start, last + 1)))

def modeOf (dedicated : List Char) : Mode := if number dedicated = some 0 then .shared else .dedicated

def disableCommands (i : Nat) : List Command := [.disableWq i, .disableDevice i]

def enableCommands (wq_size : List Char) (mode : Mode) (i : Nat) : List Command :=
  (List.range 8).map (fun engine => .configEngine i engine) ++
    [.configWq i wq_size mode, .enableDevice i, .enableWq i]

def enableLoop (num_iax : Nat) (device_num : List Char) : List Nat :=
  match deviceRange num_iax device_num with
  | none => []
  | some (start, stop) => forStep start stop

def configureIaa (num_iax : Nat) (dedicated device wq : Option (List Char)) : List Command :=
  let mode := modeOf (orDefault dedicated ['0'])
  let device_num := orDefault device (digits num_iax)
  let wq_size := orDefault wq ['1', '2', '8']
  (disableLoop num_iax).flatMap disableCommands ++
    (enableLoop num_iax device_num).flatMap (enableCommands wq_size mode)

inductive Form where
  | omitted
  | zero
  | single (d : Nat)
  | range (s e : Nat)
deriving DecidableEq

def Form.text : Form → Option (List Char)
  | .omitted => none
  | .zero => some ['0']
  | .single d => some (digits d)
  | .range s e => some (digits s ++ ',' :: digits e)

def Exists (num_iax d : Nat) : Prop := d % 2 = 1 ∧ d < 2 * num_iax

def Form.Documented (num_iax : Nat) : Form → Prop
  | .omitted => True
  | .zero => True
  | .single d => Exists num_iax d
  | .range s e => Exists num_iax s ∧ Exists num_iax e ∧ s ≤ e

def Form.Selects (num_iax : Nat) : Form → Nat → Prop
  | .omitted, i => Exists num_iax i
  | .zero, i => Exists num_iax i
  | .single d, i => i = d
  | .range s e, i => Exists num_iax i ∧ s ≤ i ∧ i ≤ e

def Command.enables : Command → Option Nat
  | .enableDevice i => some i
  | _ => none

def Command.configures : Command → Option Nat
  | .configWq i _ _ => some i
  | .configAppWq i => some i
  | _ => none

def Command.sets : Command → Option Nat
  | .configEngine i _ => some i
  | .configWq i _ _ => some i
  | .configAppWq i => some i
  | .enableDevice i => some i
  | .enableWq i => some i
  | _ => none

structure Exact (num_iax : Nat) (form : Form) (commands : List Command) : Prop where
  enables : ∀ i, i ∈ commands.filterMap Command.enables ↔ form.Selects num_iax i
  once : (commands.filterMap Command.enables).Nodup
  configures : commands.filterMap Command.configures = commands.filterMap Command.enables
  sets : ∀ i, i ∈ commands.filterMap Command.sets ↔ form.Selects num_iax i
  disabled : ∀ before command after i, commands = before ++ command :: after → command.sets = some i →
    .disableWq i ∈ before ∧ .disableDevice i ∈ before

theorem mem_for_step (start stop i : Nat) : i ∈ forStep start stop ↔ start ≤ i ∧ i < stop ∧ (i - start) % 2 = 0 := by
  simp only [forStep, step, List.mem_range']
  refine ⟨fun ⟨k, within, same⟩ => by omega, fun ⟨low, high, even⟩ => ⟨(i - start) / 2, ?_, ?_⟩⟩
  · omega
  · omega

theorem for_step_nodup (start stop : Nat) : (forStep start stop).Nodup := List.nodup_range' step (by decide)

theorem mem_all (num_iax i : Nat) : i ∈ forStep first (step * num_iax) ↔ Exists num_iax i := by
  rw [mem_for_step, first, step, Exists]
  omega

section Loops

variable (disabled enabled : List Nat) (wq_size : List Char) (mode : Mode)

def loops : List Command := disabled.flatMap disableCommands ++ enabled.flatMap (enableCommands wq_size mode)

theorem loops_read (reads : Command → Option Nat) (quiet : ∀ i, (disableCommands i).filterMap reads = [])
    (each : ∀ i, (enableCommands wq_size mode i).filterMap reads = [i]) :
    (loops disabled enabled wq_size mode).filterMap reads = enabled := by
  have none : disabled.flatMap (fun i => (disableCommands i).filterMap reads) = [] :=
    List.flatMap_eq_nil_iff.mpr (fun i _ => quiet i)
  rw [loops, List.filterMap_append, List.filterMap_flatMap, List.filterMap_flatMap, none, List.nil_append]
  simp only [each, List.flatMap_singleton']

theorem loops_set (i : Nat) : i ∈ (loops disabled enabled wq_size mode).filterMap Command.sets ↔ i ∈ enabled := by
  have quiet : disabled.flatMap (fun i => (disableCommands i).filterMap Command.sets) = [] :=
    List.flatMap_eq_nil_iff.mpr (fun i _ => rfl)
  have each : ∀ i, (enableCommands wq_size mode i).filterMap Command.sets = List.replicate 11 i := fun i => rfl
  rw [loops, List.filterMap_append, List.filterMap_flatMap, List.filterMap_flatMap, quiet, List.nil_append,
    List.mem_flatMap]
  simp [each]

theorem set_behind (before after : List Command) (command : Command) (i : Nat)
    (split : loops disabled enabled wq_size mode = before ++ command :: after) (sets : command.sets = some i) :
    ∃ rest, before = disabled.flatMap disableCommands ++ rest := by
  rw [loops, List.append_eq_append_iff] at split
  rcases split with ⟨rest, same, _⟩ | ⟨tail, same, moved⟩
  · exact ⟨rest, same⟩
  · cases tail with
    | nil => exact ⟨[], by rw [same, List.append_nil, List.append_nil]⟩
    | cons head others =>
        cases (List.cons.inj moved).1
        have inside : command ∈ disabled.flatMap disableCommands := by simp [same]
        obtain ⟨d, _, member⟩ := List.mem_flatMap.mp inside
        obtain (rfl | rfl) : command = .disableWq d ∨ command = .disableDevice d := by
          simpa [disableCommands] using member
        · cases sets
        · cases sets

theorem disable_listed (i : Nat) (member : i ∈ disabled) :
    .disableWq i ∈ disabled.flatMap disableCommands ∧ .disableDevice i ∈ disabled.flatMap disableCommands :=
  ⟨List.mem_flatMap.mpr ⟨i, member, List.mem_cons_self⟩,
    List.mem_flatMap.mpr ⟨i, member, List.mem_cons_of_mem _ List.mem_cons_self⟩⟩

theorem exact_of_selected (num_iax : Nat) (form : Form) (selected : ∀ i, i ∈ enabled ↔ form.Selects num_iax i)
    (once : enabled.Nodup) (known : ∀ i ∈ enabled, i ∈ disabled) :
    Exact num_iax form (loops disabled enabled wq_size mode) := by
  have enables := loops_read disabled enabled wq_size mode Command.enables (fun _ => rfl) (fun _ => rfl)
  have configures := loops_read disabled enabled wq_size mode Command.configures (fun _ => rfl) (fun _ => rfl)
  refine ⟨fun i => ?_, ?_, ?_, fun i => ?_, fun before command after i split sets => ?_⟩
  · rw [enables, selected i]
  · rw [enables]
    exact once
  · rw [enables, configures]
  · rw [loops_set, selected i]
  · have set : i ∈ (loops disabled enabled wq_size mode).filterMap Command.sets :=
      List.mem_filterMap.mpr ⟨command, by simp [split], sets⟩
    have listed := disable_listed disabled i (known i ((loops_set disabled enabled wq_size mode i).mp set))
    obtain ⟨rest, same⟩ := set_behind disabled enabled wq_size mode before after command i split sets
    rw [same]
    exact ⟨List.mem_append_left rest listed.1, List.mem_append_left rest listed.2⟩

theorem selected_of_exact (num_iax : Nat) (form : Form) (exact_run : Exact num_iax form (loops disabled enabled wq_size mode))
    (i : Nat) : i ∈ enabled ↔ form.Selects num_iax i := by
  have enables := loops_read disabled enabled wq_size mode Command.enables (fun _ => rfl) (fun _ => rfl)
  rw [← exact_run.enables i, enables]

end Loops

theorem or_default_some (text fallback : List Char) (filled : text ≠ []) : orDefault (some text) fallback = text := by
  cases text with
  | nil => exact absurd rfl filled
  | cons head rest => rfl

theorem device_range_digits (num_iax d : Nat) : deviceRange num_iax (digits d) =
    if d = num_iax then some (first, step * num_iax) else some (d, d + 1) := by
  by_cases same : d = num_iax
  · rw [deviceRange, if_pos same, if_pos (congrArg digits same)]
  · have differs : digits d ≠ digits num_iax := fun equal => same (digits_inj d num_iax equal)
    rw [deviceRange, if_neg same, if_neg differs, fields_single]
    simp only [number_digits, Option.map_some]

theorem device_range_pair (num_iax s e : Nat) :
    deviceRange num_iax (digits s ++ ',' :: digits e) = some (s, e + 1) := by
  rw [deviceRange, if_neg (pair_ne_digits s e num_iax), fields_pair]
  simp only [number_digits, Option.map_some, Option.bind_some]

def enabledBy (num_iax : Nat) : Form → List Nat
  | .omitted => forStep first (step * num_iax)
  | .zero => if 0 = num_iax then forStep first (step * num_iax) else forStep 0 1
  | .single d => if d = num_iax then forStep first (step * num_iax) else forStep d (d + 1)
  | .range s e => forStep s (e + 1)

theorem enable_loop_digits (num_iax d : Nat) : enableLoop num_iax (digits d) =
    if d = num_iax then forStep first (step * num_iax) else forStep d (d + 1) := by
  rw [enableLoop, device_range_digits]
  by_cases same : d = num_iax
  · simp only [if_pos same]
  · simp only [if_neg same]

theorem enable_loop_form (num_iax : Nat) (form : Form) :
    enableLoop num_iax (orDefault form.text (digits num_iax)) = enabledBy num_iax form := by
  cases form with
  | omitted => exact (enable_loop_digits num_iax num_iax).trans (if_pos rfl)
  | zero => exact enable_loop_digits num_iax 0
  | single d => rw [Form.text, or_default_some _ _ (digits_nonempty d), enable_loop_digits, enabledBy]
  | range s e =>
      rw [Form.text, or_default_some _ _ (by simp), enableLoop, device_range_pair, enabledBy]

theorem enabled_selected_iff (num_iax : Nat) (form : Form) (positive : 1 ≤ num_iax) (documented : form.Documented num_iax) :
    (∀ i, i ∈ enabledBy num_iax form ↔ form.Selects num_iax i) ↔
      form ≠ .zero ∧ (form = .single num_iax → num_iax = 1) := by
  cases form with
  | omitted => simp [enabledBy, mem_all, Form.Selects]
  | zero =>
      have counted : ¬ 0 = num_iax := by omega
      refine ⟨fun selected => ?_, fun ⟨different, _⟩ => absurd rfl different⟩
      have one := (selected 1).mpr ⟨rfl, by omega⟩
      rw [enabledBy, if_neg counted, mem_for_step] at one
      omega
  | single d =>
      by_cases same : d = num_iax
      · subst d
        simp only [enabledBy, if_pos, mem_all, Form.Selects, Exists]
        refine ⟨fun selected => ⟨by simp, fun _ => ?_⟩, fun ⟨_, single⟩ i => ?_⟩
        · exact ((selected 1).mp ⟨rfl, by omega⟩).symm
        · have one := single trivial
          omega
      · simp only [enabledBy, if_neg same, mem_for_step, Form.Selects]
        refine ⟨fun _ => ⟨by simp, fun equal => absurd (Form.single.inj equal) same⟩, fun _ i => ?_⟩
        omega
  | range s e =>
      obtain ⟨low, high, ordered⟩ := documented
      simp only [enabledBy, mem_for_step, Form.Selects, Exists] at low high ⊢
      refine ⟨fun _ => ⟨by simp, by simp⟩, fun _ i => ?_⟩
      omega

theorem enabled_once (num_iax : Nat) (form : Form) : (enabledBy num_iax form).Nodup := by
  cases form with
  | omitted => exact for_step_nodup _ _
  | zero =>
      rw [enabledBy]
      split <;> exact for_step_nodup _ _
  | single d =>
      rw [enabledBy]
      split <;> exact for_step_nodup _ _
  | range s e => exact for_step_nodup _ _

theorem selected_exists (num_iax : Nat) (form : Form) (documented : form.Documented num_iax) (i : Nat)
    (selected : form.Selects num_iax i) : Exists num_iax i := by
  cases form with
  | omitted => exact selected
  | zero => exact selected
  | single d =>
      cases selected
      exact documented
  | range s e => exact selected.1

-- The instance count is taken for "all devices" and 0 is not.
theorem configure_exact_iff (num_iax : Nat) (dedicated wq : Option (List Char)) (form : Form) (positive : 1 ≤ num_iax)
    (documented : form.Documented num_iax) :
    Exact num_iax form (configureIaa num_iax dedicated form.text wq) ↔
      form ≠ .zero ∧ (form = .single num_iax → num_iax = 1) := by
  have run : configureIaa num_iax dedicated form.text wq = loops (disableLoop num_iax) (enabledBy num_iax form)
      (orDefault wq ['1', '2', '8']) (modeOf (orDefault dedicated ['0'])) := by
    rw [← enable_loop_form]
    rfl
  rw [run, ← enabled_selected_iff num_iax form positive documented]
  refine ⟨selected_of_exact _ _ _ _ num_iax form, fun selected => ?_⟩
  apply exact_of_selected _ _ _ _ num_iax form selected (enabled_once num_iax form)
  intro i member
  exact (mem_all num_iax i).mpr (selected_exists num_iax form documented i ((selected i).mp member))

theorem range_on_four_instances :
    Exact 4 (.range 3 7) (configureIaa 4 none (Form.range 3 7).text none) ↔
      Form.range 3 7 ≠ .zero ∧ (Form.range 3 7 = .single 4 → 4 = 1) :=
  configure_exact_iff 4 none none (.range 3 7) (by decide) ⟨⟨rfl, by decide⟩, ⟨rfl, by decide⟩, by decide⟩

theorem three_enables_all :
    ¬ Exact 3 (.single 3) (configureIaa 3 none (Form.single 3).text none) ∧
      ¬ Exact 3 .zero (configureIaa 3 none Form.zero.text none) := by
  refine ⟨fun exact_run => ?_, fun exact_run => ?_⟩
  · have only : 1 = 3 := (exact_run.enables 1).mp (by decide)
    cases only
  · have exists_zero : Exists 3 0 := (exact_run.enables 0).mp (by decide)
    cases exists_zero.1

end SprAccelProfiling.Iaa
