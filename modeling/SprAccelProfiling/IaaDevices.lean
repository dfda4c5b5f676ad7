import Mathlib.Data.List.DropRight
import Mathlib.Data.List.Induction
import SprAccelProfiling.ConfigureIaa

set_option autoImplicit false

namespace SprAccelProfiling.Iaa

open SprAccelProfiling.ShellText

def Command.device : Command → Nat
  | .disableWq i => i
  | .disableDevice i => i
  | .configEngine i _ => i
  | .configWq i _ _ => i
  | .configAppWq i => i
  | .enableDevice i => i
  | .enableWq i => i

def Command.disables : Command → Bool
  | .disableDevice _ => true
  | _ => false

def history (i : Nat) (commands : List Command) : List Command := commands.filter (fun command => command.device = i)

def sinceDisabled (told : List Command) : List Command := told.rtakeWhile (fun command => !command.disables)

def enabled (told : List Command) : Bool := (sinceDisabled told).any (fun command => command.enables.isSome)

-- A device is set up while it is not enabled, and its queue is opened while it is.
def timely (told : List Command) : Command → Bool
  | .disableWq _ => true
  | .disableDevice _ => true
  | .configEngine _ _ => !enabled told
  | .configWq _ _ _ => !enabled told
  | .configAppWq _ => !enabled told
  | .enableDevice _ => !enabled told
  | .enableWq _ => enabled told

def inOrder (told : List Command) : List Command → Bool
  | [] => true
  | command :: rest => timely told command && inOrder (told ++ [command]) rest

def Orderly (i : Nat) (commands : List Command) : Prop := inOrder [] (history i commands) = true

section Order

theorem in_order_append (told a b : List Command) : inOrder told (a ++ b) = (inOrder told a && inOrder (told ++ a) b) := by
  induction a generalizing told with
  | nil => rw [List.nil_append, List.append_nil, inOrder, Bool.true_and]
  | cons command rest ih =>
      rw [List.cons_append, inOrder, inOrder, ih, Bool.and_assoc, List.append_assoc, List.singleton_append]

theorem since_disabled_snoc (told : List Command) (command : Command) : sinceDisabled (told ++ [command]) =
    if command.disables then [] else sinceDisabled told ++ [command] := by
  rw [sinceDisabled, List.rtakeWhile_concat]
  cases command.disables <;> rfl

theorem since_disabled_append (told rest : List Command) (kept : ∀ command ∈ rest, command.disables = false) :
    sinceDisabled (told ++ rest) = sinceDisabled told ++ rest := by
  induction rest using List.reverseRecOn with
  | nil => rw [List.append_nil, List.append_nil]
  | append_singleton rest command ih =>
      have last := kept command (List.mem_append_right _ List.mem_cons_self)
      rw [← List.append_assoc, since_disabled_snoc, last, ih (fun c member => kept c (List.mem_append_left _ member)),
        ← List.append_assoc]
      rfl

theorem enabled_snoc (told : List Command) (command : Command) : enabled (told ++ [command]) =
    (!command.disables && (enabled told || command.enables.isSome)) := by
  rw [enabled, since_disabled_snoc]
  cases command.disables with
  | true => rfl
  | false => rw [if_neg Bool.false_ne_true, List.any_append, List.any_cons, List.any_nil, Bool.or_false]; rfl

theorem disabled_told (told : List Command) (i : Nat) : sinceDisabled (told ++ disableCommands i) = [] := by
  have whole : told ++ disableCommands i = told ++ [.disableWq i] ++ [.disableDevice i] := by
    rw [List.append_assoc]
    rfl
  rw [whole, since_disabled_snoc]
  rfl

def setUpCommands (wq : Command) (i : Nat) : List Command :=
  (List.range 8).map (fun engine => .configEngine i engine) ++ [wq, .enableDevice i, .enableWq i]

structure ConfiguresWq (wq : Command) : Prop where
  quiet : wq.enables = none
  stays : wq.disables = false
  timed : ∀ told, timely told wq = !enabled told

theorem engines_in_order (i : Nat) (engines : List Nat) (told : List Command) (off : enabled told = false) :
    inOrder told (engines.map (fun engine => Command.configEngine i engine)) = true ∧
      enabled (told ++ engines.map (fun engine => Command.configEngine i engine)) = false := by
  induction engines generalizing told with
  | nil => exact ⟨rfl, by rw [List.map_nil, List.append_nil, off]⟩
  | cons engine rest ih =>
      have still : enabled (told ++ [.configEngine i engine]) = false := by
        rw [enabled_snoc, off]
        rfl
      obtain ⟨ordered, after⟩ := ih (told ++ [.configEngine i engine]) still
      rw [List.append_assoc] at after
      refine ⟨?_, after⟩
      rw [List.map_cons, inOrder, ordered, timely, off]
      rfl

theorem set_up_in_order (i : Nat) (wq : Command) (configures : ConfiguresWq wq) (told : List Command)
    (off : enabled told = false) : inOrder told (setUpCommands wq i) = true := by
  obtain ⟨ordered, still⟩ := engines_in_order i (List.range 8) told off
  rw [setUpCommands, in_order_append, ordered, Bool.true_and]
  generalize told ++ (List.range 8).map (fun engine => Command.configEngine i engine) = grouped at still
  have queued : enabled (grouped ++ [wq]) = false := by
    rw [enabled_snoc, still, configures.quiet]
    exact Bool.and_false _
  have on : enabled (grouped ++ [wq] ++ [.enableDevice i]) = true := by
    rw [enabled_snoc, queued]
    rfl
  rw [inOrder, configures.timed, still, Bool.not_false, Bool.true_and]
  simp only [inOrder, timely, queued, on, Bool.not_false, Bool.and_true]

theorem set_up_refused (i : Nat) (wq : Command) (told : List Command) (on : enabled told = true) :
    inOrder told (setUpCommands wq i) = false := by
  have refused : timely told (.configEngine i 0) = false := by rw [timely, on]; rfl
  show (timely told (.configEngine i 0) && _) = false
  rw [refused, Bool.false_and]

theorem set_up_kept (i : Nat) (wq : Command) (configures : ConfiguresWq wq) :
    ∀ command ∈ setUpCommands wq i, command.disables = false := by
  intro command member
  rcases List.mem_append.mp member with engine | rest
  · obtain ⟨number, _, rfl⟩ := List.mem_map.mp engine
    rfl
  · simp only [List.mem_cons, List.not_mem_nil, or_false] at rest
    rcases rest with rfl | rfl | rfl
    · exact configures.stays
    · rfl
    · rfl

theorem set_up_enables (i : Nat) (wq : Command) (configures : ConfiguresWq wq) (told : List Command) :
    enabled (told ++ setUpCommands wq i) = true := by
  rw [enabled, since_disabled_append _ _ (set_up_kept i wq configures), List.any_append, Bool.or_eq_true]
  refine .inr (List.any_eq_true.mpr ⟨.enableDevice i, List.mem_append_right _ ?_, rfl⟩)
  exact List.mem_cons_of_mem _ List.mem_cons_self

end Order

def Mode.text : Mode → List Char
  | .shared => ['0']
  | .dedicated => ['1']

structure Arguments (num_iax : Nat) where
  dedicated : Option Mode
  device : Form
  wq_size : Option Nat
  documented : device.Documented num_iax

inductive Script (num_iax : Nat) where
  | iaa (arguments : Arguments num_iax)
  | iaa4416

-- configure_iaa_4416+.sh: both loops go from 1 to 1, and what is set names device 1.
def configureIaa4416 : List Command :=
  (List.range' 1 1).flatMap disableCommands ++ (List.range' 1 1).flatMap (fun _ => setUpCommands (.configAppWq 1) 1)

section Scripts

variable {num_iax : Nat}

def Arguments.commands (arguments : Arguments num_iax) : List Command :=
  configureIaa num_iax (arguments.dedicated.map Mode.text) arguments.device.text (arguments.wq_size.map digits)

def Arguments.configWq (arguments : Arguments num_iax) (i : Nat) : Command :=
  .configWq i (orDefault (arguments.wq_size.map digits) ['1', '2', '8'])
    (modeOf (orDefault (arguments.dedicated.map Mode.text) ['0']))

def Script.commands : Script num_iax → List Command
  | .iaa arguments => arguments.commands
  | .iaa4416 => configureIaa4416

def Script.Clears (i : Nat) : Script num_iax → Prop
  | .iaa _ => Exists num_iax i
  | .iaa4416 => i = 1

instance (i : Nat) (script : Script num_iax) : Decidable (script.Clears i) :=
  match script with
  | .iaa _ => inferInstanceAs (Decidable (i % 2 = 1 ∧ i < 2 * num_iax))
  | .iaa4416 => inferInstanceAs (Decidable (i = 1))

def Script.setUp (i : Nat) : Script num_iax → List Command
  | .iaa arguments =>
      if i ∈ enabledBy num_iax arguments.device then setUpCommands (arguments.configWq i) i else []
  | .iaa4416 => if i = 1 then setUpCommands (.configAppWq i) i else []

def Script.zero : Script num_iax → Bool
  | .iaa arguments => arguments.device = .zero
  | .iaa4416 => false

def lastReaching (i : Nat) (scripts : List (Script num_iax)) : Option (Script num_iax) :=
  (scripts.filter (fun script => script.Clears i)).getLast?

theorem history_append (i : Nat) (a b : List Command) : history i (a ++ b) = history i a ++ history i b :=
  List.filter_append a b

theorem history_loop (i : Nat) (visited : List Nat) (commands : Nat → List Command) (once : visited.Nodup)
    (own : ∀ j, ∀ command ∈ commands j, command.device = j) :
    history i (visited.flatMap commands) = if i ∈ visited then commands i else [] := by
  induction visited with
  | nil => rfl
  | cons head rest ih =>
      obtain ⟨fresh, others⟩ := List.nodup_cons.mp once
      rw [List.flatMap_cons, history_append, ih others]
      by_cases same : head = i
      · subst head
        have whole : history i (commands i) = commands i :=
          List.filter_eq_self.mpr (fun command member => decide_eq_true (own i command member))
        rw [whole, if_neg fresh, if_pos List.mem_cons_self, List.append_nil]
      · have none : history i (commands head) = [] :=
          List.filter_eq_nil_iff.mpr (fun command member => by simpa [own head command member] using same)
        rw [none, List.nil_append]
        by_cases later : i ∈ rest
        · rw [if_pos later, if_pos (List.mem_cons_of_mem _ later)]
        · rw [if_neg later, if_neg (fun listed => (List.mem_cons.mp listed).elim (fun e => same e.symm) later)]

theorem disable_own (j : Nat) : ∀ command ∈ disableCommands j, command.device = j := by
  intro command member
  simp only [disableCommands, List.mem_cons, List.not_mem_nil, or_false] at member
  rcases member with rfl | rfl <;> rfl

theorem set_up_own (j : Nat) (wq : Command) (own : wq.device = j) : ∀ command ∈ setUpCommands wq j, command.device = j := by
  intro command member
  rcases List.mem_append.mp member with engine | rest
  · obtain ⟨number, _, rfl⟩ := List.mem_map.mp engine
    rfl
  · simp only [List.mem_cons, List.not_mem_nil, or_false] at rest
    rcases rest with rfl | rfl | rfl
    · exact own
    · rfl
    · rfl

theorem script_history (i : Nat) (script : Script num_iax) :
    history i script.commands = (if script.Clears i then disableCommands i else []) ++ script.setUp i := by
  cases script with
  | iaa arguments =>
      have run : arguments.commands = (disableLoop num_iax).flatMap disableCommands ++
          (enabledBy num_iax arguments.device).flatMap (fun j => setUpCommands (arguments.configWq j) j) := by
        rw [← enable_loop_form]
        rfl
      have cleared : i ∈ disableLoop num_iax ↔ Exists num_iax i := mem_all num_iax i
      rw [Script.commands, run, history_append, history_loop i (disableLoop num_iax) _ (for_step_nodup _ _) disable_own,
        history_loop i _ _ (enabled_once _ _) (fun j => set_up_own j _ rfl)]
      exact congrArg₂ (· ++ ·) (if_congr cleared rfl rfl) rfl
  | iaa4416 =>
      have run : configureIaa4416 =
          [1].flatMap disableCommands ++ [1].flatMap (fun j => setUpCommands (.configAppWq j) j) := rfl
      rw [Script.commands, run, history_append, history_loop i [1] _ (List.nodup_singleton 1) disable_own,
        history_loop i [1] _ (List.nodup_singleton 1) (fun j => set_up_own j _ rfl)]
      exact congrArg₂ (· ++ ·) (if_congr List.mem_singleton rfl rfl) (if_congr List.mem_singleton rfl rfl)

theorem set_up_form (i : Nat) (script : Script num_iax) :
    script.setUp i = [] ∨ ∃ wq, ConfiguresWq wq ∧ script.setUp i = setUpCommands wq i := by
  cases script with
  | iaa arguments =>
      by_cases selected : i ∈ enabledBy num_iax arguments.device
      · exact .inr ⟨arguments.configWq i, ⟨rfl, rfl, fun _ => rfl⟩, if_pos selected⟩
      · exact .inl (if_neg selected)
  | iaa4416 =>
      by_cases same : i = 1
      · exact .inr ⟨.configAppWq i, ⟨rfl, rfl, fun _ => rfl⟩, if_pos same⟩
      · exact .inl (if_neg same)

theorem cleared_in_order (i : Nat) (script : Script num_iax) (clears : script.Clears i) (told : List Command) :
    inOrder told (history i script.commands) = true ∧
      sinceDisabled (told ++ history i script.commands) = script.setUp i := by
  have quiet := disabled_told told i
  have off : enabled (told ++ disableCommands i) = false := by
    rw [enabled, quiet]
    rfl
  rw [script_history, if_pos clears, in_order_append, ← List.append_assoc]
  rcases set_up_form i script with none | ⟨wq, configures, whole⟩
  · rw [none, List.append_nil]
    exact ⟨rfl, quiet⟩
  · rw [whole, set_up_in_order i wq configures _ off, since_disabled_append _ _ (set_up_kept i wq configures), quiet]
    exact ⟨rfl, rfl⟩

theorem untouched_history (i : Nat) (script : Script num_iax) (misses : ¬ script.Clears i) (none : script.setUp i = []) :
    history i script.commands = [] := by
  rw [script_history, if_neg misses, none, List.append_nil]

theorem existing_untouched (i : Nat) (existing : Exists num_iax i) (script : Script num_iax) (misses : ¬ script.Clears i) :
    script.setUp i = [] := by
  cases script with
  | iaa arguments => exact absurd existing misses
  | iaa4416 => exact if_neg misses

theorem history_snoc (i : Nat) (scripts : List (Script num_iax)) (script : Script num_iax) :
    history i ((scripts ++ [script]).flatMap Script.commands) =
      history i (scripts.flatMap Script.commands) ++ history i script.commands := by
  rw [List.flatMap_append, history_append, List.flatMap_singleton]

theorem last_reaching_snoc (i : Nat) (scripts : List (Script num_iax)) (script : Script num_iax) :
    lastReaching i (scripts ++ [script]) = if script.Clears i then some script else lastReaching i scripts := by
  rw [lastReaching, List.filter_append]
  by_cases clears : script.Clears i
  · rw [if_pos clears, List.filter_cons_of_pos (by simpa using clears), List.filter_nil, List.getLast?_concat]
  · rw [if_neg clears, List.filter_cons_of_neg (by simpa using clears), List.filter_nil, List.append_nil]
    rfl

theorem last_reaching_wins (i : Nat) (existing : Exists num_iax i) (scripts : List (Script num_iax)) :
    Orderly i (scripts.flatMap Script.commands) ∧
      sinceDisabled (history i (scripts.flatMap Script.commands)) =
        match lastReaching i scripts with
        | none => []
        | some script => script.setUp i := by
  induction scripts using List.reverseRecOn with
  | nil => exact ⟨rfl, rfl⟩
  | append_singleton scripts script ih =>
      obtain ⟨ordered, told⟩ := ih
      rw [Orderly, history_snoc, in_order_append, ordered, Bool.true_and, List.nil_append, last_reaching_snoc]
      by_cases clears : script.Clears i
      · rw [if_pos clears]
        exact cleared_in_order i script clears _
      · rw [if_neg clears, untouched_history i script clears (existing_untouched i existing script clears),
          List.append_nil]
        exact ⟨rfl, told⟩

-- No disable loop reaches the number that 0 selects.
theorem stranger_zero (positive : 1 ≤ num_iax) (i : Nat) (script : Script num_iax) (misses : ¬ script.Clears i) :
    script.setUp i = [] ∨ i = 0 ∧ script.zero = true := by
  cases script with
  | iaa4416 => exact .inl (if_neg misses)
  | iaa arguments =>
      by_cases selected : i ∈ enabledBy num_iax arguments.device
      · refine .inr ?_
        have absent : ¬ Exists num_iax i := misses
        have documented := arguments.documented
        cases form : arguments.device with
        | omitted =>
            rw [form] at selected
            exact absurd ((mem_all num_iax i).mp selected) absent
        | zero =>
            rw [form, enabledBy, if_neg (by omega), mem_for_step] at selected
            exact ⟨by omega, decide_eq_true form⟩
        | single d =>
            rw [form] at selected documented
            rw [enabledBy] at selected
            split at selected
            · exact absurd ((mem_all num_iax i).mp selected) absent
            · rw [mem_for_step] at selected
              have same : i = d := by omega
              exact absurd (same ▸ documented) absent
        | range s e =>
            rw [form] at selected documented
            obtain ⟨⟨odd, _⟩, ⟨_, below⟩, _⟩ := documented
            rw [enabledBy, mem_for_step] at selected
            exact absurd ⟨by omega, by omega⟩ absent
      · exact .inl (if_neg selected)

theorem harmless_in_order (i : Nat) (scripts : List (Script num_iax))
    (harmless : ∀ script ∈ scripts, script.Clears i ∨ script.setUp i = []) (told : List Command) :
    inOrder told (history i (scripts.flatMap Script.commands)) = true := by
  induction scripts generalizing told with
  | nil => rfl
  | cons script rest ih =>
      have later := ih (fun other member => harmless other (List.mem_cons_of_mem script member))
      rw [List.flatMap_cons, history_append, in_order_append, later, Bool.and_true]
      by_cases clears : script.Clears i
      · exact (cleared_in_order i script clears told).1
      · have none := (harmless script List.mem_cons_self).resolve_left clears
        rw [untouched_history i script clears none]
        rfl

theorem zero_history (positive : 1 ≤ num_iax) (script : Script num_iax) : history 0 script.commands =
    if script.zero then script.setUp 0 else [] := by
  have misses : ¬ script.Clears 0 := by
    cases script with
    | iaa arguments => exact fun existing => absurd existing.1 (by decide)
    | iaa4416 => exact Nat.zero_ne_one
  rw [script_history, if_neg misses, List.nil_append]
  cases given : script.zero with
  | true => rfl
  | false =>
      rcases stranger_zero positive 0 script misses with none | ⟨_, zero⟩
      · exact none
      · exact absurd (given.symm.trans zero) Bool.false_ne_true

theorem zero_set_up (positive : 1 ≤ num_iax) (script : Script num_iax) (zero : script.zero = true) :
    ∃ wq, ConfiguresWq wq ∧ script.setUp 0 = setUpCommands wq 0 := by
  cases script with
  | iaa4416 => cases zero
  | iaa arguments =>
      have form : arguments.device = .zero := of_decide_eq_true zero
      have selected : 0 ∈ enabledBy num_iax arguments.device := by
        rw [form, enabledBy, if_neg (by omega), mem_for_step]
        decide
      exact ⟨arguments.configWq 0, ⟨rfl, rfl, fun _ => rfl⟩, if_pos selected⟩

theorem zeros_in_order (positive : 1 ≤ num_iax) (scripts : List (Script num_iax)) (told : List Command) :
    inOrder told (history 0 (scripts.flatMap Script.commands)) = true ↔
      (scripts.filter Script.zero).length + (enabled told).toNat ≤ 1 := by
  induction scripts generalizing told with
  | nil =>
      refine iff_of_true rfl ?_
      have bound := Bool.toNat_le (enabled told)
      simpa using bound
  | cons script rest ih =>
      rw [List.flatMap_cons, history_append, in_order_append, zero_history positive]
      cases given : script.zero with
      | false =>
          rw [if_neg Bool.false_ne_true, inOrder, Bool.true_and, List.append_nil, ih,
            List.filter_cons_of_neg (by rw [given]; exact Bool.false_ne_true)]
      | true =>
          obtain ⟨wq, configures, whole⟩ := zero_set_up positive script given
          rw [if_pos rfl, whole, List.filter_cons_of_pos given, List.length_cons]
          cases on : enabled told with
          | true =>
              rw [set_up_refused 0 wq told on, Bool.false_and, Bool.toNat_true]
              exact iff_of_false Bool.false_ne_true (by omega)
          | false =>
              rw [set_up_in_order 0 wq configures told on, Bool.true_and, ih, set_up_enables 0 wq configures,
                Bool.toNat_true, Bool.toNat_false, Nat.add_zero]

theorem order_kept_iff (positive : 1 ≤ num_iax) (scripts : List (Script num_iax)) :
    (∀ i, Orderly i (scripts.flatMap Script.commands)) ↔ (scripts.filter Script.zero).length ≤ 1 := by
  have zeros := zeros_in_order positive scripts []
  rw [show (enabled []).toNat = 0 from rfl, Nat.add_zero] at zeros
  rw [← zeros]
  refine ⟨fun ordered => ordered 0, fun ordered i => ?_⟩
  by_cases zero : i = 0
  · subst zero
    exact ordered
  · refine harmless_in_order i scripts (fun script _ => ?_) []
    by_cases clears : script.Clears i
    · exact .inl clears
    · exact .inr ((stranger_zero positive i script clears).resolve_right (fun both => zero both.1))

end Scripts

def runAll : Script 4 := .iaa ⟨none, .omitted, none, trivial⟩

def runZero : Script 4 := .iaa ⟨some .dedicated, .zero, some 64, trivial⟩

theorem narrow_script_wins : Orderly 1 ([runAll, .iaa4416, runZero, .iaa4416].flatMap Script.commands) ∧
    sinceDisabled (history 1 ([runAll, .iaa4416, runZero, .iaa4416].flatMap Script.commands)) =
      match lastReaching 1 [runAll, .iaa4416, runZero, .iaa4416] with
      | none => []
      | some script => script.setUp 1 :=
  last_reaching_wins 1 ⟨rfl, by decide⟩ [runAll, .iaa4416, runZero, .iaa4416]

theorem zero_once : (∀ i, Orderly i ([runZero, runAll, runZero].flatMap Script.commands)) ↔
    ([runZero, runAll, runZero].filter Script.zero).length ≤ 1 :=
  order_kept_iff (by decide) [runZero, runAll, runZero]

end SprAccelProfiling.Iaa
