import Mathlib.Tactic.ByContra

set_option autoImplicit false

namespace SprAccelProfiling.Runs

variable {σ ε : Type}

-- A labelled transition system with at most one successor for a label. The label
-- list is the interleaving; none means the label cannot happen in that state.
def run (step : σ → ε → Option σ) : σ → List ε → Option σ
  | state, [] => some state
  | state, label :: rest =>
      match step state label with
      | none => none
      | some next => run step next rest

-- The property holds in every state of the run, the last one included. It may
-- also look at the history, the labels that led to the state.
def Always (step : σ → ε → Option σ) (holds : List ε → σ → Prop) : List ε → σ → List ε → Prop
  | history, state, [] => holds history state
  | history, state, label :: rest =>
      holds history state ∧
        ∀ next, step state label = some next → Always step holds (history ++ [label]) next rest

def EveryStep (step : σ → ε → Option σ) (clean : List ε → σ → ε → Prop) : List ε → σ → List ε → Prop
  | _, _, [] => True
  | history, state, label :: rest =>
      clean history state label ∧
        ∀ next, step state label = some next → EveryStep step clean (history ++ [label]) next rest

theorem always_now (step : σ → ε → Option σ) (holds : List ε → σ → Prop) (history labels : List ε) (state : σ)
    (always : Always step holds history state labels) : holds history state := by
  cases labels with
  | nil => exact always
  | cons label rest => exact always.1

theorem always_mono (step : σ → ε → Option σ) (strong weak : List ε → σ → Prop)
    (weaker : ∀ history state, strong history state → weak history state) (history labels : List ε) (state : σ)
    (always : Always step strong history state labels) : Always step weak history state labels := by
  induction labels generalizing history state with
  | nil => exact weaker history state always
  | cons label rest ih =>
      exact ⟨weaker history state always.1, fun next moved => ih (history ++ [label]) next (always.2 next moved)⟩

theorem always_of_every_step (step : σ → ε → Option σ) (keeps : List ε → σ → Prop)
    (clean : List ε → σ → ε → Prop)
    (preserved : ∀ history state label next, keeps history state → clean history state label →
      step state label = some next → keeps (history ++ [label]) next)
    (history labels : List ε) (state : σ) (invariant : keeps history state)
    (allClean : EveryStep step clean history state labels) : Always step keeps history state labels := by
  induction labels generalizing history state with
  | nil => exact invariant
  | cons label rest ih =>
      refine ⟨invariant, fun next moved => ?_⟩
      exact ih (history ++ [label]) next (preserved history state label next invariant allClean.1 moved)
        (allClean.2 next moved)

/-- Exactness: when a step that is not clean breaks the property at once, the runs
along which the property always holds are the runs that have only clean steps. -/
theorem always_iff_every_step (step : σ → ε → Option σ) (keeps holds : List ε → σ → Prop)
    (clean : List ε → σ → ε → Prop)
    (sound : ∀ history state, keeps history state → holds history state)
    (preserved : ∀ history state label next, keeps history state → clean history state label →
      step state label = some next → keeps (history ++ [label]) next)
    (broken : ∀ history state label next, keeps history state → ¬ clean history state label →
      step state label = some next → ¬ holds (history ++ [label]) next)
    (history labels : List ε) (state last : σ) (invariant : keeps history state)
    (completed : run step state labels = some last) :
    Always step holds history state labels ↔ EveryStep step clean history state labels := by
  constructor
  · intro always
    induction labels generalizing history state with
    | nil => trivial
    | cons label rest ih =>
        cases moved : step state label with
        | none => simp [run, moved] at completed
        | some next =>
            have after := always.2 next moved
            have ok : clean history state label := by
              by_contra dirty
              exact broken history state label next invariant dirty moved
                (always_now step holds (history ++ [label]) rest next after)
            have kept := preserved history state label next invariant ok moved
            refine ⟨ok, fun other same => ?_⟩
            cases moved.symm.trans same
            exact ih (history ++ [label]) next kept (by simpa only [run, moved] using completed) after
  · intro allClean
    exact always_mono step keeps holds sound history labels state
      (always_of_every_step step keeps clean preserved history labels state invariant allClean)

theorem run_invariant (step : σ → ε → Option σ) (keeps : List ε → σ → Prop)
    (preserved : ∀ history state label next, keeps history state → step state label = some next →
      keeps (history ++ [label]) next)
    (history labels : List ε) (state last : σ) (invariant : keeps history state)
    (completed : run step state labels = some last) : keeps (history ++ labels) last := by
  induction labels generalizing history state with
  | nil =>
      cases completed
      rwa [List.append_nil]
  | cons label rest ih =>
      cases moved : step state label with
      | none => simp [run, moved] at completed
      | some next =>
          rw [List.append_cons]
          exact ih (history ++ [label]) next (preserved history state label next invariant moved)
            (by simpa only [run, moved] using completed)

def Along (holds : List ε → ε → Prop) : List ε → List ε → Prop
  | _, [] => True
  | history, label :: rest => holds history label ∧ Along holds (history ++ [label]) rest

theorem along_append (holds : List ε → ε → Prop) (history first second : List ε) :
    Along holds history (first ++ second) ↔ Along holds history first ∧ Along holds (history ++ first) second := by
  induction first generalizing history with
  | nil =>
      rw [List.nil_append, List.append_nil]
      exact (and_iff_right trivial).symm
  | cons label rest ih =>
      rw [List.cons_append, Along, Along, ih (history ++ [label]), List.append_assoc, and_assoc]
      rfl

theorem along_silent (holds : List ε → ε → Prop) (history labels : List ε)
    (silent : ∀ label ∈ labels, ∀ before, holds before label) : Along holds history labels := by
  induction labels generalizing history with
  | nil => trivial
  | cons label rest ih =>
      exact ⟨silent label List.mem_cons_self history,
        ih (history ++ [label]) (fun other later => silent other (List.mem_cons_of_mem label later))⟩

theorem along_repeated (holds : List ε → ε → Prop) (ready : List ε → Prop) (block : List ε)
    (once : ∀ history, ready history → Along holds history block ∧ ready (history ++ block)) (count : Nat)
    (history : List ε) (start : ready history) :
    Along holds history (List.replicate count block).flatten ∧
      ready (history ++ (List.replicate count block).flatten) := by
  induction count generalizing history with
  | zero =>
      rw [List.replicate_zero, List.flatten_nil, List.append_nil]
      exact ⟨trivial, start⟩
  | succ count ih =>
      obtain ⟨along, next⟩ := once history start
      obtain ⟨rest, last⟩ := ih (history ++ block) next
      rw [List.replicate_succ, List.flatten_cons, along_append, ← List.append_assoc]
      exact ⟨⟨along, rest⟩, last⟩

end SprAccelProfiling.Runs
