import Mathlib.Data.Nat.Find

set_option autoImplicit false

namespace SprAccelProfiling.Loop

section Turns

variable {σ α : Type}

/-- One turn of a loop whose number of turns is not known in advance: a do-while
body with its test, or the code between a label and the goto that returns to it. -/
inductive Turn (σ α : Type) where
  | again (state : σ)
  | done (result : α)

-- The fuel only bounds the evaluation. A result never depends on it (run_mono).
def run (turn : σ → Turn σ α) : Nat → σ → Option α
  | 0, _ => none
  | fuel + 1, state =>
      match turn state with
      | .done result => some result
      | .again next => run turn fuel next

def Ends (turn : σ → Turn σ α) (state : σ) (result : α) : Prop :=
  ∃ fuel, run turn fuel state = some result

def Terminates (turn : σ → Turn σ α) (state : σ) : Prop :=
  ∃ result, Ends turn state result

theorem run_mono (turn : σ → Turn σ α) (fuel extra : Nat) (state : σ) (result : α)
    (ended : run turn fuel state = some result) : run turn (fuel + extra) state = some result := by
  induction fuel generalizing state with
  | zero => simp [run] at ended
  | succ fuel ih =>
      rw [Nat.succ_add]
      cases step : turn state with
      | done value => simpa only [run, step] using ended
      | again next =>
          simp only [run, step] at ended ⊢
          exact ih next ended

theorem ends_unique (turn : σ → Turn σ α) (state : σ) (a b : α)
    (first : Ends turn state a) (second : Ends turn state b) : a = b := by
  obtain ⟨n, atN⟩ := first
  obtain ⟨m, atM⟩ := second
  have left := run_mono turn n m state a atN
  have right := run_mono turn m n state b atM
  rw [Nat.add_comm] at right
  exact Option.some.inj (left.symm.trans right)

theorem run_done (turn : σ → Turn σ α) (fuel : Nat) (state : σ) (result : α) (step : turn state = .done result) :
    run turn (fuel + 1) state = some result := by
  simp only [run, step]

theorem ends_done (turn : σ → Turn σ α) (state : σ) (value result : α)
    (step : turn state = .done value) : Ends turn state result ↔ value = result := by
  constructor
  · intro ⟨fuel, ended⟩
    cases fuel with
    | zero => simp [run] at ended
    | succ fuel => simpa only [run, step, Option.some.injEq] using ended
  · intro same
    exact ⟨1, by simp only [run, step, same]⟩

theorem ends_again (turn : σ → Turn σ α) (state next : σ) (result : α)
    (step : turn state = .again next) : Ends turn state result ↔ Ends turn next result := by
  constructor
  · intro ⟨fuel, ended⟩
    cases fuel with
    | zero => simp [run] at ended
    | succ fuel => exact ⟨fuel, by simpa only [run, step] using ended⟩
  · intro ⟨fuel, ended⟩
    exact ⟨fuel + 1, by simpa only [run, step] using ended⟩

theorem never_ends (turn : σ → Turn σ α) (stuck : σ → Prop)
    (closed : ∀ state, stuck state → ∃ next, turn state = .again next ∧ stuck next)
    (state : σ) (inside : stuck state) : ¬ Terminates turn state := by
  intro ⟨result, fuel, ended⟩
  induction fuel generalizing state with
  | zero => simp [run] at ended
  | succ fuel ih =>
      obtain ⟨next, step, stays⟩ := closed state inside
      exact ih next stays (by simpa only [run, step] using ended)

theorem terminates_of_rank (turn : σ → Turn σ α) (rank : σ → Nat)
    (lowers : ∀ state next, turn state = .again next → rank next < rank state) (state : σ) : Terminates turn state := by
  induction bound : rank state using Nat.strongRecOn generalizing state with
  | ind count ih =>
      cases turned : turn state with
      | done result => exact ⟨result, (ends_done turn state result result turned).mpr rfl⟩
      | again next =>
          obtain ⟨result, ended⟩ := ih (rank next) (bound ▸ lowers state next turned) next rfl
          exact ⟨result, (ends_again turn state next result turned).mpr ended⟩

theorem ends_invariant (turn : σ → Turn σ α) (keeps : σ → Prop)
    (step : ∀ state next, keeps state → turn state = .again next → keeps next)
    (state : σ) (result : α) (holds : keeps state) (ended : Ends turn state result) :
    ∃ last, keeps last ∧ turn last = .done result := by
  obtain ⟨fuel, ended⟩ := ended
  induction fuel generalizing state with
  | zero => simp [run] at ended
  | succ fuel ih =>
      cases turned : turn state with
      | done value =>
          simp only [run, turned, Option.some.injEq] at ended
          exact ⟨state, holds, by rw [turned, ended]⟩
      | again next =>
          simp only [run, turned] at ended
          exact ih next (step state next holds turned) ended

inductive Visits (turn : σ → Turn σ α) (first : σ) : σ → Prop where
  | start : Visits turn first first
  | again (state next : σ) (before : Visits turn first state) (turned : turn state = .again next) :
      Visits turn first next

theorem visits_invariant (turn : σ → Turn σ α) (keeps : σ → Prop)
    (step : ∀ state next, keeps state → turn state = .again next → keeps next)
    (first state : σ) (holds : keeps first) (visited : Visits turn first state) : keeps state := by
  induction visited with
  | start => exact holds
  | again before next _ turned ih => exact step before next ih turned

theorem visits_later (turn : σ → Turn σ α) (first state : σ) (visited : Visits turn first state) :
    state = first ∨ ∃ before, turn before = .again state := by
  cases visited with
  | start => exact .inl rfl
  | again before _ _ turned => exact .inr ⟨before, turned⟩

theorem visits_only (turn : σ → Turn σ α) (first state : σ) (result : α) (turned : turn first = .done result)
    (visited : Visits turn first state) : state = first := by
  apply visits_invariant turn (fun state => state = first) _ first state rfl visited
  intro state next same moved
  rw [same, turned] at moved
  cases moved

section Tracked

variable (turn : σ → Turn σ α) (states : Nat → σ) (results : Nat → α) (stops : Nat → Prop)
variable (goes : ∀ n, ¬ stops n → turn (states n) = .again (states (n + 1)))
variable (leaves : ∀ n, stops n → turn (states n) = .done (results n))

include goes leaves

theorem ends_from (n left : Nat) (stopped : stops (n + left)) (before : ∀ m, m < left → ¬ stops (n + m)) :
    Ends turn (states n) (results (n + left)) := by
  induction left generalizing n with
  | zero => exact (ends_done turn _ _ _ (leaves n stopped)).mpr rfl
  | succ left ih =>
      have going := goes n (before 0 (Nat.succ_pos left))
      have rest := ih (n + 1) (by rwa [Nat.add_assoc, Nat.add_comm 1 left])
        (fun m below => by
          rw [Nat.add_assoc, Nat.add_comm 1 m]
          exact before (m + 1) (Nat.succ_lt_succ below))
      rw [Nat.add_assoc, Nat.add_comm 1 left] at rest
      exact (ends_again turn _ _ _ going).mpr rest

theorem ends_at_first (result : α) :
    Ends turn (states 0) result ↔ ∃ n, stops n ∧ (∀ m, m < n → ¬ stops m) ∧ result = results n := by
  classical
  constructor
  · intro ended
    by_cases some : ∃ n, stops n
    · have first : Ends turn (states 0) (results (Nat.find some)) := by
        have ends := ends_from turn states results stops goes leaves 0 (Nat.find some)
          (by rw [Nat.zero_add]; exact Nat.find_spec some)
          (fun m below => by rw [Nat.zero_add]; exact Nat.find_min some below)
        rwa [Nat.zero_add] at ends
      exact ⟨Nat.find some, Nat.find_spec some, fun m below => Nat.find_min some below, ends_unique turn _ _ _ ended first⟩
    · have never : ¬ Terminates turn (states 0) := by
        apply never_ends turn (fun state => ∃ n, state = states n) _ (states 0) ⟨0, rfl⟩
        intro state tracked
        obtain ⟨n, rfl⟩ := tracked
        exact ⟨_, goes n (fun stopped => some ⟨n, stopped⟩), n + 1, rfl⟩
      exact absurd ⟨result, ended⟩ never
  · intro found
    obtain ⟨n, stopped, before, rfl⟩ := found
    have ends := ends_from turn states results stops goes leaves 0 n (by rwa [Nat.zero_add])
      (fun m below => by rw [Nat.zero_add]; exact before m below)
    rwa [Nat.zero_add] at ends

end Tracked

theorem run_reaches (turn : σ → Turn σ α) (states : Nat → σ) (result : α) (count extra : Nat)
    (goes : ∀ m, m < count → turn (states m) = .again (states (m + 1))) (leaves : turn (states count) = .done result) :
    run turn (count + extra + 1) (states 0) = some result := by
  induction count generalizing states with
  | zero => exact run_done turn _ _ result leaves
  | succ count ih =>
      have rest := ih (fun n => states (n + 1)) (fun m below => goes (m + 1) (Nat.succ_lt_succ below)) leaves
      rw [Nat.succ_add, run, goes 0 (Nat.succ_pos count)]
      exact rest

theorem common_fuel (turn : σ → Turn σ α) (states : Nat → σ) (results : Nat → α) (count : Nat)
    (ends : ∀ i, i < count → Ends turn (states i) (results i)) :
    ∃ fuel, ∀ i, i < count → run turn fuel (states i) = some (results i) := by
  induction count with
  | zero => exact ⟨0, fun i impossible => by omega⟩
  | succ count ih =>
      obtain ⟨fuel, enough⟩ := ih (fun i within => ends i (by omega))
      obtain ⟨own, ended⟩ := ends count (by omega)
      refine ⟨fuel + own, fun i within => ?_⟩
      by_cases last : i = count
      · subst i
        rw [Nat.add_comm]
        exact run_mono turn own fuel (states count) (results count) ended
      · exact run_mono turn fuel own (states i) (results i) (enough i (by omega))

end Turns

section Counted

variable {σ ε : Type}

-- for (int i = 0; i < count; i++) with a body that may leave the loop for good.
def upTo (body : Nat → σ → Except ε σ) : Nat → σ → Except ε σ
  | 0, state => .ok state
  | count + 1, state =>
      match upTo body count state with
      | .ok next => body count next
      | .error stop => .error stop

theorem up_to_succ (body : Nat → σ → Except ε σ) (count : Nat) (state next : σ)
    (before : upTo body count state = .ok next) : upTo body (count + 1) state = body count next := by
  simp only [upTo, before]

theorem up_to_prefix (body : Nat → σ → Except ε σ) (count extra : Nat) (state last : σ)
    (ended : upTo body (count + extra) state = .ok last) : ∃ next, upTo body count state = .ok next := by
  induction extra generalizing last with
  | zero => exact ⟨last, ended⟩
  | succ extra ih =>
      cases before : upTo body (count + extra) state with
      | ok next => exact ih next before
      | error stop => simp [upTo, before] at ended

theorem up_to_visits (body : Nat → σ → Except ε σ) (count i : Nat) (state last : σ)
    (ended : upTo body count state = .ok last) (within : i < count) :
    ∃ before after, upTo body i state = .ok before ∧ body i before = .ok after ∧
      upTo body (i + 1) state = .ok after := by
  obtain ⟨extra, rfl⟩ := Nat.exists_eq_add_of_le within
  obtain ⟨after, reached⟩ := up_to_prefix body (i + 1) extra state last ended
  cases before : upTo body i state with
  | ok next => exact ⟨next, after, rfl, by rw [← up_to_succ body i state next before, reached], reached⟩
  | error stop => simp [upTo, before] at reached

theorem up_to_leaves (body : Nat → σ → Except ε σ) (count : Nat) (state : σ) (stop : ε)
    (left : upTo body count state = .error stop) :
    ∃ i before, i < count ∧ upTo body i state = .ok before ∧ body i before = .error stop := by
  induction count with
  | zero => cases left
  | succ count ih =>
      cases reached : upTo body count state with
      | error earlier =>
          simp only [upTo, reached] at left
          cases left
          obtain ⟨i, before, within, entered, stopped⟩ := ih reached
          exact ⟨i, before, by omega, entered, stopped⟩
      | ok before => exact ⟨count, before, by omega, reached, by rw [← up_to_succ body count state before reached, left]⟩

def leavesAt (body : Nat → σ → Except ε σ) : Nat → σ → Option (Nat × σ)
  | 0, _ => none
  | count + 1, state =>
      match upTo body count state with
      | .error _ => leavesAt body count state
      | .ok next =>
          match body count next with
          | .ok _ => none
          | .error _ => some (count, next)

theorem leaves_at_stop (body : Nat → σ → Except ε σ) (count : Nat) (state : σ) (stop : ε)
    (left : upTo body count state = .error stop) :
    ∃ i before, leavesAt body count state = some (i, before) ∧ body i before = .error stop := by
  induction count with
  | zero => cases left
  | succ count ih =>
      cases reached : upTo body count state with
      | error earlier =>
          simp only [upTo, reached] at left
          cases left
          obtain ⟨i, before, found, stopped⟩ := ih reached
          exact ⟨i, before, by simp only [leavesAt, reached, found], stopped⟩
      | ok before =>
          rw [up_to_succ body count state before reached] at left
          exact ⟨count, before, by simp only [leavesAt, reached, left], left⟩

theorem up_to_invariant (body : Nat → σ → Except ε σ) (keeps : Nat → σ → Prop) (count : Nat) (state last : σ)
    (start : keeps 0 state)
    (step : ∀ i before after, i < count → keeps i before → body i before = .ok after → keeps (i + 1) after)
    (ended : upTo body count state = .ok last) : keeps count last := by
  induction count generalizing last with
  | zero =>
      cases ended
      exact start
  | succ count ih =>
      obtain ⟨before, after, reached, moved, same⟩ := up_to_visits body (count + 1) count state last ended (by omega)
      rw [same] at ended
      cases ended
      exact step count before last (by omega) (ih before
        (fun i b a within => step i b a (by omega)) reached) moved

theorem up_to_total (body : Nat → σ → Except ε σ) (keeps : Nat → σ → Prop) (count : Nat) (state : σ)
    (start : keeps 0 state)
    (step : ∀ i before, i < count → keeps i before → ∃ after, body i before = .ok after ∧ keeps (i + 1) after) :
    ∃ last, upTo body count state = .ok last ∧ keeps count last := by
  induction count with
  | zero => exact ⟨state, rfl, start⟩
  | succ count ih =>
      obtain ⟨next, reached, holds⟩ := ih (fun i before within => step i before (by omega))
      obtain ⟨after, moved, kept⟩ := step count next (by omega) holds
      exact ⟨after, by rw [up_to_succ body count state next reached, moved], kept⟩

end Counted

end SprAccelProfiling.Loop
