import Mathlib.Data.List.Basic
import SprAccelProfiling.BpfMap
import SprAccelProfiling.Runs

set_option autoImplicit false
set_option linter.unusedSectionVars false

namespace SprAccelProfiling.Probe

open SprAccelProfiling.Runs

section SwapOverhead

variable {Tid Pid Stack : Type} [DecidableEq Tid] [DecidableEq Pid] [DecidableEq Stack] [Inhabited Stack]

-- @start and @zswap are only ever assigned 0 and 1.
structure SwapMaps (Pid Stack : Type) where
  swapin : Table Pid Stack
  swapin_ts : Table Pid UInt64
  start : Bool
  zswap : Bool
  recorded : Recorded Pid Stack

def kprobeHandleMmFault (pid : Pid) (kstack : Stack) (nsecs : UInt64) (maps : SwapMaps Pid Stack) :
    SwapMaps Pid Stack :=
  { maps with
    swapin := store maps.swapin pid kstack
    swapin_ts := store maps.swapin_ts pid nsecs
    start := true
    zswap := false }

def kprobeFrontswapLoad (maps : SwapMaps Pid Stack) : SwapMaps Pid Stack :=
  if maps.start then { maps with zswap := true } else maps

def kretprobeHandleMmFault (pid : Pid) (nsecs : UInt64) (maps : SwapMaps Pid Stack) : SwapMaps Pid Stack :=
  if maps.zswap then
    { swapin := delete maps.swapin pid
      swapin_ts := delete maps.swapin_ts pid
      start := false
      zswap := false
      recorded := record ⟨pid, fetch maps.swapin pid, nsecs - fetch maps.swapin_ts pid⟩ maps.recorded }
  else { maps with start := false, zswap := false }

inductive FaultEvent (Tid Stack : Type) where
  | entry (tid : Tid) (kstack : Stack) (nsecs : UInt64)
  | load (tid : Tid)
  | ret (tid : Tid) (nsecs : UInt64)

inductive FaultThread (Stack : Type) where
  | outside
  | inside (kstack : Stack) (nsecs : UInt64) (loaded : Bool)

-- due is the ideal recorder. latest is the entry a process made last, until a fault
-- of that process that loaded returns.
structure FaultWorld (Tid Pid Stack : Type) where
  maps : SwapMaps Pid Stack
  thread : Tid → FaultThread Stack
  latest : Table Pid (Stack × UInt64)
  due : Recorded Pid Stack

def noFaults : FaultWorld Tid Pid Stack :=
  ⟨⟨clear, clear, false, false, unrecorded⟩, fun _ => .outside, clear, unrecorded⟩

variable (pidOf : Tid → Pid)

def faultStep (world : FaultWorld Tid Pid Stack) : FaultEvent Tid Stack → Option (FaultWorld Tid Pid Stack)
  | .entry tid kstack nsecs =>
      match world.thread tid with
      | .inside _ _ _ => none
      | .outside =>
          some
            { maps := kprobeHandleMmFault (pidOf tid) kstack nsecs world.maps
              thread := Function.update world.thread tid (.inside kstack nsecs false)
              latest := store world.latest (pidOf tid) (kstack, nsecs)
              due := world.due }
  | .load tid =>
      match world.thread tid with
      | .outside => none
      | .inside kstack entered _ =>
          some
            { maps := kprobeFrontswapLoad world.maps
              thread := Function.update world.thread tid (.inside kstack entered true)
              latest := world.latest
              due := world.due }
  | .ret tid nsecs =>
      match world.thread tid with
      | .outside => none
      | .inside kstack entered loaded =>
          some
            { maps := kretprobeHandleMmFault (pidOf tid) nsecs world.maps
              thread := Function.update world.thread tid .outside
              latest := if loaded then delete world.latest (pidOf tid) else world.latest
              due := if loaded then record ⟨pidOf tid, kstack, nsecs - entered⟩ world.due else world.due }

def FaultExact (world : FaultWorld Tid Pid Stack) : Prop :=
  world.maps.recorded = world.due

def IsLoad (event : FaultEvent Tid Stack) : Prop := ∃ tid, event = .load tid

def EntryLatest (history : List (FaultEvent Tid Stack)) : Prop :=
  ∃ before tid kstack nsecs loads, history = before ++ .entry tid kstack nsecs :: loads ∧
    ∀ event ∈ loads, IsLoad event

def LoadLatest (history : List (FaultEvent Tid Stack)) : Prop :=
  ∃ tid, history.getLast? = some (.load tid)

-- Some thread has called __frontswap_load since the most recent entry or return of
-- any thread, and that is an entry.
def LoadSeen (history : List (FaultEvent Tid Stack)) : Prop :=
  EntryLatest history ∧ LoadLatest history

/-- A return is clean when its own fault loaded if and only if a load was seen, and,
if it loaded, the latest entry of its process is its own. -/
def FaultClean (history : List (FaultEvent Tid Stack)) (world : FaultWorld Tid Pid Stack) :
    FaultEvent Tid Stack → Prop
  | .ret tid _ =>
      match world.thread tid with
      | .inside kstack entered true => LoadSeen history ∧ fetch world.latest (pidOf tid) = (kstack, entered)
      | .inside _ _ false => ¬ LoadSeen history
      | .outside => True
  | _ => True

structure FaultInvariant (history : List (FaultEvent Tid Stack)) (world : FaultWorld Tid Pid Stack) : Prop where
  exact : world.maps.recorded = world.due
  start : world.maps.start = true ↔ EntryLatest history
  zswap : world.maps.zswap = true ↔ LoadSeen history
  kstacks : ∀ pid, world.maps.swapin pid = (world.latest pid).map Prod.fst
  stamps : ∀ pid, world.maps.swapin_ts pid = (world.latest pid).map Prod.snd

theorem entry_latest_after_entry (history : List (FaultEvent Tid Stack)) (tid : Tid) (kstack : Stack)
    (nsecs : UInt64) : EntryLatest (history ++ [.entry tid kstack nsecs]) :=
  ⟨history, tid, kstack, nsecs, [], rfl, by simp⟩

theorem entry_latest_last (history : List (FaultEvent Tid Stack)) (event : FaultEvent Tid Stack)
    (latest : EntryLatest (history ++ [event])) :
    (∃ tid kstack nsecs, event = .entry tid kstack nsecs) ∨ (IsLoad event ∧ EntryLatest history) := by
  obtain ⟨before, tid, kstack, nsecs, loads, split, onlyLoads⟩ := latest
  rcases loads.eq_nil_or_concat' with rfl | ⟨loads, last, rfl⟩
  · obtain ⟨_, same⟩ := List.append_inj' split rfl
    exact .inl ⟨tid, kstack, nsecs, (List.singleton_inj.mp same)⟩
  · rw [← List.cons_append, ← List.append_assoc] at split
    obtain ⟨shorter, same⟩ := List.append_inj' split rfl
    refine .inr ⟨?_, before, tid, kstack, nsecs, loads, shorter, fun other member => onlyLoads other (by simp [member])⟩
    rw [List.singleton_inj.mp same]
    exact onlyLoads last (by simp)

theorem entry_latest_after_load (history : List (FaultEvent Tid Stack)) (tid : Tid) :
    EntryLatest (history ++ [.load tid]) ↔ EntryLatest history := by
  constructor
  · intro latest
    rcases entry_latest_last history (.load tid) latest with ⟨_, _, _, entry⟩ | ⟨_, earlier⟩
    · cases entry
    · exact earlier
  · rintro ⟨before, other, kstack, nsecs, loads, rfl, onlyLoads⟩
    refine ⟨before, other, kstack, nsecs, loads ++ [.load tid], by simp, ?_⟩
    intro event member
    obtain old | rfl : event ∈ loads ∨ event = .load tid := by simpa using member
    · exact onlyLoads event old
    · exact ⟨tid, rfl⟩

theorem entry_latest_after_ret (history : List (FaultEvent Tid Stack)) (tid : Tid) (nsecs : UInt64) :
    ¬ EntryLatest (history ++ [.ret tid nsecs]) := by
  intro latest
  rcases entry_latest_last history (.ret tid nsecs) latest with ⟨_, _, _, entry⟩ | ⟨load, _⟩
  · cases entry
  · obtain ⟨thread, same⟩ := load
    cases same

theorem load_latest_snoc (history : List (FaultEvent Tid Stack)) (event : FaultEvent Tid Stack) :
    LoadLatest (history ++ [event]) ↔ IsLoad event := by
  simp [LoadLatest, IsLoad]

theorem no_load_seen (history : List (FaultEvent Tid Stack)) (event : FaultEvent Tid Stack)
    (other : ¬ IsLoad event) : ¬ LoadSeen (history ++ [event]) :=
  fun seen => other ((load_latest_snoc history event).mp seen.2)

theorem fault_entry_cases (world next : FaultWorld Tid Pid Stack) (tid : Tid) (kstack : Stack) (nsecs : UInt64)
    (moved : faultStep pidOf world (.entry tid kstack nsecs) = some next) :
    next = ⟨kprobeHandleMmFault (pidOf tid) kstack nsecs world.maps,
      Function.update world.thread tid (.inside kstack nsecs false),
      store world.latest (pidOf tid) (kstack, nsecs), world.due⟩ := by
  rw [faultStep] at moved
  cases state : world.thread tid with
  | inside old time loaded => simp [state] at moved
  | outside =>
      simp only [state, Option.some.injEq] at moved
      exact moved.symm

theorem fault_load_cases (world next : FaultWorld Tid Pid Stack) (tid : Tid)
    (moved : faultStep pidOf world (.load tid) = some next) :
    ∃ kstack entered, next = ⟨kprobeFrontswapLoad world.maps,
      Function.update world.thread tid (.inside kstack entered true), world.latest, world.due⟩ := by
  rw [faultStep] at moved
  cases state : world.thread tid with
  | outside => simp [state] at moved
  | inside kstack entered loaded =>
      simp only [state, Option.some.injEq] at moved
      exact ⟨kstack, entered, moved.symm⟩

theorem fault_ret_cases (world next : FaultWorld Tid Pid Stack) (tid : Tid) (nsecs : UInt64)
    (moved : faultStep pidOf world (.ret tid nsecs) = some next) :
    ∃ kstack entered loaded, world.thread tid = .inside kstack entered loaded ∧
      next = ⟨kretprobeHandleMmFault (pidOf tid) nsecs world.maps, Function.update world.thread tid .outside,
        if loaded then delete world.latest (pidOf tid) else world.latest,
        if loaded then record ⟨pidOf tid, kstack, nsecs - entered⟩ world.due else world.due⟩ := by
  rw [faultStep] at moved
  cases state : world.thread tid with
  | outside => simp [state] at moved
  | inside kstack entered loaded =>
      simp only [state, Option.some.injEq] at moved
      exact ⟨kstack, entered, loaded, rfl, moved.symm⟩

theorem fetch_stack (history : List (FaultEvent Tid Stack)) (world : FaultWorld Tid Pid Stack) (pid : Pid)
    (inv : FaultInvariant history world) : fetch world.maps.swapin pid = (fetch world.latest pid).1 := by
  rw [fetch, fetch, inv.kstacks pid]
  cases world.latest pid <;> rfl

theorem fetch_stamp (history : List (FaultEvent Tid Stack)) (world : FaultWorld Tid Pid Stack) (pid : Pid)
    (inv : FaultInvariant history world) : fetch world.maps.swapin_ts pid = (fetch world.latest pid).2 := by
  rw [fetch, fetch, inv.stamps pid]
  cases world.latest pid <;> rfl

theorem fault_entry_preserved (history : List (FaultEvent Tid Stack)) (world : FaultWorld Tid Pid Stack)
    (tid : Tid) (kstack : Stack) (nsecs : UInt64) (thread : Tid → FaultThread Stack)
    (inv : FaultInvariant history world) :
    FaultInvariant (history ++ [.entry tid kstack nsecs])
      ⟨kprobeHandleMmFault (pidOf tid) kstack nsecs world.maps, thread,
        store world.latest (pidOf tid) (kstack, nsecs), world.due⟩ where
  exact := inv.exact
  start := by simpa [kprobeHandleMmFault] using entry_latest_after_entry history tid kstack nsecs
  zswap := by
    have none := no_load_seen history (.entry tid kstack nsecs) (fun ⟨_, load⟩ => by cases load)
    simpa [kprobeHandleMmFault] using none
  kstacks := by
    intro pid
    by_cases same : pid = pidOf tid
    · simp [kprobeHandleMmFault, same]
    · simpa [kprobeHandleMmFault, same] using inv.kstacks pid
  stamps := by
    intro pid
    by_cases same : pid = pidOf tid
    · simp [kprobeHandleMmFault, same]
    · simpa [kprobeHandleMmFault, same] using inv.stamps pid

theorem fault_load_preserved (history : List (FaultEvent Tid Stack)) (world : FaultWorld Tid Pid Stack)
    (tid : Tid) (thread : Tid → FaultThread Stack) (inv : FaultInvariant history world) :
    FaultInvariant (history ++ [.load tid]) ⟨kprobeFrontswapLoad world.maps, thread, world.latest, world.due⟩ := by
  have seen : LoadSeen (history ++ [.load tid]) ↔ EntryLatest history := by
    rw [LoadSeen, entry_latest_after_load, load_latest_snoc]
    exact and_iff_left ⟨tid, rfl⟩
  by_cases started : world.maps.start = true
  · rw [kprobeFrontswapLoad, if_pos started]
    refine ⟨inv.exact, ?_, ?_, inv.kstacks, inv.stamps⟩
    · rw [entry_latest_after_load]
      exact inv.start
    · simpa [seen] using inv.start.mp started
  · rw [kprobeFrontswapLoad, if_neg started]
    refine ⟨inv.exact, ?_, ?_, inv.kstacks, inv.stamps⟩
    · rw [entry_latest_after_load]
      exact inv.start
    · rw [seen, inv.zswap]
      exact ⟨fun loads => loads.1, fun opened => absurd (inv.start.mpr opened) started⟩

theorem fault_ret_preserved (history : List (FaultEvent Tid Stack)) (world : FaultWorld Tid Pid Stack)
    (tid : Tid) (nsecs entered : UInt64) (kstack : Stack) (loaded : Bool) (thread : Tid → FaultThread Stack)
    (inv : FaultInvariant history world) (agrees : loaded = true ↔ LoadSeen history)
    (own : loaded = true → fetch world.latest (pidOf tid) = (kstack, entered)) :
    FaultInvariant (history ++ [.ret tid nsecs])
      ⟨kretprobeHandleMmFault (pidOf tid) nsecs world.maps, thread,
        if loaded then delete world.latest (pidOf tid) else world.latest,
        if loaded then record ⟨pidOf tid, kstack, nsecs - entered⟩ world.due else world.due⟩ := by
  have closed := entry_latest_after_ret history tid nsecs
  have unseen := no_load_seen history (.ret tid nsecs) (fun ⟨_, load⟩ => by cases load)
  cases loaded with
  | true =>
      have zswap : world.maps.zswap = true := inv.zswap.mpr (agrees.mp rfl)
      have mine := own rfl
      rw [kretprobeHandleMmFault, if_pos zswap]
      refine ⟨?_, by simpa using closed, by simpa using unseen, ?_, ?_⟩
      · simp [fetch_stack history world (pidOf tid) inv, fetch_stamp history world (pidOf tid) inv, mine, inv.exact]
      · intro pid
        by_cases same : pid = pidOf tid
        · simp [same]
        · simpa [same] using inv.kstacks pid
      · intro pid
        by_cases same : pid = pidOf tid
        · simp [same]
        · simpa [same] using inv.stamps pid
  | false =>
      have quiet : ¬ world.maps.zswap = true := fun set => by simpa using agrees.mpr (inv.zswap.mp set)
      rw [kretprobeHandleMmFault, if_neg quiet]
      exact ⟨inv.exact, by simpa using closed, by simpa using unseen, inv.kstacks, inv.stamps⟩

theorem fault_preserved (history : List (FaultEvent Tid Stack)) (world : FaultWorld Tid Pid Stack)
    (event : FaultEvent Tid Stack) (next : FaultWorld Tid Pid Stack) (inv : FaultInvariant history world)
    (clean : FaultClean pidOf history world event) (moved : faultStep pidOf world event = some next) :
    FaultInvariant (history ++ [event]) next := by
  cases event with
  | entry tid kstack nsecs =>
      have after := fault_entry_cases pidOf world next tid kstack nsecs moved
      subst next
      exact fault_entry_preserved pidOf history world tid kstack nsecs _ inv
  | load tid =>
      obtain ⟨kstack, entered, rfl⟩ := fault_load_cases pidOf world next tid moved
      exact fault_load_preserved history world tid _ inv
  | ret tid nsecs =>
      obtain ⟨kstack, entered, loaded, inside, rfl⟩ := fault_ret_cases pidOf world next tid nsecs moved
      simp only [FaultClean, inside] at clean
      cases loaded with
      | true =>
          exact fault_ret_preserved pidOf history world tid nsecs entered kstack true _ inv
            (by simpa using clean.1) (fun _ => clean.2)
      | false =>
          exact fault_ret_preserved pidOf history world tid nsecs entered kstack false _ inv
            (by simpa using clean) (fun loaded => by cases loaded)

theorem fault_broken (history : List (FaultEvent Tid Stack)) (world : FaultWorld Tid Pid Stack)
    (event : FaultEvent Tid Stack) (next : FaultWorld Tid Pid Stack) (inv : FaultInvariant history world)
    (dirty : ¬ FaultClean pidOf history world event) (moved : faultStep pidOf world event = some next) :
    ¬ FaultExact next := by
  intro exact
  cases event with
  | entry tid kstack nsecs => exact dirty trivial
  | load tid => exact dirty trivial
  | ret tid nsecs =>
      obtain ⟨kstack, entered, loaded, inside, rfl⟩ := fault_ret_cases pidOf world next tid nsecs moved
      simp only [FaultClean, inside] at dirty
      by_cases seen : LoadSeen history
      · have zswap : world.maps.zswap = true := inv.zswap.mpr seen
        rw [FaultExact, kretprobeHandleMmFault, if_pos zswap, inv.exact] at exact
        cases loaded with
        | false => exact record_ne_old _ world.due exact
        | true =>
            have sample := record_inj _ _ world.due exact
            rw [fetch_stack history world _ inv, fetch_stamp history world _ inv] at sample
            obtain ⟨_, stack, duration⟩ := Sample.mk.inj sample
            have stamp := (UInt64.sub_right_inj nsecs).mp duration
            exact dirty ⟨seen, Prod.ext stack stamp⟩
      · have quiet : ¬ world.maps.zswap = true := fun set => seen (inv.zswap.mp set)
        rw [FaultExact, kretprobeHandleMmFault, if_neg quiet, inv.exact] at exact
        cases loaded with
        | false => exact dirty seen
        | true => exact record_ne_old _ world.due exact.symm

theorem no_faults_invariant : FaultInvariant [] (noFaults : FaultWorld Tid Pid Stack) where
  exact := rfl
  start := by
    constructor
    · intro started
      cases started
    · intro ⟨before, _, _, _, _, split, _⟩
      simp at split
  zswap := by
    constructor
    · intro set
      cases set
    · intro ⟨_, _, latest⟩
      cases latest
  kstacks := fun _ => rfl
  stamps := fun _ => rfl

theorem fault_samples_exact_iff (events : List (FaultEvent Tid Stack)) (last : FaultWorld Tid Pid Stack)
    (completed : run (faultStep pidOf) noFaults events = some last) :
    Always (faultStep pidOf) (fun _ => FaultExact) [] noFaults events ↔
      EveryStep (faultStep pidOf) (FaultClean pidOf) [] noFaults events :=
  always_iff_every_step (faultStep pidOf) FaultInvariant (fun _ => FaultExact) (FaultClean pidOf)
    (fun _ _ inv => inv.exact) (fault_preserved pidOf) (fault_broken pidOf) [] events noFaults last
    no_faults_invariant completed

end SwapOverhead

theorem overlapping_fault_exact :
    Always (faultStep (id : Nat → Nat)) (fun _ => FaultExact) [] noFaults
      [.entry 2 (8 : Nat) 90, .entry 1 7 100, .load 1, .ret 1 (150 : UInt64)] := by
  apply (fault_samples_exact_iff id _ _ rfl).mpr
  refine ⟨trivial, fun next moved => ?_⟩
  cases moved
  refine ⟨trivial, fun next moved => ?_⟩
  cases moved
  refine ⟨trivial, fun next moved => ?_⟩
  cases moved
  refine ⟨⟨⟨⟨[.entry 2 8 90], 1, 7, 100, [.load 1], rfl, ?_⟩, 1, rfl⟩, rfl⟩, fun _ _ => trivial⟩
  intro event member
  exact ⟨1, by simpa using member⟩

theorem later_entry_loses_the_sample :
    (run (faultStep (id : Nat → Nat)) noFaults
      [.entry 1 (7 : Nat) 100, .load 1, .entry 2 8 120, .ret 1 (150 : UInt64)]).isSome ∧
    ¬ Always (faultStep (id : Nat → Nat)) (fun _ => FaultExact) [] noFaults
      [.entry 1 (7 : Nat) 100, .load 1, .entry 2 8 120, .ret 1 (150 : UInt64)] := by
  refine ⟨rfl, fun always => ?_⟩
  have final := (((always.2 _ rfl).2 _ rfl).2 _ rfl).2 _ rfl
  have lists := congrArg Recorded.samples final
  revert lists
  decide

end SprAccelProfiling.Probe
