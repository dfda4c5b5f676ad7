import SprAccelProfiling.BpfMap
import SprAccelProfiling.Runs

set_option autoImplicit false
set_option linter.unusedSectionVars false

namespace SprAccelProfiling.Probe

open SprAccelProfiling.Runs

section LoadLatency

variable {Tid Pid Stack : Type} [DecidableEq Tid] [DecidableEq Pid] [DecidableEq Stack] [Inhabited Stack]

-- frontswap_load_latency.bt and zstd_decompression_latency.bt attach the same two
-- bodies to __frontswap_load and to scomp_acomp_decompress. Only their END differs.
inductive LoadScript where
  | frontswapLoadLatency
  | zstdDecompressionLatency
deriving DecidableEq

-- @start is only ever assigned 0 and 1.
structure LoadMaps (Pid Stack : Type) where
  swapin : Table Pid Stack
  swapin_ts : Table Pid UInt64
  start : Bool
  recorded : Recorded Pid Stack

def loadKprobe (pid : Pid) (kstack : Stack) (nsecs : UInt64) (maps : LoadMaps Pid Stack) : LoadMaps Pid Stack :=
  { maps with
    swapin := store maps.swapin pid kstack
    swapin_ts := store maps.swapin_ts pid nsecs
    start := true }

def loadKretprobe (pid : Pid) (nsecs : UInt64) (maps : LoadMaps Pid Stack) : LoadMaps Pid Stack :=
  if maps.start then
    { swapin := delete maps.swapin pid
      swapin_ts := delete maps.swapin_ts pid
      start := false
      recorded := record ⟨pid, fetch maps.swapin pid, nsecs - fetch maps.swapin_ts pid⟩ maps.recorded }
  else { maps with start := false }

def LoadScript.kprobe : LoadScript → Pid → Stack → UInt64 → LoadMaps Pid Stack → LoadMaps Pid Stack
  | .frontswapLoadLatency => loadKprobe
  | .zstdDecompressionLatency => loadKprobe

def LoadScript.kretprobe : LoadScript → Pid → UInt64 → LoadMaps Pid Stack → LoadMaps Pid Stack
  | .frontswapLoadLatency => loadKretprobe
  | .zstdDecompressionLatency => loadKretprobe

def LoadScript.END : LoadScript → LoadMaps Pid Stack → LoadMaps Pid Stack
  | .frontswapLoadLatency, maps => { maps with swapin := clear, swapin_ts := clear }
  | .zstdDecompressionLatency, maps => { maps with swapin_ts := clear }

inductive LoadEvent (Tid Stack : Type) where
  | entry (tid : Tid) (kstack : Stack) (nsecs : UInt64)
  | ret (tid : Tid) (nsecs : UInt64)

-- What a thread has done since tracing started. An unseen thread may already be
-- inside the function, so its first event may be a return.
inductive LoadThread (Stack : Type) where
  | unseen
  | outside
  | inside (kstack : Stack) (nsecs : UInt64)

-- due is the ideal recorder: it keeps stack and time with the call itself.
structure LoadWorld (Tid Pid Stack : Type) where
  maps : LoadMaps Pid Stack
  thread : Tid → LoadThread Stack
  due : Recorded Pid Stack

def tracingStarts : LoadWorld Tid Pid Stack :=
  ⟨⟨clear, clear, false, unrecorded⟩, fun _ => .unseen, unrecorded⟩

variable (script : LoadScript) (pidOf : Tid → Pid)

def loadStep (world : LoadWorld Tid Pid Stack) : LoadEvent Tid Stack → Option (LoadWorld Tid Pid Stack)
  | .entry tid kstack nsecs =>
      match world.thread tid with
      | .inside _ _ => none
      | _ =>
          some
            { maps := script.kprobe (pidOf tid) kstack nsecs world.maps
              thread := Function.update world.thread tid (.inside kstack nsecs)
              due := world.due }
  | .ret tid nsecs =>
      match world.thread tid with
      | .outside => none
      | .unseen =>
          some
            { maps := script.kretprobe (pidOf tid) nsecs world.maps
              thread := Function.update world.thread tid .outside
              due := world.due }
      | .inside kstack entered =>
          some
            { maps := script.kretprobe (pidOf tid) nsecs world.maps
              thread := Function.update world.thread tid .outside
              due := record ⟨pidOf tid, kstack, nsecs - entered⟩ world.due }

def Inside (world : LoadWorld Tid Pid Stack) (tid : Tid) : Prop :=
  ∃ kstack nsecs, world.thread tid = .inside kstack nsecs

def InFlight (world : LoadWorld Tid Pid Stack) (pid : Pid) : Prop :=
  ∃ tid, pidOf tid = pid ∧ Inside world tid

def LoadExact (world : LoadWorld Tid Pid Stack) : Prop :=
  world.maps.recorded = world.due ∧
    (∀ pid, (world.maps.swapin pid).isSome ↔ InFlight pidOf world pid) ∧
    ∀ pid, (world.maps.swapin_ts pid).isSome ↔ InFlight pidOf world pid

def LatestIsEntry (history : List (LoadEvent Tid Stack)) : Prop :=
  ∃ tid kstack nsecs, history.getLast? = some (.entry tid kstack nsecs)

def Alone (world : LoadWorld Tid Pid Stack) (tid : Tid) : Prop :=
  ∀ other, other ≠ tid → pidOf other = pidOf tid → ¬ Inside world other

/-- A return is clean when the guard @start agrees with it: the return of a seen call
comes right after an entry, of whichever thread, and no other thread of its process
is inside; the return of a call that was never seen does not come after an entry. -/
def LoadClean (history : List (LoadEvent Tid Stack)) (world : LoadWorld Tid Pid Stack) :
    LoadEvent Tid Stack → Prop
  | .entry _ _ _ => True
  | .ret tid _ =>
      match world.thread tid with
      | .inside _ _ => LatestIsEntry history ∧ Alone pidOf world tid
      | _ => ¬ LatestIsEntry history

structure LoadInvariant (history : List (LoadEvent Tid Stack)) (world : LoadWorld Tid Pid Stack) : Prop where
  exact : world.maps.recorded = world.due
  guard : world.maps.start = true ↔ LatestIsEntry history
  present : ∀ tid, Inside world tid → ∃ kstack, world.maps.swapin (pidOf tid) = some kstack
  owned : ∀ pid kstack, world.maps.swapin pid = some kstack →
    ∃ tid nsecs, pidOf tid = pid ∧ world.thread tid = .inside kstack nsecs ∧ world.maps.swapin_ts pid = some nsecs
  paired : ∀ pid, world.maps.swapin pid = none ↔ world.maps.swapin_ts pid = none

theorem latest_after_entry (history : List (LoadEvent Tid Stack)) (tid : Tid) (kstack : Stack) (nsecs : UInt64) :
    LatestIsEntry (history ++ [.entry tid kstack nsecs]) :=
  ⟨tid, kstack, nsecs, by simp⟩

theorem latest_after_ret (history : List (LoadEvent Tid Stack)) (tid : Tid) (nsecs : UInt64) :
    ¬ LatestIsEntry (history ++ [.ret tid nsecs]) := by
  intro ⟨other, kstack, time, latest⟩
  simp at latest

theorem load_entry_cases (world next : LoadWorld Tid Pid Stack) (tid : Tid) (kstack : Stack) (nsecs : UInt64)
    (moved : loadStep script pidOf world (.entry tid kstack nsecs) = some next) :
    next = ⟨loadKprobe (pidOf tid) kstack nsecs world.maps,
      Function.update world.thread tid (.inside kstack nsecs), world.due⟩ := by
  have body : script.kprobe (pidOf tid) kstack nsecs world.maps = loadKprobe (pidOf tid) kstack nsecs world.maps := by
    cases script <;> rfl
  rw [loadStep, body] at moved
  cases state : world.thread tid with
  | inside old time => simp [state] at moved
  | unseen =>
      simp only [state, Option.some.injEq] at moved
      exact moved.symm
  | outside =>
      simp only [state, Option.some.injEq] at moved
      exact moved.symm

theorem load_ret_cases (world next : LoadWorld Tid Pid Stack) (tid : Tid) (nsecs : UInt64)
    (moved : loadStep script pidOf world (.ret tid nsecs) = some next) :
    (world.thread tid = .unseen ∧
      next = ⟨loadKretprobe (pidOf tid) nsecs world.maps, Function.update world.thread tid .outside, world.due⟩) ∨
    ∃ kstack entered, world.thread tid = .inside kstack entered ∧
      next = ⟨loadKretprobe (pidOf tid) nsecs world.maps, Function.update world.thread tid .outside,
        record ⟨pidOf tid, kstack, nsecs - entered⟩ world.due⟩ := by
  have body : script.kretprobe (pidOf tid) nsecs world.maps = loadKretprobe (pidOf tid) nsecs world.maps := by
    cases script <;> rfl
  rw [loadStep, body] at moved
  cases state : world.thread tid with
  | outside => simp [state] at moved
  | unseen =>
      simp only [state, Option.some.injEq] at moved
      exact .inl ⟨rfl, moved.symm⟩
  | inside kstack entered =>
      simp only [state, Option.some.injEq] at moved
      exact .inr ⟨kstack, entered, rfl, moved.symm⟩

theorem inside_other (world : LoadWorld Tid Pid Stack) (maps : LoadMaps Pid Stack) (due : Recorded Pid Stack)
    (tid other : Tid) (state : LoadThread Stack) (different : other ≠ tid) :
    Inside (⟨maps, Function.update world.thread tid state, due⟩ : LoadWorld Tid Pid Stack) other ↔ Inside world other := by
  simp only [Inside, Function.update_of_ne different]

theorem not_inside_outside (world : LoadWorld Tid Pid Stack) (maps : LoadMaps Pid Stack) (due : Recorded Pid Stack)
    (tid : Tid) : ¬ Inside (⟨maps, Function.update world.thread tid .outside, due⟩ : LoadWorld Tid Pid Stack) tid := by
  intro ⟨kstack, nsecs, inside⟩
  simp at inside

theorem load_entry_preserved (history : List (LoadEvent Tid Stack)) (world : LoadWorld Tid Pid Stack)
    (tid : Tid) (kstack : Stack) (nsecs : UInt64) (inv : LoadInvariant pidOf history world) :
    LoadInvariant pidOf (history ++ [.entry tid kstack nsecs])
      ⟨loadKprobe (pidOf tid) kstack nsecs world.maps,
        Function.update world.thread tid (.inside kstack nsecs), world.due⟩ where
  exact := inv.exact
  guard := by simpa [loadKprobe] using latest_after_entry history tid kstack nsecs
  present := by
    intro other inside
    by_cases same : pidOf other = pidOf tid
    · exact ⟨kstack, by simp [loadKprobe, same]⟩
    · have different : other ≠ tid := fun equal => same (by rw [equal])
      obtain ⟨old, held⟩ := inv.present other ((inside_other world _ _ tid other _ different).mp inside)
      exact ⟨old, by simpa [loadKprobe, same] using held⟩
  owned := by
    intro pid old held
    by_cases same : pid = pidOf tid
    · subst pid
      have stack : kstack = old := by simpa [loadKprobe] using held
      exact ⟨tid, nsecs, rfl, by simp [stack], by simp [loadKprobe]⟩
    · obtain ⟨owner, time, ofPid, inside, stamp⟩ := inv.owned pid old (by simpa [loadKprobe, same] using held)
      have different : owner ≠ tid := fun equal => same (by rw [← ofPid, equal])
      exact ⟨owner, time, ofPid, by simpa [different] using inside, by simpa [loadKprobe, same] using stamp⟩
  paired := by
    intro pid
    by_cases same : pid = pidOf tid
    · simp [loadKprobe, same]
    · simpa [loadKprobe, same] using inv.paired pid

theorem own_entry (history : List (LoadEvent Tid Stack)) (world : LoadWorld Tid Pid Stack) (tid : Tid)
    (kstack : Stack) (entered : UInt64) (inv : LoadInvariant pidOf history world)
    (inside : world.thread tid = .inside kstack entered) (alone : Alone pidOf world tid) :
    world.maps.swapin (pidOf tid) = some kstack ∧ world.maps.swapin_ts (pidOf tid) = some entered := by
  obtain ⟨held, isHeld⟩ := inv.present tid ⟨kstack, entered, inside⟩
  obtain ⟨owner, time, ofPid, ownerInside, stamp⟩ := inv.owned (pidOf tid) held isHeld
  have same : owner = tid := by
    by_contra different
    exact alone owner different ofPid ⟨held, time, ownerInside⟩
  subst owner
  rw [inside] at ownerInside
  cases ownerInside
  exact ⟨isHeld, stamp⟩

theorem load_ret_preserved (history : List (LoadEvent Tid Stack)) (world : LoadWorld Tid Pid Stack)
    (tid : Tid) (nsecs entered : UInt64) (kstack : Stack) (inv : LoadInvariant pidOf history world)
    (inside : world.thread tid = .inside kstack entered) (latest : LatestIsEntry history)
    (alone : Alone pidOf world tid) :
    LoadInvariant pidOf (history ++ [.ret tid nsecs])
      ⟨loadKretprobe (pidOf tid) nsecs world.maps, Function.update world.thread tid .outside,
        record ⟨pidOf tid, kstack, nsecs - entered⟩ world.due⟩ := by
  have started : world.maps.start = true := inv.guard.mpr latest
  obtain ⟨stack, stamp⟩ := own_entry pidOf history world tid kstack entered inv inside alone
  rw [loadKretprobe, if_pos started]
  refine ⟨?_, ?_, ?_, ?_, ?_⟩
  · simp [fetch, stack, stamp, inv.exact]
  · simpa using latest_after_ret history tid nsecs
  · intro other otherInside
    have different : other ≠ tid := fun equal => not_inside_outside world _ _ tid (equal ▸ otherInside)
    have was := (inside_other world _ _ tid other _ different).mp otherInside
    have elsewhere : pidOf other ≠ pidOf tid := fun same => alone other different same was
    obtain ⟨old, held⟩ := inv.present other was
    exact ⟨old, by simpa [elsewhere] using held⟩
  · intro pid old held
    have elsewhere : pid ≠ pidOf tid := fun same => by simp [same] at held
    obtain ⟨owner, time, ofPid, ownerInside, ownerStamp⟩ := inv.owned pid old (by simpa [elsewhere] using held)
    have different : owner ≠ tid := fun equal => elsewhere (by rw [← ofPid, equal])
    exact ⟨owner, time, ofPid, by simpa [different] using ownerInside, by simpa [elsewhere] using ownerStamp⟩
  · intro pid
    by_cases same : pid = pidOf tid
    · simp [same]
    · simpa [same] using inv.paired pid

theorem load_unseen_preserved (history : List (LoadEvent Tid Stack)) (world : LoadWorld Tid Pid Stack)
    (tid : Tid) (nsecs : UInt64) (inv : LoadInvariant pidOf history world) (unseen : world.thread tid = .unseen)
    (quiet : ¬ LatestIsEntry history) :
    LoadInvariant pidOf (history ++ [.ret tid nsecs])
      ⟨loadKretprobe (pidOf tid) nsecs world.maps, Function.update world.thread tid .outside, world.due⟩ := by
  have stopped : ¬ world.maps.start = true := fun started => quiet (inv.guard.mp started)
  rw [loadKretprobe, if_neg stopped]
  refine ⟨inv.exact, ?_, ?_, ?_, inv.paired⟩
  · simpa using latest_after_ret history tid nsecs
  · intro other otherInside
    have different : other ≠ tid := fun equal => not_inside_outside world _ _ tid (equal ▸ otherInside)
    exact inv.present other ((inside_other world _ _ tid other _ different).mp otherInside)
  · intro pid old held
    obtain ⟨owner, time, ofPid, ownerInside, stamp⟩ := inv.owned pid old held
    have different : owner ≠ tid := fun equal => by simp [equal, unseen] at ownerInside
    exact ⟨owner, time, ofPid, by simpa [different] using ownerInside, stamp⟩

theorem load_preserved (history : List (LoadEvent Tid Stack)) (world : LoadWorld Tid Pid Stack)
    (event : LoadEvent Tid Stack) (next : LoadWorld Tid Pid Stack) (inv : LoadInvariant pidOf history world)
    (clean : LoadClean pidOf history world event) (moved : loadStep script pidOf world event = some next) :
    LoadInvariant pidOf (history ++ [event]) next := by
  cases event with
  | entry tid kstack nsecs =>
      have after := load_entry_cases script pidOf world next tid kstack nsecs moved
      subst next
      exact load_entry_preserved pidOf history world tid kstack nsecs inv
  | ret tid nsecs =>
      rcases load_ret_cases script pidOf world next tid nsecs moved with ⟨unseen, rfl⟩ | ⟨kstack, entered, inside, rfl⟩
      · exact load_unseen_preserved pidOf history world tid nsecs inv unseen (by simpa [LoadClean, unseen] using clean)
      · obtain ⟨latest, alone⟩ : LatestIsEntry history ∧ Alone pidOf world tid := by
          simpa [LoadClean, inside] using clean
        exact load_ret_preserved pidOf history world tid nsecs entered kstack inv inside latest alone

theorem load_broken (history : List (LoadEvent Tid Stack)) (world : LoadWorld Tid Pid Stack)
    (event : LoadEvent Tid Stack) (next : LoadWorld Tid Pid Stack) (inv : LoadInvariant pidOf history world)
    (dirty : ¬ LoadClean pidOf history world event) (moved : loadStep script pidOf world event = some next) :
    ¬ LoadExact pidOf next := by
  intro ⟨exact, kstacks, _⟩
  cases event with
  | entry tid kstack nsecs => exact dirty trivial
  | ret tid nsecs =>
      rcases load_ret_cases script pidOf world next tid nsecs moved with ⟨unseen, rfl⟩ | ⟨kstack, entered, inside, rfl⟩
      · -- a bogus sample: @start was set by the entry of some other call
        have started : world.maps.start = true := inv.guard.mpr (by simpa [LoadClean, unseen] using dirty)
        rw [loadKretprobe, if_pos started] at exact
        exact record_ne_old _ world.due (by simpa only [inv.exact] using exact)
      · by_cases latest : LatestIsEntry history
        · have started : world.maps.start = true := inv.guard.mpr latest
          have shared : ¬ Alone pidOf world tid := fun alone => dirty (by simpa [LoadClean, inside] using ⟨latest, alone⟩)
          simp only [Alone, not_forall, not_not] at shared
          obtain ⟨other, different, samePid, otherInside⟩ := shared
          have present := (kstacks (pidOf tid)).mpr
            ⟨other, samePid, (inside_other world _ _ tid other _ different).mpr otherInside⟩
          simp [loadKretprobe, started] at present
        · -- a lost sample: an earlier return has cleared @start
          have stopped : ¬ world.maps.start = true := fun started => latest (inv.guard.mp started)
          rw [loadKretprobe, if_neg stopped] at exact
          exact record_ne_old _ world.due (by simpa only [inv.exact] using exact.symm)

theorem load_invariant_exact (history : List (LoadEvent Tid Stack)) (world : LoadWorld Tid Pid Stack)
    (inv : LoadInvariant pidOf history world) : LoadExact pidOf world := by
  have kstacks : ∀ pid, (world.maps.swapin pid).isSome ↔ InFlight pidOf world pid := by
    intro pid
    constructor
    · intro present
      obtain ⟨kstack, held⟩ := Option.isSome_iff_exists.mp present
      obtain ⟨tid, nsecs, ofPid, inside, _⟩ := inv.owned pid kstack held
      exact ⟨tid, ofPid, kstack, nsecs, inside⟩
    · rintro ⟨tid, rfl, inside⟩
      obtain ⟨kstack, held⟩ := inv.present tid inside
      simp [held]
  refine ⟨inv.exact, kstacks, fun pid => ?_⟩
  rw [← kstacks pid, Option.isSome_iff_ne_none, Option.isSome_iff_ne_none]
  exact not_congr (inv.paired pid).symm

theorem tracing_starts_invariant : LoadInvariant pidOf [] (tracingStarts : LoadWorld Tid Pid Stack) where
  exact := rfl
  guard := by
    constructor
    · intro started
      cases started
    · intro ⟨_, _, _, latest⟩
      cases latest
  present := by
    intro tid ⟨_, _, inside⟩
    cases inside
  owned := by
    intro pid kstack held
    cases held
  paired := fun _ => ⟨fun _ => rfl, fun _ => rfl⟩

theorem load_samples_exact_iff (events : List (LoadEvent Tid Stack)) (last : LoadWorld Tid Pid Stack)
    (completed : run (loadStep script pidOf) tracingStarts events = some last) :
    Always (loadStep script pidOf) (fun _ => LoadExact pidOf) [] tracingStarts events ↔
      EveryStep (loadStep script pidOf) (LoadClean pidOf) [] tracingStarts events :=
  always_iff_every_step (loadStep script pidOf) (LoadInvariant pidOf) (fun _ => LoadExact pidOf)
    (LoadClean pidOf) (load_invariant_exact pidOf) (load_preserved script pidOf) (load_broken script pidOf)
    [] events tracingStarts last (tracing_starts_invariant pidOf) completed

end LoadLatency

theorem one_call_exact :
    Always (loadStep .frontswapLoadLatency (id : Nat → Nat)) (fun _ => LoadExact id) [] tracingStarts
      [.ret 3 (90 : UInt64), .entry 1 (7 : Nat) 100, .ret 1 130] := by
  apply (load_samples_exact_iff .frontswapLoadLatency id _ _ rfl).mpr
  refine ⟨?_, fun next moved => ?_⟩
  · intro ⟨_, _, _, latest⟩
    cases latest
  cases moved
  refine ⟨trivial, fun next moved => ?_⟩
  cases moved
  refine ⟨⟨⟨1, 7, 100, rfl⟩, ?_⟩, fun _ _ => trivial⟩
  intro other different samePid
  exact absurd samePid different

theorem overlapping_calls_lose_a_sample :
    (run (loadStep .frontswapLoadLatency (id : Nat → Nat)) tracingStarts
      [.entry 1 (7 : Nat) 100, .entry 2 8 110, .ret 1 150, .ret 2 160]).isSome ∧
    ¬ Always (loadStep .frontswapLoadLatency (id : Nat → Nat)) (fun _ => LoadExact id) [] tracingStarts
      [.entry 1 (7 : Nat) 100, .entry 2 8 110, .ret 1 150, .ret 2 160] := by
  refine ⟨rfl, fun always => ?_⟩
  have final := (((always.2 _ rfl).2 _ rfl).2 _ rfl).2 _ rfl
  have lists := congrArg Recorded.samples final.1
  revert lists
  decide

end SprAccelProfiling.Probe
