import Mathlib.Algebra.Order.Ring.Nat
import SprAccelProfiling.LoadLatency
import SprAccelProfiling.SwapOverhead

set_option autoImplicit false

namespace SprAccelProfiling.Probe

open SprAccelProfiling.Runs

-- What the two kinds of scripts have in common: at an entry a process leaves its stack and its
-- time, and at a return that finds the recorder armed they are taken away again.
section Recorder

variable {ε Pid Stack : Type} (entryOf : ε → Option (Pid × Stack × UInt64)) (returnOf : ε → Option (Pid × UInt64))
  (armed : List ε → Prop)

-- An entry is held until the next entry of its process, or until a sample of it is taken.
inductive Held : List ε → Pid → Stack → UInt64 → Prop where
  | entered (history : List ε) (event : ε) (pid : Pid) (kstack : Stack) (entered : UInt64)
      (enters : entryOf event = some (pid, kstack, entered)) : Held (history ++ [event]) pid kstack entered
  | kept (history : List ε) (event : ε) (pid : Pid) (kstack : Stack) (entered : UInt64)
      (earlier : Held history pid kstack entered) (quiet : ∀ stack time, entryOf event ≠ some (pid, stack, time))
      (untaken : ∀ nsecs, returnOf event = some (pid, nsecs) → ¬ armed history) :
      Held (history ++ [event]) pid kstack entered

-- Reading an absent key yields 0, whatever it is then taken for.
def Source [Inhabited Stack] (history : List ε) (nsecs : UInt64) (sample : Sample Pid Stack) : Prop :=
  (∃ entered, Held entryOf returnOf armed history sample.pid sample.kstack entered ∧ sample.usecs = nsecs - entered) ∨
    ((∀ kstack entered, ¬ Held entryOf returnOf armed history sample.pid kstack entered) ∧
      sample.kstack = default ∧ sample.usecs = nsecs)

inductive Traced [Inhabited Stack] : List ε → List (Sample Pid Stack) → Prop where
  | start : Traced [] []
  | taken (history : List ε) (samples : List (Sample Pid Stack)) (event : ε) (sample : Sample Pid Stack)
      (nsecs : UInt64) (earlier : Traced history samples) (returns : returnOf event = some (sample.pid, nsecs))
      (ready : armed history) (source : Source entryOf returnOf armed history nsecs sample) :
      Traced (history ++ [event]) (samples ++ [sample])
  | passed (history : List ε) (samples : List (Sample Pid Stack)) (event : ε) (earlier : Traced history samples)
      (idle : returnOf event = none ∨ ¬ armed history) : Traced (history ++ [event]) samples

theorem held_nil (pid : Pid) (kstack : Stack) (entered : UInt64) : ¬ Held entryOf returnOf armed [] pid kstack entered := by
  intro held
  generalize whole : ([] : List ε) = history at held
  cases held with
  | entered before event _ _ _ _ => exact List.append_ne_nil_of_right_ne_nil before (List.cons_ne_nil event []) whole.symm
  | kept before event _ _ _ _ _ _ => exact List.append_ne_nil_of_right_ne_nil before (List.cons_ne_nil event []) whole.symm

theorem held_snoc (history : List ε) (event : ε) (pid : Pid) (kstack : Stack) (entered : UInt64) :
    Held entryOf returnOf armed (history ++ [event]) pid kstack entered ↔
      entryOf event = some (pid, kstack, entered) ∨
        Held entryOf returnOf armed history pid kstack entered ∧
          (∀ stack time, entryOf event ≠ some (pid, stack, time)) ∧
          ∀ nsecs, returnOf event = some (pid, nsecs) → ¬ armed history := by
  constructor
  · intro held
    generalize whole : history ++ [event] = longer at held
    cases held with
    | entered before last _ _ _ enters =>
        obtain ⟨rfl, same⟩ := List.append_inj' whole rfl
        cases same
        exact .inl enters
    | kept before last _ _ _ earlier quiet untaken =>
        obtain ⟨rfl, same⟩ := List.append_inj' whole rfl
        cases same
        exact .inr ⟨earlier, quiet, untaken⟩
  · intro either
    rcases either with enters | ⟨earlier, quiet, untaken⟩
    · exact .entered history event pid kstack entered enters
    · exact .kept history event pid kstack entered earlier quiet untaken

variable [DecidableEq Pid] [DecidableEq Stack]

structure Tallied (recorded : Recorded Pid Stack) : Prop where
  usecs : ∀ kstack bucket, recorded.usecs kstack bucket =
    recorded.samples.countP (fun sample => kstack = sample.kstack ∧ bucket = usecsBucket sample.usecs)
  counts : ∀ pid, (recorded.lat_stats pid).count = recorded.samples.countP (fun sample => pid = sample.pid)
  totals : ∀ pid, (recorded.lat_stats pid).total =
    ((recorded.samples.filter (fun sample => pid = sample.pid)).map (fun sample => sample.usecs.toNat)).sum

theorem unrecorded_tallied : Tallied (unrecorded : Recorded Pid Stack) :=
  ⟨fun _ _ => rfl, fun _ => rfl, fun _ => rfl⟩

theorem record_tallied (sample : Sample Pid Stack) (old : Recorded Pid Stack) (tallied : Tallied old) :
    Tallied (record sample old) := by
  refine ⟨fun kstack bucket => ?_, fun pid => ?_, fun pid => ?_⟩
  · rw [record_samples, List.countP_append, ← tallied.usecs kstack bucket]
    by_cases own : kstack = sample.kstack ∧ bucket = usecsBucket sample.usecs
    · simp [record, own]
    · simp [record, own]
  · rw [record_samples, List.countP_append, ← tallied.counts pid]
    by_cases own : pid = sample.pid
    · simp [record, own]
    · simp [record, own]
  · rw [record_samples, List.filter_append, List.map_append, List.sum_append, ← tallied.totals pid]
    by_cases own : pid = sample.pid
    · simp [record, own]
    · simp [record, own]

variable [Inhabited Stack]

structure Tracing (history : List ε) (swapin : Table Pid Stack) (swapin_ts : Table Pid UInt64)
    (recorded : Recorded Pid Stack) : Prop where
  held : ∀ pid kstack entered, swapin pid = some kstack ∧ swapin_ts pid = some entered ↔
    Held entryOf returnOf armed history pid kstack entered
  paired : ∀ pid, swapin pid = none ↔ swapin_ts pid = none
  traced : Traced entryOf returnOf armed history recorded.samples
  tallied : Tallied recorded

variable (history : List ε) (swapin : Table Pid Stack) (swapin_ts : Table Pid UInt64) (recorded : Recorded Pid Stack)
  (event : ε)

theorem tracing_starts : Tracing entryOf returnOf armed [] clear clear (unrecorded : Recorded Pid Stack) := by
  refine ⟨fun pid kstack entered => ?_, fun _ => iff_of_true rfl rfl, .start, unrecorded_tallied⟩
  exact iff_of_false (fun ⟨stored, _⟩ => by cases stored) (held_nil entryOf returnOf armed pid kstack entered)

theorem tracing_entry (pid : Pid) (kstack : Stack) (nsecs : UInt64) (enters : entryOf event = some (pid, kstack, nsecs))
    (idle : returnOf event = none) (tracing : Tracing entryOf returnOf armed history swapin swapin_ts recorded) :
    Tracing entryOf returnOf armed (history ++ [event]) (store swapin pid kstack) (store swapin_ts pid nsecs) recorded := by
  refine ⟨fun other stack entered => ?_, fun other => ?_, .passed _ _ _ tracing.traced (.inl idle), tracing.tallied⟩
  · rw [held_snoc, enters, ← tracing.held]
    by_cases same : other = pid
    · subst same
      simp
    · simp [same, Ne.symm same, idle]
  · by_cases same : other = pid
    · subst same
      simp
    · rw [store_other _ _ _ _ same, store_other _ _ _ _ same]
      exact tracing.paired other

theorem tracing_passes (quiet : entryOf event = none) (idle : returnOf event = none ∨ ¬ armed history)
    (tracing : Tracing entryOf returnOf armed history swapin swapin_ts recorded) :
    Tracing entryOf returnOf armed (history ++ [event]) swapin swapin_ts recorded := by
  refine ⟨fun pid kstack entered => ?_, tracing.paired, .passed _ _ _ tracing.traced idle, tracing.tallied⟩
  have untaken : ∀ nsecs, returnOf event = some (pid, nsecs) → ¬ armed history := by
    intro nsecs returns
    rcases idle with none | unready
    · rw [none] at returns
      cases returns
    · exact unready
  rw [held_snoc, tracing.held, quiet]
  exact ⟨fun held => .inr ⟨held, nofun, untaken⟩, fun either => (either.resolve_left nofun).1⟩

theorem fetched_source (pid : Pid) (nsecs : UInt64)
    (tracing : Tracing entryOf returnOf armed history swapin swapin_ts recorded) :
    Source entryOf returnOf armed history nsecs ⟨pid, fetch swapin pid, nsecs - fetch swapin_ts pid⟩ := by
  cases stack : swapin pid with
  | some kstack =>
      obtain ⟨entered, stamp⟩ := Option.ne_none_iff_exists'.mp
        (fun absent => Option.some_ne_none kstack (stack.symm.trans ((tracing.paired pid).mpr absent)))
      refine .inl ⟨entered, ?_, ?_⟩
      · simpa [fetch, stack] using (tracing.held pid kstack entered).mp ⟨stack, stamp⟩
      · simp [fetch, stamp]
  | none =>
      refine .inr ⟨fun kstack entered held => ?_, by simp [fetch, stack], ?_⟩
      · have present := ((tracing.held pid kstack entered).mpr held).1
        rw [stack] at present
        cases present
      · have unread : fetch swapin_ts pid = 0 := by
          rw [fetch, (tracing.paired pid).mp stack]
          rfl
        rw [unread, UInt64.sub_zero]

theorem tracing_records (pid : Pid) (nsecs : UInt64) (returns : returnOf event = some (pid, nsecs))
    (quiet : entryOf event = none) (ready : armed history)
    (tracing : Tracing entryOf returnOf armed history swapin swapin_ts recorded) :
    Tracing entryOf returnOf armed (history ++ [event]) (delete swapin pid) (delete swapin_ts pid)
      (record ⟨pid, fetch swapin pid, nsecs - fetch swapin_ts pid⟩ recorded) := by
  refine ⟨fun other stack entered => ?_, fun other => ?_, ?_, record_tallied _ _ tracing.tallied⟩
  · rw [held_snoc, quiet, returns, ← tracing.held]
    by_cases same : other = pid
    · subst same
      simp [ready]
    · simp [same, Ne.symm same]
  · by_cases same : other = pid
    · subst same
      simp
    · rw [delete_other _ _ _ same, delete_other _ _ _ same]
      exact tracing.paired other
  · rw [record_samples]
    exact .taken _ _ _ _ nsecs tracing.traced returns ready
      (fetched_source entryOf returnOf armed history swapin swapin_ts recorded pid nsecs tracing)

end Recorder

theorem entry_not_load {Tid Stack : Type} (tid : Tid) (kstack : Stack) (nsecs : UInt64) :
    ¬ IsLoad (.entry tid kstack nsecs : FaultEvent Tid Stack) := by
  intro load
  obtain ⟨other, same⟩ := load
  cases same

theorem ret_not_load {Tid Stack : Type} (tid : Tid) (nsecs : UInt64) : ¬ IsLoad (.ret tid nsecs : FaultEvent Tid Stack) := by
  intro load
  obtain ⟨other, same⟩ := load
  cases same

section Scripts

variable {Tid Pid Stack : Type} [DecidableEq Tid] [DecidableEq Pid] [DecidableEq Stack] [Inhabited Stack]
  (pidOf : Tid → Pid)

def loadEntry : LoadEvent Tid Stack → Option (Pid × Stack × UInt64)
  | .entry tid kstack nsecs => some (pidOf tid, kstack, nsecs)
  | .ret _ _ => none

def loadReturn : LoadEvent Tid Stack → Option (Pid × UInt64)
  | .entry _ _ _ => none
  | .ret tid nsecs => some (pidOf tid, nsecs)

structure LoadTracing (history : List (LoadEvent Tid Stack)) (world : LoadWorld Tid Pid Stack) : Prop where
  guard : world.maps.start = true ↔ LatestIsEntry history
  tracing : Tracing (loadEntry pidOf) (loadReturn pidOf) LatestIsEntry history world.maps.swapin world.maps.swapin_ts
    world.maps.recorded

theorem load_ret_maps (script : LoadScript) (world next : LoadWorld Tid Pid Stack) (tid : Tid) (nsecs : UInt64)
    (moved : loadStep script pidOf world (.ret tid nsecs) = some next) :
    next.maps = loadKretprobe (pidOf tid) nsecs world.maps := by
  rcases load_ret_cases script pidOf world next tid nsecs moved with ⟨_, rfl⟩ | ⟨_, _, _, rfl⟩
  · rfl
  · rfl

theorem load_tracing_step (script : LoadScript) (history : List (LoadEvent Tid Stack)) (world : LoadWorld Tid Pid Stack)
    (event : LoadEvent Tid Stack) (next : LoadWorld Tid Pid Stack) (inv : LoadTracing pidOf history world)
    (moved : loadStep script pidOf world event = some next) : LoadTracing pidOf (history ++ [event]) next := by
  obtain ⟨guard, tracing⟩ := inv
  cases event with
  | entry tid kstack nsecs =>
      rw [load_entry_cases script pidOf world next tid kstack nsecs moved]
      exact ⟨iff_of_true rfl (latest_after_entry history tid kstack nsecs),
        tracing_entry _ _ _ history _ _ _ _ (pidOf tid) kstack nsecs rfl rfl tracing⟩
  | ret tid nsecs =>
      have maps := load_ret_maps pidOf script world next tid nsecs moved
      have closed := latest_after_ret history tid nsecs
      by_cases started : world.maps.start = true
      · rw [loadKretprobe, if_pos started] at maps
        refine ⟨?_, ?_⟩
        · rw [maps]
          exact iff_of_false Bool.false_ne_true closed
        · rw [maps]
          exact tracing_records _ _ _ history _ _ _ _ (pidOf tid) nsecs rfl rfl (guard.mp started) tracing
      · rw [loadKretprobe, if_neg started] at maps
        refine ⟨?_, ?_⟩
        · rw [maps]
          exact iff_of_false Bool.false_ne_true closed
        · rw [maps]
          exact tracing_passes _ _ _ history _ _ _ _ rfl (.inr (fun latest => started (guard.mpr latest))) tracing

theorem load_tracing (script : LoadScript) (events : List (LoadEvent Tid Stack)) (last : LoadWorld Tid Pid Stack)
    (completed : run (loadStep script pidOf) tracingStarts events = some last) : LoadTracing pidOf events last :=
  run_invariant (loadStep script pidOf) (LoadTracing pidOf)
    (fun history world event next inv moved => load_tracing_step pidOf script history world event next inv moved)
    [] events tracingStarts last
    ⟨iff_of_false Bool.false_ne_true (fun ⟨_, _, _, latest⟩ => by cases latest), tracing_starts _ _ _⟩ completed

omit [DecidableEq Tid] in
theorem load_stacks_left (script : LoadScript) (events : List (LoadEvent Tid Stack)) (last : LoadWorld Tid Pid Stack)
    (inv : LoadTracing pidOf events last) (pid : Pid) (kstack : Stack) :
    (script.END last.maps).swapin pid = some kstack ↔ script = .zstdDecompressionLatency ∧
      ∃ entered, Held (loadEntry pidOf) (loadReturn pidOf) LatestIsEntry events pid kstack entered := by
  cases script with
  | frontswapLoadLatency => exact iff_of_false nofun nofun
  | zstdDecompressionLatency =>
      simp only [← inv.tracing.held, true_and]
      refine ⟨fun stack => ?_, fun ⟨_, stack, _⟩ => stack⟩
      obtain ⟨entered, stamp⟩ := Option.ne_none_iff_exists'.mp
        (fun absent => Option.some_ne_none kstack (stack.symm.trans ((inv.tracing.paired pid).mpr absent)))
      exact ⟨entered, stack, stamp⟩

theorem load_samples_traced (script : LoadScript) (events : List (LoadEvent Tid Stack)) (last : LoadWorld Tid Pid Stack)
    (completed : run (loadStep script pidOf) tracingStarts events = some last) :
    Traced (loadEntry pidOf) (loadReturn pidOf) LatestIsEntry events last.maps.recorded.samples ∧
      Tallied last.maps.recorded ∧
      ∀ pid kstack, (script.END last.maps).swapin pid = some kstack ↔ script = .zstdDecompressionLatency ∧
        ∃ entered, Held (loadEntry pidOf) (loadReturn pidOf) LatestIsEntry events pid kstack entered := by
  have inv := load_tracing pidOf script events last completed
  exact ⟨inv.tracing.traced, inv.tracing.tallied, load_stacks_left pidOf script events last inv⟩

def faultEntry : FaultEvent Tid Stack → Option (Pid × Stack × UInt64)
  | .entry tid kstack nsecs => some (pidOf tid, kstack, nsecs)
  | .load _ => none
  | .ret _ _ => none

def faultReturn : FaultEvent Tid Stack → Option (Pid × UInt64)
  | .entry _ _ _ => none
  | .load _ => none
  | .ret tid nsecs => some (pidOf tid, nsecs)

structure FaultTracing (history : List (FaultEvent Tid Stack)) (world : FaultWorld Tid Pid Stack) : Prop where
  start : world.maps.start = true ↔ EntryLatest history
  zswap : world.maps.zswap = true ↔ LoadSeen history
  tracing : Tracing (faultEntry pidOf) (faultReturn pidOf) LoadSeen history world.maps.swapin world.maps.swapin_ts
    world.maps.recorded

theorem load_seen_after_load (history : List (FaultEvent Tid Stack)) (tid : Tid) :
    LoadSeen (history ++ [.load tid]) ↔ EntryLatest history := by
  rw [LoadSeen, entry_latest_after_load, load_latest_snoc]
  exact and_iff_left ⟨tid, rfl⟩

theorem fault_tracing_step (history : List (FaultEvent Tid Stack)) (world : FaultWorld Tid Pid Stack)
    (event : FaultEvent Tid Stack) (next : FaultWorld Tid Pid Stack) (inv : FaultTracing pidOf history world)
    (moved : faultStep pidOf world event = some next) : FaultTracing pidOf (history ++ [event]) next := by
  obtain ⟨start, zswap, tracing⟩ := inv
  cases event with
  | entry tid kstack nsecs =>
      rw [fault_entry_cases pidOf world next tid kstack nsecs moved]
      exact ⟨iff_of_true rfl (entry_latest_after_entry history tid kstack nsecs),
        iff_of_false Bool.false_ne_true (no_load_seen history _ (entry_not_load tid kstack nsecs)),
        tracing_entry _ _ _ history _ _ _ _ (pidOf tid) kstack nsecs rfl rfl tracing⟩
  | load tid =>
      obtain ⟨kstack, entered, rfl⟩ := fault_load_cases pidOf world next tid moved
      have passes := tracing_passes (faultEntry pidOf) (faultReturn pidOf) LoadSeen history _ _ _ (.load tid) rfl (.inl rfl)
        tracing
      by_cases started : world.maps.start = true
      · rw [kprobeFrontswapLoad, if_pos started]
        exact ⟨start.trans (entry_latest_after_load history tid).symm,
          iff_of_true rfl ((load_seen_after_load history tid).mpr (start.mp started)), passes⟩
      · rw [kprobeFrontswapLoad, if_neg started]
        have closed : ¬ EntryLatest history := fun latest => started (start.mpr latest)
        refine ⟨start.trans (entry_latest_after_load history tid).symm, iff_of_false (fun set => ?_) (fun seen => ?_), passes⟩
        · exact closed (zswap.mp set).1
        · exact closed ((load_seen_after_load history tid).mp seen)
  | ret tid nsecs =>
      obtain ⟨kstack, entered, loaded, _, rfl⟩ := fault_ret_cases pidOf world next tid nsecs moved
      have closed := entry_latest_after_ret history tid nsecs
      have unseen := no_load_seen history (.ret tid nsecs) (ret_not_load tid nsecs)
      by_cases set : world.maps.zswap = true
      · rw [kretprobeHandleMmFault, if_pos set]
        exact ⟨iff_of_false Bool.false_ne_true closed, iff_of_false Bool.false_ne_true unseen,
          tracing_records _ _ _ history _ _ _ _ (pidOf tid) nsecs rfl rfl (zswap.mp set) tracing⟩
      · rw [kretprobeHandleMmFault, if_neg set]
        exact ⟨iff_of_false Bool.false_ne_true closed, iff_of_false Bool.false_ne_true unseen,
          tracing_passes _ _ _ history _ _ _ _ rfl (.inr (fun seen => set (zswap.mpr seen))) tracing⟩

theorem fault_samples_traced (events : List (FaultEvent Tid Stack)) (last : FaultWorld Tid Pid Stack)
    (completed : run (faultStep pidOf) noFaults events = some last) :
    Traced (faultEntry pidOf) (faultReturn pidOf) LoadSeen events last.maps.recorded.samples ∧
      Tallied last.maps.recorded := by
  have traced := run_invariant (faultStep pidOf) (FaultTracing pidOf)
    (fun history world event next inv moved => fault_tracing_step pidOf history world event next inv moved)
    [] events noFaults last
    ⟨iff_of_false Bool.false_ne_true (fun ⟨before, _, _, _, _, split, _⟩ => by simp at split),
      iff_of_false Bool.false_ne_true (fun ⟨_, _, latest⟩ => by cases latest), tracing_starts _ _ _⟩ completed
  exact ⟨traced.tracing.traced, traced.tracing.tallied⟩

end Scripts

theorem overlapping_loads_traced :
    ∃ last, run (loadStep .zstdDecompressionLatency (fun tid : Nat => tid / 10)) tracingStarts
        [.entry 11 (7 : Nat) 100, .entry 12 8 110, .ret 11 150, .entry 21 9 155, .ret 12 160] = some last ∧
      Traced (loadEntry (fun tid : Nat => tid / 10)) (loadReturn (fun tid : Nat => tid / 10)) LatestIsEntry
        [.entry 11 (7 : Nat) 100, .entry 12 8 110, .ret 11 150, .entry 21 9 155, .ret 12 160]
        last.maps.recorded.samples ∧
      Tallied last.maps.recorded ∧
      ∀ pid kstack, (LoadScript.zstdDecompressionLatency.END last.maps).swapin pid = some kstack ↔
        LoadScript.zstdDecompressionLatency = .zstdDecompressionLatency ∧
        ∃ entered, Held (loadEntry (fun tid : Nat => tid / 10)) (loadReturn (fun tid : Nat => tid / 10)) LatestIsEntry
          [.entry 11 (7 : Nat) 100, .entry 12 8 110, .ret 11 150, .entry 21 9 155, .ret 12 160] pid kstack entered :=
  ⟨_, rfl, load_samples_traced (fun tid : Nat => tid / 10) .zstdDecompressionLatency _ _ rfl⟩

theorem overlapping_faults_traced :
    ∃ last, run (faultStep (fun tid : Nat => tid / 10)) noFaults
        [.entry 11 (7 : Nat) 100, .entry 12 8 120, .load 12, .ret 11 (150 : UInt64), .entry 21 9 155, .load 12, .ret 12 160] =
          some last ∧
      Traced (faultEntry (fun tid : Nat => tid / 10)) (faultReturn (fun tid : Nat => tid / 10)) LoadSeen
        [.entry 11 (7 : Nat) 100, .entry 12 8 120, .load 12, .ret 11 (150 : UInt64), .entry 21 9 155, .load 12, .ret 12 160]
        last.maps.recorded.samples ∧
      Tallied last.maps.recorded :=
  ⟨_, rfl, fault_samples_traced (fun tid : Nat => tid / 10) _ _ rfl⟩

end SprAccelProfiling.Probe
