import Mathlib.Logic.Function.Basic

set_option autoImplicit false

namespace SprAccelProfiling.Probe

section Tables

variable {κ ν : Type}

-- A bpftrace map. Reading a key that is not there yields the zero value.
abbrev Table (κ ν : Type) := κ → Option ν

def fetch [Inhabited ν] (table : Table κ ν) (key : κ) : ν :=
  (table key).getD default

def store [DecidableEq κ] (table : Table κ ν) (key : κ) (value : ν) : Table κ ν :=
  Function.update table key (some value)

def delete [DecidableEq κ] (table : Table κ ν) (key : κ) : Table κ ν :=
  Function.update table key none

def clear : Table κ ν := fun _ => none

variable [DecidableEq κ]

@[simp] theorem store_same (table : Table κ ν) (key : κ) (value : ν) : store table key value key = some value :=
  Function.update_self ..

@[simp] theorem store_other (table : Table κ ν) (key other : κ) (value : ν) (different : other ≠ key) :
    store table key value other = table other :=
  Function.update_of_ne different ..

@[simp] theorem delete_same (table : Table κ ν) (key : κ) : delete table key key = none :=
  Function.update_self ..

@[simp] theorem delete_other (table : Table κ ν) (key other : κ) (different : other ≠ key) :
    delete table key other = table other :=
  Function.update_of_ne different ..

end Tables

structure Sample (Pid Stack : Type) where
  pid : Pid
  kstack : Stack
  usecs : UInt64
deriving DecidableEq

structure Stats where
  count : Nat
  total : Nat
deriving DecidableEq

-- Bucket 0 is below min and the last one above max, as bpftrace numbers them.
def lhist (value min max step : Nat) : Nat :=
  if value < min then 0 else if max < value then 1 + (max - min) / step else 1 + (value - min) / step

def usecsBucket (usecs : UInt64) : Nat := lhist usecs.toNat 0 20000 1000

-- samples is the order in which the two aggregations were fed; the scripts keep
-- only the histogram and the statistics.
structure Recorded (Pid Stack : Type) where
  usecs : Stack → Nat → Nat
  lat_stats : Pid → Stats
  samples : List (Sample Pid Stack)

def unrecorded {Pid Stack : Type} : Recorded Pid Stack :=
  ⟨fun _ _ => 0, fun _ => ⟨0, 0⟩, []⟩

section Recording

variable {Pid Stack : Type} [DecidableEq Pid] [DecidableEq Stack]

def record (sample : Sample Pid Stack) (old : Recorded Pid Stack) : Recorded Pid Stack where
  usecs := fun kstack bucket =>
    if kstack = sample.kstack ∧ bucket = usecsBucket sample.usecs then old.usecs kstack bucket + 1
    else old.usecs kstack bucket
  lat_stats := fun pid =>
    if pid = sample.pid then ⟨(old.lat_stats pid).count + 1, (old.lat_stats pid).total + sample.usecs.toNat⟩
    else old.lat_stats pid
  samples := old.samples ++ [sample]

@[simp] theorem record_samples (sample : Sample Pid Stack) (old : Recorded Pid Stack) :
    (record sample old).samples = old.samples ++ [sample] := rfl

theorem record_ne_old (sample : Sample Pid Stack) (old : Recorded Pid Stack) : record sample old ≠ old := by
  intro same
  have lengths := congrArg (fun recorded => recorded.samples.length) same
  simp at lengths

theorem record_inj (a b : Sample Pid Stack) (old : Recorded Pid Stack)
    (same : record a old = record b old) : a = b := by
  have lists := congrArg Recorded.samples same
  simpa using lists

end Recording

end SprAccelProfiling.Probe
