import SprAccelProfiling.QplJob

set_option autoImplicit false

namespace SprAccelProfiling.Qpl

open SprAccelProfiling.Buffer SprAccelProfiling.Loop

theorem source_length : source.length = source_size := List.length_replicate

theorem fresh_reference_length : freshReference.length = source_size := List.length_replicate

def Store.Puts (store : Store) (container : Container) (i : Nat) (byte : UInt8) : Prop :=
  store.container = container ∧ store.offset ≤ i ∧ store.bytes[i - store.offset]? = some byte

def drainedBytes (stores : List Store) : Bytes :=
  (stores.filter (fun store => store.container = .reference)).flatMap Store.bytes

theorem drained_snoc (stores : List Store) (store : Store) (drains : store.container = .reference) :
    drainedBytes (stores ++ [store]) = drainedBytes stores ++ store.bytes := by
  simp [drainedBytes, List.filter_append, drains]

theorem drained_other (stores : List Store) (store : Store) (other : store.container = .destination) :
    drainedBytes (stores ++ [store]) = drainedBytes stores := by
  simp [drainedBytes, List.filter_append, other]

section Soundness

variable {σ : Type} (library : Library σ)

structure Traced (reference : Bytes) (stores : List Store) : Prop where
  sized : reference.length = source_size
  traced : ∀ i byte, reference[i]? = some byte → byte = 7 ∨ ∃ store ∈ stores, store.Puts .reference i byte

theorem traced_more (reference : Bytes) (stores : List Store) (store : Store) (traced : Traced reference stores) :
    Traced reference (stores ++ [store]) := by
  refine ⟨traced.sized, fun i byte at_i => ?_⟩
  rcases traced.traced i byte at_i with fill | ⟨earlier, mem, puts⟩
  · exact .inl fill
  · exact .inr ⟨earlier, List.mem_append_left _ mem, puts⟩

theorem execute_traced (running called : Running σ) (job : Job σ) (status : Status)
    (traced : Traced running.reference running.stores)
    (executed : execute library running job = some (status, called)) : Traced called.reference called.stores := by
  obtain ⟨cells, wrote, _, rfl⟩ := execute_cases library running called job status executed
  cases container : job.container with
  | destination =>
      simp only [Running.stored, container]
      exact traced_more _ _ _ traced
  | reference =>
      simp only [Running.stored, container]
      rw [container] at wrote
      refine ⟨(write_at_length _ _ _ _ wrote).trans traced.sized, fun i byte at_i => ?_⟩
      rw [write_at_get _ _ _ _ i wrote] at at_i
      by_cases inside : job.next_out ≤ i ∧ i < job.next_out + (library.qpl_execute_job job).written.length
      · rw [if_pos inside] at at_i
        exact .inr ⟨_, List.mem_append_right _ (List.mem_singleton_self _), rfl, inside.1, at_i⟩
      · rw [if_neg inside] at at_i
        exact (traced_more _ _ _ traced).traced i byte at_i

theorem turn_traced (program : Example) (running next : Running σ) (traced : Traced running.reference running.stores)
    (turned : turn library program running = .again next) : Traced next.reference next.stores := by
  cases turn_again library program running next turned with
  | parsed => exact traced
  | sized => exact traced
  | initialised => exact traced
  | compressed called _ executed => exact execute_traced library running called _ _ traced executed
  | drained called _ executed => exact execute_traced library running called _ _ traced executed
  | stalled called _ executed => exact execute_traced library running called _ _ traced executed
  | resumed called _ executed => exact execute_traced library running called _ _ traced executed
  | closed => exact traced

theorem start_traced (program : Example) (garbage : Job σ) :
    Traced (start garbage program).reference (start garbage program).stores := by
  have fresh : (start garbage program).reference = freshReference := by cases program <;> rfl
  rw [fresh]
  refine ⟨List.length_replicate, fun i byte at_i => .inl ?_⟩
  exact List.eq_of_mem_replicate (List.mem_of_getElem? at_i)

theorem matches_source (running : Running σ) (sized : running.reference.length = source_size)
    (same : Matches running) : running.reference = source := by
  apply List.ext_getElem (by rw [sized, source_length])
  intro i inReference inSource
  have equal := same i (sized ▸ inReference)
  simp only [List.getD_eq_getElem?_getD, List.getElem?_eq_getElem inSource, List.getElem?_eq_getElem inReference,
    Option.getD_some] at equal
  exact equal.symm

theorem success_written (garbage : Job σ) : ∃ exit last,
    Ends (turn library .decompression) (start garbage .decompression) (exit, last) ∧
      (exit = .returned 0 → last.reference = source ∧
        ∀ i, i < source_size → ∃ store ∈ last.stores, store.Puts .reference i 5) := by
  obtain ⟨exit, last, before, ended, traced, stops⟩ := program_ends library .decompression
    (fun running => Traced running.reference running.stores) (turn_traced library .decompression) garbage
    (start_traced .decompression garbage)
  refine ⟨exit, last, ended, fun success => ?_⟩
  subst success
  cases stops with
  | closed _ _ unchecked => cases unchecked
  | matched _ same =>
      have reached := matches_source last traced.sized same
      refine ⟨reached, fun i within => ?_⟩
      have five : last.reference[i]? = some 5 := by
        rw [reached, source, List.getElem?_replicate, if_pos within]
      rcases traced.traced i 5 five with fill | written
      · exact absurd fill (by decide)
      · exact written

end Soundness

section Bounds

variable {σ : Type} (library : Library σ)

-- total_out counts what a job has put out since its last submission with FIRST.
structure Accounts : Prop where
  total : ∀ job, (library.qpl_execute_job job).total_out =
    (if job.flags.FIRST then 0 else job.total_out) + (library.qpl_execute_job job).written.length

structure Contiguous (running : Running σ) : Prop where
  destination : running.destination.length = source_size / 2
  reference : running.reference =
    drainedBytes running.stores ++ freshReference.drop (drainedBytes running.stores).length
  within : (drainedBytes running.stores).length ≤ source_size
  untouched : 3 ≤ running.point.rank → drainedBytes running.stores = []
  resumes : running.point = .resubmit →
    running.job.total_out = (drainedBytes running.stores).length ∧ running.job.total_out ≤ source_size / 2
  small : running.compressed_size ≤ source_size / 2

theorem resubmit_room (job : Job σ) (small : job.total_out ≤ source_size / 2) :
    (resubmitJob job).available_out = source_size - job.total_out := by
  have bounded : job.total_out ≤ 500 := small
  simp only [resubmitJob, source_size]
  omega

theorem drained_empty (running : Running σ) (contiguous : Contiguous running) (before : 3 ≤ running.point.rank) :
    running.reference = freshReference := by
  have whole := contiguous.reference
  rwa [contiguous.untouched before, List.length_nil, List.drop_zero, List.nil_append] at whole

theorem reference_length (running : Running σ) (contiguous : Contiguous running) :
    running.reference.length = source_size := by
  rw [contiguous.reference, List.length_append, List.length_drop, fresh_reference_length]
  exact Nat.add_sub_cancel' contiguous.within

theorem submitted_fits (running : Running σ) (contiguous : Contiguous running) (job : Job σ)
    (submits : Submits library running job) :
    job.next_out + (library.qpl_execute_job job).written.length ≤ (running.memory job.container).length := by
  have room := library.within job
  cases submits with
  | compress point =>
      calc
        0 + _ = _ := Nat.zero_add _
        _ ≤ source_size / 2 := room
        _ = _ := contiguous.destination.symm
  | decompress point =>
      calc
        0 + _ = _ := Nat.zero_add _
        _ ≤ source_size / 2 := room
        _ ≤ source_size := Nat.div_le_self _ _
        _ = _ := (reference_length running contiguous).symm
  | resubmit point =>
      obtain ⟨_, small⟩ := contiguous.resumes point
      rw [resubmit_room running.job small] at room
      calc
        running.job.total_out + _ ≤ running.job.total_out + (source_size - running.job.total_out) :=
          Nat.add_le_add_left room _
        _ = source_size := Nat.add_sub_cancel' (small.trans (Nat.div_le_self _ _))
        _ = _ := (reference_length running contiguous).symm

theorem never_overrun (running : Running σ) (contiguous : Contiguous running) (job : Job σ)
    (submits : Submits library running job) : execute library running job ≠ none := by
  intro overrun
  rw [execute, Option.map_eq_none_iff, writeAt, if_pos (submitted_fits library running contiguous job submits)] at overrun
  cases overrun

theorem execute_contiguous (running called : Running σ) (job : Job σ) (status : Status) (contiguous : Contiguous running)
    (drains : job.container = .reference) (next : job.next_out = (drainedBytes running.stores).length)
    (submits : Submits library running job) (executed : execute library running job = some (status, called)) :
    called.destination = running.destination ∧ called.compressed_size = running.compressed_size ∧
      called.job = job.after (library.qpl_execute_job job) ∧
      drainedBytes called.stores = drainedBytes running.stores ++ (library.qpl_execute_job job).written ∧
      called.reference = drainedBytes called.stores ++ freshReference.drop (drainedBytes called.stores).length ∧
      (drainedBytes called.stores).length ≤ source_size := by
  have fits := submitted_fits library running contiguous job submits
  obtain ⟨cells, wrote, _, rfl⟩ := execute_cases library running called job status executed
  rw [drains] at wrote fits
  have size := fresh_reference_length
  have inside : (drainedBytes running.stores).length + (library.qpl_execute_job job).written.length ≤ source_size := by
    rw [← next, ← reference_length running contiguous]
    exact fits
  have more : drainedBytes (running.stores ++ [⟨job.container, job.next_out, (library.qpl_execute_job job).written⟩]) =
      drainedBytes running.stores ++ (library.qpl_execute_job job).written := drained_snoc _ _ drains
  rw [next, Running.memory, contiguous.reference,
    write_next freshReference (drainedBytes running.stores) _ (by rw [size]; exact inside)] at wrote
  cases wrote
  simp only [Running.stored, drains] at more ⊢
  rw [more, List.length_append]
  exact ⟨trivial, trivial, trivial, rfl, rfl, inside⟩

theorem compressed_contiguous (accounts : Accounts library) (running called : Running σ) (contiguous : Contiguous running)
    (status : Status) (point : running.point = .compress)
    (executed : execute library running (compressJob library running.job) = some (status, called)) :
    called.destination.length = source_size / 2 ∧ called.reference = freshReference ∧
      drainedBytes called.stores = [] ∧ called.compressed_size = running.compressed_size ∧
      called.job.total_out ≤ source_size / 2 := by
  have before : 3 ≤ running.point.rank := by rw [point]; exact Nat.le_succ 3
  obtain ⟨cells, wrote, _, rfl⟩ := execute_cases library running called _ _ executed
  have total := accounts.total (compressJob library running.job)
  have room := library.within (compressJob library running.job)
  refine ⟨(write_at_length _ _ _ _ wrote).trans contiguous.destination, drained_empty running contiguous before, ?_,
    rfl, ?_⟩
  · exact (drained_other _ _ rfl).trans (contiguous.untouched before)
  · calc
      (library.qpl_execute_job (compressJob library running.job)).total_out = 0 + _ := total
      _ = (library.qpl_execute_job (compressJob library running.job)).written.length := Nat.zero_add _
      _ ≤ source_size / 2 := room

theorem turn_contiguous (accounts : Accounts library) (program : Example) (running next : Running σ)
    (contiguous : Contiguous running) (turned : turn library program running = .again next) : Contiguous next := by
  have same := contiguous
  obtain ⟨destination, reference, within, untouched, resumes, small⟩ := same
  cases turn_again library program running next turned with
  | parsed point => exact ⟨destination, reference, within, fun _ => untouched (by rw [point]; decide), nofun, small⟩
  | sized point => exact ⟨destination, reference, within, fun _ => untouched (by rw [point]; decide), nofun, small⟩
  | initialised point =>
      exact ⟨destination, reference, within, fun _ => untouched (by rw [point]; decide), nofun, small⟩
  | compressed called point executed =>
      obtain ⟨length, fresh, none, _, total⟩ :=
        compressed_contiguous library accounts running called contiguous .ok point executed
      refine ⟨length, ?_, ?_, fun _ => none, ?_, total⟩
      · show called.reference = drainedBytes called.stores ++ freshReference.drop (drainedBytes called.stores).length
        rw [none, fresh]
        rfl
      · show (drainedBytes called.stores).length ≤ source_size
        rw [none]
        exact Nat.zero_le _
      · cases program <;> nofun
  | drained called point executed =>
      have empty := untouched (by rw [point]; exact Nat.le_refl 3)
      obtain ⟨kept, size, _, _, whole, inside⟩ := execute_contiguous library running called _ _ contiguous rfl
        (by rw [empty]; rfl) (.decompress point) executed
      exact ⟨kept ▸ destination, whole, inside, nofun, nofun, size ▸ small⟩
  | stalled called point executed =>
      have empty := untouched (by rw [point]; exact Nat.le_refl 3)
      obtain ⟨kept, size, job, drained, whole, inside⟩ := execute_contiguous library running called _ _ contiguous rfl
        (by rw [empty]; rfl) (.decompress point) executed
      have total : called.job.total_out = (drainedBytes called.stores).length := by
        rw [job, drained, empty, List.nil_append]
        exact (accounts.total (decompressJob running)).trans (Nat.zero_add _)
      refine ⟨kept ▸ destination, whole, inside, nofun, fun _ => ⟨total, ?_⟩, size ▸ small⟩
      rw [total, drained, empty, List.nil_append]
      exact library.within (decompressJob running)
  | resumed called point executed =>
      obtain ⟨kept, size, _, _, whole, inside⟩ := execute_contiguous library running called _ _ contiguous rfl
        (resumes point).1 (.resubmit point) executed
      exact ⟨kept ▸ destination, whole, inside, nofun, nofun, size ▸ small⟩
  | closed point => exact ⟨destination, reference, within, nofun, nofun, small⟩

theorem start_contiguous (program : Example) (garbage : Job σ) : Contiguous (start garbage program) := by
  cases program with
  | compression => exact ⟨List.length_replicate, rfl, Nat.zero_le _, fun _ => rfl, nofun, Nat.zero_le _⟩
  | decompression => exact ⟨List.length_replicate, rfl, Nat.zero_le _, fun _ => rfl, nofun, Nat.zero_le _⟩

structure Bounded (exit : Exit) (last : Running σ) : Prop where
  inside : exit ≠ .overrun
  small : last.compressed_size ≤ source_size / 2
  reference : last.reference = drainedBytes last.stores ++ freshReference.drop (drainedBytes last.stores).length
  within : (drainedBytes last.stores).length ≤ source_size

theorem submitted_bounded (accounts : Accounts library) (running called : Running σ) (contiguous : Contiguous running)
    (job : Job σ) (status : Status) (submits : Submits library running job)
    (executed : execute library running job = some (status, called)) (code : Int) : Bounded (.returned code) called := by
  cases submits with
  | compress point =>
      obtain ⟨_, fresh, none, size, _⟩ :=
        compressed_contiguous library accounts running called contiguous status point executed
      refine ⟨nofun, size ▸ contiguous.small, ?_, none ▸ Nat.zero_le _⟩
      rw [none, fresh]
      rfl
  | decompress point =>
      have empty := contiguous.untouched (by rw [point]; exact Nat.le_refl 3)
      obtain ⟨_, size, _, _, whole, inside⟩ := execute_contiguous library running called _ _ contiguous rfl
        (by rw [empty]; rfl) (.decompress point) executed
      exact ⟨nofun, size ▸ contiguous.small, whole, inside⟩
  | resubmit point =>
      obtain ⟨_, size, _, _, whole, inside⟩ := execute_contiguous library running called _ _ contiguous rfl
        (contiguous.resumes point).1 (.resubmit point) executed
      exact ⟨nofun, size ▸ contiguous.small, whole, inside⟩

theorem stops_bounded (accounts : Accounts library) (program : Example) (before last : Running σ) (exit : Exit)
    (contiguous : Contiguous before) (stops : Stops library program before exit last) : Bounded exit last := by
  have same := contiguous
  obtain ⟨_, reference, within, _, _, small⟩ := same
  cases stops with
  | overrun job submits executed => exact absurd executed (never_overrun library _ contiguous job submits)
  | refused job status called submits executed =>
      exact submitted_bounded library accounts before last contiguous job status submits executed 1
  | unparsed => exact ⟨nofun, small, reference, within⟩
  | unsized => exact ⟨nofun, small, reference, within⟩
  | uninitialised => exact ⟨nofun, small, reference, within⟩
  | unclosed => exact ⟨nofun, small, reference, within⟩
  | closed => exact ⟨nofun, small, reference, within⟩
  | mismatched => exact ⟨nofun, small, reference, within⟩
  | matched => exact ⟨nofun, small, reference, within⟩

theorem stores_contiguous (accounts : Accounts library) (program : Example) (garbage : Job σ) : ∃ exit last,
    Ends (turn library program) (start garbage program) (exit, last) ∧ Bounded exit last := by
  obtain ⟨exit, last, before, ended, contiguous, stops⟩ := program_ends library program Contiguous
    (turn_contiguous library accounts program) garbage (start_contiguous program garbage)
  exact ⟨exit, last, ended, stops_bounded library accounts program before last exit contiguous stops⟩

end Bounds

structure Drains {σ : Type} (rest : σ → Bytes) (job : Job σ) (reply : Reply σ) (data : Bytes) : Prop where
  status : reply.status = if data.length ≤ job.available_out then .ok else .moreOutputNeeded
  written : reply.written = data.take job.available_out
  total : reply.total_out = (if job.flags.FIRST then 0 else job.total_out) + reply.written.length
  rest : rest reply.internal = data.drop job.available_out

/-- The library as its manual has it: rest is the output that a job still owes. -/
structure Obeys {σ : Type} (library : Library σ) (enc : Bytes → Bytes) (rest : σ → Bytes) : Prop where
  compressed : ∀ job, job.op = .compress → job.flags.FIRST = true → job.flags.LAST = true →
    (enc job.next_in).length ≤ job.available_out → (library.qpl_execute_job job).status = .ok ∧
      (library.qpl_execute_job job).written = enc job.next_in ∧
      (library.qpl_execute_job job).total_out = (enc job.next_in).length
  full : ∀ job, job.op = .compress → job.flags.FIRST = true → job.flags.LAST = true →
    job.available_out < (enc job.next_in).length → (library.qpl_execute_job job).status ≠ .ok
  fresh : ∀ job data, job.op = .decompress → job.flags.FIRST = true → job.next_in = enc data →
    Drains rest job (library.qpl_execute_job job) data
  continued : ∀ job, job.op = .decompress → job.flags.FIRST = false →
    Drains rest job (library.qpl_execute_job job) (rest job.internal)
  closes : ∀ internal, library.qpl_fini_job internal = .ok

section Completeness

variable {σ : Type} (library : Library σ)

structure Passed (running : Running σ) : Prop where
  parsed : running.point.rank < 7 → library.parse_execution_path.1 = 0 ∧ running.path = library.parse_execution_path.2
  sized : running.point.rank < 6 → library.qpl_get_job_size running.path = .ok
  initialised : running.point.rank < 5 → (library.qpl_init_job running.path).1 = .ok
  compressed : running.point.rank < 4 → ∃ job : Job σ,
    (library.qpl_execute_job (compressJob library job)).status = .ok

theorem execute_path (running called : Running σ) (job : Job σ) (status : Status)
    (executed : execute library running job = some (status, called)) :
    called.path = running.path ∧ status = (library.qpl_execute_job job).status := by
  obtain ⟨cells, _, same, rfl⟩ := execute_cases library running called job status executed
  refine ⟨?_, same⟩
  cases container : job.container with
  | destination => simp only [Running.stored, container]
  | reference => simp only [Running.stored, container]

theorem passed_on (running next : Running σ) (passed : Passed library running) (past : running.point.rank < 4)
    (path : next.path = running.path) : Passed library next := by
  obtain ⟨parsed, sized, initialised, compressed⟩ := passed
  refine ⟨fun _ => ?_, fun _ => ?_, fun _ => ?_, fun _ => compressed past⟩
  · exact path ▸ parsed (past.trans (by decide))
  · exact path ▸ sized (past.trans (by decide))
  · exact path ▸ initialised (past.trans (by decide))

theorem turn_passed (program : Example) (running next : Running σ) (passed : Passed library running)
    (turned : turn library program running = .again next) : Passed library next := by
  have same := passed
  obtain ⟨parsed, sized, initialised, compressed⟩ := same
  cases turn_again library program running next turned with
  | parsed point ok => exact ⟨fun _ => ⟨ok, rfl⟩, nofun, nofun, nofun⟩
  | sized point ok => exact ⟨fun _ => parsed (by rw [point]; decide), fun _ => ok, nofun, nofun⟩
  | initialised point ok =>
      exact ⟨fun _ => parsed (by rw [point]; decide), fun _ => sized (by rw [point]; decide), fun _ => ok, nofun⟩
  | compressed called point executed =>
      obtain ⟨path, status⟩ := execute_path library running called _ _ executed
      rw [point] at parsed sized initialised
      refine ⟨fun _ => ?_, fun _ => ?_, fun _ => ?_, fun _ => ⟨running.job, status.symm⟩⟩
      · exact path ▸ parsed (by decide)
      · exact path ▸ sized (by decide)
      · exact path ▸ initialised (by decide)
  | drained called point executed =>
      exact passed_on library running _ passed (by rw [point]; decide)
        (execute_path library running called _ _ executed).1
  | stalled called point executed =>
      exact passed_on library running _ passed (by rw [point]; decide)
        (execute_path library running called _ _ executed).1
  | resumed called point executed =>
      exact passed_on library running _ passed (by rw [point]; decide)
        (execute_path library running called _ _ executed).1
  | closed point => exact passed_on library running _ passed (by rw [point]; decide) rfl

theorem start_passed (garbage : Job σ) : Passed library (start garbage .decompression) := by
  have first : (start garbage .decompression).point.rank = 7 := rfl
  refine ⟨?_, ?_, ?_, ?_⟩
  all_goals
    intro early
    rw [first] at early
    exact absurd early (by decide)

theorem success_needs (garbage : Job σ) (last : Running σ)
    (ended : Ends (turn library .decompression) (start garbage .decompression) (.returned 0, last)) :
    library.parse_execution_path.1 = 0 ∧ library.qpl_get_job_size library.parse_execution_path.2 = .ok ∧
      (library.qpl_init_job library.parse_execution_path.2).1 = .ok ∧
      ∃ job : Job σ, (library.qpl_execute_job (compressJob library job)).status = .ok := by
  obtain ⟨before, passed, turned⟩ := ends_invariant (turn library .decompression) (Passed library)
    (turn_passed library .decompression) _ _ (start_passed library garbage) ended
  cases turn_done library .decompression before _ last turned with
  | closed _ _ unchecked => cases unchecked
  | matched point =>
      obtain ⟨parsed, sized, initialised, compressed⟩ := passed
      rw [point] at parsed sized initialised compressed
      obtain ⟨zero, path⟩ := parsed (by decide)
      exact ⟨zero, path ▸ sized (by decide), path ▸ initialised (by decide), compressed (by decide)⟩

variable (enc : Bytes → Bytes) (rest : σ → Bytes)

theorem prepared_run (garbage : Job σ) (parsed : library.parse_execution_path.1 = 0)
    (sized : library.qpl_get_job_size library.parse_execution_path.2 = .ok)
    (initialised : (library.qpl_init_job library.parse_execution_path.2).1 = .ok) :
    ∃ running : Running σ, (∀ result, Ends (turn library .decompression) running result →
        Ends (turn library .decompression) (start garbage .decompression) result) ∧
      running.point = .compress ∧ running.destination = freshDestination ∧ running.reference = freshReference ∧
      running.calls = [.getJobSize library.parse_execution_path.2 .ok, .initJob library.parse_execution_path.2 .ok] := by
  let parsedState : Running σ :=
    { start garbage .decompression with point := .getJobSize, path := library.parse_execution_path.2 }
  let sizedState : Running σ := { Qpl.sized library parsedState with point := .initJob }
  let ready : Running σ := { Qpl.initialised library sizedState with
    point := .compress, job := (library.qpl_init_job library.parse_execution_path.2).2 }
  have first : turn library .decompression (start garbage .decompression) = .again parsedState :=
    if_neg (not_not.mpr parsed)
  have second : turn library .decompression parsedState = .again sizedState := if_neg (not_not.mpr sized)
  have third : turn library .decompression sizedState = .again ready := if_neg (not_not.mpr initialised)
  refine ⟨ready, fun result ended => ?_, rfl, rfl, rfl, ?_⟩
  · exact (ends_again _ _ _ result first).mpr ((ends_again _ _ _ result second).mpr
      ((ends_again _ _ _ result third).mpr ended))
  · show [] ++ [Call.getJobSize library.parse_execution_path.2 (library.qpl_get_job_size library.parse_execution_path.2)] ++
      [Call.initJob library.parse_execution_path.2 (library.qpl_init_job library.parse_execution_path.2).1] = _
    rw [sized, initialised]
    rfl

theorem execute_answers (running : Running σ) (job : Job σ) (cells : Bytes)
    (wrote : writeAt (running.memory job.container) job.next_out (library.qpl_execute_job job).written = some cells) :
    ∃ called, execute library running job = some ((library.qpl_execute_job job).status, called) ∧
      called.job = job.after (library.qpl_execute_job job) ∧
      called.destination = (if job.container = .destination then cells else running.destination) ∧
      called.reference = (if job.container = .reference then cells else running.reference) ∧
      called.compressed_size = running.compressed_size ∧
      called.calls = running.calls ++ [.executeJob job.op job.flags (library.qpl_execute_job job).status] := by
  refine ⟨_, congrArg (Option.map _) wrote, rfl, ?_, ?_, ?_, rfl⟩
  all_goals cases container : job.container with
  | destination => simp [Running.stored, container]
  | reference => simp [Running.stored, container]

theorem matched_turn (running : Running σ) (point : running.point = .compare) (same : Matches running) :
    turn library .decompression running = .done (.returned 0, running) := by
  rw [turn, point]
  exact if_neg (by rw [(matches_iff running).mpr same]; exact Bool.false_ne_true)

variable (obeys : Obeys library enc rest)

include obeys

theorem compressed_turn (running : Running σ) (point : running.point = .compress)
    (sized : running.destination.length = source_size / 2) (fits : (enc source).length ≤ source_size / 2) :
    ∃ next, turn library .decompression running = .again next ∧ next.point = .decompress ∧
      next.destination.take next.compressed_size = enc source ∧ next.reference = running.reference ∧
      next.calls = running.calls ++ [.executeJob .compress ⟨true, true, true, true⟩ .ok] := by
  obtain ⟨status, written, total⟩ := obeys.compressed (compressJob library running.job) rfl rfl rfl fits
  have wrote : writeAt running.destination 0 (library.qpl_execute_job (compressJob library running.job)).written =
      some (enc source ++ running.destination.drop (enc source).length) := by
    rw [written]
    exact (write_start_iff _ _ _).mpr ⟨sized ▸ fits, rfl⟩
  obtain ⟨called, executed, job, destination, reference, _, calls⟩ :=
    execute_answers library running (compressJob library running.job) _ wrote
  rw [status] at executed calls
  refine ⟨{ called with point := .decompress, compressed_size := called.job.total_out }, ?_, rfl, ?_, reference, calls⟩
  · rw [turn, point]
    simp only [executed, ne_eq, not_true_eq_false, if_false, afterCompress]
  · show called.destination.take called.job.total_out = enc source
    rw [destination, job]
    exact List.take_left' total.symm

theorem stalled_turn (running : Running σ) (point : running.point = .decompress)
    (compressed : running.destination.take running.compressed_size = enc source)
    (untouched : running.reference = freshReference) :
    ∃ next, turn library .decompression running = .again next ∧ next.point = .resubmit ∧
      next.job.op = .decompress ∧ next.job.flags = ⟨true, true, false, false⟩ ∧
      next.job.total_out = source_size / 2 ∧ rest next.job.internal = source.drop (source_size / 2) ∧
      next.reference = source.take (source_size / 2) ++ freshReference.drop (source_size / 2) ∧
      next.calls = running.calls ++ [.executeJob .decompress ⟨true, true, false, false⟩ .moreOutputNeeded] := by
  obtain ⟨status, written, total, owed⟩ := obeys.fresh (decompressJob running) source rfl rfl compressed
  have half : (source.take (source_size / 2)).length = source_size / 2 := by
    rw [List.length_take, source_length]
    rfl
  have wrote : writeAt running.reference 0 (library.qpl_execute_job (decompressJob running)).written =
      some (source.take (source_size / 2) ++ freshReference.drop (source_size / 2)) := by
    rw [written, untouched, write_start_iff]
    refine ⟨?_, ?_⟩
    · rw [fresh_reference_length]
      exact (List.length_take_le _ _).trans (Nat.div_le_self _ _)
    · show _ = source.take (source_size / 2) ++ freshReference.drop (source.take (source_size / 2)).length
      rw [half]
  obtain ⟨called, executed, job, _, reference, _, calls⟩ :=
    execute_answers library running (decompressJob running) _ wrote
  have more : (library.qpl_execute_job (decompressJob running)).status = .moreOutputNeeded := by
    rw [status, if_neg]
    rw [source_length]
    show ¬ source_size ≤ source_size / 2
    exact Nat.not_le.mpr (by decide)
  rw [more] at executed calls
  refine ⟨{ called with point := .resubmit }, ?_, rfl, ?_, ?_, ?_, ?_, reference, calls⟩
  · rw [turn, point]
    simp only [executed]
  · rw [job]
    rfl
  · rw [job]
    rfl
  · rw [job]
    refine (total.trans (Nat.zero_add _)).trans ?_
    rw [written]
    exact half
  · rw [job]
    exact owed

theorem resumed_turn (running : Running σ) (point : running.point = .resubmit) (op : running.job.op = .decompress)
    (flags : running.job.flags = ⟨true, true, false, false⟩) (total : running.job.total_out = source_size / 2)
    (owed : rest running.job.internal = source.drop (source_size / 2))
    (reference : running.reference = source.take (source_size / 2) ++ freshReference.drop (source_size / 2)) :
    ∃ next, turn library .decompression running = .again next ∧ next.point = .finiJob ∧ next.reference = source ∧
      next.calls = running.calls ++ [.executeJob .decompress ⟨false, true, false, false⟩ .ok] := by
  have continued : (resubmitJob running.job).flags = ⟨false, true, false, false⟩ := by rw [resubmitJob, flags]
  have room : (resubmitJob running.job).available_out = source_size / 2 := by
    rw [resubmit_room running.job (Nat.le_of_eq total), total]
    rfl
  have left : (source.drop (source_size / 2)).length = source_size / 2 := by
    rw [List.length_drop, source_length]
    rfl
  obtain ⟨status, written, _, _⟩ := obeys.continued (resubmitJob running.job) op (by rw [continued])
  have internal : rest (resubmitJob running.job).internal = source.drop (source_size / 2) := owed
  rw [internal] at status written
  rw [if_pos (by rw [left, room])] at status
  rw [room, List.take_of_length_le (Nat.le_of_eq left)] at written
  have wrote : writeAt running.reference (resubmitJob running.job).next_out
      (library.qpl_execute_job (resubmitJob running.job)).written = some source := by
    have front : (source.take (source_size / 2)).length = source_size / 2 := by
      rw [List.length_take, source_length]
      rfl
    have next : (resubmitJob running.job).next_out = (source.take (source_size / 2)).length := by
      rw [front]
      exact total
    have whole := write_next freshReference (source.take (source_size / 2)) (source.drop (source_size / 2))
      (by rw [front, left, fresh_reference_length]; decide)
    have past : freshReference.drop source.length = [] :=
      List.drop_of_length_le (by rw [fresh_reference_length, source_length])
    rw [List.take_append_drop, past, List.append_nil, front] at whole
    rw [next, front, written, reference]
    exact whole
  obtain ⟨called, executed, _, _, whole, _, calls⟩ :=
    execute_answers library running (resubmitJob running.job) _ wrote
  rw [status] at executed calls
  have submitted : (resubmitJob running.job).op = .decompress := op
  rw [submitted, continued] at calls
  refine ⟨{ called with point := .finiJob }, ?_, rfl, whole, calls⟩
  rw [turn, point]
  simp only [executed, ne_eq, not_true_eq_false, if_false]

theorem closing_run (running : Running σ) (point : running.point = .finiJob) (reference : running.reference = source) :
    ∃ last, Ends (turn library .decompression) running (.returned 0, last) ∧
      last.calls = running.calls ++ [.finiJob .ok] := by
  have ok := obeys.closes running.job.internal
  let closed : Running σ := { finalised library running with point := .compare }
  have first : turn library .decompression running = .again closed := by
    rw [turn, point]
    simp only [ok, ne_eq, not_true_eq_false, if_false, closed]
  have stays : closed.reference = source := reference
  have same : Matches closed := fun i _ => by rw [stays]
  have second := matched_turn library closed rfl same
  refine ⟨closed, (ends_again _ _ _ _ first).mpr ((ends_done _ _ _ _ second).mpr rfl), ?_⟩
  show running.calls ++ [.finiJob (library.qpl_fini_job running.job.internal)] = _
  rw [ok]

def successCalls (path : Path) : List Call :=
  [.getJobSize path .ok, .initJob path .ok, .executeJob .compress ⟨true, true, true, true⟩ .ok,
    .executeJob .decompress ⟨true, true, false, false⟩ .moreOutputNeeded,
    .executeJob .decompress ⟨false, true, false, false⟩ .ok, .finiJob .ok]

theorem success_run (garbage : Job σ) (parsed : library.parse_execution_path.1 = 0)
    (sized : library.qpl_get_job_size library.parse_execution_path.2 = .ok)
    (initialised : (library.qpl_init_job library.parse_execution_path.2).1 = .ok)
    (fits : (enc source).length ≤ source_size / 2) : ∃ last,
    Ends (turn library .decompression) (start garbage .decompression) (.returned 0, last) ∧
      last.calls = successCalls library.parse_execution_path.2 := by
  obtain ⟨ready, from_start, point, destination, reference, calls⟩ :=
    prepared_run library garbage parsed sized initialised
  obtain ⟨compressed, first, point, enough, same, compressCalls⟩ := compressed_turn library enc rest obeys ready point
    (by rw [destination]; exact List.length_replicate) fits
  obtain ⟨stalled, second, point, op, flags, total, owed, half, stallCalls⟩ :=
    stalled_turn library enc rest obeys compressed point enough (same.trans reference)
  obtain ⟨resumed, third, point, whole, resumeCalls⟩ :=
    resumed_turn library enc rest obeys stalled point op flags total owed half
  obtain ⟨last, ended, lastCalls⟩ := closing_run library enc rest obeys resumed point whole
  refine ⟨last, from_start _ ((ends_again _ _ _ _ first).mpr ((ends_again _ _ _ _ second).mpr
    ((ends_again _ _ _ _ third).mpr ended))), ?_⟩
  rw [lastCalls, resumeCalls, stallCalls, compressCalls, calls]
  rfl

theorem round_trip_iff (garbage : Job σ) : ∃ exit last,
    Ends (turn library .decompression) (start garbage .decompression) (exit, last) ∧
      (exit = .returned 0 ↔ library.parse_execution_path.1 = 0 ∧
        library.qpl_get_job_size library.parse_execution_path.2 = .ok ∧
        (library.qpl_init_job library.parse_execution_path.2).1 = .ok ∧ (enc source).length ≤ source_size / 2) ∧
      (exit = .returned 0 → last.calls = successCalls library.parse_execution_path.2) := by
  obtain ⟨⟨exit, last⟩, ended⟩ := terminates_of_rank (turn library .decompression) (fun running => running.point.rank)
    (turn_lowers library .decompression) (start garbage .decompression)
  have needs : exit = .returned 0 → library.parse_execution_path.1 = 0 ∧
      library.qpl_get_job_size library.parse_execution_path.2 = .ok ∧
      (library.qpl_init_job library.parse_execution_path.2).1 = .ok ∧ (enc source).length ≤ source_size / 2 := by
    intro success
    subst success
    obtain ⟨parsed, sized, initialised, job, status⟩ := success_needs library garbage last ended
    refine ⟨parsed, sized, initialised, Nat.le_of_not_lt (fun long => ?_)⟩
    exact obeys.full (compressJob library job) rfl rfl rfl long status
  refine ⟨exit, last, ended, ⟨needs, ?_⟩, ?_⟩
  · intro conditions
    obtain ⟨parsed, sized, initialised, fits⟩ := conditions
    obtain ⟨final, succeeded, _⟩ := success_run library enc rest obeys garbage parsed sized initialised fits
    exact congrArg Prod.fst (ends_unique _ _ _ _ ended succeeded)
  · intro success
    obtain ⟨parsed, sized, initialised, fits⟩ := needs success
    obtain ⟨final, succeeded, calls⟩ := success_run library enc rest obeys garbage parsed sized initialised fits
    have same : last = final := congrArg Prod.snd (ends_unique _ _ _ _ ended succeeded)
    rw [same, calls]

end Completeness

section Codec

variable (enc dec : Bytes → Bytes)

def codecReply (job : Job Bytes) : Reply Bytes :=
  let before := if job.flags.FIRST then 0 else job.total_out
  match job.op with
  | .compress =>
      if (enc job.next_in).length ≤ job.available_out then
        ⟨.ok, job.next_in.length, enc job.next_in, before + (enc job.next_in).length, []⟩
      else ⟨.moreOutputNeeded, 0, [], before + 0, []⟩
  | .decompress =>
      let owed := if job.flags.FIRST then dec job.next_in else job.internal
      ⟨if owed.length ≤ job.available_out then .ok else .moreOutputNeeded, job.next_in.length,
        owed.take job.available_out, before + (owed.take job.available_out).length, owed.drop job.available_out⟩

theorem codec_within (job : Job Bytes) : (codecReply enc dec job).written.length ≤ job.available_out := by
  rw [codecReply]
  cases job.op with
  | compress =>
      by_cases fits : (enc job.next_in).length ≤ job.available_out
      · simp only [if_pos fits]
        exact fits
      · simp only [if_neg fits]
        exact Nat.zero_le _
  | decompress => exact List.length_take_le _ _

def idleJob : Job Bytes := ⟨.compress, 0, [], .destination, 0, 0, 0, ⟨false, false, false, false⟩, []⟩

def codecLibrary : Library Bytes :=
  { parse_execution_path := (0, .software)
    default_level := 1
    qpl_get_job_size := fun _ => .ok
    qpl_init_job := fun _ => (.ok, idleJob)
    qpl_execute_job := codecReply enc dec
    qpl_fini_job := fun _ => .ok
    within := codec_within enc dec }

theorem codec_accounts : Accounts (codecLibrary enc dec) := by
  refine ⟨fun job => ?_⟩
  show (codecReply enc dec job).total_out = _ + (codecReply enc dec job).written.length
  rw [codecReply]
  cases job.op with
  | compress =>
      by_cases fits : (enc job.next_in).length ≤ job.available_out
      · simp only [if_pos fits]
      · simp only [if_neg fits, List.length_nil]
  | decompress => rfl

theorem codec_obeys (inverse : ∀ data, dec (enc data) = data) : Obeys (codecLibrary enc dec) enc id := by
  refine ⟨fun job op first _ fits => ?_, fun job op _ _ full => ?_, fun job data op first compressed => ?_,
    fun job op first => ?_, fun _ => rfl⟩
  · simp [codecLibrary, codecReply, op, first, fits]
  · simp [codecLibrary, codecReply, op, Nat.not_le.mpr full]
  · have owed : (if job.flags.FIRST then dec job.next_in else job.internal) = data := by
      rw [if_pos first, compressed, inverse]
    constructor <;> simp [codecLibrary, codecReply, op, owed]
  · constructor <;> simp [codecLibrary, codecReply, op, first]

def packed (data : Bytes) : Bytes := if data = source then [0] else 1 :: data

def unpacked : Bytes → Bytes
  | 0 :: _ => source
  | _ :: data => data
  | [] => []

theorem unpacked_packed (data : Bytes) : unpacked (packed data) = data := by
  by_cases known : data = source
  · rw [packed, if_pos known, known, unpacked]
  · rw [packed, if_neg known]
    rfl

end Codec

theorem stores_contiguous_packed : ∃ exit last,
    Ends (turn (codecLibrary packed unpacked) .decompression) (start idleJob .decompression) (exit, last) ∧
      Bounded exit last :=
  stores_contiguous (codecLibrary packed unpacked) (codec_accounts packed unpacked) .decompression idleJob

theorem round_trip_packed : ∃ last,
    Ends (turn (codecLibrary packed unpacked) .decompression) (start idleJob .decompression) (.returned 0, last) ∧
      last.calls = successCalls .software := by
  obtain ⟨exit, last, ended, succeeds, calls⟩ := round_trip_iff (codecLibrary packed unpacked) packed id
    (codec_obeys packed unpacked unpacked_packed) idleJob
  have fits : (packed source).length ≤ source_size / 2 := by
    rw [packed, if_pos rfl]
    decide
  have success := succeeds.mpr ⟨rfl, rfl, rfl, fits⟩
  exact ⟨last, success ▸ ended, calls success⟩

end SprAccelProfiling.Qpl
