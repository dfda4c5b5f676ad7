import SprAccelProfiling.CExpr
import SprAccelProfiling.Stream
import Mathlib.Logic.Function.Iterate

set_option autoImplicit false

namespace SprAccelProfiling.Cbuf

open SprAccelProfiling.CExpr SprAccelProfiling.Latency SprAccelProfiling.Loop

-- #define assert(stmt,msg) if(!stmt) { fprintf(1,msg); exit(EXIT_FAILURE); }
def AssertExits {ν : Type} (env : ν → Int) (stmt : Expr ν) : Prop := Holds env stmt.afterBang

instance {ν : Type} (env : ν → Int) (stmt : Expr ν) : Decidable (AssertExits env stmt) :=
  inferInstanceAs (Decidable (stmt.afterBang.eval env ≠ 0))

def Z_BUF_ERROR : Int := -5
def Z_DEFAULT_COMPRESSION : Int := -1

inductive Flush where
  | Z_NO_FLUSH
  | Z_SYNC_FLUSH
deriving DecidableEq

-- flushed is the stream for an input after a sync flush, taken and emitted are what
-- the internal state has read and given out so far.
structure Zlib (σ : Type) where
  init : Int
  reset : σ
  deflate : Flush → Stream σ → DeflateReply σ
  flushed : Bytes → Bytes
  inflate : Bytes → Option Bytes
  taken : σ → Bytes
  emitted : σ → Bytes

section Contract

variable {σ : Type}

structure Obeys (library : Zlib σ) : Prop where
  opens : library.init = Z_OK
  consumes : ∀ flush stream, (library.deflate flush stream).consumed ≤ stream.next_in.length
  writes : ∀ flush stream, (library.deflate flush stream).written.length ≤ stream.avail_out
  progress : ∀ flush stream,
    0 < (library.deflate flush stream).consumed + (library.deflate flush stream).written.length →
    (library.deflate flush stream).status = Z_OK
  stuck : ∀ flush stream,
    (library.deflate flush stream).consumed + (library.deflate flush stream).written.length = 0 →
    (library.deflate flush stream).status = Z_BUF_ERROR ∧
      (library.deflate flush stream).internal_state = stream.internal_state
  full : ∀ flush stream, stream.avail_out = 0 →
    (library.deflate flush stream).consumed + (library.deflate flush stream).written.length = 0
  starts : library.taken library.reset = [] ∧ library.emitted library.reset = []
  takes : ∀ flush stream, library.taken (library.deflate flush stream).internal_state =
    library.taken stream.internal_state ++ stream.next_in.take (library.deflate flush stream).consumed
  emits : ∀ flush stream, library.emitted (library.deflate flush stream).internal_state =
    library.emitted stream.internal_state ++ (library.deflate flush stream).written
  flushes : ∀ stream, stream.next_in = [] → (library.deflate .Z_SYNC_FLUSH stream).written =
    ((library.flushed (library.taken stream.internal_state)).drop
      (library.emitted stream.internal_state).length).take stream.avail_out
  inflates : ∀ input, library.inflate (library.flushed input) = some input

end Contract

inductive Var where
  | ret
  | availOut
deriving DecidableEq

def env (ret : Int) (avail_out : Nat) : Var → Int
  | .ret => ret
  | .availOut => avail_out

def initStmt : Expr Var := .eq (.var .ret) (.const Z_OK)

def deflateStmt : Expr Var := .and (.eq (.var .ret) (.const Z_OK)) (.ne (.var .availOut) (.const 0))

def flushStmt : Expr Var := .eq (.var .ret) (.const Z_STREAM_END)

inductive Outcome where
  | exit
  | returned (totalOut : Nat) (cbuf : Bytes)
deriving DecidableEq

section Program

variable {σ : Type} (library : Zlib σ)

structure Deflating (σ : Type) where
  strm : Stream σ
  ret : Int

-- avail_in and avail_out are 32-bit, size is not.
def opening (input : Bytes) : Stream σ where
  level := Z_DEFAULT_COMPRESSION
  end_of_stream := false
  next_in := input.take (input.length % 4294967296)
  next_out := []
  avail_out := input.length % 4294967296
  total_out := 0
  internal_state := library.reset

def deflated (flush : Flush) (strm : Stream σ) : Stream σ := advance strm (library.deflate flush strm)

-- The while loop and, once it is left, the flush. The status of the flush is not stored.
def deflateTurn (state : Deflating σ) : Turn (Deflating σ) Outcome :=
  if state.strm.next_in.length ≠ 0 then
    let ret := (library.deflate .Z_NO_FLUSH state.strm).status
    let strm := deflated library .Z_NO_FLUSH state.strm
    if AssertExits (env ret strm.avail_out) deflateStmt then .done .exit
    else .again ⟨strm, ret⟩
  else
    let strm := deflated library .Z_SYNC_FLUSH state.strm
    if AssertExits (env state.ret strm.avail_out) flushStmt then .done .exit
    else .done (.returned strm.total_out strm.next_out)

def generateCbuf (input : Bytes) (fuel : Nat) : Option Outcome :=
  if AssertExits (env library.init 0) initStmt then some .exit
  else run (deflateTurn library) fuel ⟨opening library input, library.init⟩

end Program

section Asserts

theorem asserts_pasted (stmt : Expr Var) (asserted : stmt ∈ [initStmt, deflateStmt, flushStmt]) :
    stmt.afterBang.tokens = .bang :: stmt.tokens ∧ Parses .conjunction stmt.afterBang := by
  refine ⟨tokens_after_bang stmt, after_bang_parses .conjunction stmt ?_⟩
  have status : ∀ level : Level, level.admits .equality = true → ∀ value, Parses level (.eq (.var Var.ret) (.const value)) :=
    fun level loose value => .eq level _ _ loose (.var _ _) (.const _ _)
  have room : Parses .equality (.ne (.var Var.availOut) (.const 0)) := .ne _ _ _ rfl (.var _ _) (.const _ _)
  simp only [List.mem_cons, List.not_mem_nil, or_false] at asserted
  rcases asserted with rfl | rfl | rfl
  · exact status .conjunction rfl Z_OK
  · exact .and _ _ _ rfl (status .conjunction rfl Z_OK) room
  · exact status .conjunction rfl Z_STREAM_END

variable (ret : Int) (avail_out : Nat)

theorem init_assert_iff : AssertExits (env ret avail_out) initStmt ↔ ret ≠ Z_OK :=
  holds_not_eq_zero _ _ _ rfl

theorem deflate_assert_iff :
    AssertExits (env ret avail_out) deflateStmt ↔ ret ≠ Z_OK ∧ avail_out ≠ 0 := by
  have room : Holds (env ret avail_out) (.ne (.var .availOut) (.const 0)) ↔ avail_out ≠ 0 := by
    rw [holds_ne]
    exact Int.natCast_ne_zero
  have status : Holds (env ret avail_out) (Expr.eq (.var .ret) (.const Z_OK)).afterBang ↔ ret ≠ Z_OK :=
    init_assert_iff ret avail_out
  exact (holds_and _ _ _).trans (and_congr status room)

theorem flush_assert_iff : AssertExits (env ret avail_out) flushStmt ↔ ret = Z_OK :=
  holds_not_eq_one _ _ _ rfl

end Asserts

section Runs

variable {σ : Type} (library : Zlib σ) (obeys : Obeys library)

def fed (strm : Stream σ) (n : Nat) : Stream σ := (deflated library .Z_NO_FLUSH)^[n] strm

def RoomLeft (strm : Stream σ) : Prop :=
  ∀ n, (fed library strm n).next_in.length ≠ 0 → (fed library strm n).avail_out ≠ 0

theorem fed_succ (strm : Stream σ) (n : Nat) :
    fed library strm (n + 1) = fed library (deflated library .Z_NO_FLUSH strm) n :=
  Function.iterate_succ_apply _ n strm

theorem room_left_next (strm : Stream σ) (room : RoomLeft library strm) :
    RoomLeft library (deflated library .Z_NO_FLUSH strm) := by
  intro n
  rw [← fed_succ]
  exact room (n + 1)

theorem consumed_room_left (strm : Stream σ) (consumed : strm.next_in = []) : RoomLeft library strm := by
  intro n
  induction n generalizing strm with
  | zero => exact fun input => absurd (List.length_eq_zero_iff.mpr consumed) input
  | succ n ih =>
      rw [fed_succ]
      exact ih _ (by rw [deflated, advance, consumed, List.drop_nil])

theorem passed_turn (state : Deflating σ) (input : state.strm.next_in.length ≠ 0)
    (passes : ¬ AssertExits (env (library.deflate .Z_NO_FLUSH state.strm).status
      (deflated library .Z_NO_FLUSH state.strm).avail_out) deflateStmt) :
    deflateTurn library state =
      .again ⟨deflated library .Z_NO_FLUSH state.strm, (library.deflate .Z_NO_FLUSH state.strm).status⟩ := by
  simp only [deflateTurn, if_pos input, if_neg passes]

theorem flush_turn_exits (strm : Stream σ) (consumed : strm.next_in = []) :
    deflateTurn library ⟨strm, Z_OK⟩ = .done .exit := by
  have skipped : ¬ strm.next_in.length ≠ 0 := fun input => input (List.length_eq_zero_iff.mpr consumed)
  simp only [deflateTurn, if_neg skipped, if_pos ((flush_assert_iff Z_OK _).mpr rfl)]

include obeys

theorem stuck_unchanged (flush : Flush) (strm : Stream σ)
    (none : (library.deflate flush strm).consumed + (library.deflate flush strm).written.length = 0) :
    deflated library flush strm = strm := by
  have consumed : (library.deflate flush strm).consumed = 0 := by omega
  have written : (library.deflate flush strm).written = [] := List.length_eq_zero_iff.mp (by omega)
  rw [deflated, advance, (obeys.stuck flush strm none).2, consumed, written]
  simp

theorem step_measure (strm : Stream σ) :
    (deflated library .Z_NO_FLUSH strm).next_in.length + (deflated library .Z_NO_FLUSH strm).avail_out +
      ((library.deflate .Z_NO_FLUSH strm).consumed + (library.deflate .Z_NO_FLUSH strm).written.length) =
      strm.next_in.length + strm.avail_out := by
  have consumes := obeys.consumes .Z_NO_FLUSH strm
  have writes := obeys.writes .Z_NO_FLUSH strm
  simp only [deflated, advance, List.length_drop]
  omega

-- With input left and no room the call changes nothing and its status passes the assert.
theorem full_never_returns (state : Deflating σ) (input : state.strm.next_in.length ≠ 0)
    (full : state.strm.avail_out = 0) : ¬ Terminates (deflateTurn library) state := by
  apply never_ends (deflateTurn library) (fun state => state.strm.next_in.length ≠ 0 ∧ state.strm.avail_out = 0) _
    state ⟨input, full⟩
  intro state stuck
  have same := stuck_unchanged library obeys .Z_NO_FLUSH state.strm (obeys.full .Z_NO_FLUSH state.strm stuck.2)
  have passes : ¬ AssertExits (env (library.deflate .Z_NO_FLUSH state.strm).status
      (deflated library .Z_NO_FLUSH state.strm).avail_out) deflateStmt := by
    rw [deflate_assert_iff, same]
    exact fun exits => exits.2 stuck.2
  refine ⟨_, passed_turn library state stuck.1 passes, ?_⟩
  dsimp only
  rw [same]
  exact stuck

theorem stuck_turn_exits (strm : Stream σ) (ret : Int) (input : strm.next_in.length ≠ 0) (room : strm.avail_out ≠ 0)
    (none : (library.deflate .Z_NO_FLUSH strm).consumed + (library.deflate .Z_NO_FLUSH strm).written.length = 0) :
    deflateTurn library ⟨strm, ret⟩ = .done .exit := by
  have exits : AssertExits (env (library.deflate .Z_NO_FLUSH strm).status
      (deflated library .Z_NO_FLUSH strm).avail_out) deflateStmt := by
    rw [deflate_assert_iff, (obeys.stuck .Z_NO_FLUSH strm none).1, stuck_unchanged library obeys .Z_NO_FLUSH strm none]
    exact ⟨by decide, room⟩
  simp only [deflateTurn, if_pos input, if_pos exits]

theorem progress_turn_again (strm : Stream σ) (ret : Int) (input : strm.next_in.length ≠ 0)
    (some : 0 < (library.deflate .Z_NO_FLUSH strm).consumed + (library.deflate .Z_NO_FLUSH strm).written.length) :
    deflateTurn library ⟨strm, ret⟩ = .again ⟨deflated library .Z_NO_FLUSH strm, Z_OK⟩ := by
  have status := obeys.progress .Z_NO_FLUSH strm some
  have passes : ¬ AssertExits (env (library.deflate .Z_NO_FLUSH strm).status
      (deflated library .Z_NO_FLUSH strm).avail_out) deflateStmt := by
    rw [deflate_assert_iff, status]
    exact fun exits => exits.1 rfl
  rw [passed_turn library ⟨strm, ret⟩ input passes, status]

theorem room_left_exits (size : Nat) (strm : Stream σ) (measure : strm.next_in.length + strm.avail_out = size)
    (room : RoomLeft library strm) : Ends (deflateTurn library) ⟨strm, Z_OK⟩ .exit := by
  induction size using Nat.strongRecOn generalizing strm with
  | ind size ih =>
      by_cases input : strm.next_in.length = 0
      · exact (ends_done _ _ _ _ (flush_turn_exits library strm (List.length_eq_zero_iff.mp input))).mpr rfl
      · by_cases none : (library.deflate .Z_NO_FLUSH strm).consumed +
            (library.deflate .Z_NO_FLUSH strm).written.length = 0
        · exact (ends_done _ _ _ _ (stuck_turn_exits library obeys strm Z_OK input (room 0 input) none)).mpr rfl
        · have shrinks := step_measure library obeys strm
          have turned := progress_turn_again library obeys strm Z_OK input (Nat.pos_of_ne_zero none)
          exact (ends_again _ _ _ _ turned).mpr
            (ih _ (by omega) (deflated library .Z_NO_FLUSH strm) rfl (room_left_next library strm room))

theorem ends_room_left (strm : Stream σ) (outcome : Outcome) (ended : Ends (deflateTurn library) ⟨strm, Z_OK⟩ outcome) :
    RoomLeft library strm := by
  intro n
  induction n generalizing strm with
  | zero => exact fun input full => full_never_returns library obeys ⟨strm, Z_OK⟩ input full ⟨outcome, ended⟩
  | succ n ih =>
      rw [fed_succ]
      by_cases none : (library.deflate .Z_NO_FLUSH strm).consumed +
          (library.deflate .Z_NO_FLUSH strm).written.length = 0
      · rw [stuck_unchanged library obeys .Z_NO_FLUSH strm none]
        exact ih strm ended
      · by_cases input : strm.next_in = []
        · rw [← fed_succ]
          exact consumed_room_left library strm input (n + 1)
        · have turned := progress_turn_again library obeys strm Z_OK (fun empty => input (List.length_eq_zero_iff.mp empty))
            (Nat.pos_of_ne_zero none)
          exact ih _ ((ends_again _ _ _ _ turned).mp ended)

theorem ends_in_exit (strm : Stream σ) (outcome : Outcome) (ended : Ends (deflateTurn library) ⟨strm, Z_OK⟩ outcome) :
    outcome = .exit :=
  ends_unique _ _ _ _ ended
    (room_left_exits library obeys _ strm rfl (ends_room_left library obeys strm outcome ended))

theorem generate_cbuf_run (input : Bytes) (fuel : Nat) :
    generateCbuf library input fuel = run (deflateTurn library) fuel ⟨opening library input, Z_OK⟩ := by
  have passes : ¬ AssertExits (env library.init 0) initStmt := by
    rw [init_assert_iff, obeys.opens]
    exact fun differs => differs rfl
  rw [generateCbuf, if_neg passes, obeys.opens]

omit obeys in
structure CompressesOrReports (input : Bytes) : Prop where
  ends : ∃ fuel outcome, generateCbuf library input fuel = some outcome
  reports : ∀ fuel, generateCbuf library input fuel = some .exit → ¬ (library.flushed input).length < input.length
  compresses : ∀ fuel totalOut cbuf, generateCbuf library input fuel = some (.returned totalOut cbuf) →
    totalOut = cbuf.length ∧ cbuf = library.flushed input ∧ library.inflate cbuf = some input
  returns : (library.flushed input).length < input.length →
    ∃ fuel totalOut cbuf, generateCbuf library input fuel = some (.returned totalOut cbuf)

theorem generate_cbuf_iff (input : Bytes) :
    CompressesOrReports library input ↔
      RoomLeft library (opening library input) ∧ input.length ≤ (library.flushed input).length := by
  have runs := generate_cbuf_run library obeys input
  have exits : ∀ fuel outcome, generateCbuf library input fuel = some outcome → outcome = .exit := by
    intro fuel outcome ended
    rw [runs] at ended
    exact ends_in_exit library obeys _ outcome ⟨fuel, ended⟩
  constructor
  · intro promise
    obtain ⟨fuel, outcome, ended⟩ := promise.ends
    have exit := exits fuel outcome ended
    rw [exit] at ended
    refine ⟨?_, Nat.le_of_not_lt (promise.reports fuel ended)⟩
    rw [runs] at ended
    exact ends_room_left library obeys _ .exit ⟨fuel, ended⟩
  · intro condition
    obtain ⟨room, large⟩ := condition
    obtain ⟨fuel, ended⟩ := room_left_exits library obeys _ (opening library input) rfl room
    refine ⟨⟨fuel, .exit, by rw [runs, ended]⟩, fun _ _ => Nat.not_lt.mpr large, ?_, fun small => by omega⟩
    intro fuel totalOut cbuf returned
    cases exits fuel _ returned

end Runs

def squeeze (input : Bytes) : Bytes := if input = [5, 5, 5] then [0] else 1 :: input

def unsqueeze : Bytes → Option Bytes
  | 1 :: input => some input
  | [0] => some [5, 5, 5]
  | _ => none

def squeezed (flush : Flush) (stream : Stream (Bytes × Bytes)) : Bytes :=
  match flush with
  | .Z_NO_FLUSH => []
  | .Z_SYNC_FLUSH =>
      ((squeeze (stream.internal_state.1 ++ stream.next_in)).drop stream.internal_state.2.length).take stream.avail_out

def squeezing : Zlib (Bytes × Bytes) where
  init := Z_OK
  reset := ([], [])
  deflate := fun flush stream =>
    if stream.avail_out = 0 then ⟨0, [], stream.internal_state, Z_BUF_ERROR⟩
    else
      { consumed := stream.next_in.length
        written := squeezed flush stream
        internal_state :=
          (stream.internal_state.1 ++ stream.next_in, stream.internal_state.2 ++ squeezed flush stream)
        status := if stream.next_in.length + (squeezed flush stream).length = 0 then Z_BUF_ERROR else Z_OK }
  flushed := squeeze
  inflate := unsqueeze
  taken := fun state => state.1
  emitted := fun state => state.2

theorem squeezed_within (flush : Flush) (stream : Stream (Bytes × Bytes)) :
    (squeezed flush stream).length ≤ stream.avail_out := by
  cases flush with
  | Z_NO_FLUSH => exact Nat.zero_le _
  | Z_SYNC_FLUSH =>
      rw [squeezed, List.length_take]
      exact Nat.min_le_left _ _

theorem unsqueeze_squeeze (input : Bytes) : unsqueeze (squeeze input) = some input := by
  by_cases special : input = [5, 5, 5]
  · rw [special]
    rfl
  · rw [squeeze, if_neg special, unsqueeze]

theorem squeezing_full (flush : Flush) (stream : Stream (Bytes × Bytes)) (full : stream.avail_out = 0) :
    squeezing.deflate flush stream = ⟨0, [], stream.internal_state, Z_BUF_ERROR⟩ := if_pos full

theorem squeezing_room (flush : Flush) (stream : Stream (Bytes × Bytes)) (room : ¬ stream.avail_out = 0) :
    squeezing.deflate flush stream =
      { consumed := stream.next_in.length
        written := squeezed flush stream
        internal_state :=
          (stream.internal_state.1 ++ stream.next_in, stream.internal_state.2 ++ squeezed flush stream)
        status := if stream.next_in.length + (squeezed flush stream).length = 0 then Z_BUF_ERROR else Z_OK } :=
  if_neg room

theorem squeezing_obeys : Obeys squeezing := by
  constructor
  · rfl
  · intro flush stream
    by_cases full : stream.avail_out = 0
    · simp [squeezing_full, full]
    · simp [squeezing_room, full]
  · intro flush stream
    by_cases full : stream.avail_out = 0
    · simp [squeezing_full, full]
    · simpa [squeezing_room, full] using squeezed_within flush stream
  · intro flush stream
    by_cases full : stream.avail_out = 0
    · simp [squeezing_full, full]
    · rw [squeezing_room flush stream full]
      exact fun some => if_neg (Nat.ne_of_gt some)
  · intro flush stream
    by_cases full : stream.avail_out = 0
    · simp [squeezing_full, full]
    · rw [squeezing_room flush stream full]
      intro none
      have input : stream.next_in = [] := List.length_eq_zero_iff.mp (Nat.eq_zero_of_add_eq_zero_right none)
      have output : squeezed flush stream = [] := List.length_eq_zero_iff.mp (Nat.eq_zero_of_add_eq_zero_left none)
      refine ⟨if_pos none, ?_⟩
      dsimp only
      rw [input, output, List.append_nil, List.append_nil]
  · intro flush stream full
    rw [squeezing_full flush stream full]
    rfl
  · exact ⟨rfl, rfl⟩
  · intro flush stream
    by_cases full : stream.avail_out = 0
    · simp [squeezing_full, full]
    · rw [squeezing_room flush stream full, List.take_of_length_le (Nat.le_refl _)]
      rfl
  · intro flush stream
    by_cases full : stream.avail_out = 0
    · simp [squeezing_full, full]
    · rw [squeezing_room flush stream full]
      rfl
  · intro stream consumed
    by_cases full : stream.avail_out = 0
    · simp [squeezing_full, full]
    · rw [squeezing_room .Z_SYNC_FLUSH stream full, squeezed, consumed, List.append_nil]
      rfl
  · exact unsqueeze_squeeze

theorem two_bytes_reported :
    CompressesOrReports squeezing [5, 6] ↔
      RoomLeft squeezing (opening squeezing [5, 6]) ∧ [5, 6].length ≤ (squeezing.flushed [5, 6]).length :=
  generate_cbuf_iff squeezing squeezing_obeys [5, 6]

theorem fitting_stream_exits : Obeys squeezing ∧ ¬ CompressesOrReports squeezing [5, 5, 5] := by
  refine ⟨squeezing_obeys, fun promise => ?_⟩
  have exits : generateCbuf squeezing [5, 5, 5] 2 = some .exit := by rfl
  exact absurd (promise.reports 2 exits) (by decide)

end SprAccelProfiling.Cbuf
