import SprAccelProfiling.CParse
import SprAccelProfiling.CompressBuffer

set_option autoImplicit false

namespace SprAccelProfiling.Asserts

open SprAccelProfiling.CExpr SprAccelProfiling.Latency SprAccelProfiling.Cbuf

inductive Var where
  | ret
  | strmAvailOut
  | streamAvailIn
  | streamInternalStateState
deriving DecidableEq

def values (ret strmAvailOut streamAvailIn streamInternalStateState : Int) : Asserts.Var → Int
  | .ret => ret
  | .strmAvailOut => strmAvailOut
  | .streamAvailIn => streamAvailIn
  | .streamInternalStateState => streamInternalStateState

abbrev Text := List (Token Asserts.Var)

inductive Site where
  | indexIntoCbuf
  | allocBuf
  | generateCbufInit
  | generateCbufDeflate
  | generateCbufEnd
  | doIsalDeflateInput
  | doIsalDeflateState
  | zlibDeflateNoFlush
  | zlibDeflateFinish
  | mainBuf
  | mainCbuf
  | mainObuf
  | mainInflate
deriving DecidableEq

section Sites

variable (ZSTATE_END : Int)

def Site.stmt : Site → Text
  | .indexIntoCbuf => [.name .ret, .eqEq, .number Z_OK]
  | .allocBuf => [.name .ret, .eqEq, .number 0]
  | .generateCbufInit => [.name .ret, .eqEq, .number Z_OK]
  | .generateCbufDeflate => [.name .ret, .eqEq, .number Z_OK, .ampAmp, .name .strmAvailOut, .bangEq, .number 0]
  | .generateCbufEnd => [.name .ret, .eqEq, .number Z_STREAM_END]
  | .doIsalDeflateInput => [.name .streamAvailIn, .eqEq, .number 0]
  | .doIsalDeflateState => [.name .streamInternalStateState, .eqEq, .number ZSTATE_END]
  | .zlibDeflateNoFlush => [.name .ret, .eqEq, .number Z_OK]
  | .zlibDeflateFinish => [.name .ret, .eqEq, .number Z_OK]
  | .mainBuf => [.name .ret, .eqEq, .number 0]
  | .mainCbuf => [.name .ret, .eqEq, .number 0]
  | .mainObuf => [.name .ret, .eqEq, .number 0]
  | .mainInflate => [.name .ret, .eqEq, .number ISAL_DECOMP_OK]

variable (env : Asserts.Var → Int)

-- if(!stmt)
def Fails (site : Site) : Prop := Tests env (.bang :: site.stmt ZSTATE_END)

def Stated (site : Site) : Prop := Tests env (site.stmt ZSTATE_END)

instance (site : Site) : Decidable (Fails ZSTATE_END env site) :=
  inferInstanceAs (Decidable (Tests env (.bang :: site.stmt ZSTATE_END)))

instance (site : Site) : Decidable (Stated ZSTATE_END env site) :=
  inferInstanceAs (Decidable (Tests env (site.stmt ZSTATE_END)))

end Sites

section Isal

def NO_FLUSH : Int := 0

structure IsalStream where
  end_of_stream : Int
  flush : Int
  next_in : Nat
  avail_in : UInt32
  next_out : Nat
  avail_out : UInt32
  state : Int

structure Isal where
  isal_deflate_init : IsalStream → IsalStream
  isal_deflate : IsalStream → IsalStream

variable (ZSTATE_END : Int) (isal : Isal) (stream : IsalStream) (buf cbuf : Nat) (size : UInt64)

def isalDeflated : IsalStream :=
  isal.isal_deflate { isal.isal_deflate_init stream with
    end_of_stream := 1
    flush := NO_FLUSH
    avail_out := size.toUInt32
    next_in := buf
    avail_in := size.toUInt32
    next_out := cbuf }

def isalEnv (stream : IsalStream) : Asserts.Var → Int := values 0 0 stream.avail_in.toNat stream.state

def doIsalDeflate : Option UInt64 :=
  let deflated := isalDeflated isal stream buf cbuf size
  if Fails ZSTATE_END (isalEnv deflated) .doIsalDeflateInput then none
  else if Fails ZSTATE_END (isalEnv deflated) .doIsalDeflateState then none
  else some (size - deflated.avail_out.toUInt64)

end Isal

section Zlib

variable {σ : Type} (library : Zlib σ) (ZSTATE_END : Int)

def zlibOpening (input : Bytes) : Stream σ := { opening library input with level := 9 }

def zlibDeflate (input : Bytes) : Option (Stream σ) :=
  let strm := zlibOpening library input
  let ret := (library.deflate .Z_NO_FLUSH strm).status
  let strm := deflated library .Z_NO_FLUSH strm
  if Fails ZSTATE_END (values ret 0 0 0) .zlibDeflateNoFlush then none
  else
    let ret := (library.deflate .Z_SYNC_FLUSH strm).status
    let strm := deflated library .Z_SYNC_FLUSH strm
    if Fails ZSTATE_END (values ret 0 0 0) .zlibDeflateFinish then none
    else some strm

def allocBuf (ret : Int) : Option Int :=
  if ret ≠ 0 ∧ Fails ZSTATE_END (values ret 0 0 0) .allocBuf then none else some ret

end Zlib

section Equalities

variable (env : Asserts.Var → Int) (name : Asserts.Var) (value : Int)

theorem equality_parses (level : Level) (loose : level.admits .equality = true) :
    Parses level (.eq (.var name) (.const value)) :=
  .eq level _ _ loose (.var _ _) (.const _ _)

theorem equality_tests : Tests env [.name name, .eqEq, .number value] ↔ env name = value :=
  (tests_stmt env _ (equality_parses name value .conjunction rfl)).trans (holds_eq env _ _)

theorem equality_pasted :
    Tests env [.bang, .name name, .eqEq, .number value] ↔ Holds env (.eq (.not (.var name)) (.const value)) :=
  tests_bang_stmt env _ (equality_parses name value .conjunction rfl)

theorem zero_pasted : Tests env [.bang, .name name, .eqEq, .number 0] ↔ env name ≠ 0 :=
  (equality_pasted env name 0).trans (holds_not_eq_zero env _ _ rfl)

theorem one_pasted : Tests env [.bang, .name name, .eqEq, .number 1] ↔ env name = 0 :=
  (equality_pasted env name 1).trans (holds_not_eq_one env _ _ rfl)

theorem above_pasted (above : 1 < value) : ¬ Tests env [.bang, .name name, .eqEq, .number value] := by
  rw [equality_pasted, holds_eq, Expr.eval, Expr.eval]
  unfold ofProp
  split
  all_goals omega

theorem zero_agrees :
    Tests env [.bang, .name name, .eqEq, .number 0] ↔ ¬ Tests env [.name name, .eqEq, .number 0] := by
  rw [zero_pasted, equality_tests]

-- !x == 1 is taken for zero, and x == 1 is false for zero and for every other number.
theorem one_agrees_iff :
    (Tests env [.bang, .name name, .eqEq, .number 1] ↔ ¬ Tests env [.name name, .eqEq, .number 1]) ↔
      env name = 0 ∨ env name = 1 := by
  rw [one_pasted, equality_tests]
  omega

theorem above_agrees_iff (above : 1 < value) :
    (Tests env [.bang, .name name, .eqEq, .number value] ↔ ¬ Tests env [.name name, .eqEq, .number value]) ↔
      env name = value := by
  rw [iff_false_left (above_pasted env name value above), not_not, equality_tests]

end Equalities

section Conjunctions

variable (env : Asserts.Var → Int) (first second : Asserts.Var)

def bothStmt : Expr Asserts.Var := .and (.eq (.var first) (.const 0)) (.ne (.var second) (.const 0))

theorem both_parses : Parses .conjunction (bothStmt first second) :=
  .and _ _ _ rfl (equality_parses first 0 .conjunction rfl) (.ne _ _ _ rfl (.var _ _) (.const _ _))

theorem both_pasted : Tests env (.bang :: (bothStmt first second).tokens) ↔ env first ≠ 0 ∧ env second ≠ 0 := by
  refine (tests_bang_stmt env _ (both_parses first second)).trans ((holds_and env _ _).trans (and_congr ?_ ?_))
  · exact holds_not_eq_zero env (.var first) (.const 0) rfl
  · exact holds_ne env _ _

theorem both_tests : Tests env (bothStmt first second).tokens ↔ env first = 0 ∧ env second ≠ 0 :=
  (tests_stmt env _ (both_parses first second)).trans
    ((holds_and env _ _).trans (and_congr (holds_eq env _ _) (holds_ne env _ _)))

theorem both_agrees_iff :
    (Tests env (.bang :: (bothStmt first second).tokens) ↔ ¬ Tests env (bothStmt first second).tokens) ↔
      env second ≠ 0 := by
  rw [both_pasted, both_tests]
  by_cases none : env second = 0
  · simp [none]
  · simp [none]

end Conjunctions

section Settled

variable (ZSTATE_END : Int) (env : Asserts.Var → Int)

def Meant : Site → Prop
  | .generateCbufDeflate => env .strmAvailOut ≠ 0
  | .generateCbufEnd => env .ret = 0 ∨ env .ret = 1
  | .doIsalDeflateState => env .streamInternalStateState = ZSTATE_END
  | _ => True

theorem site_agrees_iff (above : 1 < ZSTATE_END) (site : Site) :
    (Fails ZSTATE_END env site ↔ ¬ Stated ZSTATE_END env site) ↔ Meant ZSTATE_END env site := by
  have zero : ∀ name, (Tests env [.bang, .name name, .eqEq, .number 0] ↔
      ¬ Tests env [.name name, .eqEq, .number 0]) ↔ True := fun name => iff_true_intro (zero_agrees env name)
  cases site with
  | indexIntoCbuf => exact zero .ret
  | allocBuf => exact zero .ret
  | generateCbufInit => exact zero .ret
  | generateCbufDeflate => exact both_agrees_iff env .ret .strmAvailOut
  | generateCbufEnd => exact one_agrees_iff env .ret
  | doIsalDeflateInput => exact zero .streamAvailIn
  | doIsalDeflateState => exact above_agrees_iff env .streamInternalStateState ZSTATE_END above
  | zlibDeflateNoFlush => exact zero .ret
  | zlibDeflateFinish => exact zero .ret
  | mainBuf => exact zero .ret
  | mainCbuf => exact zero .ret
  | mainObuf => exact zero .ret
  | mainInflate => exact zero .ret

end Settled

section Passing

variable (ZSTATE_END : Int) (isal : Isal) (stream : IsalStream) (buf cbuf : Nat) (size : UInt64)

theorem do_isal_deflate_passes_iff (above : 1 < ZSTATE_END) (olen : UInt64) :
    doIsalDeflate ZSTATE_END isal stream buf cbuf size = some olen ↔
      (isalDeflated isal stream buf cbuf size).avail_in = 0 ∧
        olen = size - (isalDeflated isal stream buf cbuf size).avail_out.toUInt64 := by
  have input : Fails ZSTATE_END (isalEnv (isalDeflated isal stream buf cbuf size)) .doIsalDeflateInput ↔
      (isalDeflated isal stream buf cbuf size).avail_in ≠ 0 := by
    refine (zero_pasted _ .streamAvailIn).trans (not_congr ?_)
    rw [← UInt32.toNat_inj]
    exact Int.natCast_eq_zero
  have state : ¬ Fails ZSTATE_END (isalEnv (isalDeflated isal stream buf cbuf size)) .doIsalDeflateState :=
    above_pasted _ .streamInternalStateState ZSTATE_END above
  rw [doIsalDeflate, if_neg state]
  by_cases consumed : (isalDeflated isal stream buf cbuf size).avail_in = 0
  · rw [if_neg (fun fails => input.mp fails consumed), and_iff_right consumed, Option.some.injEq, eq_comm]
  · rw [if_pos (input.mpr consumed)]
    simp [consumed]

theorem zlib_deflate_passes_iff {σ : Type} (library : Zlib σ) (input : Bytes) (last : Stream σ) :
    zlibDeflate library ZSTATE_END input = some last ↔
      (library.deflate .Z_NO_FLUSH (zlibOpening library input)).status = Z_OK ∧
      (library.deflate .Z_SYNC_FLUSH (deflated library .Z_NO_FLUSH (zlibOpening library input))).status = Z_OK ∧
      last = deflated library .Z_SYNC_FLUSH (deflated library .Z_NO_FLUSH (zlibOpening library input)) := by
  have first : ∀ status, Fails ZSTATE_END (values status 0 0 0) .zlibDeflateNoFlush ↔ status ≠ Z_OK :=
    fun status => zero_pasted (values status 0 0 0) .ret
  have second : ∀ status, Fails ZSTATE_END (values status 0 0 0) .zlibDeflateFinish ↔ status ≠ Z_OK :=
    fun status => zero_pasted (values status 0 0 0) .ret
  simp only [zlibDeflate, first, second, ite_not, Option.ite_none_right_eq_some, Option.some.injEq]
  exact and_congr_right (fun _ => and_congr_right (fun _ => eq_comm))

theorem alloc_buf_iff (ret result : Int) : allocBuf ZSTATE_END ret = some result ↔ ret = 0 ∧ result = 0 := by
  have fails : Fails ZSTATE_END (values ret 0 0 0) .allocBuf ↔ ret ≠ 0 := zero_pasted (values ret 0 0 0) .ret
  by_cases allocated : ret = 0
  · simp [allocBuf, allocated, eq_comm]
  · simp [allocBuf, fails, allocated]

-- generate_cbuf is modelled over its own statements. What they are pasted into is what the parser
-- finds, and they are those of its three sites.
structure CbufSites : Prop where
  pasted : ∀ (env : Cbuf.Var → Int) (stmt : Expr Cbuf.Var), stmt ∈ [initStmt, deflateStmt, flushStmt] →
    (AssertExits env stmt ↔ Tests env (.bang :: stmt.tokens))
  init : ∀ (ret : Int) (avail_out : Nat), AssertExits (Cbuf.env ret avail_out) initStmt ↔
    Fails ZSTATE_END (values ret avail_out 0 0) .generateCbufInit
  deflate : ∀ (ret : Int) (avail_out : Nat), AssertExits (Cbuf.env ret avail_out) deflateStmt ↔
    Fails ZSTATE_END (values ret avail_out 0 0) .generateCbufDeflate
  flush : ∀ (ret : Int) (avail_out : Nat), AssertExits (Cbuf.env ret avail_out) flushStmt ↔
    Fails ZSTATE_END (values ret avail_out 0 0) .generateCbufEnd

theorem generate_cbuf_sites : CbufSites ZSTATE_END where
  pasted := fun env stmt asserted => by
    obtain ⟨tokens, parses⟩ := asserts_pasted stmt asserted
    rw [← tokens]
    exact (tests_stmt env stmt.afterBang parses).symm
  init := fun ret avail_out => (init_assert_iff ret avail_out).trans (zero_pasted (values ret avail_out 0 0) .ret).symm
  deflate := fun ret avail_out => by
    refine (deflate_assert_iff ret avail_out).trans
      (Iff.trans ?_ (both_pasted (values ret avail_out 0 0) .ret .strmAvailOut).symm)
    exact and_congr_right (fun _ => Int.natCast_ne_zero.symm)
  flush := fun ret avail_out => (flush_assert_iff ret avail_out).trans (one_pasted (values ret avail_out 0 0) .ret).symm

end Passing

theorem asserts_mean_stmt_iff (ZSTATE_END : Int) (above : 1 < ZSTATE_END) :
    (∀ env site, (Fails ZSTATE_END env site ↔ ¬ Stated ZSTATE_END env site) ↔ Meant ZSTATE_END env site) ∧
    (∀ isal stream buf cbuf size, ((∃ olen, doIsalDeflate ZSTATE_END isal stream buf cbuf size = some olen) →
        (isalDeflated isal stream buf cbuf size).avail_in = 0 ∧
          (isalDeflated isal stream buf cbuf size).state = ZSTATE_END) ↔
      (isalDeflated isal stream buf cbuf size).avail_in ≠ 0 ∨
        (isalDeflated isal stream buf cbuf size).state = ZSTATE_END) ∧
    (∀ ret result, allocBuf ZSTATE_END ret = some result ↔ ret = 0 ∧ result = 0) ∧ CbufSites ZSTATE_END := by
  refine ⟨fun env site => site_agrees_iff ZSTATE_END env above site, ?_, alloc_buf_iff ZSTATE_END,
    generate_cbuf_sites ZSTATE_END⟩
  intro isal stream buf cbuf size
  have passes : (∃ olen, doIsalDeflate ZSTATE_END isal stream buf cbuf size = some olen) ↔
      (isalDeflated isal stream buf cbuf size).avail_in = 0 := by
    simp only [do_isal_deflate_passes_iff ZSTATE_END isal stream buf cbuf size above, exists_and_left, exists_eq,
      and_true]
  rw [passes, imp_and, imp_iff_not_or (b := _ = ZSTATE_END)]
  exact and_iff_right id

theorem asserts_mean_stmt_eleven :
    (∀ env site, (Fails 11 env site ↔ ¬ Stated 11 env site) ↔ Meant 11 env site) ∧
    (∀ isal stream buf cbuf size, ((∃ olen, doIsalDeflate 11 isal stream buf cbuf size = some olen) →
        (isalDeflated isal stream buf cbuf size).avail_in = 0 ∧
          (isalDeflated isal stream buf cbuf size).state = 11) ↔
      (isalDeflated isal stream buf cbuf size).avail_in ≠ 0 ∨
        (isalDeflated isal stream buf cbuf size).state = 11) ∧
    (∀ ret result, allocBuf 11 ret = some result ↔ ret = 0 ∧ result = 0) ∧ CbufSites 11 :=
  asserts_mean_stmt_iff 11 (by decide)

def waiting : IsalStream := ⟨1, NO_FLUSH, 64, 0, 128, 0, 3⟩

def waitingIsal : Isal := ⟨id, fun _ => waiting⟩

theorem waiting_state_passes :
    doIsalDeflate 11 waitingIsal waiting 0 64 64 = some 64 ∧
      ¬ (Fails 11 (isalEnv waiting) .doIsalDeflateState ↔ ¬ Stated 11 (isalEnv waiting) .doIsalDeflateState) ∧
      ¬ (Fails 11 (values 0 0 0 0) .generateCbufDeflate ↔ ¬ Stated 11 (values 0 0 0 0) .generateCbufDeflate) ∧
      ¬ (Fails 11 (values (-5) 0 0 0) .generateCbufEnd ↔ ¬ Stated 11 (values (-5) 0 0 0) .generateCbufEnd) := by
  decide

end SprAccelProfiling.Asserts
