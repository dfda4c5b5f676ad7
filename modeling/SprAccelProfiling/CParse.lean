import SprAccelProfiling.CExpr

set_option autoImplicit false

namespace SprAccelProfiling.CExpr

section Parser

variable {ν : Type}

inductive Frame (ν : Type) where
  | paren
  | not
  | eq (left : Expr ν)
  | ne (left : Expr ν)
  | and (left : Expr ν)

structure Reading (ν : Type) where
  frames : List (Frame ν)
  operand : Option (Expr ν)

-- A unary operand is the whole operand of ! and the whole right side of == and !=.
def finish : List (Frame ν) → Expr ν → Reading ν
  | .not :: frames, expr => finish frames (.not expr)
  | .eq left :: frames, expr => ⟨frames, some (.eq left expr)⟩
  | .ne left :: frames, expr => ⟨frames, some (.ne left expr)⟩
  | frames, expr => ⟨frames, some expr⟩

-- The right side of && reaches to the next &&, parenthesis or end.
def conclude : List (Frame ν) → Expr ν → List (Frame ν) × Expr ν
  | .and left :: frames, expr => (frames, .and left expr)
  | frames, expr => (frames, expr)

def step (reading : Reading ν) (token : Token ν) : Option (Reading ν) :=
  match reading.operand, token with
  | none, .name name => some (finish reading.frames (.var name))
  | none, .number value => some (finish reading.frames (.const value))
  | none, .leftParen => some ⟨.paren :: reading.frames, none⟩
  | none, .bang => some ⟨.not :: reading.frames, none⟩
  | some expr, .eqEq => some ⟨.eq expr :: reading.frames, none⟩
  | some expr, .bangEq => some ⟨.ne expr :: reading.frames, none⟩
  | some expr, .ampAmp =>
      let (frames, left) := conclude reading.frames expr
      some ⟨.and left :: frames, none⟩
  | some expr, .rightParen =>
      match conclude reading.frames expr with
      | (.paren :: frames, inner) => some (finish frames (.paren inner))
      | _ => none
  | _, _ => none

def read (tokens : List (Token ν)) (reading : Reading ν) : Option (Reading ν) := tokens.foldlM step reading

def parse (tokens : List (Token ν)) : Option (Expr ν) :=
  match read tokens ⟨[], none⟩ with
  | some ⟨frames, some expr⟩ =>
      match conclude frames expr with
      | ([], whole) => some whole
      | _ => none
  | _ => none

theorem read_append (first second : List (Token ν)) (reading next : Reading ν) (before : read first reading = some next) :
    read (first ++ second) reading = read second next := by
  rw [read, List.foldlM_append, ← read, before]
  rfl

theorem read_cons (token : Token ν) (tokens : List (Token ν)) (reading next : Reading ν)
    (before : step reading token = some next) : read (token :: tokens) reading = read tokens next := by
  rw [read, List.foldlM_cons, before]
  rfl

def Settled (frames : List (Frame ν)) : Prop := ∀ expr, finish frames expr = ⟨frames, some expr⟩

def Open (frames : List (Frame ν)) : Prop := ∀ expr, conclude frames expr = (frames, expr)

def ReadsUnary (expr : Expr ν) : Prop := ∀ frames, read expr.tokens ⟨frames, none⟩ = some (finish frames expr)

def ReadsEquality (expr : Expr ν) : Prop :=
  ∀ frames, Settled frames → read expr.tokens ⟨frames, none⟩ = some ⟨frames, some expr⟩

def ReadsConjunction (expr : Expr ν) : Prop :=
  ∀ frames, Settled frames → Open frames → ∃ above last,
    read expr.tokens ⟨frames, none⟩ = some ⟨above, some last⟩ ∧ conclude above last = (frames, expr)

def Reads : Level → Expr ν → Prop
  | .unary, expr => ReadsUnary expr
  | .equality, expr => ReadsEquality expr
  | .conjunction, expr => ReadsConjunction expr

theorem equality_reads (expr : Expr ν) (level : Level) (loose : level.admits .equality = true)
    (reads : ReadsEquality expr) : Reads level expr := by
  cases level with
  | unary => cases loose
  | equality => exact reads
  | conjunction => exact fun frames settled isOpen => ⟨frames, expr, reads frames settled, isOpen expr⟩

theorem unary_reads (expr : Expr ν) (level : Level) (reads : ReadsUnary expr) : Reads level expr := by
  have equality : ReadsEquality expr := fun frames settled => (reads frames).trans (congrArg some (settled expr))
  cases level with
  | unary => exact reads
  | equality => exact equality
  | conjunction => exact equality_reads expr .conjunction rfl equality

theorem parses_reads (level : Level) (expr : Expr ν) (parsed : Parses level expr) : Reads level expr := by
  induction parsed with
  | var level name => exact unary_reads _ level (fun frames => rfl)
  | const level value => exact unary_reads _ level (fun frames => rfl)
  | paren level inner _ ih =>
      apply unary_reads
      intro frames
      obtain ⟨above, last, inside, concluded⟩ := ih (.paren :: frames) (fun _ => rfl) (fun _ => rfl)
      rw [Expr.tokens, List.cons_append, read_cons _ _ _ _ rfl, read_append _ _ _ _ inside, read_cons _ _ _ _ ?_]
      · rfl
      · simp only [step, concluded]
  | not level operand _ ih =>
      apply unary_reads
      intro frames
      rw [Expr.tokens, read_cons _ _ _ _ rfl]
      exact ih (.not :: frames)
  | eq level left right loose _ _ first second =>
      apply equality_reads _ level loose
      intro frames settled
      rw [Expr.tokens, read_append _ _ _ _ (first frames settled), read_cons _ _ _ _ rfl]
      exact second (.eq left :: frames)
  | ne level left right loose _ _ first second =>
      apply equality_reads _ level loose
      intro frames settled
      rw [Expr.tokens, read_append _ _ _ _ (first frames settled), read_cons _ _ _ _ rfl]
      exact second (.ne left :: frames)
  | and level left right loose _ _ first second =>
      cases level with
      | unary => cases loose
      | equality => cases loose
      | conjunction =>
          intro frames settled isOpen
          obtain ⟨above, last, inside, concluded⟩ := first frames settled isOpen
          refine ⟨.and left :: frames, right, ?_, rfl⟩
          rw [Expr.tokens, read_append _ _ _ _ inside, read_cons _ _ _ ⟨.and left :: frames, none⟩ ?_]
          · exact second (.and left :: frames) (fun _ => rfl)
          · simp only [step, concluded]

theorem parse_tokens (expr : Expr ν) (parsed : Parses .conjunction expr) : parse expr.tokens = some expr := by
  obtain ⟨above, last, inside, concluded⟩ := parses_reads .conjunction expr parsed [] (fun _ => rfl) (fun _ => rfl)
  simp only [parse, inside, concluded]

theorem parse_after_bang (expr : Expr ν) (parsed : Parses .conjunction expr) :
    parse (.bang :: expr.tokens) = some expr.afterBang := by
  rw [← tokens_after_bang]
  exact parse_tokens expr.afterBang (after_bang_parses .conjunction expr parsed)

end Parser

section Conditions

variable {ν : Type} (env : ν → Int)

instance (expr : Expr ν) : Decidable (Holds env expr) := inferInstanceAs (Decidable (expr.eval env ≠ 0))

-- if (tokens)
def Tests (tokens : List (Token ν)) : Prop := ∃ expr ∈ parse tokens, Holds env expr

instance (tokens : List (Token ν)) : Decidable (Tests env tokens) := Option.decidableExistsMem _

theorem tests_iff (tokens : List (Token ν)) (expr : Expr ν) (parsed : parse tokens = some expr) :
    Tests env tokens ↔ Holds env expr := by
  constructor
  · intro tests
    obtain ⟨other, found, holds⟩ := tests
    obtain rfl := Option.some.inj (parsed.symm.trans found)
    exact holds
  · intro holds
    exact ⟨expr, parsed, holds⟩

theorem tests_stmt (stmt : Expr ν) (parsed : Parses .conjunction stmt) :
    Tests env stmt.tokens ↔ Holds env stmt :=
  tests_iff env _ _ (parse_tokens stmt parsed)

theorem tests_bang_stmt (stmt : Expr ν) (parsed : Parses .conjunction stmt) :
    Tests env (.bang :: stmt.tokens) ↔ Holds env stmt.afterBang :=
  tests_iff env _ _ (parse_after_bang stmt parsed)

end Conditions

end SprAccelProfiling.CExpr
