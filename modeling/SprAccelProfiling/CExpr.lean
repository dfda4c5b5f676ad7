import Mathlib.Logic.Basic

set_option autoImplicit false

namespace SprAccelProfiling.CExpr

variable {ν : Type}

inductive Expr (ν : Type) where
  | var (name : ν)
  | const (value : Int)
  | paren (inner : Expr ν)
  | not (operand : Expr ν)
  | eq (left right : Expr ν)
  | ne (left right : Expr ν)
  | and (left right : Expr ν)

inductive Token (ν : Type) where
  | name (name : ν)
  | number (value : Int)
  | leftParen
  | rightParen
  | bang
  | eqEq
  | bangEq
  | ampAmp

def ofProp (p : Prop) [Decidable p] : Int := if p then 1 else 0

def Expr.eval (env : ν → Int) : Expr ν → Int
  | .var name => env name
  | .const value => value
  | .paren inner => inner.eval env
  | .not operand => ofProp (operand.eval env = 0)
  | .eq left right => ofProp (left.eval env = right.eval env)
  | .ne left right => ofProp (left.eval env ≠ right.eval env)
  | .and left right => ofProp (left.eval env ≠ 0 ∧ right.eval env ≠ 0)

def Holds (env : ν → Int) (expr : Expr ν) : Prop := expr.eval env ≠ 0

def Expr.tokens : Expr ν → List (Token ν)
  | .var name => [.name name]
  | .const value => [.number value]
  | .paren inner => .leftParen :: inner.tokens ++ [.rightParen]
  | .not operand => .bang :: operand.tokens
  | .eq left right => left.tokens ++ .eqEq :: right.tokens
  | .ne left right => left.tokens ++ .bangEq :: right.tokens
  | .and left right => left.tokens ++ .ampAmp :: right.tokens

inductive Level where
  | unary
  | equality
  | conjunction
deriving DecidableEq

def Level.admits : Level → Level → Bool
  | .unary, .unary => true
  | .unary, _ => false
  | .equality, .conjunction => false
  | .equality, _ => true
  | .conjunction, _ => true

-- The trees the grammar derives without inventing parentheses; both operators associate to the left.
inductive Parses : Level → Expr ν → Prop where
  | var (level : Level) (name : ν) : Parses level (.var name)
  | const (level : Level) (value : Int) : Parses level (.const value)
  | paren (level : Level) (inner : Expr ν) (parsed : Parses .conjunction inner) : Parses level (.paren inner)
  | not (level : Level) (operand : Expr ν) (parsed : Parses .unary operand) : Parses level (.not operand)
  | eq (level : Level) (left right : Expr ν) (loose : level.admits .equality = true) (first : Parses .equality left)
      (second : Parses .unary right) : Parses level (.eq left right)
  | ne (level : Level) (left right : Expr ν) (loose : level.admits .equality = true) (first : Parses .equality left)
      (second : Parses .unary right) : Parses level (.ne left right)
  | and (level : Level) (left right : Expr ν) (loose : level.admits .conjunction = true)
      (first : Parses .conjunction left) (second : Parses .equality right) : Parses level (.and left right)

-- What !e becomes when e is pasted without parentheses: the ! takes the leftmost operand.
def Expr.afterBang : Expr ν → Expr ν
  | .var name => .not (.var name)
  | .const value => .not (.const value)
  | .paren inner => .not (.paren inner)
  | .not operand => .not (.not operand)
  | .eq left right => .eq left.afterBang right
  | .ne left right => .ne left.afterBang right
  | .and left right => .and left.afterBang right

theorem tokens_after_bang (expr : Expr ν) : expr.afterBang.tokens = .bang :: expr.tokens := by
  induction expr with
  | var name => rfl
  | const value => rfl
  | paren inner ih => rfl
  | not operand ih => rfl
  | eq left right first second => simp only [Expr.afterBang, Expr.tokens, first, List.cons_append]
  | ne left right first second => simp only [Expr.afterBang, Expr.tokens, first, List.cons_append]
  | and left right first second => simp only [Expr.afterBang, Expr.tokens, first, List.cons_append]

theorem after_bang_parses (level : Level) (expr : Expr ν) (parsed : Parses level expr) :
    Parses level expr.afterBang := by
  induction parsed with
  | var level name => exact .not level _ (.var _ name)
  | const level value => exact .not level _ (.const _ value)
  | paren level inner parsed ih => exact .not level _ (.paren _ inner parsed)
  | not level operand parsed ih => exact .not level _ (.not _ operand parsed)
  | eq level left right loose first second ih _ => exact .eq level _ right loose ih second
  | ne level left right loose first second ih _ => exact .ne level _ right loose ih second
  | and level left right loose first second ih _ => exact .and level _ right loose ih second

section Truth

variable (env : ν → Int)

theorem of_prop_ne_zero (p : Prop) [Decidable p] : ofProp p ≠ 0 ↔ p := by
  by_cases holds : p
  · simp [ofProp, holds]
  · simp [ofProp, holds]

theorem holds_eq (left right : Expr ν) : Holds env (.eq left right) ↔ left.eval env = right.eval env :=
  of_prop_ne_zero _

theorem holds_ne (left right : Expr ν) : Holds env (.ne left right) ↔ left.eval env ≠ right.eval env :=
  of_prop_ne_zero _

theorem holds_and (left right : Expr ν) : Holds env (.and left right) ↔ Holds env left ∧ Holds env right :=
  of_prop_ne_zero _

theorem holds_not_eq_zero (operand right : Expr ν) (zero : right.eval env = 0) :
    Holds env (.eq (.not operand) right) ↔ operand.eval env ≠ 0 := by
  rw [holds_eq, zero, Expr.eval]
  by_cases null : operand.eval env = 0
  · simp [ofProp, null]
  · simp [ofProp, null]

theorem holds_not_eq_one (operand right : Expr ν) (one : right.eval env = 1) :
    Holds env (.eq (.not operand) right) ↔ operand.eval env = 0 := by
  rw [holds_eq, one, Expr.eval]
  by_cases null : operand.eval env = 0
  · simp [ofProp, null]
  · simp [ofProp, null]

end Truth

end SprAccelProfiling.CExpr
