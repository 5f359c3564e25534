import FluentBuilder.Syntax.Statement

/-!
# The rules of the grammar

The grammar of Python source is a grammar of ordered choice. A `Rule` names one of its recursive
rules, and `Rule.Value` is the type of what the rule reads. What refers to nothing above it is an
ordinary parser and has no name here.
-/

namespace FluentBuilder.Syntax.Grammar

/-- An expression together with the token at which it begins. Where parts of it can be targets of an
assignment by themselves, `parts` holds them. -/
inductive Located where
  | mk (expr : Expr) (start : Nat) (parts : List Located)

namespace Located

/-- The expression. -/
def expr : Located → Expr
  | .mk e _ _ => e

/-- The index of its first token. -/
def start : Located → Nat
  | .mk _ s _ => s

/-- Its parts that can be targets. -/
def parts : Located → List Located
  | .mk _ _ ps => ps

/-- An expression no part of which is looked at by itself. -/
def whole (e : Expr) (start : Nat) : Located := .mk e start []

end Located

/-- The arguments of a call. -/
structure Arguments where
  /-- The arguments without names. -/
  positional : List Located
  /-- The named ones. -/
  keywords : List (Keyword Expr)

/-- What kinds of things rules read. -/
inductive Category where
  | expression | arguments | statements | nothing

/-- The things of a kind. -/
abbrev Category.Value : Category → Type
  | .expression => Located
  | .arguments => Arguments
  | .statements => List Statement
  | .nothing => Unit

/-- The recursive rules. -/
inductive Rule where
  -- expressions
  | expression | plainExpression | starExpression | namedExpression | faultyNamedExpression
  | disjunction | conjunction | inversion | bitOr | bitXor | bitAnd | shift | sum | term | factor
  | awaited | primary | quotedTexts | generator | arguments
  -- targets
  | starTarget | starAtomTarget | singleTarget | targetPrimary | deletedTarget | annotationTarget
  -- patterns
  | pattern | closedPattern
  -- statements
  | statements | simpleStatement | block
  deriving DecidableEq, Repr

/-- What kind of thing a rule reads. -/
abbrev Rule.category : Rule → Category
  | .arguments => .arguments
  | .statements | .simpleStatement | .block => .statements
  | .pattern | .closedPattern => .nothing
  | _ => .expression

/-- What a rule reads. -/
abbrev Rule.Value (rule : Rule) : Type := rule.category.Value

/-- Is it remembered what the rule read at a place? What is remembered was read either with or
without looking for mistakes, and holds for both. -/
def Rule.isRemembered : Rule → Bool
  | .plainExpression | .namedExpression | .generator | .singleTarget | .annotationTarget
  | .pattern | .statements => false
  | _ => true

end FluentBuilder.Syntax.Grammar
