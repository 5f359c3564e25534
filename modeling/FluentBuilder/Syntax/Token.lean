import FluentBuilder.Syntax.SourceText

/-!
# Tokens

A source text is read as a sequence of tokens. Tokens without characters of their own (`indent`,
`dedent` and the end of the text) have no column. Every token records what the reader had read when
it was complete, its `Horizon`, because faults are reported relative to that.
-/

namespace FluentBuilder.Syntax

/-- The kinds of token. -/
inductive TokenKind where
  /-- A word that is not reserved. -/
  | name
  /-- A reserved word. -/
  | keyword
  /-- A number. -/
  | number
  /-- A quoted constant. -/
  | quoted
  /-- An operator, a bracket or another sign. -/
  | sign
  /-- The end of a logical line. -/
  | newline
  /-- The indentation grows. -/
  | indent
  /-- The indentation shrinks to an outer level. -/
  | dedent
  /-- The end of the text. -/
  | finish
  deriving DecidableEq, Repr

/-- A token. -/
structure Token where
  /-- Its kind. -/
  kind : TokenKind
  /-- Its characters. -/
  text : String
  /-- The line on which it begins. -/
  line : Nat
  /-- The bytes before it on that line. -/
  column : Option Nat
  /-- The number of brackets open behind it. -/
  depth : Nat
  /-- What was read when it was complete. -/
  horizon : Horizon
  deriving Repr

/-- An open bracket. -/
structure Bracket where
  /-- The bracket. -/
  sign : Char
  /-- Its line. -/
  line : Nat
  /-- The bytes before it. -/
  column : Nat
  deriving DecidableEq, Repr

/-- Why the tokens of a text end before the text does. -/
structure Stop where
  /-- What is wrong. -/
  fault : Fault
  /-- Is the fault one of the characters at this place? Only such a fault takes precedence over a
  fault of the grammar before it. -/
  lexical : Bool
  /-- The innermost open bracket, with the fault of leaving it open. -/
  innermost : Option (Bracket × Fault)
  deriving Repr

/-- The tokens of a text, and why they end where they end. -/
structure Scan where
  /-- The tokens in order. -/
  tokens : Array Token
  /-- The fault that ends them; a text without one ends with its `finish` token. -/
  stop : Option Stop

end FluentBuilder.Syntax
