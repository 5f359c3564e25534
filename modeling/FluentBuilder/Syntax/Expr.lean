import FluentBuilder.Decimal.Binary64
import FluentBuilder.Text.CodePoints
import FluentBuilder.Text.Dotted

/-!
# Expressions

The expressions of Python source, which is what annotations, base classes and decorators are. A tree
says what is written and not where: two spellings of one expression are the same tree. The parts of
an expression that are not expressions themselves (`Keyword`, `DictItem`, `Clause`, `Parameter`,
`Piece`) are types over the expressions that they hold.
-/

namespace FluentBuilder.Syntax

/-! ### Constants and operators -/

/-- A constant. -/
inductive Constant where
  /-- The absent value. -/
  | none
  /-- The three points. -/
  | ellipsis
  /-- A truth value. -/
  | bool (value : Bool)
  /-- A whole number; constants have no sign. -/
  | int (value : Nat)
  /-- A floating point number. -/
  | float (value : Binary64)
  /-- An imaginary number. -/
  | imaginary (value : Binary64)
  /-- A text; `marked` if it was written with the letter that marks it as one. -/
  | text (value : CodePoints) (marked : Bool)
  /-- A byte string. -/
  | bytes (value : List UInt8)
  deriving DecidableEq, Repr

/-- The operators that join any number of conditions. -/
inductive BoolOp where
  | and | or
  deriving DecidableEq, Repr

/-- The operators with two operands. -/
inductive BinaryOp where
  | add | subtract | multiply | matrixMultiply | divide | modulo | power | leftShift | rightShift
  | bitOr | bitXor | bitAnd | floorDivide
  deriving DecidableEq, Repr

/-- The operators with one operand. -/
inductive UnaryOp where
  | invert | not | plus | minus
  deriving DecidableEq, Repr

/-- The comparisons. -/
inductive CompareOp where
  | equal | notEqual | less | lessEqual | greater | greaterEqual | is | isNot | isIn | notIn
  deriving DecidableEq, Repr

/-- How the value of a replacement field becomes text. -/
inductive Conversion where
  | plain | quoted | ascii
  deriving DecidableEq, Repr

/-! ### Parts of expressions -/

/-- A named argument of a call; without a name it unpacks a mapping. -/
structure Keyword (ε : Type) where
  /-- The name. -/
  name : Option String
  /-- The value. -/
  value : ε
  deriving DecidableEq, Repr

/-- An item of a dictionary. -/
inductive DictItem (ε : Type) where
  /-- A key with its value. -/
  | pair (key value : ε)
  /-- All items of another mapping. -/
  | unpack (value : ε)
  deriving DecidableEq, Repr

/-- One `for` of a comprehension with its conditions. -/
structure Clause (ε : Type) where
  /-- Is the iteration asynchronous? -/
  isAsync : Bool
  /-- What is bound. -/
  target : ε
  /-- What is iterated. -/
  source : ε
  /-- The conditions. -/
  conditions : List ε
  deriving DecidableEq, Repr

/-- A parameter of an anonymous function. -/
structure Parameter (ε : Type) where
  /-- Its name. -/
  name : String
  /-- Its default. -/
  fallback : Option ε
  deriving DecidableEq, Repr

/-- The parameters of an anonymous function. -/
structure Parameters (ε : Type) where
  /-- Those that are given by position only. -/
  positionalOnly : List (Parameter ε)
  /-- Those that are given by position or by name. -/
  positional : List (Parameter ε)
  /-- The name that takes all further positions. -/
  rest : Option String
  /-- Those that are given by name only. -/
  keywordOnly : List (Parameter ε)
  /-- The name that takes all further names. -/
  keywordRest : Option String
  deriving DecidableEq, Repr

/-- A part of a text with replacement fields. -/
inductive Piece (ε : Type) where
  /-- Characters as they stand. -/
  | text (value : CodePoints)
  /-- A replacement field with its conversion and its format. -/
  | field (value : ε) (conversion : Option Conversion) (format : Option (List (Piece ε)))
  deriving Repr

/-! ### Expressions -/

/-- An expression. -/
inductive Expr where
  /-- A name. -/
  | name (id : String)
  /-- A constant. -/
  | constant (value : Constant)
  /-- A text with replacement fields. -/
  | joined (pieces : List (Piece Expr))
  /-- A member of a value. -/
  | attribute (value : Expr) (member : String)
  /-- A value indexed by another. -/
  | subscript (value index : Expr)
  /-- A slice of positions. -/
  | slice (lower upper step : Option Expr)
  /-- An unpacked sequence. -/
  | starred (value : Expr)
  /-- A tuple. -/
  | tuple (items : List Expr)
  /-- A list. -/
  | list (items : List Expr)
  /-- A set. -/
  | set (items : List Expr)
  /-- A dictionary. -/
  | dict (items : List (DictItem Expr))
  /-- Conditions joined by one operator. -/
  | boolOp (op : BoolOp) (operands : List Expr)
  /-- An operator with two operands. -/
  | binary (op : BinaryOp) (left right : Expr)
  /-- An operator with one operand. -/
  | unary (op : UnaryOp) (operand : Expr)
  /-- A chain of comparisons. -/
  | compare (first : Expr) (rest : List (CompareOp × Expr))
  /-- A call. -/
  | call (function : Expr) (arguments : List Expr) (keywords : List (Keyword Expr))
  /-- A choice between two values. -/
  | conditional (test body otherwise : Expr)
  /-- An anonymous function. -/
  | lambda (parameters : Parameters Expr) (body : Expr)
  /-- A value that gets a name in passing. -/
  | named (target value : Expr)
  /-- A list comprehension. -/
  | listOf (element : Expr) (clauses : List (Clause Expr))
  /-- A set comprehension. -/
  | setOf (element : Expr) (clauses : List (Clause Expr))
  /-- A dictionary comprehension. -/
  | dictOf (key value : Expr) (clauses : List (Clause Expr))
  /-- A generator. -/
  | generator (element : Expr) (clauses : List (Clause Expr))
  /-- An awaited value. -/
  | await (value : Expr)
  /-- A value handed out by a generator. -/
  | yield (value : Option Expr)
  /-- All values of another generator, handed out. -/
  | yieldFrom (value : Expr)
  deriving Repr, Inhabited

/-- The segments of a dotted name, last one first: a name followed by members. -/
def Expr.dottedSegments : Expr → Option (List String)
  | .name id => some [id]
  | .attribute value member => (value.dottedSegments).map (member :: ·)
  | _ => none

/-- The dotted name that an expression is, if it is a name followed by members. -/
def Expr.dottedName (e : Expr) : Option String :=
  e.dottedSegments.map fun segments => Dotted.join segments.reverse

end FluentBuilder.Syntax
