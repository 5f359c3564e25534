import FluentBuilder.Syntax.Grammar.Parser

/-!
# Operators

The levels of operators, from `or` down to powers. Operators of one level associate to the left; a
power associates to the right and binds tighter than a sign before it.
-/

namespace FluentBuilder.Syntax.Grammar

open Grammar.Parser

/-! ### Conditions -/

/-- Operands joined by a word. -/
def joinedBy (op : BoolOp) (word : String) (operand : Parser Located) : Parser Located := do
  let start ← here
  let first ← operand
  let others ← many do
    let _ ← keyword word
    operand
  if others.isEmpty then return first
  return .whole (.boolOp op ((first :: others).map Located.expr)) start

/-- Conditions of which one has to hold. -/
def disjunction (rules : Rules) : Parser Located :=
  joinedBy .or "or" (rules .conjunction)

/-- Conditions that all have to hold. -/
def conjunction (rules : Rules) : Parser Located :=
  joinedBy .and "and" (rules .inversion)

/-- A comparison operator. -/
def compareOp : Parser CompareOp :=
  choice [
    do let _ ← sign "=="; return .equal,
    do let _ ← sign "!="; return .notEqual,
    do let _ ← sign "<="; return .lessEqual,
    do let _ ← sign "<"; return .less,
    do let _ ← sign ">="; return .greaterEqual,
    do let _ ← sign ">"; return .greater,
    do let _ ← keyword "not"; let _ ← keyword "in"; return .notIn,
    do let _ ← keyword "in"; return .isIn,
    do let _ ← keyword "is"; let _ ← keyword "not"; return .isNot,
    do let _ ← keyword "is"; return .is]

/-- A chain of comparisons. Its first operand is a target where the chain stands for one. -/
def comparison (rules : Rules) : Parser Located := do
  let start ← here
  let first : Located ← rules .bitOr
  let rest ← many do
    let op ← compareOp
    let operand : Located ← rules .bitOr
    return (op, operand.expr)
  if rest.isEmpty then return first
  return .mk (.compare first.expr rest) start [first]

/-- A condition or its negation. -/
def inversion (rules : Rules) : Parser Located :=
  (do
    let start ← here
    let _ ← keyword "not"
    let operand : Located ← rules .inversion
    return .whole (.unary .not operand.expr) start) <|>
  comparison rules

/-! ### Arithmetic -/

/-- Operands joined by operators that associate to the left. -/
def leftAssociative (operators : List (String × BinaryOp)) (operand : Parser Located) :
    Parser Located := do
  let start ← here
  let first ← operand
  extendWhile (fun left => do
    let op ← choice (operators.map fun (text, op) => do
      let _ ← sign text
      return op)
    let right ← operand
    return .whole (.binary op left.expr right.expr) start) first

/-- Bits of either operand. -/
def bitOr (rules : Rules) : Parser Located :=
  leftAssociative [("|", .bitOr)] (rules .bitXor)

/-- Bits of exactly one operand. -/
def bitXor (rules : Rules) : Parser Located :=
  leftAssociative [("^", .bitXor)] (rules .bitAnd)

/-- Bits of both operands. -/
def bitAnd (rules : Rules) : Parser Located :=
  leftAssociative [("&", .bitAnd)] (rules .shift)

/-- Shifted bits. -/
def shift (rules : Rules) : Parser Located :=
  leftAssociative [("<<", .leftShift), (">>", .rightShift)] (rules .sum)

/-- Sums and differences. -/
def sum (rules : Rules) : Parser Located :=
  leftAssociative [("+", .add), ("-", .subtract)] (rules .term)

/-- Products and quotients. -/
def term (rules : Rules) : Parser Located :=
  leftAssociative [("*", .multiply), ("/", .divide), ("//", .floorDivide), ("%", .modulo),
    ("@", .matrixMultiply)] (rules .factor)

/-- A power. -/
def power (rules : Rules) : Parser Located := do
  let start ← here
  let base : Located ← rules .awaited
  let exponent ← optional do
    let _ ← sign "**"
    let exponent : Located ← rules .factor
    return exponent.expr
  match exponent with
  | some exponent => return .whole (.binary .power base.expr exponent) start
  | none => return base

/-- A power with signs before it. -/
def factor (rules : Rules) : Parser Located :=
  let signed (text : String) (op : UnaryOp) : Parser Located := do
    let start ← here
    let _ ← sign text
    let operand : Located ← rules .factor
    return .whole (.unary op operand.expr) start
  choice [signed "+" .plus, signed "-" .minus, signed "~" .invert, power rules]

/-- An awaited value, or one that is not awaited. -/
def awaited (rules : Rules) : Parser Located :=
  (do
    let start ← here
    let _ ← keyword "await"
    let value : Located ← rules .primary
    return .whole (.await value.expr) start) <|>
  rules .primary

end FluentBuilder.Syntax.Grammar
