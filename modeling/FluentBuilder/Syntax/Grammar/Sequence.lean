import FluentBuilder.Syntax.Grammar.Operator
import FluentBuilder.Text.Composition

/-!
# Sequences of expressions

Names, expressions with commas between them, and values that are handed out or get a name in
passing.
-/

namespace FluentBuilder.Syntax.Grammar

open Grammar.Parser

/-! ### Names -/

/-- The name that a token writes. -/
def nameOf (t : Token) : String := Text.normalForm t.text

/-- A name. -/
def identifier : Parser String := do
  return nameOf (← ofKind .name)

/-- A name as an expression. -/
def nameExpr : Parser Located := do
  let start ← here
  let name ← identifier
  return .whole (.name name) start

/-! ### Sequences -/

/-- One item, or a tuple of items. A comma behind a single item makes it a tuple. -/
def itemOrTuple (item : Parser Located) : Parser Located := do
  let start ← here
  let first ← item
  let rest ← many do
    let _ ← sign ","
    item
  let comma ← optional (sign ",")
  if rest.isEmpty && comma.isNone then return first
  let items := first :: rest
  return .mk (.tuple (items.map Located.expr)) start items

/-- Expressions of which none is unpacked. -/
def expressions (rules : Rules) : Parser Located :=
  itemOrTuple (rules .expression)

/-- Expressions of which some may be unpacked. -/
def starExpressions (rules : Rules) : Parser Located :=
  itemOrTuple (rules .starExpression)

/-- An unpacked operand. -/
def starred (operand : Parser Located) : Parser Located := do
  let start ← here
  let _ ← sign "*"
  let value ← operand
  return .mk (.starred value.expr) start [value]

/-- An expression, or an unpacked sequence. -/
def starExpression (rules : Rules) : Parser Located :=
  starred (rules .bitOr) <|> rules .expression

/-- An item of a display. -/
def starNamedExpression (rules : Rules) : Parser Located :=
  starred (rules .bitOr) <|> rules .namedExpression

/-- The items of a display. -/
def starNamedExpressions (rules : Rules) : Parser (List Located) := do
  let items ← separated (starNamedExpression rules) (sign ",")
  let _ ← optional (sign ",")
  return items

/-! ### Values in passing -/

/-- A value that gets a name in passing. -/
def assignmentExpression (rules : Rules) : Parser Located := do
  let target ← nameExpr
  let _ ← sign ":="
  let value : Located ← rules .expression
  return .whole (.named target.expr value.expr) target.start

/-- A value that may get a name in passing, where a sign of assignment may not follow. -/
def plainNamedExpression (rules : Rules) : Parser Located :=
  assignmentExpression rules <|> (do
    let value ← rules .expression
    notAhead (sign ":=")
    return value)

/-- Values handed out by a generator. -/
def yieldExpression (rules : Rules) : Parser Located :=
  (do
    let start ← here
    let _ ← keyword "yield"
    let _ ← keyword "from"
    let value : Located ← rules .expression
    return .whole (.yieldFrom value.expr) start) <|>
  (do
    let start ← here
    let _ ← keyword "yield"
    let value ← optional (starExpressions rules)
    return .whole (.yield (value.map Located.expr)) start)

end FluentBuilder.Syntax.Grammar
