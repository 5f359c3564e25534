import FluentBuilder.Syntax.Grammar.Target

/-!
# Comprehensions

The `for` clauses of a comprehension and the displays that are made by them.
-/

namespace FluentBuilder.Syntax.Grammar

open Grammar.Parser

/-! ### Clauses -/

/-- An iteration into something that is no target. -/
def diagnoseIterationTarget {α : Type} (rules : Rules) : Parser α :=
  diagnosis do
    let _ ← optional (keyword "async")
    let _ ← keyword "for"
    let target ← starExpressions rules
    refuseTarget .iterated target

/-- The beginning of an iteration, up to what is iterated. -/
def iterationHead (rules : Rules) : Parser Located := do
  let _ ← keyword "for"
  let target ← starTargets rules
  let _ ← keyword "in"
  return target

/-- One clause of a comprehension. -/
def clause (rules : Rules) : Parser (Clause Expr) :=
  let rest (isAsync : Bool) (target : Located) : Parser (Clause Expr) := do
    let source : Located ← rules .disjunction
    let conditions ← many do
      let _ ← keyword "if"
      let condition : Located ← rules .disjunction
      return condition.expr
    return ⟨isAsync, target.expr, source.expr, conditions⟩
  commit (do let _ ← keyword "async"; iterationHead rules) (rest true) <|
  commit (iterationHead rules) (rest false) <|
  diagnoseIterationTarget rules

/-- The clauses of a comprehension. -/
def clauses (rules : Rules) : Parser (List (Clause Expr)) :=
  many1 (clause rules)

/-! ### Displays -/

/-- Common mistakes in comprehensions: an unpacked element, and elements without parentheses. -/
def diagnoseComprehension {α : Type} (rules : Rules) : Parser α :=
  diagnosis <| choice [
    do
      let _ ← choice [sign "[", sign "(", sign braceOpen]
      let element ← starred (rules .expression)
      let _ ← clauses rules
      faultAt .unpackingInComprehension element.start,
    do
      let _ ← choice [sign "[", sign braceOpen]
      let first ← starNamedExpression rules
      let _ ← sign ","
      let _ ← starNamedExpressions rules
      let _ ← clauses rules
      faultAt .bareComprehensionTarget first.start,
    do
      let _ ← choice [sign "[", sign braceOpen]
      let first ← starNamedExpression rules
      let _ ← sign ","
      let _ ← clauses rules
      faultAt .bareComprehensionTarget first.start]

/-- A comprehension in brackets. -/
def comprehension (rules : Rules) (opening closing : String) (element : Parser Located)
    (build : Expr → List (Clause Expr) → Expr) : Parser Located :=
  (do
    let start ← here
    let _ ← sign opening
    let element ← element
    let clauses ← clauses rules
    let _ ← sign closing
    return .whole (build element.expr clauses) start) <|>
  diagnoseComprehension rules

/-- A generator. -/
def generator (rules : Rules) : Parser Located :=
  comprehension rules "(" ")" (plainNamedExpression rules) .generator

/-- A list comprehension. -/
def listComprehension (rules : Rules) : Parser Located :=
  comprehension rules "[" "]" (rules .namedExpression) .listOf

/-- A set comprehension. -/
def setComprehension (rules : Rules) : Parser Located :=
  comprehension rules braceOpen braceClose (rules .namedExpression) .setOf

/-- A key with its value. -/
def keyAndValue (rules : Rules) : Parser (Located × Located) := do
  let key ← rules .expression
  let _ ← sign ":"
  let value ← rules .expression
  return (key, value)

/-- A dictionary comprehension. -/
def dictComprehension (rules : Rules) : Parser Located :=
  (do
    let start ← here
    let _ ← sign braceOpen
    let (key, value) ← keyAndValue rules
    let clauses ← clauses rules
    let _ ← sign braceClose
    return .whole (.dictOf key.expr value.expr clauses) start) <|>
  diagnosis (do
    let _ ← sign braceOpen
    let start ← here
    let _ ← sign "**"
    let _ ← rules .bitOr
    let _ ← clauses rules
    let _ ← sign braceClose
    faultAt .unpackingInDictComprehension start)

end FluentBuilder.Syntax.Grammar
