import FluentBuilder.Syntax.Grammar.Atom
import FluentBuilder.Syntax.Grammar.Parameter

/-!
# Whole expressions

A choice between two values, an anonymous function, or a condition; and the mistakes that are named
where an expression ends too early.
-/

namespace FluentBuilder.Syntax.Grammar

open Grammar.Parser

/-- Parses without looking for mistakes. -/
def withoutDiagnosis {α : Type} (p : Parser α) : Parser α := fun input place progress =>
  p { input with diagnosing := false } place progress

/-- An expression; no mistakes are looked for here. -/
def soundExpression (rules : Rules) : Parser Located :=
  choice [
    do
      let start ← here
      let body : Located ← rules .disjunction
      let _ ← keyword "if"
      let test : Located ← rules .disjunction
      let _ ← keyword "else"
      let otherwise : Located ← rules .expression
      return .whole (.conditional test.expr body.expr otherwise.expr) start,
    rules .disjunction,
    lambda rules]

/-- An expression inside which no mistakes are looked for. -/
def plainExpression (rules : Rules) : Parser Located :=
  withoutDiagnosis (soundExpression rules)

/-- Is it a name that once was a statement of its own? -/
def isOldStatement : Expr → Bool
  | .name id => id == "print" || id == "exec"
  | _ => false

/-- A name with which a word begins that is reserved at some places only. -/
def softWord : Parser Token :=
  tokenIf fun t => t.kind = .name &&
    ["_", "case", "match"].any fun word => t.text.toList.isPrefixOf word.toList

/-- Two expressions with nothing between them, and a choice without an alternative. -/
def diagnoseAdjacent {α : Type} (rules : Rules) : Parser α :=
  let adjacent : Parser (Located × Nat) := do
    notAhead <|
      (do
        let _ ← ofKind .name
        ofKind .quoted) <|>
      softWord
    let first ← rules .disjunction
    let _ ← rules .plainExpression
    let behind ← here
    return (first, behind)
  diagnosis <|
  commit adjacent
    (fun (first, behind) =>
      if isOldStatement first.expr then miss
      else fun input place progress =>
        match input.scan.tokens[behind - 1]? with
        | some t =>
          if t.depth = 0 then .missed progress
          else faultAt .forgottenComma first.start input place progress
        | none => .missed progress) <|
  do
    let first : Located ← rules .disjunction
    let _ ← keyword "if"
    let _ ← rules .disjunction
    notAhead ((do let _ ← keyword "else") <|> (do let _ ← sign ":"))
    faultAt .expectedElse first.start

/-- A call without parentheses of what once was a statement. -/
def diagnoseOldStatement {α : Type} (rules : Rules) : Parser α :=
  diagnosis do
    let name ← nameExpr
    notAhead (sign "(")
    let _ ← starExpressions rules
    match name.expr with
    | .name id =>
      if isOldStatement name.expr then faultAt (.missingParentheses id) name.start else miss
    | _ => miss

/-- An expression. -/
def expression (rules : Rules) : Parser Located :=
  choice [diagnoseAdjacent rules, diagnoseOldStatement rules, soundExpression rules]

/-! ### Assignment signs inside expressions -/

/-- No sign of assignment follows. -/
def noAssignmentAhead : Parser Unit :=
  notAhead (choice [sign "=", sign ":="])

/-- An assignment where only a value can stand. -/
def faultyNamedExpression (rules : Rules) : Parser Located :=
  choice [
    do
      let value : Located ← rules .expression
      let _ ← sign ":="
      let _ ← rules .expression
      faultAt (.cannotName (exprKindName value.expr)) value.start,
    do
      let name ← nameExpr
      let _ ← sign "="
      let _ ← rules .bitOr
      noAssignmentAhead
      faultAt .maybeComparison name.start,
    do
      notAhead (choice [
        do let _ ← listDisplay rules,
        do let _ ← enclosedTuple rules,
        do let _ ← rules .generator,
        do let _ ← choice [keyword "True", keyword "None", keyword "False"]])
      let value : Located ← rules .bitOr
      let _ ← sign "="
      let _ ← rules .bitOr
      noAssignmentAhead
      faultAt (.cannotAssignHere (exprKindName value.expr)) value.start]

/-- An expression that may get a name in passing. -/
def namedExpression (rules : Rules) : Parser Located :=
  choice [
    assignmentExpression rules,
    diagnosis (rules .faultyNamedExpression),
    do
      let value ← rules .expression
      notAhead (sign ":=")
      return value]

end FluentBuilder.Syntax.Grammar
