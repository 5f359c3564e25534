import FluentBuilder.Syntax.Grammar.Condition

/-!
# Simple statements

Statements that end with their line: assignments, imports and all that starts with a word of its
own.
-/

namespace FluentBuilder.Syntax.Grammar

open Grammar.Parser

/-! ### Assignments -/

/-- What is assigned. -/
def assignedValue (rules : Rules) : Parser Located :=
  yieldExpression rules <|> starExpressions rules

/-- The signs of assignments that change a value. -/
def augmentedSign : Parser Unit := do
  let _ ← choice (["+=", "-=", "*=", "@=", "/=", "%=", "&=", "|=", "^=", "<<=", ">>=", "**=",
    "//="].map sign)

/-- The value behind an annotation. -/
def annotatedValue (rules : Rules) : Parser (Option Located) :=
  optional do
    let _ ← sign "="
    assignedValue rules

/-- A sequence that is annotated by mistake. -/
def annotationTarget (rules : Rules) : Parser Located :=
  choice [
    listDisplay rules,
    enclosedTuple rules,
    do
      let _ ← sign "("
      let target ← rules .annotationTarget
      let _ ← sign ")"
      return target]

/-- A target with its sign of assignment. -/
def targetAndSign (rules : Rules) : Parser Located := do
  let target ← starTargets rules
  let _ ← sign "="
  return target

/-- Assignments to what is no target. -/
def diagnoseAssignment {α : Type} (rules : Rules) : Parser α :=
  diagnosis <| choice [
    do
      let target : Located ← rules .annotationTarget
      let _ ← sign ":"
      let _ ← rules .expression
      faultAt (.onlySingleTarget (exprKindName target.expr)) target.start,
    do
      let first ← starNamedExpression rules
      let _ ← sign ","
      let _ ← many (starNamedExpressions rules)
      let _ ← sign ":"
      let _ ← rules .expression
      faultAt (.onlySingleTarget "tuple") first.start,
    do
      let target : Located ← rules .expression
      let _ ← sign ":"
      let _ ← rules .expression
      faultAt .illegalAnnotationTarget target.start,
    commit
      (do
        let _ ← many (targetAndSign rules)
        let target ← starExpressions rules
        let _ ← sign "="
        return target)
      (refuseTarget .assigned) <|
    choice [
      do
        let _ ← many (targetAndSign rules)
        let target ← yieldExpression rules
        let _ ← sign "="
        faultAt .assignmentToYield target.start,
      do
        let target ← starExpressions rules
        augmentedSign
        let _ ← assignedValue rules
        faultAt (.illegalAugmentedTarget (exprKindName target.expr)) target.start]]

/-- An assignment. -/
def assignment (rules : Rules) : Parser Statement :=
  choice [
    do
      let target ← nameExpr
      let _ ← sign ":"
      let hint : Located ← rules .expression
      let value ← annotatedValue rules
      return .annotated target.expr hint.expr (value.map Located.expr),
    do
      let target ←
        (do
          let _ ← sign "("
          let target ← rules .singleTarget
          let _ ← sign ")"
          return target) <|>
        partTarget rules
      let _ ← sign ":"
      let hint : Located ← rules .expression
      let value ← annotatedValue rules
      return .annotated target.expr hint.expr (value.map Located.expr),
    do
      let targets ← many1 (targetAndSign rules)
      let _ ← assignedValue rules
      notAhead (sign "=")
      return .assign (targets.map Located.expr),
    commit
      (do
        let _ ← rules .singleTarget
        augmentedSign)
      (fun _ => do
        let _ ← assignedValue rules
        return .other)
      (diagnoseAssignment rules)]

/-! ### Imports -/

/-- A dotted name. -/
def dottedIdentifier : Parser String := do
  let names ← separated identifier (sign ".")
  return Dotted.join names

/-- A name that may be renamed. -/
def imported (name : Parser String) : Parser Alias := do
  let name ← name
  let rename ← optional do
    let _ ← keyword "as"
    identifier
  return ⟨name, rename⟩

/-- An import of modules. -/
def importModules : Parser Statement := do
  let _ ← keyword "import"
  let names ← separated (imported dottedIdentifier) (sign ",")
  return .importModules names

/-- The points before a module: its packages up. -/
def points : Parser Nat :=
  (do let _ ← sign "."; return 1) <|> (do let _ ← sign "..."; return 3)

/-- The names that are imported from a module. -/
def importedNames : Parser (List Alias) :=
  let names := separated (imported identifier) (sign ",")
  choice [
    do
      let _ ← sign "("
      let names ← names
      let _ ← optional (sign ",")
      let _ ← sign ")"
      return names,
    do
      let names ← names
      notAhead (sign ",")
      return names,
    do
      let _ ← sign "*"
      return [⟨"*", none⟩],
    diagnosis do
      let _ ← names
      let _ ← sign ","
      let _ ← ofKind .newline
      faultHere .trailingComma]

/-- An import of names. -/
def importFrom : Parser Statement :=
  (do
    let _ ← keyword "from"
    let levels ← many points
    let module ← dottedIdentifier
    let _ ← keyword "import"
    let names ← importedNames
    return .importFrom (some module) names (levels.foldl (· + ·) 0)) <|>
  (do
    let _ ← keyword "from"
    let levels ← many1 points
    let _ ← keyword "import"
    let names ← importedNames
    return .importFrom none names (levels.foldl (· + ·) 0))

/-! ### Other simple statements -/

/-- A raised exception. -/
def raiseStatement (rules : Rules) : Parser Unit :=
  (do
    let _ ← keyword "raise"
    let _ ← rules .expression
    let _ ← optional do
      let _ ← keyword "from"
      rules .expression) <|>
  (do let _ ← keyword "raise")

/-- A deletion. -/
def deletion (rules : Rules) : Parser Unit :=
  (do
    let _ ← keyword "del"
    let _ ← deletedTargets rules
    ahead (sign ";" <|> ofKind .newline)) <|>
  diagnosis (do
    let _ ← keyword "del"
    let target ← starExpressions rules
    refuseTarget .deleted target)

/-- An assertion. -/
def assertion (rules : Rules) : Parser Unit := do
  let _ ← keyword "assert"
  let _ ← rules .expression
  let _ ← optional do
    let _ ← sign ","
    rules .expression

/-- A word with names behind it. -/
def scopeStatement (word : String) : Parser Unit := do
  let _ ← keyword word
  let _ ← separated identifier (sign ",")

/-- A statement that ends with its line. -/
def simpleStatement (rules : Rules) : Parser (List Statement) :=
  let without (p : Parser Unit) : Parser Statement := do
    p
    return .other
  let headed (word : String) (p : Parser Statement) : Parser Statement := do
    ahead (keyword word)
    p
  do
  let statement ← choice [
    assignment rules,
    do let _ ← starExpressions rules; return .other,
    headed "return" do
      let _ ← keyword "return"
      let _ ← optional (starExpressions rules)
      return .other,
    do
      ahead (keyword "import" <|> keyword "from")
      importModules <|> importFrom,
    headed "raise" (without (raiseStatement rules)),
    without do let _ ← keyword "pass",
    headed "del" (without (deletion rules)),
    headed "yield" do
      let _ ← yieldExpression rules
      return .other,
    headed "assert" (without (assertion rules)),
    without do let _ ← keyword "break",
    without do let _ ← keyword "continue",
    headed "global" (without (scopeStatement "global")),
    headed "nonlocal" (without (scopeStatement "nonlocal"))]
  return [statement]

/-- The simple statements of a line. -/
def simpleStatements (rules : Rules) : Parser (List Statement) :=
  (do
    let statement ← rules .simpleStatement
    notAhead (sign ";")
    let _ ← ofKind .newline
    return statement) <|>
  (do
    let statements ← separated (rules .simpleStatement) (sign ";")
    let _ ← optional (sign ";")
    let _ ← ofKind .newline
    return statements.flatten)

end FluentBuilder.Syntax.Grammar
