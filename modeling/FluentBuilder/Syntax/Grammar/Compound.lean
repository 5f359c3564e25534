import FluentBuilder.Syntax.Grammar.Pattern
import FluentBuilder.Syntax.Grammar.Simple

/-!
# Compound statements

Statements that hold blocks. Of these only classes keep what is inside them. Each kind of statement
begins with its mistakes, which are a missing colon and a missing block.
-/

namespace FluentBuilder.Syntax.Grammar

open Grammar.Parser

/-! ### Blocks -/

/-- The statements of a block. -/
def block (rules : Rules) : Parser (List Statement) :=
  choice [
    do
      let _ ← ofKind .newline
      let _ ← ofKind .indent
      let body ← rules .statements
      let _ ← ofKind .dedent
      return body,
    simpleStatements rules,
    diagnosis do
      let _ ← ofKind .newline
      notAhead (ofKind .indent)
      faultHere .expectedAnyBlock]

/-- The line ends without a colon. -/
def diagnoseColon {α : Type} (head : Parser Unit) : Parser α := do
  head
  let _ ← ofKind .newline
  faultHere (.expected "':'")

/-- The line ends with a colon and no block follows. `word` parses up to the word whose line is named,
`rest` what stands between it and the colon. -/
def diagnoseBlock {α β : Type} (what : String) (before : Parser Unit) (word : Parser Token)
    (rest : Parser β) : Parser α := do
  before
  let word ← word
  let _ ← rest
  let _ ← sign ":"
  let _ ← ofKind .newline
  notAhead (ofKind .indent)
  faultHere (.expectedBlock what word.line)

/-- Nothing. -/
def nothing : Parser Unit := Parser.pure ()

/-- The word of asynchronous statements, where it stands. -/
def maybeAsync : Parser Unit := do
  let _ ← optional (keyword "async")

/-- A block behind a colon. -/
def colonBlock (rules : Rules) : Parser Unit := do
  let _ ← sign ":"
  let _ ← rules .block

/-! ### Conditions and loops -/

/-- The block that is run otherwise. -/
def elseBlock (rules : Rules) : Parser Unit :=
  choice [
    diagnosis (diagnoseBlock "'else' statement" nothing (keyword "else") nothing),
    do
      let _ ← keyword "else"
      let _ ← forced ":"
      let _ ← rules .block]

/-- A word with a condition and a block. -/
def conditional (rules : Rules) (word : String) (next : Parser Unit) : Parser Unit :=
  let head : Parser Unit := do
    let _ ← keyword word
    let _ ← rules .namedExpression
  choice [
    diagnosis (choice [
      diagnoseColon head,
      diagnoseBlock ("'" ++ word ++ "' statement") nothing (keyword word) (rules .namedExpression)]),
    do
      head
      colonBlock rules
      next]

/-- Further conditions, and the block that is run if none holds. Every condition reads a token, so
there are no more of them than tokens. -/
def otherConditions (rules : Rules) : Parser Unit := fun input place progress =>
  chain (input.scan.tokens.size + 1) input place progress
where
  /-- At most `fuel` conditions. -/
  chain : Nat → Parser Unit
  | 0 => miss
  | fuel + 1 =>
    conditional rules "elif" (chain fuel <|> do let _ ← optional (elseBlock rules))

/-- A choice between blocks. -/
def ifStatement (rules : Rules) : Parser Unit :=
  conditional rules "if" (otherConditions rules <|> do let _ ← optional (elseBlock rules))

/-- A loop while a condition holds. -/
def whileStatement (rules : Rules) : Parser Unit :=
  conditional rules "while" do
    let _ ← optional (elseBlock rules)

/-- A loop over values. -/
def forStatement (rules : Rules) : Parser Unit :=
  let between : Parser Unit := do
    let _ ← starTargets rules
    let _ ← keyword "in"
    let _ ← starExpressions rules
  let rest : Parser Unit := do
    let _ ← starExpressions rules
    colonBlock rules
    let _ ← optional (elseBlock rules)
  (diagnosis (choice [
    diagnoseColon do
      maybeAsync
      let _ ← keyword "for"
      between,
    diagnoseBlock "'for' statement" maybeAsync (keyword "for") between])) <|>
  commit (iterationHead rules) (fun _ => rest)
    (commit (do let _ ← keyword "async"; iterationHead rules) (fun _ => rest)
      (diagnoseIterationTarget rules))

/-! ### Contexts and exceptions -/

/-- A context with the target that it is given to. -/
def context (rules : Rules) : Parser Unit :=
  let delimiter : Parser Unit := ahead (choice [sign ",", sign ")", sign ":"])
  choice [
    do
      let _ ← rules .expression
      let _ ← keyword "as"
      let _ ← rules .starTarget
      delimiter,
    diagnosis do
      let _ ← rules .expression
      let _ ← keyword "as"
      let target : Located ← rules .expression
      delimiter
      refuseTarget .assigned target,
    do let _ ← rules .expression]

/-- A statement inside contexts. -/
def withStatement (rules : Rules) : Parser Unit :=
  let named (value : Parser Located) : Parser Unit := do
    let _ ← value
    let _ ← optional do
      let _ ← keyword "as"
      rules .starTarget
  let bare : Parser Unit := do
    let _ ← separated (named (rules .expression)) (sign ",")
  let enclosed : Parser Unit := do
    let _ ← sign "("
    let _ ← separated (named (expressions rules)) (sign ",")
    let _ ← optional (sign ",")
    let _ ← sign ")"
  let inParentheses : Parser Unit := do
    let _ ← keyword "with"
    let _ ← sign "("
    let _ ← separated (context rules) (sign ",")
    let _ ← optional (sign ",")
    let _ ← sign ")"
    colonBlock rules
  let plain : Parser Unit := do
    let _ ← keyword "with"
    let _ ← separated (context rules) (sign ",")
    colonBlock rules
  let asynchronous (p : Parser Unit) : Parser Unit := do
    let _ ← keyword "async"
    p
  let head (contexts : Parser Unit) : Parser Unit := do
    maybeAsync
    let _ ← keyword "with"
    contexts
  choice [
    diagnosis (choice [
      diagnoseBlock "'with' statement" maybeAsync (keyword "with") bare,
      diagnoseBlock "'with' statement" maybeAsync (keyword "with") enclosed]),
    inParentheses,
    plain,
    asynchronous inParentheses,
    asynchronous plain,
    diagnosis (choice [diagnoseColon (head bare), diagnoseColon (head enclosed)])]

/-- The block that is run in any case. -/
def finallyBlock (rules : Rules) : Parser Unit :=
  choice [
    diagnosis (diagnoseBlock "'finally' statement" nothing (keyword "finally") nothing),
    do
      let _ ← keyword "finally"
      let _ ← forced ":"
      let _ ← rules .block]

/-- The exceptions of a handler with the name that they get. -/
def handled (rules : Rules) : Parser Unit := do
  let _ ← rules .expression
  let _ ← optional do
    let _ ← keyword "as"
    identifier

/-- Mistakes in handlers. -/
def diagnoseHandler {α : Type} (rules : Rules) : Parser α :=
  let head : Parser Unit := do
    let _ ← keyword "except"
    let _ ← optional (sign "*")
  diagnosis <| choice [
    do
      head
      let first : Located ← rules .expression
      let _ ← sign ","
      let _ ← expressions rules
      let _ ← optional do
        let _ ← keyword "as"
        identifier
      let _ ← sign ":"
      faultAt .exceptionParentheses first.start,
    diagnoseColon do
      head
      handled rules,
    diagnoseColon do
      let _ ← keyword "except",
    do
      let _ ← keyword "except"
      let _ ← sign "*"
      let _ ← ofKind .newline <|> sign ":"
      faultHere .expectedExceptions]

/-- A handler of exceptions. -/
def handler (rules : Rules) : Parser Unit :=
  choice [
    diagnosis (choice [
      diagnoseBlock "'except' statement" nothing (keyword "except") (handled rules),
      diagnoseBlock "'except' statement" nothing (keyword "except") nothing]),
    do
      let _ ← keyword "except"
      handled rules
      colonBlock rules,
    do
      let _ ← keyword "except"
      colonBlock rules,
    diagnoseHandler rules]

/-- A handler of groups of exceptions. -/
def groupHandler (rules : Rules) : Parser Unit :=
  let exceptions : Parser Unit := do
    let _ ← sign "*"
    handled rules
  choice [
    diagnosis (diagnoseBlock "'except*' statement" nothing (keyword "except") exceptions),
    do
      let _ ← keyword "except"
      exceptions
      colonBlock rules,
    diagnoseHandler rules]

/-- A statement with handlers. -/
def tryStatement (rules : Rules) : Parser Unit :=
  let head : Parser Unit := do
    let _ ← keyword "try"
    let _ ← forced ":"
    let _ ← rules .block
  let handlers (p : Parser Unit) : Parser Unit := do
    let _ ← many1 p
  let rest : Parser Unit := do
    let _ ← optional (elseBlock rules)
    let _ ← optional (finallyBlock rules)
  choice [
    diagnosis <| choice [
      diagnoseBlock "'try' statement" nothing (keyword "try") nothing,
      do
        let _ ← keyword "try"
        colonBlock rules
        notAhead (keyword "except" <|> keyword "finally")
        faultHere .expectedHandler,
      do
        let _ ← keyword "try"
        let _ ← sign ":"
        let _ ← many (rules .block)
        handlers (handler rules)
        let start ← here
        let _ ← keyword "except"
        let _ ← sign "*"
        handled rules
        let _ ← sign ":"
        faultAt .mixedHandlers start,
      do
        let _ ← keyword "try"
        let _ ← sign ":"
        let _ ← many (rules .block)
        handlers (groupHandler rules)
        let start ← here
        let _ ← keyword "except"
        let _ ← optional (handled rules)
        let _ ← sign ":"
        faultAt .mixedHandlers start],
    do
      head
      finallyBlock rules,
    do
      head
      handlers (handler rules)
      rest,
    do
      head
      handlers (groupHandler rules)
      rest]

/-! ### Cases -/

/-- What is matched. -/
def subject (rules : Rules) : Parser Unit :=
  (do
    let _ ← starNamedExpression rules
    let _ ← sign ","
    let _ ← optional (starNamedExpressions rules)) <|>
  (do let _ ← rules .namedExpression)

/-- A case. -/
def caseBlock (rules : Rules) : Parser Unit :=
  let guarded : Parser Unit := do
    patterns rules
    let _ ← optional do
      let _ ← keyword "if"
      rules .namedExpression
  choice [
    diagnosis (choice [
      diagnoseColon do
        let _ ← softKeyword "case"
        guarded,
      diagnoseBlock "'case' statement" nothing (softKeyword "case") guarded]),
    do
      let _ ← softKeyword "case"
      guarded
      colonBlock rules]

/-- A choice by patterns. -/
def matchStatement (rules : Rules) : Parser Unit :=
  choice [
    do
      let _ ← softKeyword "match"
      subject rules
      let _ ← sign ":"
      let _ ← ofKind .newline
      let _ ← ofKind .indent
      let _ ← many1 (caseBlock rules)
      let _ ← ofKind .dedent,
    diagnosis (choice [
      diagnoseColon do
        let _ ← softKeyword "match"
        subject rules,
      diagnoseBlock "'match' statement" nothing (softKeyword "match") (subject rules)])]

/-! ### Functions and classes -/

/-- The decorators before a definition. -/
def decorators (rules : Rules) : Parser (List Expr) :=
  many1 do
    let _ ← sign "@"
    let decorator : Located ← rules .namedExpression
    let _ ← ofKind .newline
    return decorator.expr

/-- A definition with its decorators, or without. -/
def decorated (rules : Rules) (definition : List Expr → Parser Statement) : Parser Statement :=
  (do
    let decorators ← decorators rules
    definition decorators) <|>
  definition []

/-- The place of a token. -/
def positionOf (t : Token) : Position :=
  ⟨t.line, t.column.getD 0⟩

/-- A function. -/
def functionDef (rules : Rules) (decorators : List Expr) : Parser Statement :=
  let parameters : Parser Unit := do
    let _ ← optional ((namedFunctionStyle rules).parameters rules)
  let result : Parser Unit := do
    let _ ← optional do
      let _ ← sign "->"
      rules .expression
  let rest (first : Token) : Parser Statement := do
    let name ← identifier
    let _ ← forced "("
    parameters
    let _ ← sign ")"
    result
    let _ ← forced ":"
    let _ ← rules .block
    return .functionDef name decorators (positionOf first)
  choice [
    diagnosis <| diagnoseBlock "function definition" maybeAsync (keyword "def") do
      let _ ← identifier
      let _ ← sign "("
      parameters
      let _ ← sign ")"
      result,
    do rest (← keyword "def"),
    do
      let first ← keyword "async"
      let _ ← keyword "def"
      rest first]

/-- The bases of a class: the arguments behind its name that have no name of their own. -/
def bases (rules : Rules) : Parser (List Expr) := do
  let arguments ← optional do
    let _ ← sign "("
    let arguments ← optional (rules .arguments)
    let _ ← sign ")"
    return arguments
  let arguments : Option Arguments := arguments.join
  return (arguments.map fun a => a.positional.map Located.expr).getD []

/-- A class. -/
def classDef (rules : Rules) (decorators : List Expr) : Parser Statement :=
  let named : Parser (String × List Expr) := do
    let name ← identifier
    let bases ← bases rules
    return (name, bases)
  choice [
    diagnosis <| choice [
      diagnoseColon do
        let _ ← keyword "class"
        let _ ← named,
      diagnoseBlock "class definition" nothing (keyword "class") named],
    do
      let first ← keyword "class"
      let (name, bases) ← named
      let _ ← sign ":"
      let body ← rules .block
      return .classDef name bases decorators body (positionOf first)]

/-! ### Statements -/

/-- A statement with blocks. -/
def compoundStatement (rules : Rules) : Parser Statement :=
  let headed (heads : List (Parser Token)) (p : Parser Statement) : Parser Statement := do
    ahead (choice heads)
    p
  let without (p : Parser Unit) : Parser Statement := do
    p
    return .other
  choice [
    headed [keyword "def", sign "@", keyword "async"] (decorated rules (functionDef rules)),
    headed [keyword "if"] (without (ifStatement rules)),
    headed [keyword "class", sign "@"] (decorated rules (classDef rules)),
    headed [keyword "with", keyword "async"] (without (withStatement rules)),
    headed [keyword "for", keyword "async"] (without (forStatement rules)),
    headed [keyword "try"] (without (tryStatement rules)),
    headed [keyword "while"] (without (whileStatement rules)),
    without (matchStatement rules)]

/-- One or more statements. -/
def statements (rules : Rules) : Parser (List Statement) := do
  let groups ← many1 <|
    (do return [← compoundStatement rules]) <|>
    simpleStatements rules
  return groups.flatten

end FluentBuilder.Syntax.Grammar
