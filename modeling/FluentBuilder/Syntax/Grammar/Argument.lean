import FluentBuilder.Syntax.Grammar.Comprehension

/-!
# Arguments of calls

Arguments without names come before named ones; unpacked sequences may stand among the named ones.
-/

namespace FluentBuilder.Syntax.Grammar

open Grammar.Parser

/-- An argument behind which no further ones without a name may stand. -/
inductive LateArgument where
  /-- An unpacked sequence. -/
  | sequence (value : Located)
  /-- A named argument, or an unpacked mapping. -/
  | keyword (argument : Keyword Expr)

/-- Common mistakes in named arguments. -/
def diagnoseKeyword {α : Type} (rules : Rules) : Parser α :=
  diagnosis <| choice [
    do
      let start ← here
      let word ← choice [keyword "True", keyword "False", keyword "None"]
      let _ ← sign "="
      faultAt (.cannotAssign word.text) start,
    do
      let name ← nameExpr
      let _ ← sign "="
      let _ ← rules .expression
      let _ ← clauses rules
      faultAt .maybeComparison name.start,
    do
      notAhead do
        let _ ← ofKind .name
        sign "="
      let value : Located ← rules .expression
      let _ ← sign "="
      faultAt .assignmentInArgument value.start]

/-- A named argument. -/
def namedArgument (rules : Rules) : Parser LateArgument := do
  let name ← identifier
  let _ ← sign "="
  let value : Located ← rules .expression
  return .keyword ⟨some name, value.expr⟩

/-- A named argument or an unpacked sequence. -/
def namedOrSequence (rules : Rules) : Parser LateArgument :=
  choice [
    diagnoseKeyword rules,
    namedArgument rules,
    do return .sequence (← starred (rules .expression))]

/-- A named argument or an unpacked mapping. -/
def namedOrMapping (rules : Rules) : Parser LateArgument :=
  choice [
    diagnoseKeyword rules,
    namedArgument rules,
    do
      let _ ← sign "**"
      let value : Located ← rules .expression
      return .keyword ⟨none, value.expr⟩]

/-- Named arguments and what is unpacked among them: sequences come before mappings. -/
def lateArguments (rules : Rules) : Parser (List LateArgument) :=
  choice [
    do
      let first ← separated (namedOrSequence rules) (sign ",")
      let _ ← sign ","
      let second ← separated (namedOrMapping rules) (sign ",")
      return first ++ second,
    separated (namedOrSequence rules) (sign ","),
    separated (namedOrMapping rules) (sign ",")]

/-- The arguments that early and late ones make up. -/
def Arguments.ofLists (early : List Located) (late : List LateArgument) : Arguments where
  positional := early ++ late.filterMap fun
    | .sequence value => some value
    | .keyword _ => none
  keywords := late.filterMap fun
    | .sequence _ => none
    | .keyword argument => some argument

/-- Arguments with commas between them. -/
def argumentList (rules : Rules) : Parser Arguments :=
  (do
    let early ← separated (choice [
      starred (rules .expression),
      do
        let value ← plainNamedExpression rules
        notAhead (sign "=")
        return value]) (sign ",")
    let late ← optional do
      let _ ← sign ","
      lateArguments rules
    return .ofLists early (late.getD [])) <|>
  (do return .ofLists [] (← lateArguments rules))

/-- Common mistakes in arguments: generators without parentheses, and arguments without a name
behind named ones. -/
def diagnoseArguments {α : Type} (rules : Rules) : Parser α :=
  diagnosis <|
  choice [
    do
      let start ← here
      let _ ← argumentList rules
      let _ ← sign ","
      let _ ← sign "*"
      faultAt .unpackingAfterUnpacking start,
    do
      let element : Located ← rules .expression
      let _ ← clauses rules
      let _ ← sign ","
      let _ ← optional (choice [
        do let _ ← argumentList rules,
        do
          let _ ← rules .expression
          let _ ← clauses rules])
      faultAt .generatorParentheses element.start,
    do
      let name ← nameExpr
      let _ ← sign "="
      let _ ← rules .expression
      let _ ← clauses rules
      faultAt .maybeComparison name.start,
    commit
      (do
        let arguments ← argumentList rules
        let _ ← clauses rules
        return arguments)
      (fun arguments =>
        match arguments.positional.getLast? with
        | some last =>
          if arguments.positional.length ≤ 1 then miss
          else faultAt .generatorParentheses last.start
        | none => miss) <|
    choice [
      do
        let _ ← argumentList rules
        let _ ← sign ","
        let element : Located ← rules .expression
        let _ ← clauses rules
        faultAt .generatorParentheses element.start,
      do
        let arguments ← argumentList rules
        let _ ← sign ","
        let _ ← argumentList rules
        let unpacks := arguments.keywords.any (·.name.isNone)
        faultHere (if unpacks then .positionalAfterUnpacking else .positionalAfterKeyword)]]

/-- All arguments of a call. -/
def arguments (rules : Rules) : Parser Arguments :=
  (do
    let arguments ← argumentList rules
    let _ ← optional (sign ",")
    ahead (sign ")")
    return arguments) <|>
  diagnoseArguments rules

end FluentBuilder.Syntax.Grammar
