import FluentBuilder.Syntax.Grammar.Sequence

/-!
# Parameters

The parameters of functions. A named function has them in parentheses and may annotate them; an
anonymous one has them before a colon (`ParameterStyle`). A parameter ends with a comma or before the
sign that closes the list.
-/

namespace FluentBuilder.Syntax.Grammar

open Grammar.Parser

/-- How parameters are written. -/
structure ParameterStyle where
  /-- The annotation of a parameter. -/
  hint : Parser Unit
  /-- The annotation of the parameter that takes all further positions, where it differs. -/
  restHint : Parser Unit
  /-- The sign behind the parameters. -/
  closing : String
  /-- The fault of parameters in parentheses. -/
  parenthesised : Cause
  /-- What may stand in parentheses by mistake. -/
  inParentheses : Parser Unit
  /-- Is a bare star without names reported at the star? -/
  starLocated : Bool

namespace ParameterStyle

variable (style : ParameterStyle) (rules : Rules)

/-- The end of a parameter. -/
def parameterEnd : Parser Unit :=
  (do let _ ← sign ",") <|> ahead (sign style.closing)

/-- A name with its annotation. -/
def parameter : Parser String := do
  let name ← identifier
  style.hint
  return name

/-- A default. -/
def fallback : Parser Expr :=
  (do
    let _ ← sign "="
    let value : Located ← rules .expression
    return value.expr) <|>
  diagnosis (do
    let start ← here
    let _ ← sign "="
    ahead (choice [sign ")", sign ","])
    faultAt .expectedDefault start)

/-- A parameter without a default. -/
def withoutDefault : Parser (Parameter Expr) := do
  let name ← style.parameter
  style.parameterEnd
  return ⟨name, none⟩

/-- A parameter with a default. -/
def withDefault : Parser (Parameter Expr) := do
  let name ← style.parameter
  let value ← fallback rules
  style.parameterEnd
  return ⟨name, some value⟩

/-- A parameter that may have a default. -/
def maybeDefault : Parser (Parameter Expr) := do
  let name ← style.parameter
  let value ← optional (fallback rules)
  style.parameterEnd
  return ⟨name, value⟩

/-- The slash behind parameters that are given by position only. -/
def slash : Parser Unit := do
  let _ ← sign "/"
  style.parameterEnd

/-- Parameters before a slash, none of them with a default. -/
def slashWithoutDefault : Parser (List (Parameter Expr)) := do
  let names ← many1 style.withoutDefault
  style.slash
  return names

/-- Parameters before a slash, the last ones with a default. -/
def slashWithDefault : Parser (List (Parameter Expr)) := do
  let names ← many style.withoutDefault
  let more ← many1 (style.withDefault rules)
  style.slash
  return names ++ more

/-- Mistakes in the parameter that takes all further names. -/
def diagnoseKeywordRest {α : Type} : Parser α :=
  diagnosis <| choice [
    do
      let _ ← sign "**"
      let _ ← style.parameter
      let start ← here
      let _ ← sign "="
      faultAt .keywordRestDefault start,
    do
      let _ ← sign "**"
      let _ ← style.parameter
      let _ ← sign ","
      let start ← here
      let _ ← style.parameter
      faultAt .afterKeywordRest start,
    do
      let _ ← sign "**"
      let _ ← style.parameter
      let _ ← sign ","
      let start ← here
      let _ ← choice [sign "*", sign "**", sign "/"]
      faultAt .afterKeywordRest start]

/-- The parameter that takes all further names. -/
def keywordRest : Parser String :=
  style.diagnoseKeywordRest <|> (do
    let _ ← sign "**"
    let p ← style.withoutDefault
    return p.name)

/-- Mistakes behind a star. -/
def diagnoseStar {α : Type} : Parser α :=
  diagnosis <| choice [
    do
      let start ← here
      let _ ← sign "*"
      choice [
        do let _ ← sign style.closing,
        do
          let _ ← sign ","
          let _ ← choice [sign style.closing, sign "**"]]
      if style.starLocated then faultAt .namedAfterBareStar start else faultHere .namedAfterBareStar,
    do
      let _ ← sign "*"
      let _ ← style.parameter
      let start ← here
      let _ ← sign "="
      faultAt .restDefault start,
    do
      let _ ← sign "*"
      (do let _ ← style.withoutDefault) <|> (do let _ ← sign ",")
      let _ ← many (style.maybeDefault rules)
      let start ← here
      let _ ← sign "*"
      (do let _ ← style.withoutDefault) <|> (do let _ ← sign ",")
      faultAt .starTwice start]

/-- The parameters from a star on. -/
def fromStar : Parser (Parameters Expr) :=
  choice [
    style.diagnoseStar rules,
    do
      let _ ← sign "*"
      let rest ← style.withoutDefault
      let names ← many (style.maybeDefault rules)
      let keywords ← optional style.keywordRest
      return ⟨[], [], some rest.name, names, keywords⟩,
    do
      let _ ← sign "*"
      let rest ← identifier
      style.restHint
      style.parameterEnd
      let names ← many (style.maybeDefault rules)
      let keywords ← optional style.keywordRest
      return ⟨[], [], some rest, names, keywords⟩,
    do
      let _ ← sign "*"
      let _ ← sign ","
      let names ← many1 (style.maybeDefault rules)
      let keywords ← optional style.keywordRest
      return ⟨[], [], none, names, keywords⟩,
    do
      let keywords ← style.keywordRest
      return ⟨[], [], none, [], some keywords⟩]

/-- Mistakes in the order of parameters. -/
def diagnoseParameters {α : Type} : Parser α :=
  let beforeSlash : Parser (List (Parameter Expr)) :=
    style.slashWithoutDefault <|> style.slashWithDefault rules
  diagnosis <| choice [
    do
      let _ ← many style.withoutDefault
      let _ ← style.slashWithDefault rules <|> many1 (style.withDefault rules)
      let start ← here
      let _ ← style.withoutDefault
      faultAt .defaultOrder start,
    do
      let _ ← many style.withoutDefault
      let start ← here
      let _ ← sign "("
      style.inParentheses
      let _ ← optional (sign ",")
      let _ ← sign ")"
      faultAt style.parenthesised start,
    do
      let start ← here
      let _ ← sign "/"
      let _ ← sign ","
      faultAt .slashFirst start,
    do
      let _ ← beforeSlash
      let _ ← many (style.maybeDefault rules)
      let start ← here
      let _ ← sign "/"
      faultAt .slashTwice start,
    do
      let _ ← optional beforeSlash
      let _ ← many (style.maybeDefault rules)
      let _ ← sign "*"
      (do let _ ← sign ",") <|> (do let _ ← style.withoutDefault)
      let _ ← many (style.maybeDefault rules)
      let start ← here
      let _ ← sign "/"
      faultAt .slashAfterStar start,
    do
      let _ ← many1 (style.maybeDefault rules)
      let _ ← sign "/"
      let start ← here
      let _ ← sign "*"
      faultAt .commaBeforeStar start]

/-- All parameters of a function. -/
def parameters : Parser (Parameters Expr) :=
  let withStar (positionalOnly positional : List (Parameter Expr)) : Parser (Parameters Expr) := do
    let more ← optional (style.fromStar rules)
    let more := more.getD ⟨[], [], none, [], none⟩
    return { more with positionalOnly, positional }
  choice [
    style.diagnoseParameters rules,
    do
      let before ← style.slashWithoutDefault
      let names ← many style.withoutDefault
      let more ← many (style.withDefault rules)
      withStar before (names ++ more),
    do
      let before ← style.slashWithDefault rules
      let names ← many (style.withDefault rules)
      withStar before names,
    do
      let names ← many1 style.withoutDefault
      let more ← many (style.withDefault rules)
      withStar [] (names ++ more),
    do
      let names ← many1 (style.withDefault rules)
      withStar [] names,
    style.fromStar rules]

end ParameterStyle

/-- The parameters of a named function. -/
def namedFunctionStyle (rules : Rules) : ParameterStyle where
  hint := do
    let _ ← optional do
      let _ ← sign ":"
      rules .expression
  restHint := do
    let _ ← sign ":"
    let _ ← rules .starExpression
  closing := ")"
  parenthesised := .parameterParentheses
  inParentheses := do
    let _ ← many1 do
      let _ ← identifier
      let _ ← optional do
        let _ ← sign ":"
        rules .expression
      (do let _ ← sign ",") <|> ahead (sign ")")
  starLocated := true

/-- The parameters of an anonymous function. -/
def anonymousFunctionStyle : ParameterStyle where
  hint := Parser.pure ()
  restHint := miss
  closing := ":"
  parenthesised := .lambdaParameterParentheses
  inParentheses := do
    let _ ← separated identifier (sign ",")
  starLocated := false

/-- An anonymous function. -/
def lambda (rules : Rules) : Parser Located := do
  let start ← here
  let _ ← keyword "lambda"
  let parameters ← optional (anonymousFunctionStyle.parameters rules)
  let _ ← sign ":"
  let body : Located ← rules .expression
  return .whole (.lambda (parameters.getD ⟨[], [], none, [], none⟩) body.expr) start

end FluentBuilder.Syntax.Grammar
