import FluentBuilder.Syntax.Grammar.Condition

/-!
# Patterns

The patterns of `match` statements. They declare nothing, so that a pattern is read for being one and
not for its value.
-/

namespace FluentBuilder.Syntax.Grammar

open Grammar.Parser

/-! ### Leaves -/

/-- A dotted name. -/
def dottedValue : Parser Unit := do
  let _ ← identifier
  let _ ← many do
    let _ ← sign "."
    identifier

/-- A name with at least one point. -/
def memberValue : Parser Unit := do
  let _ ← identifier
  let _ ← many1 do
    let _ ← sign "."
    identifier

/-- What would make a value more than a name. -/
def valueGoesOn : Parser Unit := do
  let _ ← choice [sign ".", sign "(", sign "="]

/-- A name that takes a value. -/
def captureName : Parser Unit := do
  notAhead (softKeyword "_")
  let _ ← identifier
  notAhead valueGoesOn

/-- The name that takes any value. -/
def wildcard : Parser Unit := do
  let _ ← softKeyword "_"

/-- A number with a sign or without. -/
def signedNumber : Parser Unit :=
  (do let _ ← numberConstant) <|>
  (do
    let _ ← sign "-"
    let _ ← numberConstant)

/-- A number that has to be imaginary or has to be none. -/
def numberOfKind (imaginary : Bool) : Parser Unit := do
  let number ← numberConstant
  match number.expr with
  | .constant (.imaginary _) =>
    if imaginary then return () else faultAt .realRequired number.start
  | _ => if imaginary then faultAt .imaginaryRequired number.start else return ()

/-- A complex number. -/
def complexNumber : Parser Unit := do
  numberOfKind false <|> (do
    let _ ← sign "-"
    numberOfKind false)
  let _ ← choice [sign "+", sign "-"]
  numberOfKind true

/-- A constant. -/
def constantPattern (rules : Rules) : Parser Unit :=
  choice [
    do
      signedNumber
      notAhead (choice [sign "+", sign "-"]),
    complexNumber,
    do let _ ← rules .quotedTexts,
    do let _ ← choice [keyword "None", keyword "True", keyword "False"]]

/-! ### Sequences, mappings and classes -/

/-- A pattern that takes several values. -/
def starPattern : Parser Unit := do
  let _ ← sign "*"
  captureName <|> wildcard

/-- A pattern of a sequence. -/
def itemPattern (rules : Rules) : Parser Unit :=
  starPattern <|> rules .pattern

/-- Patterns with commas between them. -/
def itemPatterns (rules : Rules) : Parser Unit := do
  let _ ← separated (itemPattern rules) (sign ",")
  let _ ← optional (sign ",")

/-- A sequence without brackets. -/
def openSequence (rules : Rules) : Parser Unit := do
  itemPattern rules
  let _ ← sign ","
  let _ ← optional (itemPatterns rules)

/-- An item of a mapping. -/
def mappingItem (rules : Rules) : Parser Unit := do
  constantPattern rules <|> memberValue
  let _ ← sign ":"
  rules .pattern

/-- The name that takes the rest of a mapping. -/
def mappingRest : Parser Unit := do
  let _ ← sign "**"
  captureName

/-- A mapping. -/
def mappingPattern (rules : Rules) : Parser Unit :=
  let items : Parser Unit := do
    let _ ← separated (mappingItem rules) (sign ",")
  let close : Parser Unit := do
    let _ ← optional (sign ",")
    let _ ← sign braceClose
  choice [
    do
      let _ ← sign braceOpen
      let _ ← sign braceClose,
    do
      let _ ← sign braceOpen
      mappingRest
      close,
    do
      let _ ← sign braceOpen
      items
      let _ ← sign ","
      mappingRest
      close,
    do
      let _ ← sign braceOpen
      items
      close]

/-- Patterns of a class without names. -/
def classItems (rules : Rules) : Parser Unit := do
  let _ ← separated (rules .pattern) (sign ",")

/-- Patterns of a class with names. -/
def classNamedItems (rules : Rules) : Parser Unit := do
  let _ ← separated (do
    let _ ← identifier
    let _ ← sign "="
    rules .pattern) (sign ",")

/-- A class. -/
def classPattern (rules : Rules) : Parser Unit :=
  let close : Parser Unit := do
    let _ ← optional (sign ",")
    let _ ← sign ")"
  let opening : Parser Unit := do
    dottedValue
    let _ ← sign "("
  choice [
    do
      opening
      let _ ← sign ")",
    do
      opening
      classItems rules
      close,
    do
      opening
      classNamedItems rules
      close,
    do
      opening
      classItems rules
      let _ ← sign ","
      classNamedItems rules
      close,
    diagnosis do
      opening
      let _ ← optional do
        classItems rules
        sign ","
      classNamedItems rules
      let _ ← sign ","
      let start ← here
      classItems rules
      faultAt .positionalPatternAfterKeyword start]

/-- A pattern without alternatives. -/
def closedPattern (rules : Rules) : Parser Unit :=
  choice [
    constantPattern rules,
    captureName,
    wildcard,
    do
      memberValue
      notAhead valueGoesOn,
    do
      let _ ← sign "("
      rules .pattern
      let _ ← sign ")",
    do
      let _ ← sign "["
      let _ ← optional (itemPatterns rules)
      let _ ← sign "]",
    do
      let _ ← sign "("
      let _ ← optional (openSequence rules)
      let _ ← sign ")",
    mappingPattern rules,
    classPattern rules]

/-! ### Patterns -/

/-- Alternative patterns. -/
def alternatives (rules : Rules) : Parser Unit := do
  let _ ← separated (rules .closedPattern) (sign "|")

/-- A pattern, perhaps with a name for the value that it matches. -/
def pattern (rules : Rules) : Parser Unit :=
  choice [
    do
      alternatives rules
      let _ ← keyword "as"
      captureName,
    diagnosis <| choice [
      do
        alternatives rules
        let _ ← keyword "as"
        let start ← here
        let _ ← softKeyword "_"
        faultAt .underscoreTarget start,
      do
        alternatives rules
        let _ ← keyword "as"
        notAhead (ofKind .name)
        let target : Located ← rules .expression
        faultAt .invalidPatternTarget target.start],
    alternatives rules]

/-- The patterns of a case. -/
def patterns (rules : Rules) : Parser Unit :=
  openSequence rules <|> rules .pattern

end FluentBuilder.Syntax.Grammar
