import FluentBuilder.Syntax.Grammar.Argument
import FluentBuilder.Syntax.Interpolation

/-!
# Atoms

Names, constants and displays, and the values reached from them by members, items and calls.
-/

namespace FluentBuilder.Syntax.Grammar

open Grammar.Parser

/-! ### Constants -/

/-- A reserved word that stands for a constant. -/
def constantWord (word : String) (value : Constant) : Parser Located := do
  let start ← here
  let _ ← keyword word
  return .whole (.constant value) start

/-- A number. -/
def numberConstant : Parser Located := do
  let start ← here
  let t ← ofKind .number
  match Literal.number t.text with
  | .ok value => return .whole (.constant value) start
  | .error cause => faultAt cause start

/-- Adjacent quoted constants, which make up one value. -/
def quotedTexts : Parser Located := do
  let start ← here
  let tokens ← many1 (ofKind .quoted)
  fun input place progress =>
    let parts := tokens.map fun t =>
      ⟨t.text.toList, t.line, input.source.columnOf t.horizon.line (t.column.getD 0)⟩
    match Literal.concatenate input.readField parts with
    | .ok value => .matched (.whole value start) place progress
    | .error (.cause cause) => faultHere cause input place progress
    | .error (.field fault) => .halted (.grammar fault) progress

/-! ### Displays -/

/-- A tuple in parentheses. -/
def enclosedTuple (rules : Rules) : Parser Located := do
  let start ← here
  let _ ← sign "("
  let items ← optional do
    let first ← starNamedExpression rules
    let _ ← sign ","
    let rest ← optional (starNamedExpressions rules)
    return first :: rest.getD []
  let _ ← sign ")"
  let items := items.getD []
  return .mk (.tuple (items.map Located.expr)) start items

/-- An expression in parentheses. -/
def group (rules : Rules) : Parser Located :=
  (do
    let _ ← sign "("
    let value ← yieldExpression rules <|> rules .namedExpression
    let _ ← sign ")"
    return value) <|>
  diagnosis (choice [
    do
      let _ ← sign "("
      let value ← starred (rules .expression)
      let _ ← sign ")"
      faultAt .starredHere value.start,
    do
      let _ ← sign "("
      let start ← here
      let _ ← sign "**"
      let _ ← rules .expression
      let _ ← sign ")"
      faultAt .doubleStarredHere start])

/-- A list. -/
def listDisplay (rules : Rules) : Parser Located := do
  let start ← here
  let _ ← sign "["
  let items ← optional (starNamedExpressions rules)
  let _ ← sign "]"
  let items := items.getD []
  return .mk (.list (items.map Located.expr)) start items

/-- A set. -/
def setDisplay (rules : Rules) : Parser Located := do
  let start ← here
  let _ ← sign braceOpen
  let items ← starNamedExpressions rules
  let _ ← sign braceClose
  return .whole (.set (items.map Located.expr)) start

/-- An item of a dictionary. -/
def dictItem (rules : Rules) : Parser (DictItem Expr) :=
  (do
    let _ ← sign "**"
    let value : Located ← rules .bitOr
    return .unpack value.expr) <|>
  (do
    let (key, value) ← keyAndValue rules
    return .pair key.expr value.expr)

/-- A fault at the last byte of the text read, on the line of an expression. -/
def faultAtEndOf {α : Type} (cause : Cause) (e : Located) : Parser α :=
  fun input place progress =>
    let horizon := horizonOf input progress
    let line := (input.scan.tokens[e.start]?.map Token.line).getD 1
    let (bytes, last) := match input.scan.tokens[place - 1]? with
      | some t =>
        let last := (t.text.toList.reverse.takeWhile (· != '\n')).reverse
        let before := if last.length < t.text.length then 0 else t.column.getD 0
        (before + Utf8.size last, t.horizon.line)
      | none => (0, 0)
    .halted (.grammar (input.source.fault horizon cause line bytes last)) progress

/-- Common mistakes in the items of a dictionary: a missing colon or value, and an unpacked value. -/
def diagnoseDictItems {α : Type} (rules : Rules) : Parser α :=
  let unpackedValue : Parser α := do
    let _ ← rules .expression
    let _ ← sign ":"
    let start ← here
    let _ ← sign "*"
    let _ ← rules .bitOr
    faultAt .starredDictValue start
  let missingValue : Parser α := do
    let _ ← rules .expression
    let start ← here
    let _ ← sign ":"
    ahead (choice [sign braceClose, sign ","])
    faultAt .missingDictValue start
  choice [
    do
      let _ ← separated (dictItem rules) (sign ",")
      let _ ← sign ","
      choice [
        do
          let key ← rules .expression
          notAhead (sign ":")
          faultAtEndOf .missingDictColon key,
        unpackedValue,
        missingValue],
    unpackedValue,
    missingValue]

/-- A dictionary. -/
def dictDisplay (rules : Rules) : Parser Located :=
  (do
    let start ← here
    let _ ← sign braceOpen
    let items ← optional do
      let items ← separated (dictItem rules) (sign ",")
      let _ ← optional (sign ",")
      return items
    let _ ← sign braceClose
    return .whole (.dict (items.getD [])) start) <|>
  (do
    let _ ← sign braceOpen
    diagnoseDictItems rules)

/-! ### Atoms and what is reached from them -/

/-- An expression without operators. -/
def atom (rules : Rules) : Parser Located :=
  choice [
    nameExpr,
    constantWord "True" (.bool true),
    constantWord "False" (.bool false),
    constantWord "None" .none,
    do
      ahead (ofKind .quoted)
      rules .quotedTexts,
    numberConstant,
    do
      ahead (sign "(")
      choice [enclosedTuple rules, group rules, rules .generator],
    do
      ahead (sign "[")
      choice [listDisplay rules, listComprehension rules],
    do
      ahead (sign braceOpen)
      choice [dictDisplay rules, setDisplay rules, dictComprehension rules, setComprehension rules],
    do
      let start ← here
      let _ ← sign "..."
      return .whole (.constant .ellipsis) start]

/-- An atom, or a value reached from one. -/
def primary (rules : Rules) : Parser Located := do
  let start ← here
  let first ← atom rules
  extendWhile (fun left => choice [memberStep left start, generatorStep rules left start,
    callStep rules left start, itemStep rules left start]) first

end FluentBuilder.Syntax.Grammar
