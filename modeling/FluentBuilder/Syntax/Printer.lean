import FluentBuilder.Decimal.Shortest
import FluentBuilder.Syntax.Expr
import FluentBuilder.Text.Quoted

/-!
# The written form of an expression

`Expr.render` writes an expression on one line, with parentheses where the precedence of operators
asks for them and no others, and one blank around operators. The written form does not depend on how
the expression was spelled.

Two values have no written form and are the only failures. A backslash cannot stand inside a
replacement field, so a field whose expression needs one cannot be written; and a whole number of
more than 4300 digits is not converted to decimal.
-/

namespace FluentBuilder.Syntax

/-- Why an expression has no written form. -/
inductive RenderFault where
  /-- The expression of a replacement field needs a backslash. -/
  | backslashInField
  /-- A whole number is too long. -/
  | integerTooLong
  deriving DecidableEq, Repr

/-- The wording of a failure. -/
def RenderFault.message : RenderFault → String
  | .backslashInField => "Unable to avoid backslash in f-string expression part"
  | .integerTooLong => "Exceeds the limit (4300 digits) for integer string conversion; use " ++
    "sys.set_int_max_str_digits() to increase the limit"

/-! ### Precedence -/

namespace Level

/-- Binding strength of a name given in passing. -/
def named : Nat := 1
/-- Binding strength of a tuple without parentheses. -/
def tuple : Nat := 2
/-- Binding strength of a value handed out. -/
def yield : Nat := 3
/-- Binding strength of choices and anonymous functions. -/
def test : Nat := 4
/-- Binding strength of negated conditions. -/
def not : Nat := 7
/-- Binding strength of comparisons. -/
def compare : Nat := 8
/-- Binding strength of the weakest arithmetic. -/
def arithmetic : Nat := 9
/-- Binding strength of signs. -/
def factor : Nat := 15
/-- Binding strength of awaiting. -/
def await : Nat := 17
/-- Binding strength of what cannot come apart. -/
def atom : Nat := 18

/-- The next stronger binding. -/
def next (level : Nat) : Nat := min (level + 1) atom

end Level

/-- Binding strength of an operator on conditions. -/
def BoolOp.level : BoolOp → Nat
  | .or => 5
  | .and => 6

/-- The word for an operator on conditions. -/
def BoolOp.symbol : BoolOp → String
  | .or => "or"
  | .and => "and"

/-- Binding strength of an operator with two operands. -/
def BinaryOp.level : BinaryOp → Nat
  | .bitOr => 9
  | .bitXor => 10
  | .bitAnd => 11
  | .leftShift | .rightShift => 12
  | .add | .subtract => 13
  | .multiply | .matrixMultiply | .divide | .modulo | .floorDivide => 14
  | .power => 16

/-- The sign of an operator with two operands. -/
def BinaryOp.symbol : BinaryOp → String
  | .add => "+"
  | .subtract => "-"
  | .multiply => "*"
  | .matrixMultiply => "@"
  | .divide => "/"
  | .modulo => "%"
  | .power => "**"
  | .leftShift => "<<"
  | .rightShift => ">>"
  | .bitOr => "|"
  | .bitXor => "^"
  | .bitAnd => "&"
  | .floorDivide => "//"

/-- Binding strength of an operator with one operand. -/
def UnaryOp.level : UnaryOp → Nat
  | .not => Level.not
  | .invert | .plus | .minus => Level.factor

/-- The sign of an operator with one operand. -/
def UnaryOp.symbol : UnaryOp → String
  | .not => "not "
  | .invert => "~"
  | .plus => "+"
  | .minus => "-"

/-- The sign of a comparison. -/
def CompareOp.symbol : CompareOp → String
  | .equal => "=="
  | .notEqual => "!="
  | .less => "<"
  | .lessEqual => "<="
  | .greater => ">"
  | .greaterEqual => ">="
  | .is => "is"
  | .isNot => "is not"
  | .isIn => "in"
  | .notIn => "not in"

/-- The letter that asks for a conversion. -/
def Conversion.letter : Conversion → Char
  | .plain => 's'
  | .quoted => 'r'
  | .ascii => 'a'

/-! ### Texts without backslashes -/

/-- The quotes that a text may stand in. -/
def allQuotes : List (List Char) := [['\''], ['"'], ['"', '"', '"'], ['\'', '\'', '\'']]

/-- Does one sequence of characters occur in another? -/
def occursIn (part : List Char) : List Char → Bool
  | [] => part.isEmpty
  | c :: cs => part.isPrefixOf (c :: cs) || occursIn part cs

/-- One code point of a text that avoids backslashes. -/
def avoidingItem (escapeSpace : Bool) (c : Nat) : List Char :=
  if !escapeSpace && (c = 10 || c = 9) then [Char.ofNat c]
  else if c = 92 || !Text.isPrintable c then Quoted.escape c
  else [Char.ofNat c]

/-- The inside of a text that avoids backslashes, and the quotes that it can stand in. Where no quote
is left the text is written with escapes for one of the quotes offered. -/
def avoidBackslashes (escapeSpace : Bool) (quotes : List (List Char)) (cs : CodePoints) :
    List Char × List (List Char) :=
  let body := cs.flatMap (avoidingItem escapeSpace)
  let possible := if body.contains '\n' then quotes.filter (fun q => q.length = 3) else quotes
  let possible := possible.filter fun q => !occursIn q body
  match possible with
  | [] =>
    let quote := Quoted.quoteFor cs
    let chosen := (quotes.find? fun q => q.contains quote).getD [quote]
    (Quoted.textBody quote cs, [chosen])
  | _ =>
    match body.getLast? with
    | none => (body, possible)
    | some last =>
      let starts (q : List Char) : Bool := q.head? == some last
      let sorted := possible.filter (!starts ·) ++ possible.filter starts
      if (sorted.head?.map starts).getD false then (body.dropLast ++ ['\\', last], sorted)
      else (body, sorted)

/-- A text in the first quote that it can stand in. -/
def renderAvoiding (cs : CodePoints) : String :=
  let (body, quotes) := avoidBackslashes false allQuotes cs
  let quote := quotes.headD []
  String.ofList (quote ++ body ++ quote)

/-- The pieces of a text with replacement fields, each with whether it is a constant, in one quote
that suits them all. -/
def renderPieces (pieces : List (CodePoints × Bool)) : String :=
  let (bodies, quotes) := pieces.foldl (fun (bodies, quotes) (cs, constant) =>
    let (body, quotes) := avoidBackslashes constant quotes cs
    (bodies ++ body, quotes)) (([] : List Char), allQuotes)
  let quote := quotes.headD []
  String.ofList (quote ++ bodies ++ quote)

/-! ### Constants -/

/-- A whole number, if it is short enough. -/
def renderInteger (n : Nat) : Except RenderFault String :=
  if n ≥ Nat.pow 10 4300 then .error .integerTooLong else .ok (toString n)

/-- A constant by itself. -/
def Constant.render : Constant → Except RenderFault String
  | .none => .ok "None"
  | .ellipsis => .ok "Ellipsis"
  | .bool b => .ok (if b then "True" else "False")
  | .int n => renderInteger n
  | .float x => .ok x.render
  | .imaginary x => .ok x.renderImaginary
  | .text cs _ => .ok (Quoted.text cs)
  | .bytes bs => .ok (Quoted.bytes bs)

/-- A floating point number as an expression: an infinity is written as a number that is too
large. -/
def renderFloat (written : Binary64 → String) : Binary64 → String
  | .infinite _ => String.ofList ((written (.finite false 1 0)).toList.foldr (fun c rest =>
      if c = '1' then ['1', 'e', '3', '0', '9'] ++ rest
      else if c = 'j' then c :: rest else rest) [])
  | x => written x

/-- A constant as an expression; inside a replacement field texts avoid backslashes. -/
def renderConstant (inField : Bool) : Constant → Except RenderFault String
  | .ellipsis => .ok "..."
  | .float x => .ok (renderFloat Binary64.render x)
  | .imaginary x => .ok (renderFloat Binary64.renderImaginary x)
  | .text cs marked =>
    let written := if inField then renderAvoiding cs else Quoted.text cs
    .ok (if marked then "u" ++ written else written)
  | c => c.render

/-! ### Expressions -/

/-- A text in parentheses, if they are needed. -/
def enclose (needed : Bool) (s : String) : String :=
  if needed then "(" ++ s ++ ")" else s

/-- Parts separated by commas. -/
def commaSeparated (parts : List String) : String :=
  ", ".intercalate parts

/-- The items of a tuple, a single one followed by its comma. -/
def tupleItems : List String → String
  | [item] => item ++ ","
  | items => commaSeparated items

/-- Braces are written twice in the constant parts of a text with replacement fields. -/
def doubleBraces (cs : CodePoints) : CodePoints :=
  cs.flatMap fun c => if c = 123 || c = 125 then [c, c] else [c]

/-- A space between an opening brace and an expression that begins with one. -/
def fieldStart (expression : String) : String :=
  match expression.toList with
  | c :: _ => if c.toNat = 123 then " " else ""
  | [] => ""

/-- A whole number takes a blank before the point that selects a member. -/
def memberPoint : Expr → String
  | .constant (.int _) => " ."
  | .constant (.bool _) => " ."
  | _ => "."

/-- An index may be a tuple without parentheses. -/
def Expr.indexLevel : Expr → Nat
  | .tuple _ => Level.tuple
  | _ => Level.test

mutual

/-- Writes an expression where something of binding strength `level` is expected. -/
def Expr.renderAt (inField : Bool) (level : Nat) : Expr → Except RenderFault String
  | .name id => .ok id
  | .constant c => renderConstant inField c
  | .joined pieces => do
    let parts ← renderPieceList inField pieces
    if inField then .ok ("f" ++ renderAvoiding (parts.flatMap Prod.fst))
    else .ok ("f" ++ renderPieces parts)
  | .attribute value member => do
    let v ← value.renderAt inField Level.atom
    .ok (v ++ memberPoint value ++ member)
  | .subscript value index => do
    let v ← value.renderAt inField Level.atom
    let i ← index.renderAt inField index.indexLevel
    .ok (v ++ "[" ++ i ++ "]")
  | .slice lower upper step => do
    let l ← renderOption inField lower
    let u ← renderOption inField upper
    let s ← renderOption inField step
    .ok (l.getD "" ++ ":" ++ u.getD "" ++ (match s with
      | some s => ":" ++ s
      | none => ""))
  | .starred value => do
    let v ← value.renderAt inField Level.arithmetic
    .ok ("*" ++ v)
  | .tuple items => do
    let parts ← renderList inField items
    .ok (enclose (items.isEmpty || level > Level.tuple) (tupleItems parts))
  | .list items => do
    let parts ← renderList inField items
    .ok ("[" ++ commaSeparated parts ++ "]")
  | .set items => do
    let parts ← renderList inField items
    .ok ("\x7b" ++ (if items.isEmpty then "*()" else commaSeparated parts) ++ "\x7d")
  | .dict items => do
    let parts ← renderItems inField items
    .ok ("\x7b" ++ commaSeparated parts ++ "\x7d")
  | .boolOp op operands => do
    let parts ← renderRising inField op.level.succ operands
    .ok (enclose (level > op.level) ((" " ++ op.symbol ++ " ").intercalate parts))
  | .binary op left right => do
    let strength := op.level
    let l ← left.renderAt inField (if op = .power then Level.next strength else strength)
    let r ← right.renderAt inField (if op = .power then strength else Level.next strength)
    .ok (enclose (level > strength) (l ++ " " ++ op.symbol ++ " " ++ r))
  | .unary op operand => do
    let v ← operand.renderAt inField op.level
    .ok (enclose (level > op.level) (op.symbol ++ v))
  | .compare first rest => do
    let f ← first.renderAt inField Level.arithmetic
    let r ← renderComparisons inField rest
    .ok (enclose (level > Level.compare) (f ++ r))
  | .call function arguments keywords => do
    let f ← function.renderAt inField Level.atom
    let a ← renderList inField arguments
    let k ← renderKeywords inField keywords
    .ok (f ++ "(" ++ commaSeparated (a ++ k) ++ ")")
  | .conditional test body otherwise => do
    let b ← body.renderAt inField (Level.next Level.test)
    let t ← test.renderAt inField (Level.next Level.test)
    let o ← otherwise.renderAt inField Level.test
    .ok (enclose (level > Level.test) (b ++ " if " ++ t ++ " else " ++ o))
  | .lambda parameters body => do
    let p ← renderParameters inField parameters
    let b ← body.renderAt inField Level.test
    .ok (enclose (level > Level.test)
      ("lambda" ++ (if p.isEmpty then "" else " " ++ p) ++ ": " ++ b))
  | .named target value => do
    let t ← target.renderAt inField Level.atom
    let v ← value.renderAt inField Level.atom
    .ok (enclose (level > Level.named) (t ++ " := " ++ v))
  | .listOf element clauses => do
    let e ← element.renderAt inField Level.test
    let c ← renderClauses inField clauses
    .ok ("[" ++ e ++ c ++ "]")
  | .setOf element clauses => do
    let e ← element.renderAt inField Level.test
    let c ← renderClauses inField clauses
    .ok ("\x7b" ++ e ++ c ++ "\x7d")
  | .dictOf key value clauses => do
    let k ← key.renderAt inField Level.test
    let v ← value.renderAt inField Level.test
    let c ← renderClauses inField clauses
    .ok ("\x7b" ++ k ++ ": " ++ v ++ c ++ "\x7d")
  | .generator element clauses => do
    let e ← element.renderAt inField Level.test
    let c ← renderClauses inField clauses
    .ok ("(" ++ e ++ c ++ ")")
  | .await value => do
    let v ← value.renderAt inField Level.atom
    .ok (enclose (level > Level.await) ("await " ++ v))
  | .yield value => do
    let v ← renderHanded inField value
    .ok (enclose (level > Level.yield) ("yield" ++ v))
  | .yieldFrom value => do
    let v ← value.renderAt inField Level.atom
    .ok (enclose (level > Level.yield) ("yield from " ++ v))

/-- Writes expressions that stand by themselves. -/
def renderList (inField : Bool) : List Expr → Except RenderFault (List String)
  | [] => .ok []
  | e :: rest => do
    let first ← e.renderAt inField Level.test
    let others ← renderList inField rest
    .ok (first :: others)

/-- Writes conditions, each a step stronger than the one before. -/
def renderRising (inField : Bool) (level : Nat) : List Expr → Except RenderFault (List String)
  | [] => .ok []
  | e :: rest => do
    let first ← e.renderAt inField (min level Level.atom)
    let others ← renderRising inField (level + 1) rest
    .ok (first :: others)

/-- Writes an expression that may be missing. -/
def renderOption (inField : Bool) : Option Expr → Except RenderFault (Option String)
  | none => .ok none
  | some e => do
    let written ← e.renderAt inField Level.test
    .ok (some written)

/-- Writes a value handed out, behind a blank. -/
def renderHanded (inField : Bool) : Option Expr → Except RenderFault String
  | none => .ok ""
  | some e => do
    let written ← e.renderAt inField Level.atom
    .ok (" " ++ written)

/-- Writes the items of a dictionary. -/
def renderItems (inField : Bool) : List (DictItem Expr) → Except RenderFault (List String)
  | [] => .ok []
  | .pair key value :: rest => do
    let k ← key.renderAt inField Level.test
    let v ← value.renderAt inField Level.test
    let others ← renderItems inField rest
    .ok ((k ++ ": " ++ v) :: others)
  | .unpack value :: rest => do
    let v ← value.renderAt inField Level.arithmetic
    let others ← renderItems inField rest
    .ok (("**" ++ v) :: others)

/-- Writes the comparisons behind the first operand. -/
def renderComparisons (inField : Bool) : List (CompareOp × Expr) → Except RenderFault String
  | [] => .ok ""
  | (op, e) :: rest => do
    let v ← e.renderAt inField Level.arithmetic
    let others ← renderComparisons inField rest
    .ok (" " ++ op.symbol ++ " " ++ v ++ others)

/-- Writes named arguments. -/
def renderKeywords (inField : Bool) : List (Keyword Expr) → Except RenderFault (List String)
  | [] => .ok []
  | ⟨name, value⟩ :: rest => do
    let v ← value.renderAt inField Level.test
    let others ← renderKeywords inField rest
    let start := match name with
      | some name => name ++ "="
      | none => "**"
    .ok ((start ++ v) :: others)

/-- Writes the clauses of a comprehension, each behind a blank. -/
def renderClauses (inField : Bool) : List (Clause Expr) → Except RenderFault String
  | [] => .ok ""
  | ⟨isAsync, target, source, conditions⟩ :: rest => do
    let t ← target.renderAt inField Level.tuple
    let s ← source.renderAt inField (Level.next Level.test)
    let c ← renderConditions inField conditions
    let others ← renderClauses inField rest
    .ok ((if isAsync then " async for " else " for ") ++ t ++ " in " ++ s ++ c ++ others)

/-- Writes the conditions of a clause. -/
def renderConditions (inField : Bool) : List Expr → Except RenderFault String
  | [] => .ok ""
  | e :: rest => do
    let c ← e.renderAt inField (Level.next Level.test)
    let others ← renderConditions inField rest
    .ok (" if " ++ c ++ others)

/-- Writes the parameters of an anonymous function. -/
def renderParameters (inField : Bool) : Parameters Expr → Except RenderFault String
  | ⟨positionalOnly, positional, rest, keywordOnly, keywordRest⟩ => do
    let only ← renderParameterList inField positionalOnly
    let both ← renderParameterList inField positional
    let named ← renderParameterList inField keywordOnly
    let marker := if only.isEmpty then [] else ["/"]
    let star := match rest with
      | some name => ["*" ++ name]
      | none => if named.isEmpty then [] else ["*"]
    let stars := match keywordRest with
      | some name => ["**" ++ name]
      | none => []
    .ok (commaSeparated (only ++ marker ++ both ++ star ++ named ++ stars))

/-- Writes parameters with their defaults. -/
def renderParameterList (inField : Bool) : List (Parameter Expr) → Except RenderFault (List String)
  | [] => .ok []
  | ⟨name, fallback⟩ :: rest => do
    let d ← renderOption inField fallback
    let others ← renderParameterList inField rest
    .ok ((match d with
      | some d => name ++ "=" ++ d
      | none => name) :: others)

/-- Writes the pieces of a text with replacement fields, each with whether it is a constant. -/
def renderPieceList (inField : Bool) :
    List (Piece Expr) → Except RenderFault (List (CodePoints × Bool))
  | [] => .ok []
  | piece :: rest => do
    let first ← renderPiece inField piece
    let others ← renderPieceList inField rest
    .ok (first :: others)

/-- Writes one piece of a text with replacement fields. -/
def renderPiece (inField : Bool) : Piece Expr → Except RenderFault (CodePoints × Bool)
  | .text cs => .ok (doubleBraces cs, true)
  | .field value conversion format => do
    let v ← value.renderAt true (Level.next Level.test)
    if v.toList.contains '\\' then .error .backslashInField
    else
      let asked := match conversion with
        | some c => ['!', c.letter]
        | none => []
      let f ← renderFormat inField format
      .ok (123 :: (CodePoints.ofText (fieldStart v ++ v ++ String.ofList asked) ++ f ++ [125]), false)

/-- Writes the format of a replacement field behind a colon. -/
def renderFormat (inField : Bool) : Option (List (Piece Expr)) → Except RenderFault CodePoints
  | none => .ok []
  | some pieces => do
    let parts ← renderPieceList inField pieces
    .ok (58 :: parts.flatMap Prod.fst)

end

/-- The written form of an expression. -/
def Expr.render (e : Expr) : Except RenderFault String :=
  e.renderAt false Level.test

end FluentBuilder.Syntax
