import FluentBuilder.Syntax.Grammar.Compound
import FluentBuilder.Syntax.Lexer

/-!
# The grammar

`Rule.body` says what each rule reads in terms of all rules, and `Rule.reader` ties the knot. Between
a rule and its next use at the same place of the text there are only finitely many other rules, so
that a number of nested uses that grows with the number of tokens suffices.
-/

namespace FluentBuilder.Syntax.Grammar

open Grammar.Parser

/-- What a rule reads, in terms of all rules. -/
def Rule.body (rules : Rules) : (rule : Rule) → Parser rule.Value
  | .expression => Grammar.expression rules
  | .plainExpression => Grammar.plainExpression rules
  | .starExpression => Grammar.starExpression rules
  | .namedExpression => Grammar.namedExpression rules
  | .faultyNamedExpression => Grammar.faultyNamedExpression rules
  | .disjunction => Grammar.disjunction rules
  | .conjunction => Grammar.conjunction rules
  | .inversion => Grammar.inversion rules
  | .bitOr => Grammar.bitOr rules
  | .bitXor => Grammar.bitXor rules
  | .bitAnd => Grammar.bitAnd rules
  | .shift => Grammar.shift rules
  | .sum => Grammar.sum rules
  | .term => Grammar.term rules
  | .factor => Grammar.factor rules
  | .awaited => Grammar.awaited rules
  | .primary => Grammar.primary rules
  | .quotedTexts => Grammar.quotedTexts
  | .generator => Grammar.generator rules
  | .arguments => Grammar.arguments rules
  | .starTarget => Grammar.starTarget rules
  | .starAtomTarget => Grammar.starAtomTarget rules
  | .singleTarget => Grammar.singleTarget rules
  | .targetPrimary => Grammar.targetPrimary rules (atom rules)
  | .deletedTarget => Grammar.deletedTarget rules
  | .annotationTarget => Grammar.annotationTarget rules
  | .pattern => Grammar.pattern rules
  | .closedPattern => Grammar.closedPattern rules
  | .statements => Grammar.statements rules
  | .simpleStatement => Grammar.simpleStatement rules
  | .block => Grammar.block rules

/-- The rules, nested at most `depth` deep. -/
def Rule.reader : (depth : Nat) → Rules
  | 0 => fun _ _ _ progress => .missed progress
  | depth + 1 => fun rule input place progress =>
    memoised rule (Rule.body (Rule.reader depth) rule) input place progress

/-- The statements of a module. -/
def wholeModule (rules : Rules) : Parser (List Statement) := do
  let statements ← optional (rules .statements)
  let _ ← ofKind .finish
  return statements.getD []

/-- A single expression. -/
def wholeExpression (rules : Rules) : Parser Expr := do
  let value ← expressions rules
  let _ ← many (ofKind .newline)
  let _ ← ofKind .finish
  return value.expr

/-- The expression of a replacement field, in parentheses. -/
def fieldExpression (rules : Rules) : Parser Expr := do
  return (← starExpressions rules).expr

/-! ### Reading a text -/

/-- The fault of a text that a rule of the grammar names. A fault of the characters further on takes
precedence, and so does a bracket that is left open on a line before. -/
def settle (scan : Scan) (progress : Progress) (fault : Fault) : Fault :=
  match scan.stop with
  | none => fault
  | some stop =>
    if stop.lexical then stop.fault
    else match stop.innermost, scan.tokens[progress.reach - 1]? with
      | some (bracket, unclosed), some t => if t.line > bracket.line then unclosed else fault
      | _, _ => fault

/-- Does a token end only where the character behind it does not belong to it? Quoted constants end
with their quotes, unless these are two, and three signs are the most that belong together. -/
def looksBehind (t : Token) : Bool :=
  match t.kind with
  | .quoted => (t.text.toList.dropWhile Char.isAlpha).length = 2
  | .sign => t.text.length < 3
  | _ => true

/-- Did the reader come to the end of the text to find where a token ends? -/
def sawEnd (source : SourceText) (t : Token) : Bool :=
  looksBehind t && t.horizon.line = source.lines.size &&
    t.horizon.column = Utf8.size (source.lines.back?.getD [])

/-- The fault of a reading that ended early. A reader that came to the end of the text does not look
for faults further on. -/
def haltFault (source : SourceText) (scan : Scan) (progress : Progress) : Halt → Fault
  | .reader stop => stop.fault
  | .grammar fault =>
    if (scan.tokens[progress.reach - 1]?).any (sawEnd source) then fault
    else settle scan progress fault

/-- The fault that a parser raises at a place. -/
def raisedBy (p : Parser Empty) (input : Input) (progress : Progress) : Fault :=
  match p input 0 progress with
  | .halted (.grammar fault) _ => fault
  | _ => ⟨.invalidSyntax, 1, 1⟩

/-- Reads a whole text by a parser. A text that does not match is read once more to find out what is
wrong with it; if no mistake is recognised, the last token looked at is wrong. -/
def readText {α : Type} (whole : Rules → Parser α) (readField : Literal.FieldReader)
    (source : SourceText) : Except Fault α :=
  let scan := Scan.ofSource source
  let count := scan.tokens.size
  let parser := whole (Rule.reader (64 * (count + 2)))
  let input : Input := ⟨source, scan, false, readField⟩
  let blank : Array (List Reading) := Array.replicate (count + 1) []
  match parser input 0 ⟨0, blank⟩ with
  | .matched value _ _ => .ok value
  | .halted halt progress => .error (haltFault source scan progress halt)
  | .missed first =>
    match parser { input with diagnosing := true } 0 ⟨first.reach, blank⟩ with
    | .halted halt progress => .error (haltFault source scan progress halt)
    | .matched _ _ progress | .missed progress =>
      let unexpected (cause : Cause) : Fault := raisedBy (faultHere cause) input progress
      match (scan.tokens[first.reach - 1]?).map Token.kind with
      | some .indent => .error (unexpected .unexpectedIndent)
      | some .dedent => .error (unexpected .unexpectedUnindent)
      | _ =>
        let fault := raisedBy (faultAt .invalidSyntax (first.reach - 1)) input progress
        .error (settle scan progress fault)

end FluentBuilder.Syntax.Grammar
