import FluentBuilder.Syntax.Grammar

/-!
# Reading source texts

`parseModule` reads the statements of a module, `parseExpression` reads a single expression. Either
gives the tree or says why the text cannot be read.
-/

namespace FluentBuilder.Syntax

/-- Why a text cannot be read. -/
inductive ParseError where
  /-- It holds the character of code zero. -/
  | nullCharacter
  /-- Something in it is wrong. -/
  | fault (fault : Fault)
  deriving DecidableEq, Repr

/-- Reads the expression of a replacement field. A field inside a field is shorter than the one around
it, so that `depth` need not exceed the length of the text. -/
def readField : (depth : Nat) → Literal.FieldReader
  | 0, line, column, _ => .error ⟨.field "expressions nested too deeply", line, column⟩
  | depth + 1, line, column, written =>
    let text := '(' :: written ++ [')', '\n']
    Grammar.readText Grammar.fieldExpression (readField depth)
      (.ofField (splitLines text) line column)

/-- Reads a text by a parser. -/
def readWith {α : Type} (whole : Grammar.Rules → Grammar.Parser α) (text : List Char)
    (file : Option (List UInt8)) : Except ParseError α :=
  if text.any (· == '\x00') then .error .nullCharacter
  else
    (Grammar.readText whole (readField (text.length + 1)) (.ofText (splitLines text) file)).mapError
      .fault

/-- The statements of a module; `file` holds what the file of its name holds, if there is one. -/
def parseModule (text : String) (file : Option (List UInt8)) : Except ParseError (List Statement) :=
  let written := text.toList
  readWith Grammar.wholeModule (endLastLine written (unifyLineEnds written)) file

/-- A single expression. -/
def parseExpression (text : String) : Except ParseError Expr :=
  readWith Grammar.wholeExpression (unifyLineEnds text.toList) none

end FluentBuilder.Syntax
