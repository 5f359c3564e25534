/-!
# Places in a document text

Indentation gives a document its shape, so that reading it needs the column of every character. A
cursor is what is left of the text, with the number of characters before it and its line and column.
Lines end at a line feed, a carriage return, the next-line character and the two separators; the
separators stay what they are, the others count as a line feed.
-/

namespace FluentBuilder.Document

/-! ### Characters -/

/-- The mark at the beginning of a text that says how it is encoded. It takes no column. -/
def orderMark : Char := '\ufeff'

/-- Does the character end a line? -/
def isBreak (c : Char) : Bool :=
  c == '\n' || c == '\r' || c == '\x85' || c == '\u2028' || c == '\u2029'

/-- Is the character a space or a tab? -/
def isSpace (c : Char) : Bool := c == ' ' || c == '\t'

/-- Is there no character, or one that ends a line? -/
def isLineEnd : Option Char → Bool
  | none => true
  | some c => isBreak c

/-- Is there no character, a space or the end of a line? -/
def isGap : Option Char → Bool
  | none => true
  | some c => c == ' ' || isBreak c

/-- Is there no character, a space, a tab or the end of a line? -/
def isWideGap : Option Char → Bool
  | none => true
  | some c => isSpace c || isBreak c

/-- Is there a letter, a digit, a hyphen or an underscore? -/
def isNameChar (c : Char) : Bool :=
  c.isAlphanum || c == '-' || c == '_'

/-- Can the character stand in a document? -/
def isDocumentChar (c : Char) : Bool :=
  let n := c.toNat
  n == 9 || n == 10 || n == 13 || (32 ≤ n && n ≤ 126) || n == 0x85 || (0xA0 ≤ n && n ≤ 0xD7FF) ||
    (0xE000 ≤ n && n ≤ 0xFFFD) || 0x10000 ≤ n

/-! ### Cursors -/

/-- A place in a text. -/
structure Cursor where
  /-- The characters from here on. -/
  rest : List Char
  /-- The number of characters before. -/
  index : Nat
  /-- The number of lines before. -/
  line : Nat
  /-- The number of characters before in this line. -/
  column : Nat
  deriving DecidableEq, Repr

namespace Cursor

/-- The beginning of a text. -/
def start (text : List Char) : Cursor := ⟨text, 0, 0, 0⟩

/-- The character some places from here. -/
def char? (c : Cursor) (n : Nat) : Option Char := c.rest[n]?

/-- The next character. -/
def head? (c : Cursor) : Option Char := c.rest.head?

/-- Is the text at its end? -/
def isAtEnd (c : Cursor) : Bool := c.rest.isEmpty

/-- The place behind one character. A carriage return before a line feed does not end the line yet. -/
def advance (c : Cursor) : Cursor :=
  match c.rest with
  | [] => c
  | ch :: rest =>
    if isBreak ch && !(ch == '\r' && rest.head? == some '\n') then ⟨rest, c.index + 1, c.line + 1, 0⟩
    else ⟨rest, c.index + 1, c.line, if ch == orderMark then c.column else c.column + 1⟩

/-- The place behind some characters. -/
def advanceBy : Nat → Cursor → Cursor
  | 0, c => c
  | n + 1, c => advanceBy n c.advance

/-- The longest run of characters that satisfy `keep`, and the place behind it. -/
def span (c : Cursor) (keep : Char → Bool) : List Char × Cursor :=
  let run := c.rest.takeWhile keep
  (run, c.advanceBy run.length)

/-- The place behind all characters here that satisfy `drop`. -/
def skip (c : Cursor) (drop : Char → Bool) : Cursor := (c.span drop).2

/-- The end of a line here, as it counts, and the place behind it. -/
def lineBreak? (c : Cursor) : Option (Char × Cursor) :=
  match c.rest with
  | '\r' :: '\n' :: _ => some ('\n', c.advanceBy 2)
  | ch :: _ =>
    if ch == '\u2028' || ch == '\u2029' then some (ch, c.advance)
    else if isBreak ch then some ('\n', c.advance)
    else none
  | [] => none

/-- Do three marks stand here with a gap behind them? -/
def hasMarks (c : Cursor) (mark : Char) : Bool :=
  c.rest.take 3 == [mark, mark, mark] && isWideGap (c.char? 3)

/-- Does a document begin or end here? Only asked at the beginning of a line. -/
def isAtSeparator (c : Cursor) : Bool := c.hasMarks '-' || c.hasMarks '.'

/-- The place behind a remark that may stand here. -/
def skipRemark (c : Cursor) : Cursor :=
  if c.head? == some '#' then c.skip (!isBreak ·) else c

/-- The place at the next line, if nothing but blanks and a remark stand here. -/
def endLine? (c : Cursor) : Option Cursor :=
  let c := (c.skip (· == ' ')).skipRemark
  if isLineEnd c.head? then
    match c.lineBreak? with
    | some (_, c) => some c
    | none => some c
  else none

end Cursor
end FluentBuilder.Document
