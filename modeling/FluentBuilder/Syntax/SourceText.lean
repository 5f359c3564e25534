import FluentBuilder.Syntax.Fault
import FluentBuilder.Text.Utf8

/-!
# Source texts and the places in them

A source text is read line by line. Faults are found at bytes and reported at characters, and the
characters are counted in the line as it can be looked up when the fault is reported: in the file of
the text's name where there is one, and in what the reader holds where there is none. The file need
not hold the text that was read, and of a long line only the last portion is looked at
(`StoredLine`).

The expression of a replacement field is a text of its own. Its lines are counted from the line on
which the field stands, and faults in it are reported at bytes.
-/

namespace FluentBuilder.Syntax

/-- What the reader has read at some moment. -/
structure Horizon where
  /-- The number of lines begun. -/
  line : Nat
  /-- The bytes read of the last line. -/
  column : Nat
  /-- The text that the reader holds: the current line, and the lines before it back to the
  beginning of a token that extends over several lines. -/
  window : List Char
  deriving Repr, Inhabited

/-! ### Lines of files -/

namespace StoredLine

/-- The number of bytes that are read of a line at once. -/
def portionSize : Nat := 999

/-- Every line end as a single line feed. -/
def unifyLineEnds : List UInt8 → List UInt8
  | [] => []
  | 13 :: 10 :: rest => 10 :: unifyLineEnds rest
  | b :: rest => (if b = 13 then 10 else b) :: unifyLineEnds rest

/-- The portions in which bytes are read: each ends with a line or is full, apart from the last one.
`taken` holds the bytes of the current one in reverse, and `free` says how many more it takes. -/
def portionsFrom (taken : List UInt8) (free : Nat) : List UInt8 → List (List UInt8)
  | [] => if taken.isEmpty then [] else [taken.reverse]
  | b :: rest =>
    if b = 10 || free ≤ 1 then (b :: taken).reverse :: portionsFrom [] portionSize rest
    else portionsFrom (b :: taken) (free - 1) rest

/-- The portions in which the bytes of a file are read. -/
def portions (bytes : List UInt8) : List (List UInt8) :=
  portionsFrom [] portionSize (unifyLineEnds bytes)

/-- Does the line of a portion go on in the next one? -/
def goesOn (portion : List UInt8) : Bool :=
  portion.length = portionSize && portion.getLast? != some 10 && portion.getLast? != some 0

/-- The last portion of a line. -/
def lastPortion : (line : Nat) → List (List UInt8) → Option (List UInt8)
  | _, [] => none
  | line, portion :: rest =>
    if goesOn portion then lastPortion line rest
    else if line ≤ 1 then some portion
    else lastPortion (line - 1) rest

/-- What is looked at of a line of a file; bytes that are not UTF-8 stand for a mark each. -/
def ofFile (bytes : List UInt8) (line : Nat) : Option (List Char) :=
  if line = 0 then none
  else (lastPortion line (portions bytes)).map fun portion =>
    Utf8.decodeMarking (portion.takeWhile (· ≠ 0))

end StoredLine

/-! ### Source texts -/

/-- A source text by lines, each with its line end. -/
structure SourceText where
  /-- The lines. -/
  lines : Array (List Char)
  /-- The number of its first line. -/
  firstLine : Nat
  /-- For the expression of a replacement field, the bytes before it on its first line. -/
  fieldColumn : Option Nat
  /-- The bytes of the file of the text's name, if there is one. -/
  file : Option (List UInt8)

/-- The number of characters that begin within the first bytes of a line. One byte past the end of
the line counts as a character, and no more than that are looked at. -/
def characterCount (line : List Char) (bytes : Nat) : Nat :=
  let rec count : List Char → Nat → Nat
    | [], left => min left 1
    | c :: rest, left => if left = 0 then 0 else 1 + count rest (left - Utf8.width c)
  count line bytes

namespace SourceText

/-- A text with the file of its name. -/
def ofText (text : List (List Char)) (file : Option (List UInt8)) : SourceText :=
  ⟨text.toArray, 1, none, file⟩

/-- The expression of a replacement field, with the line and the bytes before it. -/
def ofField (text : List (List Char)) (line column : Nat) : SourceText :=
  ⟨text.toArray, line, some column, none⟩

/-- The text in which the columns of a line are counted: the line of the file, or else all that the
reader holds, and for a line behind the reader the line itself. -/
def lineText (source : SourceText) (horizon : Horizon) (line : Nat) : List Char :=
  match source.file.bind (StoredLine.ofFile · line) with
  | some text => text
  | none =>
    if horizon.line ≤ line && !horizon.window.isEmpty then horizon.window
    else source.lines.getD (line - source.firstLine) []

/-- The bytes before a place, `last` being the line on which the token there ends. On the first line
of a replacement field they begin with those before the field. -/
def columnOf (source : SourceText) (last column : Nat) : Nat :=
  match source.fieldColumn with
  | some before => if last = source.firstLine then before + column else column
  | none => column

/-- A fault reported at a byte of a line, bytes being counted from one. `last` is the line on which
the token at that place ends. Faults in a replacement field count from the field, also those on lines
below it. -/
def fault (source : SourceText) (horizon : Horizon) (cause : Cause) (line bytes last : Nat) : Fault :=
  match source.fieldColumn with
  | some before => ⟨.inField cause, line, (source.columnOf last bytes : Int) - before⟩
  | none => ⟨cause, line, characterCount (source.lineText horizon line) bytes⟩

end SourceText
end FluentBuilder.Syntax
