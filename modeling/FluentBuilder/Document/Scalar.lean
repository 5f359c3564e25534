import FluentBuilder.Document.Cursor
import FluentBuilder.Document.Fault
import FluentBuilder.Text.CharTable

/-!
# Scalars

A scalar is a text. It is written in one of three ways: between quotes, as a block of lines after an
indicator, or plain. In the first and the last way single line ends are spaces, and of several line
ends the first one is dropped. Texts under construction are kept last character first.
-/

namespace FluentBuilder.Document

/-! ### Quoted scalars -/

/-- The code points that a letter after a backslash stands for. -/
def escapes : List (Char × Nat) :=
  [('0', 0), ('a', 7), ('b', 8), ('t', 9), ('\t', 9), ('n', 10), ('v', 11), ('f', 12), ('r', 13),
    ('e', 27), (' ', 32), ('"', 34), ('\\', 92), ('/', 47), ('N', 0x85), ('_', 0xA0), ('L', 0x2028),
    ('P', 0x2029)]

/-- The number of hexadecimal digits after a letter that names a code point. -/
def escapeWidth? (c : Char) : Option Nat :=
  if c == 'x' then some 2 else if c == 'u' then some 4 else if c == 'U' then some 8 else none

/-- The code point that digits name. -/
def codeOf? (width : Nat) (digits : List Char) : Option Nat :=
  let digits := digits.take width
  if digits.length = width && digits.all fun d => (Text.hexDigit? d).isSome then
    some (digits.foldl (fun n d => 16 * n + (Text.hexDigit? d).getD 0) 0)
  else none

/-- The code point that an escape of digits names. -/
def namedCode (width : Nat) (digits : List Char) : Except DocumentFault Nat :=
  match codeOf? width digits with
  | none => .error .malformed
  | some code => if code > 0x10FFFF then .error (.codePoint code) else .ok code

/-- The line ends from here on, blanks between them left out. No document may begin or end there. -/
def quotedBreaks : (fuel : Nat) → (text : CodePoints) → Cursor →
    Except DocumentFault (CodePoints × Cursor)
  | 0, _, _ => .error .malformed
  | fuel + 1, text, c =>
    if c.isAtSeparator then .error .malformed
    else
      let c := c.skip isSpace
      match c.lineBreak? with
      | some (b, c) => quotedBreaks fuel (b.toNat :: text) c
      | none => .ok (text, c)

/-- Reads up to a blank, the end of a line or the closing quote. -/
def quotedRun (isDouble : Bool) : (fuel : Nat) → (text : CodePoints) → Cursor →
    Except DocumentFault (CodePoints × Cursor)
  | 0, _, _ => .error .malformed
  | fuel + 1, text, c =>
    match c.rest with
    | [] => .ok (text, c)
    | ch :: rest =>
      if ch == '\'' && !isDouble then
        if rest.head? == some '\'' then quotedRun isDouble fuel (ch.toNat :: text) (c.advanceBy 2)
        else .ok (text, c)
      else if ch == '"' && isDouble then .ok (text, c)
      else if isSpace ch || isBreak ch then .ok (text, c)
      else if ch == '\\' && isDouble then
        let c := c.advance
        match rest.head? with
        | none => .error .malformed
        | some letter =>
          match escapes.find? (fun e => e.1 == letter), escapeWidth? letter, c.lineBreak? with
          | some (_, meant), _, _ => quotedRun isDouble fuel (meant :: text) c.advance
          | none, some width, _ => do
            let meant ← namedCode width (rest.drop 1)
            quotedRun isDouble fuel (meant :: text) (c.advanceBy (width + 1))
          | none, none, some (_, c) => do
            let (text, c) ← quotedBreaks (c.rest.length + 1) text c
            quotedRun isDouble fuel text c
          | none, none, none => .error .malformed
      else quotedRun isDouble fuel (ch.toNat :: text) c.advance

/-- Reads blanks and line ends between two runs of a quoted scalar. -/
def quotedGap (text : CodePoints) (c : Cursor) : Except DocumentFault (CodePoints × Cursor) :=
  let (blanks, c) := c.span isSpace
  if c.isAtEnd then .error .malformed
  else match c.lineBreak? with
    | none => .ok ((blanks.map Char.toNat).reverse ++ text, c)
    | some (b, c) => do
      let (breaks, c) ← quotedBreaks (c.rest.length + 1) [] c
      if b != '\n' then return (breaks ++ b.toNat :: text, c)
      else if breaks.isEmpty then return (32 :: text, c)
      else return (breaks ++ text, c)

/-- Reads a quoted scalar behind its first quote. -/
def quotedBody (isDouble : Bool) : (fuel : Nat) → (text : CodePoints) → Cursor →
    Except DocumentFault (CodePoints × Cursor)
  | 0, _, _ => .error .malformed
  | fuel + 1, text, c => do
    let (text, c) ← quotedRun isDouble (c.rest.length + 1) text c
    if c.head? == some (if isDouble then '"' else '\'') then return (text, c.advance)
    else
      let (text, c) ← quotedGap text c
      quotedBody isDouble fuel text c

/-- A quoted scalar. -/
def quotedScalar (isDouble : Bool) (c : Cursor) : Except DocumentFault (CodePoints × Cursor) :=
  (quotedBody isDouble (c.rest.length + 1) [] c.advance).map fun (text, c) => (text.reverse, c)

/-! ### Blocks of lines -/

/-- What happens to the line ends at the end of a block. -/
inductive Chomping where
  /-- One is kept. -/
  | clip
  /-- All are kept. -/
  | keep
  /-- None is kept. -/
  | strip
  deriving DecidableEq, Repr

/-- The chomping that a sign asks for. -/
def chomping? : Option Char → Option Chomping
  | some '+' => some .keep
  | some '-' => some .strip
  | _ => none

/-- The indentation that a digit asks for; a zero is none. -/
def indentation? (c : Option Char) : Except DocumentFault (Option Nat) :=
  match c with
  | some d =>
    if !d.isDigit then .ok none
    else if d == '0' then .error .malformed
    else .ok (some (d.toNat - '0'.toNat))
  | none => .ok none

/-- The sign and the digit at the head of a block, in any order. -/
def blockHeader (c : Cursor) : Except DocumentFault (Chomping × Option Nat × Cursor) := do
  match chomping? c.head? with
  | some chomping =>
    let c := c.advance
    match ← indentation? c.head? with
    | some n => return (chomping, some n, c.advance)
    | none => return (chomping, none, c)
  | none =>
    match ← indentation? c.head? with
    | none => return (.clip, none, c)
    | some n =>
      let c := c.advance
      match chomping? c.head? with
      | some chomping => return (chomping, some n, c.advance)
      | none => return (.clip, some n, c)

/-- The place behind spaces, at most up to a column. -/
def skipTo (column : Nat) (c : Cursor) : Cursor :=
  c.advanceBy ((c.rest.take (column - c.column)).takeWhile (· == ' ')).length

/-- The ends of empty lines from here on. -/
def blockBreaks (indent : Nat) : (fuel : Nat) → (breaks : List Char) → Cursor → List Char × Cursor
  | 0, breaks, c => (breaks, c)
  | fuel + 1, breaks, c =>
    let c := skipTo indent c
    match c.lineBreak? with
    | some (b, c) => blockBreaks indent fuel (b :: breaks) c
    | none => (breaks, c)

/-- The ends of empty lines from here on, and the greatest column that spaces reach. -/
def blockIndentation : (fuel : Nat) → (breaks : List Char) → (widest : Nat) → Cursor →
    List Char × Nat × Cursor
  | 0, breaks, widest, c => (breaks, widest, c)
  | fuel + 1, breaks, widest, c =>
    let (spaces, c) := c.span (· == ' ')
    let widest := if spaces.isEmpty then widest else max widest c.column
    match c.lineBreak? with
    | some (b, c) => blockIndentation fuel (b :: breaks) widest c
    | none => (breaks, widest, c)

/-- A block under construction. -/
structure Block where
  /-- The text up to the last line. -/
  text : List Char
  /-- The end of the last line. -/
  lineBreak : List Char
  /-- The ends of empty lines after it. -/
  breaks : List Char

/-- Reads the lines of a block from its first column on. Where lines are folded, a line end between two
lines that begin with no blank is a space, or nothing if empty lines follow. -/
def blockLines (isFolded : Bool) (indent : Nat) : (fuel : Nat) → Block → Cursor → Block × Cursor
  | 0, b, c => (b, c)
  | fuel + 1, b, c =>
    if c.column ≠ indent || c.isAtEnd then (b, c)
    else
      let isText := !(c.head?.any isSpace)
      let (line, c) := c.span (!isBreak ·)
      let text := line.reverse ++ (b.breaks ++ b.text)
      let (lineBreak, c) := match c.lineBreak? with
        | some (ch, c) => ([ch], c)
        | none => ([], c)
      let (breaks, c) := blockBreaks indent (c.rest.length + 1) [] c
      if c.column ≠ indent || c.isAtEnd then (⟨text, lineBreak, breaks⟩, c)
      else if isFolded && lineBreak == ['\n'] && isText && !(c.head?.any isSpace) then
        blockLines isFolded indent fuel ⟨if breaks.isEmpty then ' ' :: text else text, [], breaks⟩ c
      else blockLines isFolded indent fuel ⟨lineBreak ++ text, [], breaks⟩ c

/-- A block of lines behind its indicator, inside a structure of some indentation. -/
def blockScalar (isFolded : Bool) (outer : Int) (c : Cursor) :
    Except DocumentFault (String × Cursor) := do
  let (chomping, digit, c) ← blockHeader c.advance
  if !isGap c.head? then throw .malformed
  let some c := c.endLine? | throw .malformed
  let least := max 1 (outer + 1).toNat
  let (breaks, indent, c) := match digit with
    | none =>
      let (breaks, widest, c) := blockIndentation (c.rest.length + 1) [] 0 c
      (breaks, max least widest, c)
    | some n =>
      let (breaks, c) := blockBreaks (least + n - 1) (c.rest.length + 1) [] c
      (breaks, least + n - 1, c)
  let (b, c) := blockLines isFolded indent (c.rest.length + 1) ⟨[], [], breaks⟩ c
  let text := match chomping with
    | .strip => b.text
    | .clip => b.lineBreak ++ b.text
    | .keep => b.breaks ++ (b.lineBreak ++ b.text)
  return (String.ofList text.reverse, c)

/-! ### Plain scalars -/

/-- Is it a comma, a bracket or a brace? -/
def isFlowMark (c : Char) : Bool :=
  c == ',' || c == '[' || c == ']' || c == '\x7b' || c == '\x7d'

/-- Does a colon before this character end a plain scalar? -/
def endsKey (inFlow : Bool) (next : Option Char) : Bool :=
  isWideGap next || (inFlow && next.any isFlowMark)

/-- The characters of a plain scalar up to a blank. -/
def plainRun (inFlow : Bool) : List Char → List Char
  | [] => []
  | ch :: rest =>
    if isSpace ch || isBreak ch || (ch == ':' && endsKey inFlow rest.head?) ||
        (inFlow && (ch == '?' || isFlowMark ch)) then []
    else ch :: plainRun inFlow rest

/-- The line ends from here on, spaces between them left out; nothing if a document begins or ends
there. -/
def plainBreaks : (fuel : Nat) → (breaks : List Char) → Cursor → Option (List Char) × Cursor
  | 0, breaks, c => (some breaks, c)
  | fuel + 1, breaks, c =>
    let c := c.skip (· == ' ')
    match c.lineBreak? with
    | some (b, c) => if c.isAtSeparator then (none, c) else plainBreaks fuel (b :: breaks) c
    | none => (some breaks, c)

/-- Blanks and line ends after a run of a plain scalar, and whether a line ends there. -/
def plainGap (c : Cursor) : List Char × Bool × Cursor :=
  let (blanks, c) := c.span (· == ' ')
  match c.lineBreak? with
  | none => (blanks, false, c)
  | some (b, c) =>
    if c.isAtSeparator then ([], true, c)
    else match plainBreaks (c.rest.length + 1) [] c with
      | (none, c) => ([], true, c)
      | (some breaks, c) =>
        if b != '\n' then (breaks ++ [b], true, c)
        else if breaks.isEmpty then ([' '], true, c)
        else (breaks, true, c)

/-- Reads a plain scalar; the last part of the result says whether a line has ended behind it. -/
def plainBody (inFlow : Bool) (indent : Int) : (fuel : Nat) → (text gap : List Char) →
    (isNewLine : Bool) → Cursor → List Char × Bool × Cursor
  | 0, text, _, isNewLine, c => (text, isNewLine, c)
  | fuel + 1, text, gap, isNewLine, c =>
    match plainRun inFlow c.rest with
    | [] => (text, isNewLine, c)
    | run =>
      let text := run.reverse ++ (gap ++ text)
      let (gap, isNewLine, c) := plainGap (c.advanceBy run.length)
      if gap.isEmpty || c.head? == some '#' || (!inFlow && (c.column : Int) < indent) then
        (text, isNewLine, c)
      else plainBody inFlow indent fuel text gap isNewLine c

/-- A plain scalar inside a structure of some indentation, and whether a line has ended behind it. -/
def plainScalar (inFlow : Bool) (outer : Int) (c : Cursor) : String × Bool × Cursor :=
  let (text, isNewLine, c) := plainBody inFlow (outer + 1) (c.rest.length + 1) [] [] false c
  (String.ofList text.reverse, isNewLine, c)

end FluentBuilder.Document
