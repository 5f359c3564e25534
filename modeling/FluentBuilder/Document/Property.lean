import FluentBuilder.Document.Cursor
import FluentBuilder.Document.Token
import FluentBuilder.Text.CharTable
import FluentBuilder.Text.Utf8

/-!
# Anchors, tags and directives

The parts of a document that are no data: names for nodes, tags that say of which kind a node is, and
what is said before a document begins.
-/

namespace FluentBuilder.Document

/-! ### Names -/

/-- A name that is not empty. -/
def readName (c : Cursor) : Except DocumentFault (String × Cursor) :=
  match c.span isNameChar with
  | ([], _) => .error .malformed
  | (name, c) => .ok (String.ofList name, c)

/-- Can this follow the name of a node? -/
def endsAnchor (next : Option Char) : Bool :=
  isWideGap next ||
    next.any fun ch => ch == '\x7d' || ['?', ':', ',', ']', '%', '@', Char.ofNat 96].contains ch

/-- The name of a node behind its indicator. -/
def readAnchor (c : Cursor) : Except DocumentFault (String × Cursor) := do
  let (name, c) ← readName c.advance
  if endsAnchor c.head? then return (name, c) else throw .malformed

/-! ### Tags -/

/-- Can the character stand in a tag? -/
def isTagChar (c : Char) : Bool :=
  c.isAlphanum || ['-', ';', '/', '?', ':', '@', '&', '=', '+', '$', ',', '_', '.', '!', '~', '*',
    '\'', '(', ')', '[', ']'].contains c

/-- The byte that two digits behind a percent sign name. -/
def escapedByte? (cs : List Char) : Option UInt8 :=
  match cs with
  | '%' :: a :: b :: _ => do
    let high ← Text.hexDigit? a
    let low ← Text.hexDigit? b
    return (16 * high + low).toUInt8
  | _ => none

/-- The bytes that digits behind percent signs name, as many as there are. -/
def escapedBytes : (fuel : Nat) → List Char → Except DocumentFault (List UInt8)
  | 0, _ => .ok []
  | fuel + 1, cs =>
    if cs.head? != some '%' then .ok []
    else match escapedByte? cs with
      | some b => (escapedBytes fuel (cs.drop 3)).map (b :: ·)
      | none => .error .malformed

/-- The characters of a tag, which are read while they can stand in one; percent signs escape the bytes
of others. -/
def tagChars : (fuel : Nat) → (text : List Char) → Cursor → Except DocumentFault (List Char × Cursor)
  | 0, text, c => .ok (text, c)
  | fuel + 1, text, c => do
    let (run, c) := c.span isTagChar
    let text := text ++ run
    if c.head? != some '%' then return (text, c)
    let bytes ← escapedBytes (c.rest.length + 1) c.rest
    match Utf8.decode bytes with
    | .ok escaped => tagChars fuel (text ++ escaped.toList) (c.advanceBy (3 * bytes.length))
    | .error _ => throw .malformed

/-- The text of a tag, which is not empty. -/
def readTagText (c : Cursor) : Except DocumentFault (String × Cursor) := do
  if !(c.head?.any fun ch => isTagChar ch || ch == '%') then throw .malformed
  let (text, c) ← tagChars (c.rest.length + 1) [] c
  return (String.ofList text, c)

/-- The handle of a tag: an exclamation mark, or a name between two of them. -/
def readHandle (c : Cursor) : Except DocumentFault (String × Cursor) :=
  match c.rest with
  | '!' :: rest =>
    let name := rest.takeWhile isNameChar
    match rest[name.length]? with
    | some '!' => .ok (String.ofList ('!' :: name ++ ['!']), c.advanceBy (name.length + 2))
    | some ' ' => if name.isEmpty then .ok ("!", c.advance) else .error .malformed
    | _ => .error .malformed
  | _ => .error .malformed

/-- Does a handle between two exclamation marks begin here? -/
def hasHandle (c : Cursor) : Bool :=
  ((c.rest.drop 1).takeWhile fun ch => !isGap (some ch)).contains '!'

/-- The tag of a node. -/
def readTag (c : Cursor) : Except DocumentFault (Token × Cursor) := do
  let (token, c) ← (do
    if c.char? 1 == some '<' then
      let (text, c) ← readTagText (c.advanceBy 2)
      if c.head? != some '>' then throw .malformed
      return (.tag none text, c.advance)
    else if isWideGap (c.char? 1) then return (.tag none "!", c.advance)
    else
      let (handle, c) ← if hasHandle c then readHandle c else pure ("!", c.advance)
      let (text, c) ← readTagText c
      return (.tag (some handle) text, c) : Except DocumentFault (Token × Cursor))
  if isGap c.head? then return (token, c) else throw .malformed

/-! ### Directives -/

/-- A number that is not empty. -/
def readNumber (c : Cursor) : Except DocumentFault (Nat × Cursor) :=
  match c.span Char.isDigit with
  | ([], _) => .error .malformed
  | (digits, c) =>
    if digitLimit < digits.length then .error (.longNumber digits.length)
    else .ok (digits.foldl (fun n d => 10 * n + (d.toNat - '0'.toNat)) 0, c)

/-- The version of the notation. -/
def readVersion (c : Cursor) : Except DocumentFault (Directive × Cursor) := do
  let (major, c) ← readNumber (c.skip (· == ' '))
  if c.head? != some '.' then throw .malformed
  let (_, c) ← readNumber c.advance
  if isGap c.head? then return (.version major, c) else throw .malformed

/-- A handle of tags and what it stands for. -/
def readHandleMeaning (c : Cursor) : Except DocumentFault (Directive × Cursor) := do
  let (handle, c) ← readHandle (c.skip (· == ' '))
  if c.head? != some ' ' then throw .malformed
  let (text, c) ← readTagText (c.skip (· == ' '))
  if isGap c.head? then return (.handle handle text, c) else throw .malformed

/-- A directive with the end of its line. -/
def readDirective (c : Cursor) : Except DocumentFault (Token × Cursor) := do
  let (name, c) ← readName c.advance
  if !isGap c.head? then throw .malformed
  let (directive, c) ←
    if name == "YAML" then readVersion c
    else if name == "TAG" then readHandleMeaning c
    else pure (Directive.other, c.skip (!isBreak ·))
  match c.endLine? with
  | some c => return (.directive directive, c)
  | none => throw .malformed

end FluentBuilder.Document
