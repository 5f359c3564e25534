import FluentBuilder.Document.Property
import FluentBuilder.Document.Scalar

/-!
# Tokens from a text

The structure of a document is in its indentation and in its brackets. A key has no indicator of its
own before it: whether what was read is one shows only at the colon behind it. Places where a key may
have begun are therefore kept, one for every bracket that is open, and when the colon comes the token
for a key is put in there. A place is given up at the end of its line and after 1024 characters; at
the column of a mapping it must turn out to be a key. Nothing is said about a token before it is known
whether a key begins at it, so that a fault behind it hides it.
-/

namespace FluentBuilder.Document

/-- A place where a key may have begun. -/
structure PossibleKey where
  /-- The number of tokens before it. -/
  position : Nat
  /-- Must it turn out to be a key? -/
  isRequired : Bool
  /-- The number of characters before it. -/
  index : Nat
  /-- Its line. -/
  line : Nat
  /-- Its column. -/
  column : Nat
  deriving DecidableEq, Repr

/-- A text that is partly read. -/
structure Layout where
  /-- What is not read yet. -/
  cursor : Cursor
  /-- The tokens read, the last one first. -/
  tokens : List Token
  /-- The column of the innermost structure by indentation, -1 outside of all. -/
  indent : Int
  /-- The columns of the structures around it. -/
  outer : List Int
  /-- Can a key begin here? -/
  keyAllowed : Bool
  /-- Where keys may have begun: for the innermost open bracket first, for no bracket last. -/
  keys : List (Option PossibleKey)

namespace Layout

/-- A text before it is read. -/
def start (text : List Char) : Layout := ⟨Cursor.start text, [], -1, [], true, [none]⟩

/-- Is a bracket open? -/
def inFlow (s : Layout) : Bool := 1 < s.keys.length

/-- The column of the next character. -/
def column (s : Layout) : Int := s.cursor.column

/-- Adds a token. -/
def push (s : Layout) (token : Token) : Layout := { s with tokens := token :: s.tokens }

/-- Puts a token behind the first tokens. -/
def insertAt (s : Layout) (position : Nat) (token : Token) : Layout :=
  let later := s.tokens.length - position
  { s with tokens := s.tokens.take later ++ token :: s.tokens.drop later }

/-! ### Possible keys -/

/-- Gives up the possible keys that the place of reading has left. -/
def dropStale (s : Layout) : Except DocumentFault Layout := do
  let keys ← s.keys.mapM fun
    | none => Except.ok none
    | some key =>
      if key.line = s.cursor.line ∧ s.cursor.index - key.index ≤ 1024 then .ok (some key)
      else if key.isRequired then .error .malformed
      else .ok none
  return { s with keys }

/-- Gives up the possible key inside the innermost bracket. -/
def dropKey (s : Layout) : Except DocumentFault Layout :=
  match s.keys with
  | some key :: rest => if key.isRequired then .error .malformed else .ok { s with keys := none :: rest }
  | _ => .ok s

/-- Keeps this place as one where a key may begin. -/
def saveKey (s : Layout) : Except DocumentFault Layout := do
  if !s.keyAllowed then return s
  let s ← s.dropKey
  let key : PossibleKey :=
    ⟨s.tokens.length, !s.inFlow && s.indent == s.column, s.cursor.index, s.cursor.line,
      s.cursor.column⟩
  return { s with keys := some key :: s.keys.tail }

/-! ### Indentation -/

/-- The tokens for the structures that end at a column, and the structures left. -/
def unwound (column indent : Int) (tokens : List Token) : List Int → List Token × Int × List Int
  | [] => (tokens, indent, [])
  | next :: outer =>
    if indent ≤ column then (tokens, indent, next :: outer)
    else unwound column next (.blockEnd :: tokens) outer

/-- Ends the structures that are indented more than a column. Inside brackets indentation means
nothing. -/
def unwind (s : Layout) (column : Int) : Layout :=
  if s.inFlow then s
  else
    let (tokens, indent, outer) := unwound column s.indent s.tokens s.outer
    { s with tokens, indent, outer }

/-- Begins a structure at a column with a token at a position, unless one has begun there. -/
def indentTo (s : Layout) (column : Nat) (position : Nat) (token : Token) : Layout :=
  if s.indent < column then
    { s.insertAt position token with indent := column, outer := s.indent :: s.outer }
  else s

/-! ### Single tokens -/

/-- Moves behind some characters and adds a token. -/
def take (s : Layout) (n : Nat) (token : Token) : Layout :=
  { s with cursor := s.cursor.advanceBy n }.push token

/-- The end of the text. -/
def finish (s : Layout) : Except DocumentFault Layout := do
  let s ← (s.unwind (-1)).dropKey
  return s.push .finish

/-- Three marks at the beginning of a line. -/
def separator (s : Layout) (token : Token) : Except DocumentFault Layout := do
  let s ← (s.unwind (-1)).dropKey
  return { s with keyAllowed := false }.take 3 token

/-- A directive. -/
def directive (s : Layout) : Except DocumentFault Layout := do
  let s ← (s.unwind (-1)).dropKey
  let (token, cursor) ← readDirective s.cursor
  return { s with keyAllowed := false, cursor }.push token

/-- A bracket that opens. -/
def opening (s : Layout) (token : Token) : Except DocumentFault Layout := do
  let s ← s.saveKey
  return { s with keyAllowed := true, keys := none :: s.keys }.take 1 token

/-- A bracket that closes. -/
def closing (s : Layout) (token : Token) : Except DocumentFault Layout := do
  let s ← s.dropKey
  if !s.inFlow then throw .malformed
  return { s with keyAllowed := false, keys := s.keys.tail }.take 1 token

/-- A comma between brackets. -/
def comma (s : Layout) : Except DocumentFault Layout := do
  let s ← s.dropKey
  return { s with keyAllowed := true }.take 1 .comma

/-- A hyphen before an item. -/
def item (s : Layout) : Except DocumentFault Layout := do
  if !s.inFlow && !s.keyAllowed then throw .malformed
  let s := if s.inFlow then s else s.indentTo s.cursor.column s.tokens.length .listStart
  let s ← s.dropKey
  return { s with keyAllowed := true }.take 1 .item

/-- A question mark before a key. -/
def markedKey (s : Layout) : Except DocumentFault Layout := do
  if !s.inFlow && !s.keyAllowed then throw .malformed
  let s := if s.inFlow then s else s.indentTo s.cursor.column s.tokens.length .mapStart
  let s ← s.dropKey
  return { s with keyAllowed := !s.inFlow }.take 1 .key

/-- A colon before a value. What stands before it is a key, if it can be one. -/
def value (s : Layout) : Except DocumentFault Layout := do
  match s.keys with
  | some key :: rest =>
    let s := { s with keys := none :: rest }.insertAt key.position .key
    let s := if s.inFlow then s else s.indentTo key.column key.position .mapStart
    return { s with keyAllowed := false }.take 1 .value
  | _ =>
    if !s.inFlow && !s.keyAllowed then throw .malformed
    let s := if s.inFlow then s else s.indentTo s.cursor.column s.tokens.length .mapStart
    return { s with keyAllowed := !s.inFlow }.take 1 .value

/-- A part of a node that can begin a key. -/
def nodePart (s : Layout) (read : Cursor → Except DocumentFault (Token × Cursor)) :
    Except DocumentFault Layout := do
  let s ← s.saveKey
  let (token, cursor) ← read s.cursor
  return { s with keyAllowed := false, cursor }.push token

/-- A scalar in quotes. -/
def quoted (s : Layout) (isDouble : Bool) : Except DocumentFault Layout :=
  s.nodePart fun c => (quotedScalar isDouble c).map fun (text, c) => (.scalar text false, c)

/-- A block of lines. -/
def block (s : Layout) (isFolded : Bool) : Except DocumentFault Layout := do
  let s ← s.dropKey
  let (text, cursor) ← blockScalar isFolded s.indent s.cursor
  return { s with keyAllowed := true, cursor }.push (.scalar (.ofText text) false)

/-- Can a plain scalar begin here? -/
def canBePlain (s : Layout) (ch : Char) : Bool :=
  let isMark := isFlowMark ch || ['-', '?', ':', '#', '&', '*', '!', '|', '>', '\'', '"', '%', '@',
    Char.ofNat 96].contains ch
  !(isSpace ch || isBreak ch || isMark) ||
    (!isWideGap (s.cursor.char? 1) && (ch == '-' || (!s.inFlow && (ch == '?' || ch == ':'))))

/-- A plain scalar. -/
def plain (s : Layout) : Except DocumentFault Layout := do
  let s ← s.saveKey
  let (text, isNewLine, cursor) := plainScalar s.inFlow s.indent s.cursor
  return { s with keyAllowed := isNewLine, cursor }.push (.scalar (.ofText text) true)

/-! ### All tokens -/

/-- The place behind blanks, remarks and line ends, and whether a line has ended. -/
def skipLines : (fuel : Nat) → (isNewLine : Bool) → Cursor → Bool × Cursor
  | 0, isNewLine, c => (isNewLine, c)
  | fuel + 1, isNewLine, c =>
    let c := (c.skip (· == ' ')).skipRemark
    match c.lineBreak? with
    | some (_, c) => skipLines fuel true c
    | none => (isNewLine, c)

/-- Moves to the next token and ends the structures that end before it. -/
def prepare (s : Layout) : Except DocumentFault Layout := do
  let c := s.cursor
  let c := if c.index = 0 ∧ c.head? = some orderMark then c.advance else c
  let (isNewLine, c) := skipLines (c.rest.length + 1) false c
  let s ← { s with cursor := c, keyAllowed := s.keyAllowed || (isNewLine && !s.inFlow) }.dropStale
  return s.unwind s.column

/-- Reads the token that begins with a character. -/
def next (s : Layout) (ch : Char) : Except DocumentFault Layout :=
  let c := s.cursor
  let isApart := isWideGap (c.char? 1)
  if ch == '%' && c.column == 0 then s.directive
  else if c.column == 0 && c.hasMarks '-' then s.separator .documentStart
  else if c.column == 0 && c.hasMarks '.' then s.separator .documentEnd
  else if ch == '[' then s.opening .openBracket
  else if ch == '\x7b' then s.opening .openBrace
  else if ch == ']' then s.closing .closeBracket
  else if ch == '\x7d' then s.closing .closeBrace
  else if ch == ',' then s.comma
  else if ch == '-' && isApart then s.item
  else if ch == '?' && (s.inFlow || isApart) then s.markedKey
  else if ch == ':' && (s.inFlow || isApart) then s.value
  else if ch == '*' then
    s.nodePart fun c => (readAnchor c).map fun (name, c) => (.reference name, c)
  else if ch == '&' then
    s.nodePart fun c => (readAnchor c).map fun (name, c) => (.anchor name, c)
  else if ch == '!' then s.nodePart readTag
  else if ch == '|' && !s.inFlow then s.block false
  else if ch == '>' && !s.inFlow then s.block true
  else if ch == '\'' then s.quoted false
  else if ch == '"' then s.quoted true
  else if s.canBePlain ch then s.plain
  else .error .malformed

/-- The number of tokens that are settled: a token is not, while it may turn out that a key begins at
it. -/
def settledCount (s : Layout) : Nat :=
  let waiting := s.keys.filterMap fun key => key.filter fun key =>
    key.line = s.cursor.line ∧ s.cursor.index - key.index ≤ 1024
  waiting.foldl (fun n key => min n key.position) s.tokens.length

/-- The settled tokens in order, ended by a fault. -/
def brokenBy (s : Layout) (fault : DocumentFault) : List Token :=
  s.tokens.reverse.take s.settledCount ++ [.broken fault]

/-- Reads the next token, or comes to the end. -/
def step (s : Layout) : Except DocumentFault (Layout × Bool) := do
  let s ← s.prepare
  match s.cursor.head? with
  | none => return (← s.finish, true)
  | some ch => return (← s.next ch, false)

/-- All tokens. Every token but those of the structure takes a character, so that there are no more
steps than characters. -/
def run : (fuel : Nat) → Layout → List Token
  | 0, s => s.brokenBy .malformed
  | fuel + 1, s =>
    match s.step with
    | .error fault => s.brokenBy fault
    | .ok (s, true) => s.tokens.reverse
    | .ok (s, false) => run fuel s

end Layout

/-- The tokens of a text. -/
def tokensOf (text : String) : List Token :=
  let cs := text.toList
  if cs.all isDocumentChar then (Layout.start cs).run (cs.length + 1) else [.broken .malformed]

end FluentBuilder.Document
