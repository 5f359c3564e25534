import FluentBuilder.Syntax.Token
import FluentBuilder.Text.Identifier
import FluentBuilder.Text.Printable

/-!
# Reading tokens

`Scan.ofSource` divides a source text into tokens. The reader goes line by line: it measures the
indentation of every logical line, keeps the open brackets, inside which line ends mean nothing, and
takes the longest lexeme at every place.

The text ends in a line end when it is a module and may end anywhere when it is an expression.
Line ends are a line feed, a carriage return or both.
-/

namespace FluentBuilder.Syntax

/-! ### Lines -/

/-- Every line end as a single line feed. -/
def unifyLineEnds : List Char → List Char
  | [] => []
  | '\r' :: '\n' :: rest => '\n' :: unifyLineEnds rest
  | c :: rest => (if c == '\r' then '\n' else c) :: unifyLineEnds rest

/-- The text of a module ends its last line. A text whose last line end was written with two
characters is given one more, which makes an empty last line. -/
def endLastLine (written unified : List Char) : List Char :=
  let double := written.length ≥ 2 && written.drop (written.length - 2) == ['\r', '\n']
  if unified.getLast? == some '\n' && !double then unified else unified ++ ['\n']

/-- The lines of a text, each with its line end. -/
def splitLines (cs : List Char) : List (List Char) :=
  let (lines, last) := cs.foldl (fun (lines, current) c =>
    if c == '\n' then ((c :: current).reverse :: lines, []) else (lines, c :: current)) ([], [])
  (if last.isEmpty then lines else last.reverse :: lines).reverse

/-! ### The reader -/

/-- The state of reading. -/
structure Reader where
  /-- The text as a whole. -/
  source : SourceText
  /-- What is left of the current line. -/
  rest : List Char
  /-- The lines that are not begun. -/
  later : List (List Char)
  /-- The number of lines begun. -/
  line : Nat
  /-- The bytes read of the current line. -/
  column : Nat
  /-- The characters read of the current line. -/
  offset : Nat
  /-- The text held; see `Horizon.window`. -/
  window : List Char
  /-- The open levels of indentation, innermost first: the column with tabs that reach multiples of
  eight, and the column with tabs that count as one. -/
  indents : List (Nat × Nat)
  /-- Is an `indent` due? -/
  indentDue : Bool
  /-- The number of `dedent`s that are due. -/
  dedentsDue : Nat
  /-- The open brackets, innermost first. -/
  brackets : List Bracket
  /-- Does a line begin here? -/
  atLineStart : Bool
  /-- A number of steps that suffices to read the text. -/
  limit : Nat

namespace Reader

/-- The reader before a text. -/
def start (source : SourceText) : Reader where
  source := source
  rest := []
  later := source.lines.toList
  line := source.firstLine - 1
  column := 0
  offset := 0
  window := []
  indents := []
  indentDue := false
  dedentsDue := 0
  brackets := []
  atLineStart := true
  limit := source.lines.foldl (fun n l => n + l.length) 0 + source.lines.size + 2

/-- What was read so far. -/
def horizon (r : Reader) : Horizon :=
  ⟨r.line, r.column, r.window⟩

/-- Begins the next line, if the current one is used up; `within` a token the text held grows. -/
def ready (r : Reader) (within : Bool) : Reader :=
  match r.rest, r.later with
  | [], next :: later =>
    { r with
      rest := next
      later := later
      line := r.line + 1
      column := 0
      offset := 0
      window := if within then r.window ++ next else next }
  | _, _ => r

/-- Reads the first `n` characters of the rest of the line. -/
def advance (r : Reader) (n : Nat) : Reader :=
  let taken := r.rest.take n
  { r with
    rest := r.rest.drop n
    column := r.column + Utf8.size taken
    offset := r.offset + taken.length }

/-- Gives up the rest of the line. -/
def toLineEnd (r : Reader) : Reader :=
  r.advance r.rest.length

/-- The innermost open bracket with the fault of leaving it open. -/
def innermost (r : Reader) : Option (Bracket × Fault) :=
  r.brackets.head?.map fun b =>
    (b, r.source.fault r.horizon (.neverClosed b.sign) b.line (b.column + 1) b.line)

/-- A fault of the characters that ends at the reader's place. -/
def lexicalStop (r : Reader) (cause : Cause) : Stop :=
  ⟨⟨cause, r.line, r.offset⟩, true, r.innermost⟩

/-- A fault of the layout, reported at a byte of the current line. -/
def layoutStop (r : Reader) (cause : Cause) (bytes : Nat) : Stop :=
  ⟨r.source.fault r.horizon cause r.line bytes r.line, false, r.innermost⟩

/-- The end of the text at a place where more has to come. -/
def endStop (r : Reader) : Stop :=
  match r.innermost with
  | some (_, fault) => ⟨fault, false, r.innermost⟩
  | none => r.layoutStop .unexpectedEnd r.column

/-- A token that begins at byte `column` of `line` and ends at the reader's place. -/
def token (r : Reader) (kind : TokenKind) (text : List Char) (line : Nat) (column : Option Nat) :
    Token :=
  ⟨kind, String.ofList text, line, column, r.brackets.length, r.horizon⟩

/-- Goes past a backslash, which has to end its line, to the line after it; `within` a token the
text held grows. -/
def continueLine (r : Reader) (within : Bool) : Except Stop Reader :=
  match r.rest with
  | _ :: '\n' :: _ =>
    let r := r.toLineEnd
    match r.later with
    | [] => .error r.endStop
    | _ :: _ => .ok (r.ready within)
  | _ =>
    let past := Utf8.size r.window - Utf8.size r.rest
    let next := if r.rest.length < 2 then 1 else 2
    .error (r.layoutStop .characterAfterContinuation (past + next))

/-! ### Indentation -/

/-- The indentation of a line. -/
structure Indentation where
  /-- The column with tabs to multiples of eight. -/
  wide : Nat
  /-- The column with tabs as single characters. -/
  narrow : Nat
  /-- The column before the first backslash, where one ends the line. -/
  broken : Nat

/-- Measures the blanks at the beginning of a line. -/
def measure (r : Reader) (i : Indentation) : (fuel : Nat) → Except Stop (Reader × Indentation)
  | 0 => .ok (r, i)
  | fuel + 1 =>
    match r.rest with
    | ' ' :: _ => (r.advance 1).measure { i with wide := i.wide + 1, narrow := i.narrow + 1 } fuel
    | '\t' :: _ =>
      (r.advance 1).measure { i with wide := (i.wide / 8 + 1) * 8, narrow := i.narrow + 1 } fuel
    | '\x0c' :: _ => (r.advance 1).measure { i with wide := 0, narrow := 0 } fuel
    | '\\' :: _ =>
      match r.continueLine false with
      | .ok next => next.measure { i with broken := if i.broken = 0 then i.wide else i.broken } fuel
      | .error stop => .error stop
    | _ => .ok (r, i)

/-- Compares the indentation of a logical line with the open levels. -/
def indentTo (r : Reader) (wide narrow : Nat) : Except Stop Reader :=
  let (openWide, openNarrow) := r.indents.headD (0, 0)
  let mixed := r.toLineEnd.layoutStop .mixedIndentation 1
  if wide = openWide then
    if narrow = openNarrow then .ok r else .error mixed
  else if wide > openWide then
    if r.indents.length + 1 ≥ 100 then .error (r.toLineEnd.layoutStop .tooManyIndents 1)
    else if narrow ≤ openNarrow then .error mixed
    else .ok { r with indents := (wide, narrow) :: r.indents, indentDue := true }
  else
    let kept := r.indents.dropWhile fun level => wide < level.1
    let (openWide, openNarrow) := kept.headD (0, 0)
    if wide ≠ openWide then
      let r := r.toLineEnd
      .error (r.layoutStop .unknownIndentation r.column)
    else if narrow ≠ openNarrow then .error mixed
    else .ok { r with indents := kept, dedentsDue := r.indents.length - kept.length }

/-- Begins a line, and says whether it is blank. Blank lines and lines inside brackets have no
indentation. -/
def beginLine (r : Reader) : Except Stop (Reader × Bool) := do
  let (r, i) ← (r.ready false).measure ⟨0, 0, 0⟩ r.limit
  let r := { r with atLineStart := false }
  let blank := match r.rest with
    | '#' :: _ => true
    | '\n' :: _ => true
    | _ => false
  if blank || !r.brackets.isEmpty then .ok (r, blank)
  else
    let r ← if i.broken = 0 then r.indentTo i.wide i.narrow else r.indentTo i.broken i.broken
    .ok (r, blank)

/-! ### Numbers -/

/-- Characters at which a word may begin before it is checked to be one. -/
def isWordStart (c : Char) : Bool :=
  c.isAlpha || c == '_' || c.toNat ≥ 128

/-- Characters with which a word may go on before it is checked to be one. -/
def isWordPart (c : Char) : Bool :=
  c.isAlphanum || c == '_' || c.toNat ≥ 128

/-- A fault in a number: the cause and the number of characters read up to it. -/
abbrev NumberFault := Cause × Nat

/-- The number of characters that digits take, with single underscores between them, behind `n`
characters. -/
def digits (isDigit : Char → Bool) (fault : Cause) (n : Nat) : List Char → Except NumberFault Nat
  | '_' :: c :: rest =>
    if isDigit c then digits isDigit fault (n + 2) rest else .error (fault, n + 1)
  | c :: rest =>
    if c == '_' then .error (fault, n + 1)
    else if isDigit c then digits isDigit fault (n + 1) rest
    else .ok n
  | [] => .ok n

/-- Does the text begin with the rest of a word that may follow a number directly? -/
def wordFollows (word : String) (cs : List Char) : Bool :=
  word.toList.isPrefixOf cs &&
    match cs.drop word.length with
    | c :: _ => !isWordPart c
    | [] => true

/-- Behind a number of `n` characters no word may begin, a few reserved words apart. -/
def numberEnd (kind : NumberKind) (n : Nat) (cs : List Char) : Except NumberFault Nat :=
  let rest := cs.drop n
  let allowed :=
    ["and", "else", "for", "or", "not"].any (fun w => wordFollows w rest) ||
      ["if", "in", "is"].any (fun w => w.toList.isPrefixOf rest)
  match rest with
  | c :: _ => if !allowed && isWordPart c then .error (.invalidNumber kind, n) else .ok n
  | [] => .ok n

/-- A number in base two, eight or sixteen behind its two first characters. -/
def basedNumber (kind : NumberKind) (isDigit : Char → Bool) (cs : List Char) :
    Except NumberFault Nat :=
  let wrong (n : Nat) : Except NumberFault Nat :=
    match cs.drop n with
    | c :: _ =>
      if c.isDigit && kind != .hexadecimal then .error (.invalidDigit c kind, n + 1)
      else .error (.invalidNumber kind, n)
    | [] => .error (.invalidNumber kind, n)
  let rec groups (n : Nat) : (fuel : Nat) → Except NumberFault Nat
    | 0 => .ok n
    | fuel + 1 =>
      let start := if cs[n]? == some '_' then n + 1 else n
      let length := ((cs.drop start).takeWhile isDigit).length
      if length = 0 then wrong start
      else if cs[start + length]? == some '_' then groups (start + length) fuel
      else .ok (start + length)
  do
    let n ← groups 2 cs.length
    match cs.drop n with
    | c :: _ => if c.isDigit && kind != .hexadecimal then .error (.invalidDigit c kind, n + 1)
    | [] => .ok ()
    numberEnd kind n cs

/-- The end of a decimal number behind its exponent. -/
def imaginaryEnd (n : Nat) (cs : List Char) : Except NumberFault Nat :=
  match cs.drop n with
  | c :: _ =>
    if c == 'j' || c == 'J' then numberEnd .imaginary (n + 1) cs else numberEnd .decimal n cs
  | [] => .ok n

/-- The exponent of a decimal number of `n` characters, if it has one. -/
def exponentEnd (n : Nat) (cs : List Char) : Except NumberFault Nat :=
  match cs.drop n with
  | e :: rest =>
    if e == 'e' || e == 'E' then
      match rest with
      | s :: d :: _ =>
        if s == '+' || s == '-' then
          if d.isDigit then do
            let m ← digits Char.isDigit (.invalidNumber .decimal) (n + 2) (cs.drop (n + 2))
            imaginaryEnd m cs
          else .error (.invalidNumber .decimal, n + 2)
        else if s.isDigit then do
          let m ← digits Char.isDigit (.invalidNumber .decimal) (n + 1) (cs.drop (n + 1))
          imaginaryEnd m cs
        else numberEnd .decimal n cs
      | [s] =>
        if s == '+' || s == '-' then .error (.invalidNumber .decimal, n + 2)
        else if s.isDigit then imaginaryEnd (n + 2) cs
        else numberEnd .decimal n cs
      | [] => numberEnd .decimal n cs
    else imaginaryEnd n cs
  | [] => .ok n

/-- The fraction of a decimal number whose point is its character `n`. -/
def fractionEnd (n : Nat) (cs : List Char) : Except NumberFault Nat := do
  match cs.drop (n + 1) with
  | c :: _ =>
    if c.isDigit then
      let m ← digits Char.isDigit (.invalidNumber .decimal) (n + 1) (cs.drop (n + 1))
      exponentEnd m cs
    else exponentEnd (n + 1) cs
  | [] => .ok (n + 1)

/-- What may follow the digits of a decimal number. -/
def decimalEnd (n : Nat) (cs : List Char) : Except NumberFault Nat :=
  match cs.drop n with
  | '.' :: _ => fractionEnd n cs
  | _ => exponentEnd n cs

/-- The number of characters of the number at the beginning of a text. -/
def numberLength (cs : List Char) : Except NumberFault Nat :=
  match cs with
  | '.' :: _ => fractionEnd 0 cs
  | '0' :: c :: _ =>
    if c == 'x' || c == 'X' then
      basedNumber .hexadecimal (fun d => d.isDigit || ('a' ≤ d && d ≤ 'f') || ('A' ≤ d && d ≤ 'F')) cs
    else if c == 'o' || c == 'O' then basedNumber .octal (fun d => '0' ≤ d && d ≤ '7') cs
    else if c == 'b' || c == 'B' then basedNumber .binary (fun d => d == '0' || d == '1') cs
    else do
      let zeros ← zeroDigits 1 (cs.drop 1)
      match cs.drop zeros with
      | d :: _ =>
        if d.isDigit then
          let n ← digits Char.isDigit (.invalidNumber .decimal) zeros (cs.drop zeros)
          match cs.drop n with
          | e :: _ =>
            if e == '.' || e == 'e' || e == 'E' || e == 'j' || e == 'J' then decimalEnd n cs
            else .error (.leadingZeros, 1)
          | [] => .error (.leadingZeros, 1)
        else decimalEnd zeros cs
      | [] => .ok zeros
  | _ => do
    let n ← digits Char.isDigit (.invalidNumber .decimal) 0 cs
    decimalEnd n cs
where
  /-- Zeros with single underscores between digits, behind `n` characters. -/
  zeroDigits (n : Nat) : List Char → Except NumberFault Nat
    | '0' :: rest => zeroDigits (n + 1) rest
    | '_' :: c :: rest =>
      if c == '0' then zeroDigits (n + 2) rest
      else if c.isDigit then .ok (n + 1)
      else .error (.invalidNumber .decimal, n + 1)
    | ['_'] => .error (.invalidNumber .decimal, n + 1)
    | _ => .ok n

/-! ### Quoted constants -/

/-- The letters that may stand before a quote. -/
def quotePrefixes : List String := ["b", "u", "r", "f", "br", "rb", "fr", "rf"]

/-- The number of letters before the quote of a quoted constant, if one begins here. -/
def quotedStart (cs : List Char) : Option Nat :=
  let letters := cs.takeWhile Char.isAlpha
  match cs.drop letters.length with
  | c :: _ =>
    if (c == '"' || c == '\'') &&
        (letters.isEmpty || quotePrefixes.contains (String.ofList (letters.map Char.toLower))) then
      some letters.length
    else none
  | [] => none

/-- Reads a quoted constant to its end. `size` quotes end it, of which `seen` were just read; `read`
holds its characters in reverse. -/
def quotedEnd (r : Reader) (quote : Char) (size seen : Nat) (read : List Char) :
    (fuel : Nat) → Except Reader (Reader × List Char)
  | 0 => .error r
  | fuel + 1 =>
    if seen = size then .ok (r, read)
    else
      let r := r.ready true
      match r.rest with
      | [] => .error r
      | c :: _ =>
        if size = 1 && c == '\n' then .error r
        else if c == quote then (r.advance 1).quotedEnd quote size (seen + 1) (c :: read) fuel
        else if c == '\\' then
          let r := (r.advance 1).ready true
          match r.rest with
          | [] => .error r
          | d :: _ => (r.advance 1).quotedEnd quote size 0 (d :: c :: read) fuel
        else (r.advance 1).quotedEnd quote size 0 (c :: read) fuel

/-- Reads the quoted constant at the reader's place, `letters` being the number of letters before
its quote. -/
def quoted (r : Reader) (letters : Nat) : Except Stop (Token × Reader) :=
  let quote := (r.rest.drop letters).headD '"'
  let body := r.rest.drop (letters + 1)
  let (size, opening, seen) := match body with
    | a :: b :: _ =>
      if a == quote && b == quote then (3, letters + 3, 0)
      else if a == quote then (1, letters + 2, 1)
      else (1, letters + 1, 0)
    | [a] => if a == quote then (1, letters + 2, 1) else (1, letters + 1, 0)
    | [] => (1, letters + 1, 0)
  let first := r.rest.take opening
  match (r.advance opening).quotedEnd quote size seen first.reverse r.limit with
  | .ok (after, read) => .ok (after.token .quoted read.reverse r.line (some r.column), after)
  | .error reached =>
    let cause :=
      if size = 3 then Cause.unterminatedLongText reached.line else Cause.unterminatedText reached.line
    .error ⟨⟨cause, r.line, r.offset + 1⟩, true, r.innermost⟩

/-! ### Signs -/

/-- The signs of two characters. -/
def pairs : List String :=
  ["!=", "%=", "&=", "**", "*=", "+=", "-=", "->", "//", "/=", ":=", "<<", "<=", "<>", "==", ">=",
    ">>", "@=", "^=", "|="]

/-- The signs of three characters. -/
def triples : List String := ["**=", "//=", "<<=", ">>=", "..."]

/-- The number of characters of the longest sign at the beginning of a text. -/
def signLength (cs : List Char) : Nat :=
  if triples.contains (String.ofList (cs.take 3)) then 3
  else if pairs.contains (String.ofList (cs.take 2)) then 2
  else 1

/-- The bracket that a bracket closes. -/
def openingOf (c : Char) : Option Char :=
  if c == ')' then some '(' else if c == ']' then some '[' else if c.toNat = 125 then
    some (Char.ofNat 123) else none

/-- Reads a sign. -/
def sign (r : Reader) (c : Char) : Except Stop (Token × Reader) :=
  let length := signLength r.rest
  let after := r.advance length
  let finish (after : Reader) : Token × Reader :=
    (after.token .sign (r.rest.take length) r.line (some r.column), after)
  if length > 1 then .ok (finish after)
  else if c == '(' || c == '[' || c.toNat = 123 then
    if r.brackets.length ≥ 200 then .error (after.lexicalStop .tooManyBrackets)
    else .ok (finish { after with brackets := ⟨c, r.line, r.column⟩ :: r.brackets })
  else match openingOf c with
    | some opening =>
      match r.brackets with
      | [] => .error (after.lexicalStop (.unmatched c))
      | b :: outer =>
        if b.sign == opening then .ok (finish { after with brackets := outer })
        else
          let line := if b.line = r.line then none else some b.line
          .error (after.lexicalStop (.mismatched c b.sign line))
    | none =>
      if Text.isPrintable c.toNat then .ok (finish after)
      else .error (after.lexicalStop (.unprintableCharacter c.toNat))

/-! ### Words -/

/-- Reads a word. Beyond ASCII the characters are checked to make up an identifier. -/
def word (r : Reader) : Except Stop (Token × Reader) :=
  let cs := r.rest.takeWhile isWordPart
  let after := r.advance cs.length
  let fault := if cs.all (fun c => c.toNat < 128) then none else Text.identifierBreak cs
  match fault.bind fun i => cs[i]?.map fun c => (i, c) with
  | some (i, c) =>
    let cause := if Text.isPrintable c.toNat then Cause.invalidCharacter c
      else Cause.unprintableCharacter c.toNat
    .error ((r.advance (i + 1)).lexicalStop cause)
  | none =>
    let kind := if Text.isReservedWord (String.ofList cs) then TokenKind.keyword else .name
    .ok (after.token kind cs r.line (some r.column), after)

/-! ### Tokens -/

/-- What a step of reading gives. -/
inductive Step where
  /-- A token. -/
  | token (t : Token) (r : Reader)
  /-- Only something without meaning, such as a blank line. -/
  | skip (r : Reader)

/-- Reads a lexeme of the current line; `blank` if the line holds none. -/
def lexeme (r : Reader) (blank : Bool) : (fuel : Nat) → Except Stop Step
  | 0 => .error r.endStop
  | fuel + 1 =>
    let r := r.ready false
    let blanks := r.rest.takeWhile fun c => c == ' ' || c == '\t' || c == '\x0c'
    let r := r.advance blanks.length
    let (start, r) := match r.rest with
      | '#' :: _ => (r.column, r.advance (r.rest.takeWhile (· != '\n')).length)
      | _ => (r.column, r)
    match r.rest with
    | [] =>
      if r.brackets.isEmpty then .ok (.token (r.token .finish [] r.line none) r)
      else .error r.endStop
    | c :: next =>
      let given (result : Except Stop (Token × Reader)) : Except Stop Step :=
        result.map fun (t, r) => .token t r
      if c == '\n' then
        let after := { r.advance 1 with atLineStart := true }
        if blank || !r.brackets.isEmpty then .ok (.skip after)
        else .ok (.token (after.token .newline [] r.line (some start)) after)
      else match quotedStart r.rest with
        | some letters => given (r.quoted letters)
        | none =>
          let beginsNumber := c.isDigit || (c == '.' && (next.head?.map Char.isDigit).getD false)
          if isWordStart c then given r.word
          else if beginsNumber then
            match numberLength r.rest with
            | .ok n =>
              let after := r.advance n
              .ok (.token (after.token .number (r.rest.take n) r.line (some r.column)) after)
            | .error (.leadingZeros, _) =>
              .error ⟨⟨.leadingZeros, r.line, r.column + 1⟩, true, r.innermost⟩
            | .error (cause, n) => .error ((r.advance n).lexicalStop cause)
          else if c == '\\' then
            match r.continueLine true with
            | .ok next => next.lexeme blank fuel
            | .error stop => .error stop
          else given (r.sign c)

/-- One step of reading. -/
def step (r : Reader) : Except Stop Step := do
  let (r, blank) ← if r.atLineStart then r.beginLine else .ok (r, false)
  if r.dedentsDue > 0 then
    let r := { r with dedentsDue := r.dedentsDue - 1 }
    .ok (.token (r.token .dedent [] r.line none) r)
  else if r.indentDue then
    let r := { r with indentDue := false }
    .ok (.token (r.token .indent [] r.line none) r)
  else r.lexeme blank r.limit

/-- Reads tokens until the text ends or a fault stops the reader. -/
def tokens (r : Reader) (read : Array Token) : (fuel : Nat) → Scan
  | 0 => ⟨read, some r.endStop⟩
  | fuel + 1 =>
    match r.step with
    | .error stop => ⟨read, some stop⟩
    | .ok (.skip r) => r.tokens read fuel
    | .ok (.token t r) =>
      if t.kind = .finish then ⟨read.push t, none⟩ else r.tokens (read.push t) fuel

end Reader

/-- The tokens of a source text. Every step reads a character or hands out a token that was due, of
which there are no more than lines read. -/
def Scan.ofSource (source : SourceText) : Scan :=
  let r := Reader.start source
  r.tokens #[] (2 * r.limit + 2)

end FluentBuilder.Syntax
