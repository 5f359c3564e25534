import FluentBuilder.Syntax.Literal

/-!
# Texts with replacement fields

A quoted token with the letter for fields is a sequence of characters and of expressions in braces.
A doubled brace stands for one brace. A field may show its own expression, ask for a conversion, and
carry a format, which is itself a text with fields; fields inside a format have no further fields in
theirs. No backslash and no comment may stand inside an expression.
-/

namespace FluentBuilder.Syntax.Literal

/-- A fault in a replacement field. -/
def fieldFault {α : Type} (description : String) : Except Cause α := .error (.field description)

/-- The characters before the next field or brace. `doubled` if they end with a brace that was
written twice, which `rest` then lies behind. -/
structure Stretch where
  /-- The characters, in reverse. -/
  read : List Char
  /-- Do they end with a doubled brace? -/
  doubled : Bool
  /-- What follows. -/
  rest : List Char

/-- Is it an opening brace? -/
def isBraceOpen (c : Char) : Bool := c.toNat = 123

/-- Is it a closing brace? -/
def isBraceClose (c : Char) : Bool := c.toNat = 125

/-- Reads characters up to the next brace. Inside a format braces are not doubled. -/
def stretch (raw inFormat : Bool) (read : List Char) : (fuel : Nat) → List Char → Except Cause Stretch
  | 0, rest => .ok ⟨read, false, rest⟩
  | _, [] => .ok ⟨read, false, []⟩
  | fuel + 1, c :: rest =>
    if isBraceOpen c || isBraceClose c then brace c read rest
    else if !raw && c == '\\' then
      match rest with
      | [] => .ok ⟨c :: read, false, []⟩
      | d :: more =>
        if d == 'N' then
          match more with
          | e :: inside =>
            if isBraceOpen e then
              let name := inside.takeWhile (!isBraceClose ·)
              let taken := inside.take (name.length + 1)
              stretch raw inFormat (taken.reverse ++ e :: d :: c :: read) fuel
                (inside.drop (name.length + 1))
            else stretch raw inFormat (e :: d :: c :: read) fuel inside
          | [] => .ok ⟨d :: c :: read, false, []⟩
        else if isBraceOpen d || isBraceClose d then brace d (c :: read) more
        else stretch raw inFormat (d :: c :: read) fuel more
    else stretch raw inFormat (c :: read) fuel rest
where
  /-- A brace behind the characters read. -/
  brace (c : Char) (read rest : List Char) : Except Cause Stretch :=
    if inFormat then .ok ⟨read, false, c :: rest⟩
    else if rest.head? == some c then .ok ⟨c :: read, true, rest.drop 1⟩
    else if isBraceClose c then fieldFault "single '\x7d' is not allowed"
    else .ok ⟨read, false, c :: rest⟩

/-- Where the scan of a field's expression stands: inside quotes, or inside brackets. -/
structure FieldScan where
  /-- The quote that is open, and how many of it. -/
  quote : Option (Char × Nat)
  /-- The open brackets, innermost first. -/
  brackets : List Char
  /-- The characters read, in reverse. -/
  read : List Char

/-- Finds the end of a field's expression. -/
def fieldEnd (s : FieldScan) : (fuel : Nat) → List Char → Except Cause (FieldScan × List Char)
  | 0, rest => .ok (s, rest)
  | _, [] => .ok (s, [])
  | fuel + 1, c :: rest =>
    if c == '\\' then .error (.characterInField "a backslash")
    else match s.quote with
      | some (q, size) =>
        if c == q then
          if size = 3 then
            if rest.take 2 == [c, c] then
              fieldEnd { s with quote := none, read := c :: c :: c :: s.read } fuel (rest.drop 2)
            else fieldEnd { s with read := c :: s.read } fuel rest
          else fieldEnd { s with quote := none, read := c :: s.read } fuel rest
        else fieldEnd { s with read := c :: s.read } fuel rest
      | none =>
        if c == '\'' || c == '"' then
          if rest.take 2 == [c, c] then
            fieldEnd { s with quote := some (c, 3), read := c :: c :: c :: s.read } fuel (rest.drop 2)
          else fieldEnd { s with quote := some (c, 1), read := c :: s.read } fuel rest
        else if c == '[' || c == '(' || isBraceOpen c then
          if s.brackets.length ≥ 200 then fieldFault "too many nested parenthesis"
          else fieldEnd { s with brackets := c :: s.brackets, read := c :: s.read } fuel rest
        else if c == '#' then .error (.characterInField "'#'")
        else if s.brackets.isEmpty &&
            (c == '!' || c == ':' || isBraceClose c || c == '=' || c == '<' || c == '>') then
          if rest.head? == some '=' && (c == '!' || c == '=' || c == '<' || c == '>') then
            fieldEnd { s with read := '=' :: c :: s.read } fuel (rest.drop 1)
          else if c == '<' || c == '>' then fieldEnd { s with read := c :: s.read } fuel rest
          else .ok (s, c :: rest)
        else if c == ']' || c == ')' || isBraceClose c then
          match s.brackets with
          | [] => fieldFault ("unmatched '" ++ c.toString ++ "'")
          | b :: outer =>
            if (b == '(' && c == ')') || (b == '[' && c == ']') || (isBraceOpen b && isBraceClose c) then
              fieldEnd { s with brackets := outer, read := c :: s.read } fuel rest
            else fieldFault ("closing parenthesis '" ++ c.toString ++
              "' does not match opening parenthesis '" ++ b.toString ++ "'")
        else fieldEnd { s with read := c :: s.read } fuel rest

/-- The conversion that a letter asks for. -/
def conversionOf (c : Char) : Option Conversion :=
  match c with
  | 's' => some .plain
  | 'r' => some .quoted
  | 'a' => some .ascii
  | _ => none

/-- A field that was read: the characters that it shows of its expression, and the field. -/
structure FieldRead where
  /-- The characters of the expression, if it shows them. -/
  shown : List Char
  /-- The field. -/
  piece : Piece Expr
  /-- What follows. -/
  rest : List Char

/-- Joins adjacent texts and drops empty ones. -/
def mergeTexts : List (Piece Expr) → List (Piece Expr)
  | [] => []
  | .text cs :: rest =>
    match mergeTexts rest with
    | .text ds :: others => .text (cs ++ ds) :: others
    | others => if cs.isEmpty then others else .text cs :: others
  | piece :: rest => piece :: mergeTexts rest

/-! ### The places of fields -/

/-- Reads the expression of a field, given the line on which it stands and the bytes before it. -/
abbrev FieldReader := (line column : Nat) → List Char → Except Fault Expr

/-- Why quoted tokens have no value. -/
inductive Defect where
  /-- Something is wrong with them; it is reported behind them. -/
  | cause (cause : Cause)
  /-- The expression of a field has a fault, which is reported at a place of its own. -/
  | field (fault : Fault)

/-- A quoted token with its place. -/
structure Part where
  /-- Its characters. -/
  written : List Char
  /-- The line on which it begins. -/
  line : Nat
  /-- The bytes before it on that line. -/
  column : Nat

/-- Is the expression of a field on the lines below its brace? -/
def beginsBelow (inside : List Char) : Bool :=
  match inside.dropWhile fun c => c == ' ' || c == '\t' || c == '\x0c' with
  | c :: _ => c == '\n' || isBraceClose c
  | [] => false

/-- The line of a field and the bytes before its expression, `inside` being what follows its brace and
the `quotes` behind the text not counted. -/
def Part.fieldPlace (part : Part) (quotes : Nat) (inside : List Char) : Nat × Nat :=
  let before := part.written.take (part.written.length - quotes - inside.length - 1)
  let lines := before.count '\n'
  let bytes :=
    if beginsBelow inside then 0 else Utf8.size (before.reverse.takeWhile (· != '\n'))
  (part.line + lines, if lines = 0 then part.column + bytes else bytes)

/-! ### Pieces -/

/-- A fault in a replacement field that is reported behind the tokens. -/
def fieldDefect {α : Type} (description : String) : Except Defect α :=
  .error (.cause (.field description))

/-- Reads a text with fields; inside a format it ends before the closing brace. `fuel` bounds the
number of characters and fields. -/
def pieces (readField : (inside written : List Char) → Except Defect Expr) (raw : Bool)
    (depth : Nat) : (fuel : Nat) → List Char → Except Defect (List (Piece Expr) × List Char)
  | 0, rest => .ok ([], rest)
  | fuel + 1, cs => do
    let s ← (stretch raw (depth > 0) [] cs.length cs).mapError .cause
    let codes ← (unescape raw s.read.reverse).mapError .cause
    if s.doubled then
      let (more, rest) ← pieces readField raw depth fuel s.rest
      .ok (.text codes :: more, rest)
    else match s.rest with
      | [] => if depth = 0 then .ok ([.text codes], []) else fieldDefect "expecting '\x7d'"
      | c :: inside =>
        if isBraceClose c then .ok ([.text codes], c :: inside)
        else if depth ≥ 2 then fieldDefect "expressions nested too deeply"
        else do
          let (scan, after) ← (fieldEnd ⟨none, [], []⟩ inside.length inside).mapError .cause
          if scan.quote.isSome then fieldDefect "unterminated string"
          if let some b := scan.brackets.head? then fieldDefect ("unmatched '" ++ b.toString ++ "'")
          if after.isEmpty then fieldDefect "expecting '\x7d'"
          let written := scan.read.reverse
          if written.all fun c => c == ' ' || c == '\t' || c == '\n' || c == '\x0c' then
            fieldDefect (match after.head? with
              | some '!' => "expression required before '!'"
              | some ':' => "expression required before ':'"
              | some '=' => "expression required before '='"
              | _ => "empty expression not allowed")
          let value ← readField inside written
          let (shown, after) := match after with
            | '=' :: rest =>
              let blanks := rest.takeWhile fun c => c == ' ' || (9 ≤ c.toNat && c.toNat ≤ 13)
              (written ++ '=' :: blanks, rest.drop blanks.length)
            | _ => ([], after)
          let (conversion, after) ← (match after with
            | '!' :: letter :: rest =>
              match conversionOf letter with
              | some c => .ok (some c, rest)
              | none => fieldDefect "invalid conversion character: expected 's', 'r', or 'a'"
            | ['!'] => fieldDefect "expecting '\x7d'"
            | _ => .ok (none, after) : Except Defect (Option Conversion × List Char))
          let (format, after) ← (match after with
            | ':' :: rest =>
              if rest.isEmpty then fieldDefect "expecting '\x7d'"
              else do
                let (inner, rest) ← pieces readField raw (depth + 1) fuel rest
                .ok (some (mergeTexts inner), rest)
            | _ => .ok (none, after) : Except Defect (Option (List (Piece Expr)) × List Char))
          match after with
          | c :: rest =>
            if !isBraceClose c then fieldDefect "expecting '\x7d'"
            else do
              let conversion :=
                if !shown.isEmpty && conversion.isNone && format.isNone then some .quoted
                else conversion
              let (more, rest) ← pieces readField raw depth fuel rest
              .ok (.text codes :: .text (shown.map Char.toNat) ::
                .field value conversion format :: more, rest)
          | [] => fieldDefect "expecting '\x7d'"

/-- The pieces of a whole text with fields, which ends with `quotes` quotes. -/
def allPieces (readField : FieldReader) (part : Part) (quotes : Nat) (q : Quotation) :
    Except Defect (List (Piece Expr)) := do
  let read (inside written : List Char) : Except Defect Expr :=
    let (line, column) := part.fieldPlace quotes inside
    (readField line column written).mapError .field
  let (read, rest) ← pieces read q.isRaw 0 (2 * q.body.length + 2) q.body
  if rest.isEmpty then .ok read else fieldDefect "unexpected end of string"

/-! ### Adjacent tokens -/

/-- What a quoted token holds. -/
inductive Content where
  /-- Bytes. -/
  | bytes (held : List UInt8)
  /-- Text, with its fields. -/
  | pieces (held : List (Piece Expr))

/-- Reads a quoted token; `isBytes` says what the first one of its row holds. -/
def Part.content (readField : FieldReader) (isBytes : Bool) (part : Part) : Except Defect Content := do
  let q := Quotation.ofToken part.written
  let plain ← ((if q.hasFields then .ok (.pieces [])
    else if q.isBytes then (unescapeBytes q.isRaw q.body).map .bytes
    else (unescape q.isRaw q.body).map fun codes => .pieces [.text codes]
    : Except Cause Content)).mapError .cause
  if q.isBytes != isBytes then .error (.cause .mixedConstants)
  else if q.hasFields then return .pieces (← allPieces readField part q.quotes q)
  else return plain

/-- The bytes of contents that are bytes. -/
def Content.asBytes : Content → List UInt8
  | .bytes held => held
  | .pieces _ => []

/-- The pieces of contents that are text. -/
def Content.asPieces : Content → List (Piece Expr)
  | .bytes _ => []
  | .pieces held => held

/-- The constant or the text with fields that adjacent quoted tokens make up. They are all bytes or
all text. -/
def concatenate (readField : FieldReader) (parts : List Part) : Except Defect Expr := do
  let quotations := parts.map fun part => Quotation.ofToken part.written
  let isBytes := (quotations.head?.map (·.isBytes)).getD false
  let contents ← parts.mapM (Part.content readField isBytes)
  if isBytes then return .constant (.bytes (contents.flatMap Content.asBytes))
  else
    let pieces := contents.flatMap Content.asPieces
    if quotations.any (·.hasFields) then return .joined (mergeTexts pieces)
    else
      let codes := pieces.flatMap fun
        | .text codes => codes
        | .field .. => []
      return .constant (.text codes ((quotations.head?.map (·.isMarked)).getD false))

end FluentBuilder.Syntax.Literal
