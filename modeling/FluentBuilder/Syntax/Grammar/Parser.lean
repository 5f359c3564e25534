import FluentBuilder.Syntax.Grammar.Rule
import FluentBuilder.Syntax.Interpolation
import FluentBuilder.Syntax.Token

/-!
# Parsers of ordered choice

A `Parser` reads tokens from a place on. It matches and gives a value with the next place, it misses,
or it finds a fault and the whole reading ends. A choice takes its first alternative that matches.

Two things are threaded through all attempts, also through those that miss: how far tokens were
looked at (`Progress.reach`), because a text that no rule matches is wrong at the last token that was
looked at, and what the rules read at which place (`Progress.memo`), so that no rule is tried twice
at one place.

A text that does not match is read a second time with `Input.diagnosing` set. Only then are those
alternatives tried that describe common mistakes (`diagnosis`).
-/

namespace FluentBuilder.Syntax.Grammar

/-! ### Input and outcome -/

/-- What parsers read. -/
structure Input where
  /-- The text, for the places of faults. -/
  source : SourceText
  /-- Its tokens. -/
  scan : Scan
  /-- Are mistakes looked for? -/
  diagnosing : Bool
  /-- Reads the expression of a replacement field. -/
  readField : Literal.FieldReader

/-- What a rule read at some place: a value with the next place, or nothing. -/
structure Reading where
  /-- The rule. -/
  rule : Rule
  /-- What it read. -/
  result : Option (rule.Value × Nat)

/-- What attempts leave behind. -/
structure Progress where
  /-- The number of tokens that were looked at. -/
  reach : Nat
  /-- By place, what the rules read there. -/
  memo : Array (List Reading)

/-- Why reading ends early. -/
inductive Halt where
  /-- The tokens end with a fault. -/
  | reader (stop : Stop)
  /-- The grammar names a fault. -/
  | grammar (fault : Fault)

/-- The result of an attempt. -/
inductive Outcome (α : Type) where
  /-- The parser matches up to the place `next`. -/
  | matched (value : α) (next : Nat) (progress : Progress)
  /-- The parser does not match here. -/
  | missed (progress : Progress)
  /-- Reading ends. -/
  | halted (halt : Halt) (progress : Progress)

/-- A parser. -/
def Parser (α : Type) : Type := Input → Nat → Progress → Outcome α

namespace Parser

variable {α β : Type}

/-- Matches without reading. -/
protected def pure (value : α) : Parser α := fun _ place progress => .matched value place progress

/-- One parser after the other. -/
protected def bind (p : Parser α) (f : α → Parser β) : Parser β := fun input place progress =>
  match p input place progress with
  | .matched value next progress => f value input next progress
  | .missed progress => .missed progress
  | .halted halt progress => .halted halt progress

instance : Monad Parser where
  pure := Parser.pure
  bind := Parser.bind

/-- Never matches. -/
def miss : Parser α := fun _ _ progress => .missed progress

/-- The second parser where the first one misses. -/
protected def orElse (p : Parser α) (q : Unit → Parser α) : Parser α := fun input place progress =>
  match p input place progress with
  | .missed progress => q () input place progress
  | outcome => outcome

instance : OrElse (Parser α) := ⟨Parser.orElse⟩

/-- The first alternative that matches. -/
def choice : List (Parser α) → Parser α
  | [] => miss
  | p :: rest => p <|> choice rest

/-- Where `head` matches, all depends on what follows it; only where it misses is the other parser
tried. -/
def commit (head : Parser α) (tail : α → Parser β) (other : Parser β) : Parser β :=
  fun input place progress =>
    match head input place progress with
    | .matched value next progress => tail value input next progress
    | .missed progress => other input place progress
    | .halted halt progress => .halted halt progress

/-- Something or nothing. -/
def optional (p : Parser α) : Parser (Option α) := fun input place progress =>
  match p input place progress with
  | .matched value next progress => .matched (some value) next progress
  | .missed progress => .matched none place progress
  | .halted halt progress => .halted halt progress

/-- Matches where the parser does, without reading. -/
def ahead (p : Parser α) : Parser Unit := fun input place progress =>
  match p input place progress with
  | .matched _ _ progress => .matched () place progress
  | .missed progress => .missed progress
  | .halted halt progress => .halted halt progress

/-- Matches where the parser does not, without reading. -/
def notAhead (p : Parser α) : Parser Unit := fun input place progress =>
  match p input place progress with
  | .matched _ _ progress => .missed progress
  | .missed progress => .matched () place progress
  | .halted halt progress => .halted halt progress

/-- The place where the next token stands. -/
def here : Parser Nat := fun _ place progress => .matched place place progress

/-- Goes on from a value as long as the step matches. Every step reads a token, so there are no more
steps than tokens. -/
def extendWhile (step : α → Parser α) (start : α) : Parser α := fun input place progress =>
  loop (input.scan.tokens.size + 1) start input place progress
where
  /-- At most `fuel` steps. -/
  loop : Nat → α → Parser α
  | 0, value => Parser.pure value
  | fuel + 1, value => fun input place progress =>
    match step value input place progress with
    | .matched value next progress => loop fuel value input next progress
    | .missed progress => .matched value place progress
    | .halted halt progress => .halted halt progress

/-- As many matches as there are. -/
def many (p : Parser α) : Parser (List α) := do
  let found ← extendWhile (fun found => do
    let value ← p
    return value :: found) []
  return found.reverse

/-- At least one match. -/
def many1 (p : Parser α) : Parser (List α) := do
  let first ← p
  let rest ← many p
  return first :: rest

/-- Matches with separators between them. -/
def separated (p : Parser α) (separator : Parser β) : Parser (List α) := do
  let first ← p
  let rest ← many do
    let _ ← separator
    p
  return first :: rest

/-! ### Tokens -/

/-- The next token, which is not read. -/
def token : Parser Token := fun input place progress =>
  let progress := { progress with reach := max progress.reach (place + 1) }
  match input.scan.tokens[place]? with
  | some t => .matched t place progress
  | none =>
    match input.scan.stop with
    | some stop => .halted (.reader stop) progress
    | none => .missed progress

/-- Reads a token that passes a test. -/
def tokenIf (test : Token → Bool) : Parser Token := do
  let t ← token
  if test t then fun _ place progress => .matched t (place + 1) progress else miss

/-- Reads a sign. -/
def sign (text : String) : Parser Token :=
  tokenIf fun t => t.kind = .sign && t.text == text

/-- Reads a reserved word. -/
def keyword (text : String) : Parser Token :=
  tokenIf fun t => t.kind = .keyword && t.text == text

/-- Reads a word that is reserved only where the grammar asks for it. -/
def softKeyword (text : String) : Parser Token :=
  tokenIf fun t => t.kind = .name && t.text == text

/-- Reads a token of a kind. -/
def ofKind (kind : TokenKind) : Parser Token :=
  tokenIf fun t => t.kind = kind

/-- The opening brace. -/
def braceOpen : String := "\x7b"

/-- The closing brace. -/
def braceClose : String := "\x7d"

/-! ### Faults -/

/-- Tries a parser only while mistakes are looked for. -/
def diagnosis (p : Parser α) : Parser α := fun input place progress =>
  if input.diagnosing then p input place progress else .missed progress

/-- The horizon at the last token that was looked at. -/
def horizonOf (input : Input) (progress : Progress) : Horizon :=
  match input.scan.tokens[progress.reach - 1]? with
  | some t => t.horizon
  | none => ⟨0, 0, []⟩

/-- A fault at a token. -/
def faultAt (cause : Cause) (index : Nat) : Parser α := fun input _ progress =>
  let horizon := horizonOf input progress
  let fault := match input.scan.tokens[index]? with
    | some t =>
      let bytes := match t.column with
        | some c => c + 1
        | none => 0
      input.source.fault horizon cause t.line bytes t.horizon.line
    | none => ⟨cause, horizon.line, horizon.column⟩
  .halted (.grammar fault) progress

/-- A fault at the last token that was looked at; behind the text read if the token has no characters
of its own. -/
def faultHere (cause : Cause) : Parser α := fun input _ progress =>
  let horizon := horizonOf input progress
  let fault := match input.scan.tokens[progress.reach - 1]? with
    | some t =>
      let bytes := match t.column with
        | some c => c + 1
        | none => t.horizon.column
      input.source.fault horizon cause t.line bytes t.horizon.line
    | none => ⟨cause, horizon.line, horizon.column⟩
  .halted (.grammar fault) progress

/-- Reads a sign that has to stand here. -/
def forced (text : String) : Parser Token := fun input place progress =>
  match sign text input place progress with
  | .missed progress => faultAt (.expected ("'" ++ text ++ "'")) place input place progress
  | outcome => outcome

/-! ### Rules -/

/-- What a rule read at a place before. -/
def remembered (rule : Rule) : List Reading → Option (Option (rule.Value × Nat))
  | [] => none
  | ⟨other, result⟩ :: rest => if h : other = rule then some (h ▸ result) else remembered rule rest

/-- Notes what a rule read at a place. -/
def Progress.note (progress : Progress) (place : Nat) (reading : Reading) : Progress :=
  { progress with memo := progress.memo.modify place (reading :: ·) }

/-- Tries a rule, unless it is remembered what the rule read at this place. -/
@[inline] def memoised (rule : Rule) (p : Parser rule.Value) : Parser rule.Value :=
  fun input place progress =>
    if !rule.isRemembered then p input place progress
    else match remembered rule (progress.memo.getD place []) with
    | some (some (value, next)) => .matched value next progress
    | some none => .missed progress
    | none =>
      match p input place progress with
      | .matched value next progress =>
        .matched value next (Progress.note progress place ⟨rule, some (value, next)⟩)
      | .missed progress => .missed (Progress.note progress place ⟨rule, none⟩)
      | .halted halt progress => .halted halt progress

end Parser

/-- The rules as they refer to each other. -/
abbrev Rules := (rule : Rule) → Parser rule.Value

end FluentBuilder.Syntax.Grammar
