import FluentBuilder.Decimal.Binary64
import FluentBuilder.Document.Fault
import FluentBuilder.Text.Blank
import FluentBuilder.Text.Case
import FluentBuilder.Text.CharTable
import FluentBuilder.Text.Digit

/-!
# Numbers in documents

Whole numbers are written in decimal, in base sixty with colons between the digits, or with a mark for
base two, eight or sixteen; floating point numbers in decimal, or in base sixty with a fraction at the
end. Low lines between digits mean nothing.
-/

namespace FluentBuilder.Document

/-! ### Whole numbers -/

/-- The number that digits of a base write. -/
def ofDigits? (base : Nat) (digits : List Char) : Option Nat :=
  let values := digits.map fun d => (Text.hexDigit? d).filter (· < base)
  if digits.isEmpty then none
  else values.foldl (fun n v => n.bind fun n => v.map fun v => base * n + v) (some 0)

/-- The letters that may mark digits of a base. -/
def baseMarks (base : Nat) : List Char :=
  match base with
  | 2 => ['b', 'B']
  | 8 => ['o', 'O']
  | 16 => ['x', 'X']
  | _ => []

/-- Is the character white space in ASCII? -/
def isAsciiBlank (c : Char) : Bool := c == ' ' || (9 ≤ c.toNat && c.toNat ≤ 13)

/-- A text that should write a number, in ASCII: digits of other scripts become digits and blanks
become spaces, and no other character beyond ASCII can be a part of a number. -/
def inAsciiDigits (text : CodePoints) : List Char :=
  text.map fun code =>
    if code < 127 then Char.ofNat code
    else if code < 128 then '?'
    else if Text.isBlank (Char.ofNat code) then ' '
    else match Text.decimalDigit? code with
      | some d => Char.ofNat ('0'.toNat + d)
      | none => '?'

/-- The whole number that a text writes in a base: blanks around it, a sign and a mark are allowed. -/
def wholeNumber (base : Nat) (text : CodePoints) : Except DocumentFault Int :=
  let trimmed := (inAsciiDigits text).dropWhile isAsciiBlank
  let (isNegative, body) := match trimmed with
    | '-' :: rest => (true, rest)
    | '+' :: rest => (false, rest)
    | rest => (false, rest)
  let body := match body with
    | '0' :: mark :: rest => if (baseMarks base).contains mark then rest else body
    | _ => body
  let digits := body.takeWhile fun c => (Text.hexDigit? c).any (· < base)
  if base = 10 ∧ digitLimit < digits.length then .error (.longNumber digits.length)
  else match ofDigits? base digits with
    | none => .error (.wholeNumber base text)
    | some n =>
      if (body.drop digits.length).all isAsciiBlank then .ok (if isNegative then -(n : Int) else n)
      else .error (.wholeNumber base text)

/-- A text without its sign, and whether the sign is a minus. -/
def splitSign (cs : List Char) : Bool × List Char :=
  match cs with
  | '-' :: rest => (true, rest)
  | '+' :: rest => (false, rest)
  | rest => (false, rest)

/-- The parts of a text between colons. -/
def betweenColons (text : CodePoints) : List CodePoints :=
  text.foldr (fun c parts =>
    if c = ':'.toNat then [] :: parts
    else match parts with
      | part :: rest => (c :: part) :: rest
      | [] => [[c]]) [[]]

/-- A text without its sign, and whether the sign is a minus. -/
def withoutSign (text : CodePoints) : Bool × CodePoints :=
  match text with
  | c :: rest => if c = '-'.toNat then (true, rest) else if c = '+'.toNat then (false, rest) else (false, text)
  | [] => (false, [])

/-- The whole number of a scalar. -/
def intOfText (text : CodePoints) : Except DocumentFault Int := do
  let text := text.filter (· != '_'.toNat)
  if text.isEmpty then throw .emptyNumber
  let (isNegative, text) := withoutSign text
  if text.isEmpty then throw .emptyNumber
  let begins (mark : String) : Bool := (CodePoints.ofText mark).isPrefixOf text
  let n ←
    if begins "0b" then wholeNumber 2 (text.drop 2)
    else if begins "0x" then wholeNumber 16 (text.drop 2)
    else if begins "0" then wholeNumber 8 text
    else if text.contains ':'.toNat then do
      let digits ← (betweenColons text).mapM (wholeNumber 10)
      pure (digits.foldl (fun n d => 60 * n + d) 0)
    else wholeNumber 10 text
  return if isNegative then -n else n

/-! ### Floating point numbers -/

/-- The number behind the letter of an exponent. -/
def exponent? (cs : List Char) : Option Int :=
  let (isNegative, digits) := splitSign cs
  (ofDigits? 10 digits).map fun n => if isNegative then -(n : Int) else n

/-- The decimal that a text writes, without a sign. -/
def decimal? (cs : List Char) : Option Binary64 := do
  let mantissa := cs.takeWhile (· != 'e')
  let whole := mantissa.takeWhile (· != '.')
  let fraction := (mantissa.drop whole.length).drop 1
  let digits ← ofDigits? 10 (whole ++ fraction)
  let exponent ← match cs.drop mantissa.length with
    | [] => some 0
    | _ :: rest => exponent? rest
  return Binary64.ofDecimal false digits (exponent - fraction.length)

/-- The floating point number that a text in small letters writes: blanks around it and a sign are
allowed. -/
def floatNumber (text : CodePoints) : Except DocumentFault Binary64 :=
  let (isNegative, body) := splitSign (Text.trimEnds isAsciiBlank (inAsciiDigits text))
  let word := String.ofList body
  let value :=
    if word == "inf" || word == "infinity" then some (Binary64.infinite false)
    else if word == "nan" then some .notANumber
    else decimal? body
  match value with
  | some x => .ok (if isNegative then x.negate else x)
  | none => .error (.floatNumber text)

/-- The sum of digits in base sixty, the last one first. -/
def sixtiesFrom (base : Nat) (sum : Binary64) : List Binary64 → Except DocumentFault Binary64
  | [] => .ok sum
  | digit :: rest =>
    match Binary64.ofNat base with
    | .finite negative m e => sixtiesFrom (base * 60) (sum.add (digit.mul (.finite negative m e))) rest
    | _ => .error .greatNumber

/-- A text in small letters. -/
def inSmallLetters (text : CodePoints) : CodePoints :=
  match text.toText with
  | .ok text => .ofText (Text.lowerText text)
  | .error _ => text.map fun c => if 65 ≤ c ∧ c ≤ 90 then c + 32 else c

/-- The text of a scalar that should be a floating point number, without low lines and sign; the sign
is a minus or not. -/
def floatText (text : CodePoints) : Bool × CodePoints :=
  withoutSign (inSmallLetters (text.filter (· != '_'.toNat)))

/-- Is it the word for the result without a value? -/
def isNamedNaN (text : CodePoints) : Bool :=
  (floatText text).2 == CodePoints.ofText ".nan"

/-- The floating point number of a scalar. -/
def floatOfText (text : CodePoints) : Except DocumentFault Binary64 := do
  if text.all (· == '_'.toNat) then throw .emptyNumber
  if isNamedNaN text then return .notANumber
  let (isNegative, text) := floatText text
  let x ←
    if text == CodePoints.ofText ".inf" then pure (Binary64.infinite false)
    else if text.contains ':'.toNat then do
      let digits ← (betweenColons text).mapM floatNumber
      sixtiesFrom 1 Binary64.zero digits.reverse
    else floatNumber text
  return if isNegative then x.negate else x

end FluentBuilder.Document
