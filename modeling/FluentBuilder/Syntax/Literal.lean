import FluentBuilder.Syntax.Expr
import FluentBuilder.Syntax.Fault
import FluentBuilder.Text.CharacterName
import FluentBuilder.Text.Quoted
import FluentBuilder.Text.Utf8

/-!
# Constants as they are written

The values of number and quoted tokens. A quoted token has letters before its quote that say whether
it is a byte string, whether backslashes mean themselves, and whether it has replacement fields. In
all other quoted tokens a backslash begins an escape; one that begins none stands for itself.
-/

namespace FluentBuilder.Syntax.Literal

/-! ### Numbers -/

/-- The number that digits of some base write. -/
def ofDigits (base : Nat) (cs : List Char) : Nat :=
  cs.foldl (fun n c => base * n + (Text.hexDigit? c).getD 0) 0

/-- A decimal number with a fraction or an exponent. -/
def decimal (cs : List Char) : Binary64 :=
  let isExponent (c : Char) : Bool := c == 'e' || c == 'E'
  let mantissa := cs.takeWhile (!isExponent ·)
  let exponent := (cs.drop mantissa.length).drop 1
  let whole := mantissa.takeWhile (· != '.')
  let fraction := (mantissa.drop whole.length).drop 1
  let shift : Int := match exponent with
    | '-' :: digits => -(ofDigits 10 digits : Int)
    | '+' :: digits => ofDigits 10 digits
    | digits => ofDigits 10 digits
  Binary64.ofDecimal false (ofDigits 10 (whole ++ fraction)) (shift - fraction.length)

/-- The value of a number token. Whole numbers in decimal have at most 4300 digits. -/
def number (text : String) : Except Cause Constant :=
  let cs := text.toList.filter (· != '_')
  let last := cs.getLastD '0'
  match cs with
  | '0' :: 'x' :: digits => .ok (.int (ofDigits 16 digits))
  | '0' :: 'X' :: digits => .ok (.int (ofDigits 16 digits))
  | '0' :: 'o' :: digits => .ok (.int (ofDigits 8 digits))
  | '0' :: 'O' :: digits => .ok (.int (ofDigits 8 digits))
  | '0' :: 'b' :: digits => .ok (.int (ofDigits 2 digits))
  | '0' :: 'B' :: digits => .ok (.int (ofDigits 2 digits))
  | _ =>
    if last == 'j' || last == 'J' then .ok (.imaginary (decimal cs.dropLast))
    else if cs.all Char.isDigit then
      if cs.length > 4300 then .error (.integerTooLong cs.length) else .ok (.int (ofDigits 10 cs))
    else .ok (.float (decimal cs))

/-! ### Quoted tokens -/

/-- A quoted token taken apart. -/
structure Quotation where
  /-- Is it a byte string? -/
  isBytes : Bool
  /-- Do backslashes mean themselves? -/
  isRaw : Bool
  /-- Has it replacement fields? -/
  hasFields : Bool
  /-- Was it marked as a text, by a small letter? -/
  isMarked : Bool
  /-- The number of quotes on either side. -/
  quotes : Nat
  /-- The characters between the quotes. -/
  body : List Char

/-- Takes a quoted token apart. -/
def Quotation.ofToken (cs : List Char) : Quotation :=
  let letters := cs.takeWhile Char.isAlpha
  let has (c : Char) : Bool := (letters.map Char.toLower).contains c
  let rest := cs.drop letters.length
  let size := match rest with
    | a :: b :: c :: _ => if a == b && b == c && rest.length ≥ 6 then 3 else 1
    | _ => 1
  let body := (rest.drop size).take (rest.length - 2 * size)
  ⟨has 'b', has 'r', has 'f', letters.head? == some 'u', size, body⟩

/-- A malformed escape: what is wrong, and the positions of its first and last character. -/
def malformed (description : String) (first last : Nat) : Cause :=
  .malformedEscape ("(unicode error) 'unicodeescape' codec can't decode bytes in position " ++
    toString first ++ "-" ++ toString last ++ ": " ++ description)

/-- The single characters that a backslash and a letter write. -/
def simpleEscape (c : Char) : Option Nat :=
  match c with
  | '\\' => some 92
  | '\'' => some 39
  | '"' => some 34
  | 'a' => some 7
  | 'b' => some 8
  | 'f' => some 12
  | 'n' => some 10
  | 'r' => some 13
  | 't' => some 9
  | 'v' => some 11
  | _ => none

/-- The digits of an octal escape: at most three. -/
def octalDigits (cs : List Char) : List Char :=
  (cs.take 3).takeWhile fun c => '0' ≤ c && c ≤ '7'

/-- The number of hexadecimal digits that an escape takes, and the fault of having fewer. -/
def hexEscape (c : Char) : Option (Nat × String) :=
  match c with
  | 'x' => some (2, "truncated \\xXX escape")
  | 'u' => some (4, "truncated \\uXXXX escape")
  | 'U' => some (8, "truncated \\UXXXXXXXX escape")
  | _ => none

/-- Is the character a hexadecimal digit? -/
def isHexDigit (c : Char) : Bool := (Text.hexDigit? c).isSome

/-- A character beyond ASCII as an escape. -/
def byNumber (c : Char) : List Char :=
  let digits := Nat.toDigits 16 c.toNat
  ['\\', 'U'] ++ List.replicate (8 - digits.length) '0' ++ digits

/-- A backslash as an escape. -/
def backslash : List Char := "\\u005c".toList

/-- The same text in ASCII. Characters beyond ASCII become escapes, and so does a backslash that begins
none, because nothing or such a character follows it. Reports of malformed escapes count in this
text. -/
def inAscii : List Char → List Char
  | [] => []
  | ['\\'] => backslash
  | '\\' :: c :: rest =>
    if c.toNat ≥ 128 then backslash ++ byNumber c ++ inAscii rest else '\\' :: c :: inAscii rest
  | c :: rest => (if c.toNat ≥ 128 then byNumber c else [c]) ++ inAscii rest

/-- The code points of a text with escapes, which is in ASCII. `position` counts the characters read,
`skip` of the characters to come belong to the escape read last. -/
def unescapeFrom (position skip : Nat) : List Char → Except Cause CodePoints
  | [] => .ok []
  | c :: rest =>
    match skip with
    | skip + 1 => unescapeFrom (position + 1) skip rest
    | 0 =>
      let give (codes : CodePoints) (skip : Nat) : Except Cause CodePoints :=
        (unescapeFrom (position + 1) skip rest).map (codes ++ ·)
      if c != '\\' then give [c.toNat] 0
      else match rest with
        | [] => .error (malformed "\\ at end of string" position position)
        | d :: more =>
          if d == '\n' then give [] 1
          else if let some code := simpleEscape d then give [code] 1
          else if !(octalDigits rest).isEmpty then
            let digits := octalDigits rest
            give [ofDigits 8 digits] digits.length
          else if let some (count, fault) := hexEscape d then
            let digits := (more.take count).takeWhile isHexDigit
            let code := ofDigits 16 digits
            if digits.length < count then
              .error (malformed fault position (position + 1 + digits.length))
            else if code > 0x10FFFF then
              .error (malformed "illegal Unicode character" position (position + 1 + count))
            else give [code] (count + 1)
          else if d == 'N' then
            let name := (more.drop 1).takeWhile fun c => c.toNat ≠ 125
            let closed := (more.drop (name.length + 1)).length > 0
            if (more.head?.map Char.toNat) = some 123 && closed && !name.isEmpty then
              match Text.characterNamed? (String.ofList name) with
              | some code => give [code] (name.length + 3)
              | none =>
                .error (malformed "unknown Unicode character name" position
                  (position + name.length + 3))
            else
              let last :=
                if (more.head?.map Char.toNat) != some 123 then 1
                else if closed then 2
                else rest.length
              .error (malformed "malformed \\N character escape" position (position + last))
          else give [c.toNat] 0

/-- The code points of the inside of a quoted text. -/
def unescape (raw : Bool) (body : List Char) : Except Cause CodePoints :=
  if raw then .ok (body.map Char.toNat) else unescapeFrom 0 0 (inAscii body)

/-- The bytes of a byte string with escapes; see `unescapeFrom`. -/
def unescapeBytesFrom (position skip : Nat) : List Char → Except Cause (List UInt8)
  | [] => .ok []
  | c :: rest =>
    match skip with
    | skip + 1 => unescapeBytesFrom (position + 1) skip rest
    | 0 =>
      let give (bytes : List UInt8) (skip : Nat) : Except Cause (List UInt8) :=
        (unescapeBytesFrom (position + 1) skip rest).map (bytes ++ ·)
      if c != '\\' then give [c.toNat.toUInt8] 0
      else match rest with
        | [] => .error (.malformedEscape "(value error) Trailing \\ in string")
        | d :: more =>
          if d == '\n' then give [] 1
          else if let some code := simpleEscape d then give [code.toUInt8] 1
          else if !(octalDigits rest).isEmpty then
            let digits := octalDigits rest
            give [(ofDigits 8 digits).toUInt8] digits.length
          else if d == 'x' then
            let digits := (more.take 2).takeWhile isHexDigit
            if digits.length < 2 then
              .error (.malformedEscape
                ("(value error) invalid \\x escape at position " ++ toString position))
            else give [(ofDigits 16 digits).toUInt8] 3
          else give [c.toNat.toUInt8] 0

/-- The bytes of the inside of a quoted byte string. -/
def unescapeBytes (raw : Bool) (body : List Char) : Except Cause (List UInt8) :=
  if body.any fun c => c.toNat ≥ 128 then .error .bytesBeyondAscii
  else if raw then .ok (body.map fun c => c.toNat.toUInt8)
  else unescapeBytesFrom 0 0 body

end FluentBuilder.Syntax.Literal
