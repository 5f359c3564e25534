import FluentBuilder.Text.CodePoints
import FluentBuilder.Text.Printable

/-!
# Quoted constants

How a text or a byte string is written as a constant. The quote is an apostrophe unless the value
holds an apostrophe and no double quote. Inside, the quote and the backslash are escaped, the tab
and the line ends have names, and what is not printable is written by number, as short as its size
allows.
-/

namespace FluentBuilder.Quoted

/-- The digit of a value below sixteen. -/
def hexDigit (n : Nat) : Char :=
  if n < 10 then Char.ofNat ('0'.toNat + n) else Char.ofNat ('a'.toNat + (n - 10))

/-- The lowest `width` hexadecimal digits of a number. -/
def hex : (width : Nat) → Nat → List Char
  | 0, _ => []
  | width + 1, n => hex width (n / 16) ++ [hexDigit (n % 16)]

/-- A code point by number: two, four or eight digits. -/
def escapeNumber (c : Nat) : List Char :=
  if c ≤ 0xFF then '\\' :: 'x' :: hex 2 c
  else if c ≤ 0xFFFF then '\\' :: 'u' :: hex 4 c
  else '\\' :: 'U' :: hex 8 c

/-- The escape of a code point that is not written as itself. -/
def escape (c : Nat) : List Char :=
  if c = 9 then ['\\', 't']
  else if c = 10 then ['\\', 'n']
  else if c = 13 then ['\\', 'r']
  else if c = 92 then ['\\', '\\']
  else escapeNumber c

/-- The quote for a value: an apostrophe if possible without escapes. -/
def quoteFor (cs : List Nat) : Char :=
  if cs.contains 39 && !cs.contains 34 then '"' else '\''

/-- One code point of a quoted text. -/
def textItem (quote : Char) (c : Nat) : List Char :=
  if c = quote.toNat then ['\\', quote]
  else if c = 92 || !Text.isPrintable c then escape c
  else [Char.ofNat c]

/-- The inside of a quoted text. -/
def textBody (quote : Char) (cs : CodePoints) : List Char :=
  cs.flatMap (textItem quote)

/-- A text as a constant. -/
def text (cs : CodePoints) : String :=
  let quote := quoteFor cs
  String.ofList (quote :: (textBody quote cs ++ [quote]))

/-- One byte of a quoted byte string. -/
def byteItem (quote : Char) (b : UInt8) : List Char :=
  let c := b.toNat
  if c = quote.toNat then ['\\', quote]
  else if c = 92 || c < 32 || c ≥ 127 then escape c
  else [Char.ofNat c]

/-- A byte string as a constant. -/
def bytes (bs : List UInt8) : String :=
  let quote := quoteFor (bs.map UInt8.toNat)
  String.ofList ('b' :: quote :: (bs.flatMap (byteItem quote) ++ [quote]))

end FluentBuilder.Quoted
