import FluentBuilder.Document.Calendar
import FluentBuilder.Text.Quoted

/-!
# Faults of documents

A text is malformed if it follows no rule of the notation. All other faults concern one value in it
that is written as its kind demands, or has a tag that demands a kind, but means nothing.
-/

namespace FluentBuilder.Document

/-- Why a text holds no document. -/
inductive DocumentFault where
  /-- The text breaks a rule of the notation. -/
  | malformed
  /-- An escape names no code point. -/
  | codePoint (code : Nat)
  /-- A number has no digits at all. -/
  | emptyNumber
  /-- A text is no whole number of the base. -/
  | wholeNumber (base : Nat) (text : CodePoints)
  /-- A whole number has more digits than are read. -/
  | longNumber (digits : Nat)
  /-- A whole number has more digits than are written. -/
  | unwritableNumber
  /-- A whole number is beyond all floating point numbers. -/
  | greatNumber
  /-- A text is no floating point number. -/
  | floatNumber (text : CodePoints)
  /-- A text is no truth value. -/
  | truthValue (text : CodePoints)
  /-- A text has not the form of a day or a moment. -/
  | noMoment
  /-- A mapping stands where the text of a day or a moment should. -/
  | mappedMoment
  /-- The numbers of a day or a moment are out of range. -/
  | calendar (fault : CalendarFault)
  deriving DecidableEq, Repr

/-- The most digits of a whole number in decimal. -/
def digitLimit : Nat := 4300

/-- The most characters that are shown of a text that is no whole number. -/
def quotedLimit : Nat := 200

/-- The wording of a fault. -/
def DocumentFault.message : DocumentFault → String
  | .malformed => "malformed document"
  | .codePoint code =>
    if code < Nat.pow 2 31 then "chr() arg not in range(0x110000)"
    else "Python int too large to convert to C int"
  | .emptyNumber => "string index out of range"
  | .wholeNumber base text =>
    "invalid literal for int() with base " ++ toString base ++ ": " ++
      String.ofList ((Quoted.text text).toList.take quotedLimit)
  | .longNumber digits =>
    "Exceeds the limit (" ++ toString digitLimit ++ " digits) for integer string conversion: " ++
      "value has " ++ toString digits ++ " digits; use sys.set_int_max_str_digits() to increase " ++
      "the limit"
  | .unwritableNumber =>
    "Exceeds the limit (" ++ toString digitLimit ++ " digits) for integer string conversion; " ++
      "use sys.set_int_max_str_digits() to increase the limit"
  | .greatNumber => "int too large to convert to float"
  | .floatNumber text => "could not convert string to float: " ++ Quoted.text text
  | .truthValue text => Quoted.text text
  | .noMoment => "'NoneType' object has no attribute 'groupdict'"
  | .mappedMoment => "expected string or bytes-like object, got 'list'"
  | .calendar fault => fault.message

end FluentBuilder.Document
