import FluentBuilder.Document.Calendar

/-!
# Days and moments as they are written

A day is written as year, month and day with hyphens between them; a time of day may follow behind a
letter or blanks, and a distance from universal time behind that. Month, day and hour may have a
single digit.
-/

namespace FluentBuilder.Document

/-- A time of day as it is written. -/
structure ClockText where
  /-- The hour. -/
  hour : Nat
  /-- The minute. -/
  minute : Nat
  /-- The second. -/
  second : Nat
  /-- The digits behind the point. -/
  fraction : List Char
  /-- The minutes ahead of universal time. -/
  offset : Option Int
  deriving DecidableEq, Repr

/-- A day or a moment as it is written. -/
structure Stamp where
  /-- The year. -/
  year : Nat
  /-- The month. -/
  month : Nat
  /-- The day. -/
  day : Nat
  /-- The time of day. -/
  clock : Option ClockText
  deriving DecidableEq, Repr

namespace Stamp

/-- The number that decimal digits write. -/
def numberOf (digits : List Char) : Nat :=
  digits.foldl (fun n d => 10 * n + (d.toNat - '0'.toNat)) 0

/-- A number of at least `least` and at most `most` digits, and what follows it. -/
def digits? (least most : Nat) (cs : List Char) : Option (Nat × List Char) :=
  let digits := (cs.take most).takeWhile Char.isDigit
  if least ≤ digits.length then some (numberOf digits, cs.drop digits.length) else none

/-- What follows a character. -/
def behind? (c : Char) : List Char → Option (List Char)
  | d :: rest => if d = c then some rest else none
  | [] => none

/-- Is the character a space or a tab? -/
def isGapChar (c : Char) : Bool := c == ' ' || c == '\t'

/-- What follows the mark between day and time: a letter, or blanks. -/
def behindGap? (cs : List Char) : Option (List Char) :=
  match cs with
  | 'T' :: rest => some rest
  | 't' :: rest => some rest
  | c :: rest => if isGapChar c then some (rest.dropWhile isGapChar) else none
  | [] => none

/-- The distance from universal time that ends a text, with its sign. -/
def offset? (cs : List Char) : Option (Option Int) := do
  match cs with
  | [] => some none
  | _ =>
    match cs.dropWhile isGapChar with
    | ['Z'] => some (some 0)
    | sign :: rest =>
      if sign ≠ '+' ∧ sign ≠ '-' then none
      else
        let (hours, rest) ← digits? 1 2 rest
        let minutes ← match rest with
          | [] => some 0
          | _ => do
            let (minutes, rest) ← digits? 2 2 (← behind? ':' rest)
            if rest.isEmpty then some minutes else none
        let total : Int := (hours * 60 + minutes : Nat)
        some (some (if sign = '-' then -total else total))
    | [] => none

/-- The time of day that ends a text. -/
def clock? (cs : List Char) : Option ClockText := do
  let (hour, rest) ← digits? 1 2 cs
  let (minute, rest) ← digits? 2 2 (← behind? ':' rest)
  let (second, rest) ← digits? 2 2 (← behind? ':' rest)
  let (fraction, rest) := match behind? '.' rest with
    | some rest => (rest.takeWhile Char.isDigit, rest.dropWhile Char.isDigit)
    | none => ([], rest)
  let offset ← offset? rest
  return ⟨hour, minute, second, fraction, offset⟩

/-- The day or moment that a text writes. -/
def ofChars? (cs : List Char) : Option Stamp := do
  let (year, rest) ← digits? 4 4 cs
  let (month, rest) ← digits? 1 2 (← behind? '-' rest)
  let (day, rest) ← digits? 1 2 (← behind? '-' rest)
  if rest.isEmpty then return ⟨year, month, day, none⟩
  let clock ← clock? (← behindGap? rest)
  return ⟨year, month, day, some clock⟩

/-- Does a plain text write a day or a moment? A day alone has two digits for month and day. -/
def isPlain (cs : List Char) : Bool :=
  match ofChars? cs with
  | some s => s.clock.isSome || cs.length == 10
  | none => false

/-- The digits of a fraction as microseconds. -/
def microseconds (fraction : List Char) : Nat :=
  let digits := fraction.take 6
  numberOf digits * Nat.pow 10 (6 - digits.length)

end Stamp
end FluentBuilder.Document
