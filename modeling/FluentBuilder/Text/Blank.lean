import FluentBuilder.Text.CharTable

/-!
# Blank characters

The white space of the Unicode standard, with the separators U+001C to U+001F, and what is left of
a text without the blanks at its ends.
-/

namespace FluentBuilder.Text

/-- The blank characters beyond ASCII. -/
def blankTable : RangeTable := RangeTable.ofLines [
  "9-D 1C-20 85 A0 1680 2000-200A 2028-2029 202F 205F 3000"]

/-- Is the character white space? -/
def isBlank (c : Char) : Bool :=
  if c.toNat < 128 then
    (9 ≤ c.toNat && c.toNat ≤ 13) || (28 ≤ c.toNat && c.toNat ≤ 32)
  else blankTable.contains c.toNat

/-- A sequence without the elements at its two ends that satisfy `drop`. -/
def trimEnds {α : Type} (drop : α → Bool) (xs : List α) : List α :=
  ((xs.dropWhile drop).reverse.dropWhile drop).reverse

/-- A text without the blanks at its ends. -/
def stripBlanks (s : String) : String :=
  String.ofList (trimEnds isBlank s.toList)

/-- Does the text hold nothing but blanks? -/
def isAllBlank (s : String) : Bool :=
  s.toList.all isBlank

end FluentBuilder.Text
