/-!
# Tables of characters

A property of characters is kept as the list of its code point ranges, and a mapping of characters
as ranges with their images, both written in hexadecimal in one text. `RangeTable.contains` and
`MapTable.find?` look a code point up by bisection, so the rows of a text stand in ascending order.

The tables describe characters beyond ASCII. The predicates that use them decide ASCII first and
by themselves, so that a statement about plain text never unfolds a table.
-/

namespace FluentBuilder.Text

/-! ### Reading the written form -/

/-- The value of one hexadecimal digit. -/
def hexDigit? (c : Char) : Option Nat :=
  if '0' ≤ c ∧ c ≤ '9' then some (c.toNat - '0'.toNat)
  else if 'A' ≤ c ∧ c ≤ 'F' then some (c.toNat - 'A'.toNat + 10)
  else if 'a' ≤ c ∧ c ≤ 'f' then some (c.toNat - 'a'.toNat + 10)
  else none

/-- The number that hexadecimal digits write; other characters are skipped. -/
def hexNumber (cs : List Char) : Nat :=
  cs.foldl (fun n c => match hexDigit? c with
    | some d => 16 * n + d
    | none => n) 0

/-- The parts of a text between the occurrences of a separator, in order; there is always one. -/
def splitAt (separator : Char) (cs : List Char) : List (List Char) :=
  let (parts, last) := cs.foldl (fun (parts, current) c =>
    if c == separator then (current.reverse :: parts, []) else (parts, c :: current)) ([], [])
  (last.reverse :: parts).reverse

/-- The range that `41-5A` or `41` writes. -/
def readRange (cs : List Char) : Nat × Nat :=
  match splitAt '-' cs with
  | [first, last] => (hexNumber first, hexNumber last)
  | _ => (hexNumber cs, hexNumber cs)

/-! ### Properties -/

/-- A set of code points, as ascending ranges with both ends included. -/
structure RangeTable where
  /-- The ranges. -/
  rows : Array (Nat × Nat)

/-- The words of some lines, blanks being between them. -/
def wordsOfLines (lines : List String) : List (List Char) :=
  lines.flatMap fun line => splitAt ' ' line.toList

/-- The table that lines of ranges write. -/
def RangeTable.ofLines (lines : List String) : RangeTable :=
  ⟨((wordsOfLines lines).map readRange).toArray⟩

/-- Bisection for the row that holds `c`, between the indices `low` and `high`. -/
def bisect (rowOf : Nat → Option (Nat × Nat)) (c : Nat) : (fuel low high : Nat) → Option Nat
  | 0, _, _ => none
  | fuel + 1, low, high =>
    if low < high then
      let middle := (low + high) / 2
      match rowOf middle with
      | some (first, last) =>
        if c < first then bisect rowOf c fuel low middle
        else if last < c then bisect rowOf c fuel (middle + 1) high
        else some middle
      | none => none
    else none

/-- Is the code point in one of the ranges? -/
def RangeTable.contains (table : RangeTable) (c : Nat) : Bool :=
  (bisect (fun i => table.rows[i]?) c (table.rows.size + 1) 0 table.rows.size).isSome

/-! ### Mappings -/

/-- One row of a mapping: either every code point of a range with its images in the same order,
the first image being `target`, or one code point with several images. -/
structure MapRow where
  /-- First and last code point of the row. -/
  range : Nat × Nat
  /-- The image of the first code point. -/
  target : List Nat

/-- A mapping of code points to sequences of code points, as ascending rows. -/
structure MapTable where
  /-- The rows. -/
  rows : Array MapRow

/-- The row that `61-7A:41` or `DF:73,73` writes. -/
def MapRow.ofText (cs : List Char) : MapRow :=
  match splitAt ':' cs with
  | [range, target] => ⟨readRange range, (splitAt ',' target).map hexNumber⟩
  | _ => ⟨(0, 0), [0]⟩

/-- The mapping that lines of rows write. -/
def MapTable.ofLines (lines : List String) : MapTable :=
  ⟨((wordsOfLines lines).map MapRow.ofText).toArray⟩

/-- The images of a code point, where the mapping changes it. -/
def MapTable.find? (table : MapTable) (c : Nat) : Option (List Nat) := do
  let i ← bisect (fun i => (table.rows[i]?).map MapRow.range) c (table.rows.size + 1) 0 table.rows.size
  let row ← table.rows[i]?
  match row.target with
  | [first] => some [first + (c - row.range.1)]
  | images => some images

/-- The images as characters; a code point that the mapping keeps is its own image. -/
def MapTable.apply (table : MapTable) (c : Char) : List Char :=
  match table.find? c.toNat with
  | some images => images.map Char.ofNat
  | none => [c]

end FluentBuilder.Text
