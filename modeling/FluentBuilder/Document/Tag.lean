import FluentBuilder.Document.Stamp
import FluentBuilder.Text.CodePoints

/-!
# Kinds of nodes

Every node has a tag, which says what its value is. A plain scalar without a tag has the one that its
form suggests: `Tag.ofPlain` tries the forms in a fixed order, so that a text of two forms has the tag
of the first.
-/

namespace FluentBuilder.Document

/-- The kind of a node. -/
inductive Tag where
  | null
  | bool
  | int
  | float
  | binary
  | timestamp
  /-- A list of pairs. -/
  | omap
  /-- A list of pairs. -/
  | pairs
  | set
  | text
  | list
  | map
  /-- A key whose value is a mapping to be taken over. -/
  | merge
  /-- A key whose value stands for the mapping. -/
  | value
  /-- Any other kind. -/
  | unknown
  deriving DecidableEq, Repr

namespace Tag

/-- What the names of all tags begin with. -/
def family : String := "tag:yaml.org,2002:"

/-- The tags with the ends of their names. -/
def names : List (String × Tag) :=
  [("null", .null), ("bool", .bool), ("int", .int), ("float", .float), ("binary", .binary),
    ("timestamp", .timestamp), ("omap", .omap), ("pairs", .pairs), ("set", .set), ("str", .text),
    ("seq", .list), ("map", .map), ("merge", .merge), ("value", .value)]

/-- The tag of a name. -/
def ofName (name : String) : Tag :=
  match names.find? fun e => family ++ e.1 == name with
  | some (_, tag) => tag
  | none => .unknown

/-! ### Forms of plain scalars -/

/-- The words for nothing. -/
def nullWords : List String := ["", "~", "null", "Null", "NULL"]

/-- Marks of the notation, which have a kind of their own but no meaning. -/
def reservedMarks : List String := ["!", "&", "*"]

/-- The words for truth. -/
def trueWords : List String := ["yes", "true", "on"]

/-- The words for untruth. -/
def falseWords : List String := ["no", "false", "off"]

/-- The same word in small letters, with a capital letter, and in capital letters. -/
def spellings (word : String) : List String := [word, word.capitalize, word.toUpper]

/-- A digit, or a low line between digits. -/
def isDigitPart (c : Char) : Bool := c.isDigit || c == '_'

/-- The characters without a sign before them. -/
def unsigned : List Char → List Char
  | '+' :: cs => cs
  | '-' :: cs => cs
  | cs => cs

/-- Is it a colon with a number below sixty, again and again? -/
def isSixtieths : List Char → Bool
  | [] => true
  | [':', d] => d.isDigit
  | ':' :: d :: ':' :: rest => d.isDigit && isSixtieths (':' :: rest)
  | ':' :: d :: e :: rest => d.isDigit && d.toNat < '6'.toNat && e.isDigit && isSixtieths rest
  | _ => false

/-- Has it the form of a whole number? -/
def isInt (cs : List Char) : Bool :=
  match unsigned cs with
  | ['0'] => true
  | '0' :: 'b' :: digits => !digits.isEmpty && digits.all fun c => c == '0' || c == '1' || c == '_'
  | '0' :: 'x' :: digits =>
    !digits.isEmpty && digits.all fun c => isDigitPart c || ('a' ≤ c && c ≤ 'f') || ('A' ≤ c && c ≤ 'F')
  | '0' :: digits => digits.all fun c => ('0' ≤ c && c ≤ '7') || c == '_'
  | d :: rest => d.isDigit && isSixtieths (rest.dropWhile isDigitPart)
  | [] => false

/-- Is there nothing, or an exponent with a sign? -/
def isExponent : List Char → Bool
  | [] => true
  | e :: sign :: digits =>
    (e == 'e' || e == 'E') && (sign == '+' || sign == '-') && !digits.isEmpty && digits.all Char.isDigit
  | _ => false

/-- Has it the form of a floating point number? -/
def isFloat (cs : List Char) : Bool :=
  let body := unsigned cs
  let word := String.ofList body
  if [".inf", ".Inf", ".INF"].contains word then true
  else if [".nan", ".NaN", ".NAN"].contains (String.ofList cs) then true
  else match body with
    | '.' :: d :: rest =>
      cs.head? == some '.' && d.isDigit && isExponent (rest.dropWhile isDigitPart)
    | d :: rest =>
      let behind := rest.dropWhile isDigitPart
      d.isDigit && match behind with
        | '.' :: rest => isExponent (rest.dropWhile isDigitPart)
        | ':' :: _ =>
          let sixtieths := behind.takeWhile (· != '.')
          match behind.drop sixtieths.length with
          | '.' :: rest => isSixtieths sixtieths && rest.all isDigitPart
          | _ => false
        | _ => false
    | [] => false

/-- The tag that the form of a plain text suggests. A line end behind it does not matter. -/
def ofText (text : String) : Tag :=
  let cs := text.toList
  let cs := if cs.getLast? == some '\n' then cs.dropLast else cs
  let word := String.ofList cs
  if ((trueWords ++ falseWords).flatMap spellings).contains word then .bool
  else if isFloat cs then .float
  else if isInt cs then .int
  else if word == "<<" then .merge
  else if nullWords.contains word && !(text == "\n") then .null
  else if Stamp.isPlain cs then .timestamp
  else if word == "=" then .value
  else if reservedMarks.contains word then .unknown
  else .text

/-- The tag that the form of a plain scalar suggests. -/
def ofPlain (text : CodePoints) : Tag :=
  match text.toText with
  | .ok text => ofText text
  | .error _ => .text

end Tag
end FluentBuilder.Document
