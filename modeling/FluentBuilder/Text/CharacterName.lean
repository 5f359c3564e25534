import FluentBuilder.Text.CharTable
import FluentBuilder.Text.CharacterName.Letters
import FluentBuilder.Text.CharacterName.Notation
import FluentBuilder.Text.CharacterName.Scripts
import FluentBuilder.Text.CharacterName.Signs
import FluentBuilder.Text.CharacterName.Syllables

/-!
# Names of characters

Characters by the names that the Unicode standard gives them. Most names are written out in tables;
the names of some characters end in their numbers, and those of Korean syllables are made up of the
names of their letters. Control characters and a few others are known by further names.

Small and capital letters are the same in a name, except in those of ideographs and syllables.
-/

namespace FluentBuilder.Text

/-- What a text goes on with behind another one. -/
def behindStart? (start text : List Char) : Option (List Char) :=
  if start.isPrefixOf text then some (text.drop start.length) else none

/-! ### Written names -/

/-- Looks a name up in the lines of a table. `next` is the character whose name comes next, and
`behind` what the name goes on with behind the beginning of the group at hand. -/
def findInLines (name : List Char) :
    (next : Nat) → (behind : Option (List Char)) → List String → Option Nat
  | _, _, [] => none
  | next, behind, line :: rest =>
    let parts := splitAt '|' line.toList
    let (next, behind) := match parts.headD [] with
      | [] => (next, behind)
      | head =>
        let digits := head.takeWhile (· != ' ')
        (hexNumber digits, behindStart? (head.drop (digits.length + 1)) name)
    let found := match behind with
      | some behind => parts.tail.findIdx? (· == behind)
      | none => none
    match found with
    | some i => some (next + i)
    | none => findInLines name (next + parts.length - 1) behind rest

/-- The character of a name that is written out. -/
def writtenName? (name : List Char) : Option Nat :=
  [lettersNames, signsNames, syllablesNames, scriptsNames, notationNames].findSome? fun table =>
    findInLines name 0 none (table.splitOn "\n")

/-! ### Further names -/

/-- Names besides those of the tables, each behind the number of its character. -/
def furtherNames : List String := [
  "0 NULL|0 NUL|1 START OF HEADING|1 SOH|2 START OF TEXT|2 STX|3 END OF TEXT|3 ETX",
  "4 END OF TRANSMISSION|4 EOT|5 ENQUIRY|5 ENQ|6 ACKNOWLEDGE|6 ACK|7 ALERT|7 BEL|8 BACKSPACE|8 BS",
  "9 CHARACTER TABULATION|9 HORIZONTAL TABULATION|9 HT|9 TAB|A LINE FEED|A NEW LINE|A END OF LINE",
  "A EOL|A LF|A NL|B LINE TABULATION|B VERTICAL TABULATION|B VT|C FORM FEED|C FF",
  "D CARRIAGE RETURN|D CR|E SHIFT OUT|E LOCKING-SHIFT ONE|E SO|F SHIFT IN|F LOCKING-SHIFT ZERO",
  "F SI|10 DATA LINK ESCAPE|10 DLE|11 DEVICE CONTROL ONE|11 DC1|12 DEVICE CONTROL TWO|12 DC2",
  "13 DEVICE CONTROL THREE|13 DC3|14 DEVICE CONTROL FOUR|14 DC4|15 NEGATIVE ACKNOWLEDGE|15 NAK",
  "16 SYNCHRONOUS IDLE|16 SYN|17 END OF TRANSMISSION BLOCK|17 ETB|18 CANCEL|18 CAN",
  "19 END OF MEDIUM|19 EOM|1A SUBSTITUTE|1A SUB|1B ESCAPE|1B ESC|1C INFORMATION SEPARATOR FOUR",
  "1C FILE SEPARATOR|1C FS|1D INFORMATION SEPARATOR THREE|1D GROUP SEPARATOR|1D GS",
  "1E INFORMATION SEPARATOR TWO|1E RECORD SEPARATOR|1E RS|1F INFORMATION SEPARATOR ONE",
  "1F UNIT SEPARATOR|1F US|20 SP|7F DELETE|7F DEL|80 PADDING CHARACTER|80 PAD",
  "81 HIGH OCTET PRESET|81 HOP|82 BREAK PERMITTED HERE|82 BPH|83 NO BREAK HERE|83 NBH|84 INDEX",
  "84 IND|85 NEXT LINE|85 NEL|86 START OF SELECTED AREA|86 SSA|87 END OF SELECTED AREA|87 ESA",
  "88 CHARACTER TABULATION SET|88 HORIZONTAL TABULATION SET|88 HTS",
  "89 CHARACTER TABULATION WITH JUSTIFICATION|89 HORIZONTAL TABULATION WITH JUSTIFICATION|89 HTJ",
  "8A LINE TABULATION SET|8A VERTICAL TABULATION SET|8A VTS|8B PARTIAL LINE FORWARD",
  "8B PARTIAL LINE DOWN|8B PLD|8C PARTIAL LINE BACKWARD|8C PARTIAL LINE UP|8C PLU",
  "8D REVERSE LINE FEED|8D REVERSE INDEX|8D RI|8E SINGLE SHIFT TWO|8E SINGLE-SHIFT-2|8E SS2",
  "8F SINGLE SHIFT THREE|8F SINGLE-SHIFT-3|8F SS3|90 DEVICE CONTROL STRING|90 DCS",
  "91 PRIVATE USE ONE|91 PRIVATE USE-1|91 PU1|92 PRIVATE USE TWO|92 PRIVATE USE-2|92 PU2",
  "93 SET TRANSMIT STATE|93 STS|94 CANCEL CHARACTER|94 CCH|95 MESSAGE WAITING|95 MW",
  "96 START OF GUARDED AREA|96 START OF PROTECTED AREA|96 SPA|97 END OF GUARDED AREA",
  "97 END OF PROTECTED AREA|97 EPA|98 START OF STRING|98 SOS",
  "99 SINGLE GRAPHIC CHARACTER INTRODUCER|99 SGC|9A SINGLE CHARACTER INTRODUCER|9A SCI",
  "9B CONTROL SEQUENCE INTRODUCER|9B CSI|9C STRING TERMINATOR|9C ST|9D OPERATING SYSTEM COMMAND",
  "9D OSC|9E PRIVACY MESSAGE|9E PM|9F APPLICATION PROGRAM COMMAND|9F APC|A0 NBSP|AD SHY",
  "1A2 LATIN CAPITAL LETTER GHA|1A3 LATIN SMALL LETTER GHA|34F CGJ|61C ALM",
  "709 SYRIAC SUBLINEAR COLON SKEWED LEFT|CDE KANNADA LETTER LLLA|E9D LAO LETTER FO FON",
  "E9F LAO LETTER FO FAY|EA3 LAO LETTER RO|EA5 LAO LETTER LO",
  "FD0 TIBETAN MARK BKA- SHOG GI MGO RGYAN|11EC HANGUL JONGSEONG YESIEUNG-KIYEOK",
  "11ED HANGUL JONGSEONG YESIEUNG-SSANGKIYEOK|11EE HANGUL JONGSEONG SSANGYESIEUNG",
  "11EF HANGUL JONGSEONG YESIEUNG-KHIEUKH|180B FVS1|180C FVS2|180D FVS3|180E MVS|180F FVS4",
  "200B ZWSP|200C ZWNJ|200D ZWJ|200E LRM|200F RLM|202A LRE|202B RLE|202C PDF|202D LRO|202E RLO",
  "202F NNBSP|205F MMSP|2060 WJ|2066 LRI|2067 RLI|2068 FSI|2069 PDI",
  "2118 WEIERSTRASS ELLIPTIC FUNCTION|2448 MICR ON US SYMBOL|2449 MICR DASH SYMBOL",
  "2B7A LEFTWARDS TRIANGLE-HEADED ARROW WITH DOUBLE VERTICAL STROKE",
  "2B7C RIGHTWARDS TRIANGLE-HEADED ARROW WITH DOUBLE VERTICAL STROKE",
  "A015 YI SYLLABLE ITERATION MARK|AA6E MYANMAR LETTER KHAMTI LLA",
  "FE18 PRESENTATION FORM FOR VERTICAL RIGHT WHITE LENTICULAR BRACKET|FEFF BYTE ORDER MARK",
  "FEFF BOM|FEFF ZWNBSP|122D4 CUNEIFORM SIGN NU11 TENU",
  "122D5 CUNEIFORM SIGN NU11 OVER NU11 BUR OVER BUR|16E56 MEDEFAIDRIN CAPITAL LETTER H",
  "16E57 MEDEFAIDRIN CAPITAL LETTER NG|16E76 MEDEFAIDRIN SMALL LETTER H",
  "16E77 MEDEFAIDRIN SMALL LETTER NG|1B001 HENTAIGANA LETTER E-1",
  "1D0C5 BYZANTINE MUSICAL SYMBOL FTHORA SKLIRON CHROMA VASIS"]

/-- The character of one of the further names. -/
def furtherName? (name : List Char) : Option Nat :=
  furtherNames.findSome? fun line =>
    (splitAt '|' line.toList).findSome? fun entry =>
      let digits := entry.takeWhile (· != ' ')
      if entry.drop (digits.length + 1) == name then some (hexNumber digits) else none

/-- The character of a short name of a variation selector. -/
def selector? (name : List Char) : Option Nat := do
  let digits ← behindStart? ['V', 'S'] name
  let number := digits.foldl (fun n d => 10 * n + (d.toNat - 48)) 0
  if number = 0 || number > 256 || Nat.toDigits 10 number != digits then none
  else return if number ≤ 16 then 0xFDFF + number else 0xE00EF + number

/-! ### Numbered names -/

/-- Characters whose names end in their numbers: what the names begin with, and their range. -/
def numberedNames : List (String × Nat × Nat) := [
  ("CJK COMPATIBILITY IDEOGRAPH-", 0xF900, 0xFA6D),
  ("CJK COMPATIBILITY IDEOGRAPH-", 0xFA70, 0xFAD9),
  ("KHITAN SMALL SCRIPT CHARACTER-", 0x18B00, 0x18CD5),
  ("NUSHU CHARACTER-", 0x1B170, 0x1B2FB),
  ("CJK COMPATIBILITY IDEOGRAPH-", 0x2F800, 0x2FA1D)]

/-- The character of a name that ends in its number. -/
def numberedName? (name : List Char) : Option Nat :=
  numberedNames.findSome? fun (start, first, last) => do
    let digits ← behindStart? start.toList name
    let code := hexNumber digits
    if first ≤ code && code ≤ last && (Nat.toDigits 16 code).map Char.toUpper == digits then
      some code
    else none

/-- The ranges of ideographs. -/
def ideographs : List (Nat × Nat) :=
  [(0x3400, 0x4DBF), (0x4E00, 0x9FFF), (0x20000, 0x2A6DF), (0x2A700, 0x2B738), (0x2B740, 0x2B81D),
    (0x2B820, 0x2CEA1), (0x2CEB0, 0x2EBE0), (0x30000, 0x3134A)]

/-- What the names of ideographs begin with. -/
def ideographStart : List Char := "CJK UNIFIED IDEOGRAPH-".toList

/-- The ideograph of a number, which has four or five digits. -/
def ideograph? (digits : List Char) : Option Nat :=
  let code := hexNumber digits
  let isDigit (c : Char) : Bool := (hexDigit? c).isSome && !c.isLower
  if (digits.length = 4 || digits.length = 5) && digits.all isDigit &&
      ideographs.any fun (first, last) => first ≤ code && code ≤ last then some code
  else none

/-! ### Korean syllables -/

/-- What the names of Korean syllables begin with. -/
def syllableStart : List Char := "HANGUL SYLLABLE ".toList

/-- The names of the letters that begin a syllable. -/
def leadingLetters : List String :=
  ["G", "GG", "N", "D", "DD", "R", "M", "B", "BB", "S", "SS", "", "J", "JJ", "C", "K", "T", "P",
    "H"]

/-- The names of the vowels. -/
def vowels : List String :=
  ["A", "AE", "YA", "YAE", "EO", "E", "YEO", "YE", "O", "WA", "WAE", "OE", "YO", "U", "WEO", "WE",
    "WI", "YU", "EU", "YI", "I"]

/-- The names of the letters that end a syllable. -/
def trailingLetters : List String :=
  ["", "G", "GG", "GS", "N", "NJ", "NH", "D", "L", "LG", "LM", "LB", "LS", "LT", "LP", "LH", "M",
    "B", "BS", "S", "SS", "NG", "J", "C", "K", "T", "P", "H"]

/-- The longest of some names that a text begins with: its index, and what follows. -/
def longestName? (names : List String) (text : List Char) : Option (Nat × List Char) :=
  (names.zipIdx.foldl (fun (best : Option (Nat × Nat)) (name, i) =>
    if name.toList.isPrefixOf text && best.all (fun b => b.2 < name.length) then
      some (i, name.length)
    else best) none).map fun (i, length) => (i, text.drop length)

/-- The syllable that letters spell. -/
def syllable? (letters : List Char) : Option Nat := do
  let (l, rest) ← longestName? leadingLetters letters
  let (v, rest) ← longestName? vowels rest
  let (t, rest) ← longestName? trailingLetters rest
  if rest.isEmpty then some (0xAC00 + (l * 21 + v) * 28 + t) else none

/-! ### All names -/

/-- The character of a name. -/
def characterNamed? (name : String) : Option Nat :=
  match behindStart? syllableStart name.toList, behindStart? ideographStart name.toList with
  | some letters, _ => syllable? letters
  | none, some digits => ideograph? digits
  | none, none =>
    let name := name.toUpper.toList
    (((writtenName? name).or (furtherName? name)).or (selector? name)).or (numberedName? name)

end FluentBuilder.Text
