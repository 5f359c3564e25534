/-!
# Sequences of code points

A quoted constant can name any code point, a surrogate included, which a text cannot hold. Its
value is therefore a sequence of numbers; `toText` makes a text of it or says where the first run
of surrogates stands.
-/

namespace FluentBuilder

/-- A sequence of code points, surrogates included. -/
abbrev CodePoints := List Nat

/-- A run of surrogates in a sequence that should become a text. -/
structure SurrogateRun where
  /-- The first surrogate. -/
  code : Nat
  /-- Its position. -/
  position : Nat
  /-- How many surrogates follow each other there. -/
  count : Nat
  deriving DecidableEq, Repr

/-- The wording for a run of surrogates. -/
def SurrogateRun.message (run : SurrogateRun) : String :=
  let what :=
    if run.count ≤ 1 then
      "character '\\u" ++ String.ofList (Nat.toDigits 16 run.code) ++ "' in position " ++
        toString run.position
    else
      "characters in position " ++ toString run.position ++ "-" ++
        toString (run.position + run.count - 1)
  "'utf-8' codec can't encode " ++ what ++ ": surrogates not allowed"

namespace CodePoints

/-- Is the code point a surrogate? -/
def isSurrogate (c : Nat) : Bool :=
  0xD800 ≤ c && c ≤ 0xDFFF

/-- The code points of a text. -/
def ofText (text : String) : CodePoints :=
  text.toList.map Char.toNat

/-- The text of the code points, or the first run of surrogates. -/
def toText (cs : CodePoints) : Except SurrogateRun String :=
  match cs.findIdx? isSurrogate with
  | none => .ok (String.ofList (cs.map Char.ofNat))
  | some i => .error ⟨cs.getD i 0, i, ((cs.drop i).takeWhile isSurrogate).length⟩

/-- The text of the code points, with a mark in the place of every surrogate. -/
def toTextMarking (cs : CodePoints) : String :=
  String.ofList (cs.map fun c => if isSurrogate c then '\uFFFD' else Char.ofNat c)

end CodePoints
end FluentBuilder
