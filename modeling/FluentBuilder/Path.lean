import FluentBuilder.Text.CharTable

/-!
# Paths

A path is a root and a list of parts. Empty parts and single points vanish when a text is read as a
path; two points stay. Two leading slashes are a root of their own, three or more are the same as
one.
-/

namespace FluentBuilder

/-- Where a path begins. -/
inductive PathRoot where
  /-- At the current directory. -/
  | relative
  /-- At the root. -/
  | absolute
  /-- At the root with two slashes. -/
  | doubled
  deriving DecidableEq, Repr

/-- The slashes of a root. -/
def PathRoot.text : PathRoot → String
  | .relative => ""
  | .absolute => "/"
  | .doubled => "//"

/-- A path. -/
structure Path where
  /-- Where it begins. -/
  root : PathRoot
  /-- Its parts. -/
  parts : List String
  deriving DecidableEq, Repr

namespace Path

/-- The path of the current directory. -/
def here : Path := ⟨.relative, []⟩

/-- The path that a text names. -/
def ofText (text : String) : Path :=
  let cs := text.toList
  let slashes := (cs.takeWhile (· == '/')).length
  let root :=
    if slashes = 0 then PathRoot.relative else if slashes = 2 then .doubled else .absolute
  let parts := (Text.splitAt '/' (cs.drop slashes)).map String.ofList
  ⟨root, parts.filter fun part => part != "" && part != "."⟩

/-- Is it a path from a root on? -/
def isAbsolute (p : Path) : Bool := p.root != .relative

/-- The second path as seen from the first one. -/
def append (p q : Path) : Path :=
  if q.isAbsolute then q else ⟨p.root, p.parts ++ q.parts⟩

instance : Append Path := ⟨append⟩

/-- The paths that texts name, each as seen from the one before. -/
def appendTexts (p : Path) (texts : List String) : Path :=
  texts.foldl (fun p text => p ++ ofText text) p

/-- The text of a path. -/
def render (p : Path) : String :=
  let text := p.root.text ++ String.intercalate "/" p.parts
  if text.isEmpty then "." else text

instance : ToString Path := ⟨render⟩

/-- The last part. -/
def name (p : Path) : String := p.parts.getLastD ""

/-- The path without its last part. -/
def parent (p : Path) : Path := ⟨p.root, p.parts.dropLast⟩

/-- The number of characters before the last point of a name, where the point begins a suffix: it is
neither the first character nor the last one. -/
def stemLength (name : List Char) : Option Nat :=
  let after := (name.reverse.takeWhile (· != '.')).length
  let before := name.length - after - 1
  if after < name.length && 0 < before && 0 < after then some before else none

/-- The path with its suffix replaced, or with one added. A path without a last part has none. -/
def withSuffix (p : Path) (suffix : String) : Path :=
  match p.parts.getLast? with
  | none => p
  | some last =>
    let cs := last.toList
    let stem := match stemLength cs with
      | some n => cs.take n
      | none => cs
    ⟨p.root, p.parts.dropLast ++ [String.ofList stem ++ suffix]⟩

/-- The path without its suffix. -/
def withoutSuffix (p : Path) : Path := p.withSuffix ""

end Path
end FluentBuilder
