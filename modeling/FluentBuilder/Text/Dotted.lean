/-!
# Dotted names

Modules, classes and types are named by segments with points between them, as in `pkg.cars.Car`.
A name is kept as the text that it is: the functions here take it apart and put it together again.
Segments may be empty, so that every text is a dotted name and `join_segments` holds for all of
them.
-/

namespace FluentBuilder.Dotted

/-- The parts of a sequence of characters between the occurrences of a separator. -/
def pieces (separator : Char) : List Char → List (List Char)
  | [] => [[]]
  | c :: cs =>
    if c = separator then [] :: pieces separator cs
    else match pieces separator cs with
      | [] => [[c]]
      | piece :: rest => (c :: piece) :: rest

/-- There is always a first piece. -/
theorem pieces_ne_nil (separator : Char) (cs : List Char) : pieces separator cs ≠ [] := by
  cases cs with
  | nil => simp [pieces]
  | cons c cs =>
    simp only [pieces]
    split
    · simp
    · split <;> simp

/-- Pieces with a separator between them. -/
def joinPieces (separator : Char) : List (List Char) → List Char
  | [] => []
  | [piece] => piece
  | piece :: next :: rest => piece ++ separator :: joinPieces separator (next :: rest)

/-- Taking a text apart loses nothing. -/
theorem joinPieces_pieces (separator : Char) (cs : List Char) :
    joinPieces separator (pieces separator cs) = cs := by
  induction cs with
  | nil => rfl
  | cons c cs ih =>
    simp only [pieces]
    split
    · next h =>
      subst h
      cases hp : pieces c cs with
      | nil => exact absurd hp (pieces_ne_nil c cs)
      | cons piece rest => simpa [joinPieces, hp] using ih
    · cases hp : pieces separator cs with
      | nil => exact absurd hp (pieces_ne_nil separator cs)
      | cons piece rest =>
        cases rest with
        | nil => simpa [joinPieces, hp] using ih
        | cons next rest => simpa [joinPieces, hp] using ih

/-- The segments of a name. -/
def segments (name : String) : List String :=
  (pieces '.' name.toList).map String.ofList

/-- The name that the segments write. -/
def join (segments : List String) : String :=
  String.ofList (joinPieces '.' (segments.map String.toList))

/-- Every name is the join of its segments. -/
@[simp] theorem join_segments (name : String) : join (segments name) = name := by
  have h : (pieces '.' name.toList).map (String.toList ∘ String.ofList)
      = pieces '.' name.toList := by
    simp [Function.comp_def]
  simp only [join, segments, List.map_map, h, joinPieces_pieces, String.ofList_toList]

/-- The first segment and all that follows the first point. -/
def splitHead (name : String) : String × String :=
  match segments name with
  | head :: rest => (head, join rest)
  | [] => ("", "")

/-- All that comes before the last point and the last segment. -/
def splitLast (name : String) : String × String :=
  let parts := segments name
  (join parts.dropLast, parts.getLastD "")

/-- The last segment. -/
def lastSegment (name : String) : String :=
  (splitLast name).2

/-- All that comes before the last point. -/
def parent (name : String) : String :=
  (splitLast name).1

/-- Two names with a point between them, or the second alone when the first is empty. -/
def within (outer inner : String) : String :=
  if outer.isEmpty then inner else outer ++ "." ++ inner

end FluentBuilder.Dotted
