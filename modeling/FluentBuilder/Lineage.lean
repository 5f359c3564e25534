/-!
# Lines of descent

The classes that a class descends from, in an order that keeps the order of bases of every class in
it: the class itself, and then the merge of the lines of its bases with the list of its bases. The
merge takes the head of the first list whose head stands in no other place of any list
(`Lineage.merge`); if there is no such head, the orders contradict each other.
-/

namespace FluentBuilder.Lineage

variable {α : Type} [DecidableEq α]

/-! ### Merging -/

/-- The first head that stands in no tail. -/
def freeHead (lists : List (List α)) : Option α :=
  (lists.filterMap List.head?).find? fun head => !lists.any fun list => list.tail.contains head

/-- Removes a head from the lists that begin with it. -/
def removeHead (head : α) (lists : List (List α)) : List (List α) :=
  lists.map fun list => if list.head? = some head then list.tail else list

/-- Merges in at most so many steps. -/
def mergeWithin : (fuel : Nat) → List (List α) → Option (List α)
  | 0, lists => if lists.all List.isEmpty then some [] else none
  | fuel + 1, lists =>
    if lists.all List.isEmpty then some []
    else match freeHead lists with
      | some head => (mergeWithin fuel (removeHead head lists)).map (head :: ·)
      | none => none

/-- Merges lists into one that keeps the order of each, if that can be done by taking heads. Every
step takes at least one item, so that there are no more steps than items. -/
def merge (lists : List (List α)) : Option (List α) :=
  mergeWithin (lists.foldl (fun n l => n + l.length) 0) lists

/-! ### Lines -/

/-- Why a class has no line of descent. -/
inductive Fault (α : Type) where
  /-- A class descends from itself: the way from the class at which the line begins. -/
  | cycle (way : List α)
  /-- The orders of bases contradict each other. -/
  | inconsistent
  deriving DecidableEq, Repr

/-- The line of a class with the bases `own`, `way` being the classes on the way to it. A way repeats
no class, so that its length, and with it the depth, is bounded by the number of classes. -/
def line (bases : α → List α) : (fuel : Nat) → (way : List α) → (cls : α) → (own : List α) →
    Except (Fault α) (List α)
  | 0, way, cls, _ => .error (.cycle (way ++ [cls]))
  | fuel + 1, way, cls, own =>
    if cls ∈ way then .error (.cycle (way ++ [cls]))
    else do
      let lines ← own.mapM fun base => line bases fuel (way ++ [cls]) base (bases base)
      match merge (lines ++ [own]) with
      | some merged => .ok (cls :: merged)
      | none => .error .inconsistent

end FluentBuilder.Lineage
