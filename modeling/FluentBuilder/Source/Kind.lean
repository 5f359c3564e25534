import FluentBuilder.Source.Tree

/-!
# Kinds of declarations

A declaration is a function, a plain class, or a class of a special kind: an enumeration, an
interface or a typed dictionary. A class is of a special kind if one of its bases is, or if a class
of the tree that it descends from is.
-/

namespace FluentBuilder.Source

/-- The kinds of declarations. -/
inductive Kind where
  | plainClass | enumeration | interface | typedDict | function
  deriving DecidableEq, Repr

/-- The word for a kind. -/
def Kind.word : Kind → String
  | .plainClass => "class"
  | .enumeration => "enum"
  | .interface => "interface"
  | .typedDict => "typed dict"
  | .function => "function"

/-- The special kind that a base outside all trees gives. -/
def Kind.ofBase (name : String) : Option Kind :=
  if ["enum.Enum", "enum.IntEnum", "enum.StrEnum", "enum.Flag", "enum.IntFlag"].contains name then
    some .enumeration
  else if ["typing.Protocol", "typing_extensions.Protocol"].contains name then some .interface
  else if ["typing.TypedDict", "typing_extensions.TypedDict"].contains name then some .typedDict
  else none

namespace Tree

/-- The special kind of a class, searched through the classes `pending`, of which the first one is
looked at next, without those `seen`. Every class is looked at once, so that there are no more steps
than base expressions in the tree and one for each class given at first. -/
def specialKind (tree : Tree) : (fuel : Nat) → (seen : List String) → (pending : List Declaration) →
    Option Kind
  | 0, _, _ => none
  | _, _, [] => none
  | fuel + 1, seen, d :: pending =>
    if seen.contains d.qualifiedName then tree.specialKind fuel seen pending
    else
      let bases := tree.baseClasses d
      match bases.findSome? Kind.ofBase with
      | some kind => some kind
      | none =>
        let parents := bases.filterMap tree.findClass?
        tree.specialKind fuel (d.qualifiedName :: seen) (parents.reverse ++ pending)

/-- A number of steps that suffices to look at every class that a class descends from. -/
def kindFuel (tree : Tree) (d : Declaration) : Nat :=
  tree.declarations.foldl (fun n c => n + c.baseExprs.length) (1 + d.baseExprs.length)

/-- The kind of a declaration. -/
def kindOf (tree : Tree) (d : Declaration) : Kind :=
  if d.isClass then (tree.specialKind (tree.kindFuel d + 1) [] [d]).getD .plainClass else .function

end Tree
end FluentBuilder.Source
