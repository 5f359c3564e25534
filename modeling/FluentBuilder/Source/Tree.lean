import FluentBuilder.Library
import FluentBuilder.Source.Declaration

/-!
# Source trees

A source tree is a set of modules in ascending order of their names. It knows the declarations of its
modules, and says which qualified name a name stands for at some place (`Tree.qualify`). A class is
found under its qualified name; where several share one, the last of them.
-/

namespace FluentBuilder.Source

open Syntax

/-- A source tree. -/
structure Tree where
  /-- Its modules, in ascending order of their names. -/
  modules : Table Module

namespace Tree

/-- The tree of some modules, given under their names. -/
def ofModules (modules : Table Module) : Tree := ⟨modules.sorted⟩

/-- The tree without modules. -/
def empty : Tree := ⟨[]⟩

/-- All declarations, module by module, outer ones before those inside them. -/
def declarations (tree : Tree) : List Declaration :=
  tree.modules.flatMap fun entry => entry.2.declarations

/-- The class of a qualified name. -/
def findClass? (tree : Tree) (name : String) : Option Declaration :=
  tree.declarations.reverse.find? fun d => d.isClass && d.qualifiedName == name

/-- The class of a qualified name, or else the first declaration of that name. -/
def find? (tree : Tree) (name : String) : Option Declaration :=
  tree.findClass? name <|> tree.declarations.find? fun d => d.qualifiedName == name

/-! ### Names -/

/-- The qualified name of a single segment as seen in a class body of a module. The classes declared
in that body come first, then the names that the module defines, those that it imports and the
built-in ones; a name that is none of these counts as one of the module. -/
def qualifyHead (tree : Tree) (m : Module) (scope : List String) (head : String) : String :=
  let owner :=
    if scope.isEmpty then none else tree.findClass? (Dotted.join (m.name :: scope))
  match owner.filter fun d => d.nestedClasses.contains head with
  | some d => d.qualifiedName ++ "." ++ head
  | none =>
    if m.defines head then m.name ++ "." ++ head
    else match m.imports.find? head with
      | some target => target
      | none =>
        if isBuiltinName head then "builtins." ++ head else m.name ++ "." ++ head

/-- The qualified name of a dotted name as seen in a class body of a module. -/
def qualify (tree : Tree) (m : Module) (scope : List String) (name : String) : String :=
  let (head, rest) := Dotted.splitHead name
  let qualified := tree.qualifyHead m scope head
  if rest.isEmpty then qualified else qualified ++ "." ++ rest

/-- The proper prefixes of a list of segments with what follows them, longest first. -/
def splits (segments : List String) : List (List String × List String) :=
  (List.range (segments.length - 1)).reverse.map fun i =>
    (segments.take (i + 1), segments.drop (i + 1))

/-- The module of a qualified name and the name within it: the longest proper prefix that is a module
of the tree. -/
def splitQualified (tree : Tree) (name : String) : Option (String × String) :=
  (splits (Dotted.segments name)).findSome? fun (front, back) =>
    let m := Dotted.join front
    if (tree.modules.find? m).isSome then some (m, Dotted.join back) else none

/-! ### Bases and markers -/

/-- The expression that names a base: of a base with arguments the part before them. -/
def baseHead : Expr → Expr
  | .subscript value _ => value
  | e => e

/-- The qualified names of the declared bases; a base that is no dotted name has none. Bases are seen
from around the class, not from its body. -/
def baseClasses (tree : Tree) (d : Declaration) : List String :=
  (d.baseExprs.filterMap fun e => (baseHead e).dottedName).map (tree.qualify d.module d.scope)

/-- The names under which the marker is known. -/
def markerNames : List String := ["buildergen.builder", "buildergen.marker.builder"]

/-- The expression that names a decorator: of a call the function. -/
def decoratorHead : Expr → Expr
  | .call function _ _ => function
  | e => e

/-- Does a declaration carry the marker? Decorators are seen from module level. -/
def isMarked (tree : Tree) (d : Declaration) : Bool :=
  d.decorators.any fun e =>
    match (decoratorHead e).dottedName with
    | some name => markerNames.contains (tree.qualify d.module [] name)
    | none => false

/-- The declarations that carry the marker. -/
def marked (tree : Tree) : List Declaration :=
  tree.declarations.filter tree.isMarked

end Tree
end FluentBuilder.Source
