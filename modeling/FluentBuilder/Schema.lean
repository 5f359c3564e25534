import FluentBuilder.Lineage
import FluentBuilder.Resolver
import FluentBuilder.Source.Kind

/-!
# Schemas of classes

The schema of a class is the ordered list of its fields: the annotated names in its body and in the
bodies of the classes of the tree that it descends from. The line of descent is walked from its far
end; a field keeps the place of its first annotation and the type of its last one.
-/

namespace FluentBuilder

open Syntax Source

/-! ### Schemas -/

/-- A field. -/
structure Field where
  /-- Its name. -/
  name : String
  /-- Its type. -/
  type : TypeRef
  /-- The qualified name of the class that annotates it last. -/
  declaredIn : String
  deriving Repr

/-- The schema of a class. -/
structure Schema where
  /-- The module of the class. -/
  module : String
  /-- The name of the class in its module. -/
  qualname : String
  /-- The package of the module. -/
  package : String
  /-- The fields in order. -/
  fields : List Field
  deriving Repr

namespace Schema

/-- The own name of the class. -/
def simpleName (s : Schema) : String := Dotted.lastSegment s.qualname

/-- The package, followed by the classes around the class. -/
def enclosingScope (s : Schema) : String :=
  Dotted.join ([s.package, Dotted.parent s.qualname].filter fun part => !part.isEmpty)

/-- The qualified name of the class. -/
def qualifiedName (s : Schema) : String := s.module ++ "." ++ s.qualname

end Schema

/-- Why a declaration has no schema. -/
inductive SchemaFault where
  /-- It is no class. -/
  | noClass (name : String)
  /-- It has no line of descent. -/
  | lineage (fault : Lineage.Fault String)
  /-- An annotation cannot be resolved. -/
  | resolve (fault : ResolveFault)
  deriving DecidableEq, Repr

/-- The wording of a fault. -/
def SchemaFault.message : SchemaFault → String
  | .noClass name => name ++ " is not a class"
  | .lineage (.cycle way) => "cyclic inheritance: " ++ String.intercalate " -> " way
  | .lineage .inconsistent => "inconsistent method resolution order"
  | .resolve fault => fault.message

/-! ### Own fields -/

/-- The classes of the tree that are bases of a declaration. -/
def Source.Tree.parents (tree : Tree) (d : Declaration) : List String :=
  (tree.baseClasses d).filter fun name => (tree.findClass? name).isSome

/-- The classes of the tree that are bases of the class of a qualified name. -/
def Source.Tree.parentsOf (tree : Tree) (name : String) : List String :=
  match tree.findClass? name with
  | some d => tree.parents d
  | none => []

/-- The expression that a quoted one holds; any other is itself. Nothing, if it cannot be read. -/
def unquote (s : Surroundings) : Expr → Except ResolveFault (Option Expr)
  | .constant (.text value _) =>
    match (Resolving.stripped value).toText with
    | .error run => .error (.surrogates run)
    | .ok text =>
      match s.parse text with
      | .ok e => .ok (some e)
      | .error .nullCharacter => .error .nullCharacter
      | .error (.fault _) => .ok none
  | e => .ok (some e)

/-- The qualified name that an expression is in the body of a class. -/
def qualifiedIn (s : Surroundings) (d : Declaration) (e : Expr) :
    Except ResolveFault (Option String) := do
  match ← unquote s e with
  | some e => return e.dottedName.map (s.tree.qualify d.module d.innerScope)
  | none => return none

/-- The forms that mark a variable of the class itself. -/
def classVarForms : List String := ["typing.ClassVar", "typing_extensions.ClassVar"]

/-- Does an annotation mark a variable of the class itself? -/
def isClassVar (s : Surroundings) (d : Declaration) (hint : Expr) :
    Except ResolveFault Bool := do
  match ← unquote s hint with
  | none => return false
  | some e =>
    let name ← qualifiedIn s d (Tree.baseHead e)
    return name.any classVarForms.contains

/-- Does an annotation only say that the fields behind it are given by name? -/
def isKeywordMark (s : Surroundings) (d : Declaration) (hint : Expr) :
    Except ResolveFault Bool := do
  let name ← qualifiedIn s d hint
  return name.any (· == "dataclasses.KW_ONLY")

/-- Does a keyword say that a field is no argument of the constructor? -/
def excludes (k : Keyword Expr) : Bool :=
  k.name == some "init" &&
    match k.value with
    | .constant (.bool false) => true
    | _ => false

/-- Does the value of a field say that it is no argument of the constructor? -/
def isExcluded (s : Surroundings) (d : Declaration) : Option Expr → Except ResolveFault Bool
  | some (.call function _ keywords) => do
    let name ← qualifiedIn s d function
    return name.any (· == "dataclasses.field") && keywords.any excludes
  | _ => return false

/-- The field that a statement in the body of a class contributes, with its annotation. -/
def ownField (s : Surroundings) (d : Declaration) :
    Statement → Except ResolveFault (Option (String × Expr))
  | .annotated (.name id) hint value => do
    if ← isClassVar s d hint then return none
    else if ← isKeywordMark s d hint then return none
    else if ← isExcluded s d value then return none
    else return some (id, hint)
  | _ => return none

/-- The fields that the body of a class contributes, in order. -/
def ownFields (s : Surroundings) (d : Declaration) : Except SchemaFault (List (String × Expr)) :=
  if d.isClass then
    ((d.body.mapM (ownField s d)).map (·.filterMap id)).mapError .resolve
  else .error (.noClass d.qualifiedName)

/-! ### The schema of a class -/

/-- The line of descent of a declaration, by qualified names. -/
def lineage (tree : Tree) (d : Declaration) : Except (Lineage.Fault String) (List String) :=
  let classes := tree.declarations.filter (·.isClass)
  Lineage.line tree.parentsOf (classes.length + 1) [] d.qualifiedName (tree.parents d)

/-- The declarations of a line of descent: the first one is given, the others are classes of the
tree. -/
def lineDeclarations (tree : Tree) (d : Declaration) (names : List String) : List Declaration :=
  d :: names.tail.filterMap tree.findClass?

namespace Resolving

/-- A computation that fails by itself. -/
def ofExcept {α : Type} (result : Except SchemaFault α) :
    ExceptT SchemaFault (StateM (Table TypeRef)) α :=
  ExceptT.mk (pure result)

/-- The fields of a class, resolved and put into a table one after the other. -/
def putFields (s : Surroundings) (d : Declaration) :
    (fields : Table Field) → List (String × Expr) →
      ExceptT SchemaFault (StateM (Table TypeRef)) (Table Field)
  | fields, [] => return fields
  | fields, (name, hint) :: rest => do
    let type ← ExceptT.adapt SchemaFault.resolve (Resolving.hint s hint d)
    putFields s d (fields.put name ⟨name, type, d.qualifiedName⟩) rest

/-- The fields of classes, put into a table one class after the other. -/
def putClasses (s : Surroundings) :
    (fields : Table Field) → List Declaration →
      ExceptT SchemaFault (StateM (Table TypeRef)) (Table Field)
  | fields, [] => return fields
  | fields, d :: rest => do
    let own ← ofExcept (ownFields s d)
    putClasses s (← putFields s d fields own) rest

/-- The schema of a declaration. -/
def schema (s : Surroundings) (d : Declaration) :
    ExceptT SchemaFault (StateM (Table TypeRef)) Schema := do
  if !d.isClass then throw (.noClass d.qualifiedName)
  let names ← ofExcept ((lineage s.tree d).mapError .lineage)
  let fields ← putClasses s [] (lineDeclarations s.tree d names).reverse
  return ⟨d.module.name, d.qualname, d.module.package, fields.map Prod.snd⟩

end Resolving
end FluentBuilder
