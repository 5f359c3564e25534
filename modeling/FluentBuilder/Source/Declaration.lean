import FluentBuilder.Source.Module

/-!
# Declarations

A declaration is a class or a function at module level or in the body of a class. Its qualified name
is its module, the classes around it and its own name.
-/

namespace FluentBuilder.Source

open Syntax

/-- What is declared. -/
inductive Form where
  /-- A class with its bases and its body. -/
  | classDef (bases : List Expr) (body : List Statement)
  /-- A function. -/
  | functionDef

/-- A declaration. -/
structure Declaration where
  /-- The module that it is in. -/
  module : Module
  /-- The classes around it, outermost first. -/
  scope : List String
  /-- Its own name. -/
  name : String
  /-- Its decorators. -/
  decorators : List Expr
  /-- Where it stands. -/
  position : Position
  /-- What is declared. -/
  form : Form

namespace Declaration

/-- The name within its module. -/
def qualname (d : Declaration) : String :=
  Dotted.join (d.scope ++ [d.name])

/-- The name within all modules. -/
def qualifiedName (d : Declaration) : String :=
  d.module.name ++ "." ++ d.qualname

/-- The scope of its body. -/
def innerScope (d : Declaration) : List String :=
  d.scope ++ [d.name]

/-- The file, the line and the byte of the line at which it stands. -/
def location (d : Declaration) : String :=
  d.module.path.render ++ ":" ++ toString d.position.line ++ ":" ++ toString (d.position.column + 1)

/-- Is it a class? -/
def isClass (d : Declaration) : Bool :=
  match d.form with
  | .classDef .. => true
  | .functionDef => false

/-- The statements of its body; functions show none. -/
def body (d : Declaration) : List Statement :=
  match d.form with
  | .classDef _ body => body
  | .functionDef => []

/-- The bases that it declares. -/
def baseExprs (d : Declaration) : List Expr :=
  match d.form with
  | .classDef bases _ => bases
  | .functionDef => []

/-- The name of the class that a statement declares. -/
def classNameOf : Statement → Option String
  | .classDef name .. => some name
  | _ => none

/-- The names of the classes declared in its body, each once. -/
def nestedClasses (d : Declaration) : List String :=
  (d.body.filterMap classNameOf).eraseDups

end Declaration

mutual

/-- The declarations that a statement makes: itself, and what is declared in its body. -/
def declarationsOf (m : Module) (scope : List String) : Statement → List Declaration
  | .classDef name bases decorators body position =>
    ⟨m, scope, name, decorators, position, .classDef bases body⟩ ::
      declarationsIn m (scope ++ [name]) body
  | .functionDef name decorators position =>
    [⟨m, scope, name, decorators, position, .functionDef⟩]
  | _ => []

/-- The declarations that statements make, in order. -/
def declarationsIn (m : Module) (scope : List String) : List Statement → List Declaration
  | [] => []
  | s :: rest => declarationsOf m scope s ++ declarationsIn m scope rest

end

/-- The declarations of a module. -/
def Module.declarations (m : Module) : List Declaration :=
  declarationsIn m [] m.body

end FluentBuilder.Source
