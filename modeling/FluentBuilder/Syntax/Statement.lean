import FluentBuilder.Syntax.Expr

/-!
# Statements

The statements of a module or a class body as far as the declarations of a source tree depend on
them: imports, assignments, classes and functions. Every other statement is `other`, whatever it
holds, because nothing inside it is declared at the level where it stands.
-/

namespace FluentBuilder.Syntax

/-- A place in a source text: the line from one on, and the bytes before it on that line. -/
structure Position where
  /-- The line. -/
  line : Nat
  /-- The number of bytes before the place. -/
  column : Nat
  deriving DecidableEq, Repr

/-- An imported name with the name that it gets. -/
structure Alias where
  /-- What is imported; `*` stands for everything. -/
  name : String
  /-- The local name, when it is given. -/
  rename : Option String
  deriving DecidableEq, Repr

/-- A statement. -/
inductive Statement where
  /-- An import of modules. -/
  | importModules (names : List Alias)
  /-- An import of names from a module, `level` packages up. -/
  | importFrom (module : Option String) (names : List Alias) (level : Nat)
  /-- An assignment to one or more targets. -/
  | assign (targets : List Expr)
  /-- An annotated target, perhaps with a value. -/
  | annotated (target hint : Expr) (value : Option Expr)
  /-- A class. -/
  | classDef (name : String) (bases decorators : List Expr) (body : List Statement)
      (position : Position)
  /-- A function. -/
  | functionDef (name : String) (decorators : List Expr) (position : Position)
  /-- Any other statement. -/
  | other
  deriving Repr, Inhabited

end FluentBuilder.Syntax
