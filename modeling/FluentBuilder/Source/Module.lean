import FluentBuilder.Path
import FluentBuilder.Syntax.Statement
import FluentBuilder.Table

/-!
# Modules

A module is a named list of statements. Its top-level statements bind names: imports bind a local
name to a qualified one (`Module.imports`), and classes, functions and assignments define names of
the module itself (`Module.definitions`).
-/

namespace FluentBuilder.Source

open Syntax

/-- A module. -/
structure Module where
  /-- Its dotted name. -/
  name : String
  /-- The file that holds it. -/
  path : Path
  /-- Is it a package? -/
  isPackage : Bool
  /-- Its statements. -/
  body : List Statement

namespace Module

/-- The package that relative imports start from. -/
def package (m : Module) : String :=
  if m.isPackage then m.name else Dotted.parent m.name

/-! ### Imports -/

/-- The package that a relative import of some level names. Each level beyond the first removes a
segment; once all are gone, counting starts again from the other end, so that a further level leaves
the segments but as many as it is too deep. -/
def ancestorPackage (package : String) (level : Nat) : String :=
  let segments := if package.isEmpty then [] else Dotted.segments package
  let up := level - 1
  let kept :=
    if up ≤ segments.length then segments.length - up
    else segments.length - (up - segments.length)
  Dotted.join (segments.take kept)

/-- The module that an import names: by a name, or by a level and perhaps a name. -/
def importSource (m : Module) (target : Option String) (level : Nat) : String :=
  if level = 0 then target.getD ""
  else
    let base := ancestorPackage m.package level
    match target with
    | some name => if name.isEmpty then base else Dotted.within base name
    | none => base

/-- The local names that a statement imports, with what they stand for. -/
def importsOf (m : Module) : Statement → List (String × String)
  | .importModules names =>
    names.map fun a =>
      match a.rename with
      | some rename => (rename, a.name)
      | none =>
        let top := (Dotted.splitHead a.name).1
        (top, top)
  | .importFrom target names level =>
    let source := m.importSource target level
    (names.filter (·.name != "*")).map fun a =>
      (a.rename.getD a.name, Dotted.within source a.name)
  | _ => []

/-- What the imported names stand for. -/
def imports (m : Module) : Table String :=
  Table.ofEntries (m.body.flatMap m.importsOf)

/-! ### Definitions -/

/-- The name that an expression is. -/
def plainName : Expr → Option String
  | .name id => some id
  | _ => none

/-- The names that a statement defines. -/
def definedBy : Statement → List String
  | .classDef name .. => [name]
  | .functionDef name .. => [name]
  | .assign targets => targets.filterMap plainName
  | .annotated target _ _ => (plainName target).toList
  | _ => []

/-- The names that the module defines, each once. -/
def definitions (m : Module) : List String :=
  (m.body.flatMap definedBy).eraseDups

/-- Does the module define the name? -/
def defines (m : Module) (name : String) : Bool :=
  m.body.any fun s => (definedBy s).contains name

end Module
end FluentBuilder.Source
