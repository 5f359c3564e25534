import FluentBuilder.Proofs.Resolving.Builder
import FluentBuilder.Proofs.Resolving.Frame
import FluentBuilder.Proofs.Schema.Mirror

/-!
# Trees without decorators

Decorators say which declarations are marked, and nothing else. Without them a tree has the same
declarations, and each of these is of the same kind (`kindOf_undecorated`) and has the same schema and the
same builder (`schemaOf_undecorated`, `builderOf?_undecorated`).

**The route.** Nothing of what names are looked up in depends on decorators: not what a module defines and
imports, nor which classes stand in the body of a class. So names are qualified alike, and the tree mirrors
the one without decorators (`mirrors_undecorated`).
-/

namespace FluentBuilder

open Syntax Stateful

/-! ### Leaving decorators away -/

namespace Syntax.Statement

mutual

/-- A statement without its decorators and those in its body. -/
def undecorated : Statement → Statement
  | .classDef name bases _ body position => .classDef name bases [] (undecoratedAll body) position
  | .functionDef name _ position => .functionDef name [] position
  | statement => statement

/-- Statements without decorators. -/
def undecoratedAll : List Statement → List Statement
  | [] => []
  | statement :: rest => undecorated statement :: undecoratedAll rest

end

/-- They are the statements without their decorators, one by one. -/
theorem undecoratedAll_eq_map (statements : List Statement) :
    undecoratedAll statements = statements.map undecorated := by
  induction statements with
  | nil => rfl
  | cons statement rest ih => rw [undecoratedAll, ih, List.map_cons]

end Syntax.Statement

namespace Source

/-- A module without decorators. -/
def Module.undecorated (m : Module) : Module := { m with body := Statement.undecoratedAll m.body }

/-- A declaration without decorators. -/
def Declaration.undecorated (d : Declaration) : Declaration :=
  { d with
    module := d.module.undecorated
    decorators := []
    form := match d.form with
      | .classDef bases body => .classDef bases (Statement.undecoratedAll body)
      | .functionDef => .functionDef }

/-- A tree without decorators. -/
def Tree.undecorated (tree : Tree) : Tree :=
  ⟨tree.modules.map fun entry => (entry.1, entry.2.undecorated)⟩

/-! ### Declarations -/

section declarations

variable (m : Module)

mutual

/-- A statement without decorators makes the same declarations, without decorators. -/
theorem declarationsOf_undecorated (scope : List String) : (statement : Statement) →
    declarationsOf m.undecorated scope statement.undecorated =
      (declarationsOf m scope statement).map Declaration.undecorated
  | .classDef name bases decorators body position => by
    rw [Statement.undecorated, declarationsOf, declarationsOf, declarationsIn_undecorated]
    rfl
  | .functionDef .. => rfl
  | .importModules .. => rfl
  | .importFrom .. => rfl
  | .assign .. => rfl
  | .annotated .. => rfl
  | .other => rfl

/-- So do statements one after the other. -/
theorem declarationsIn_undecorated (scope : List String) : (statements : List Statement) →
    declarationsIn m.undecorated scope (Statement.undecoratedAll statements) =
      (declarationsIn m scope statements).map Declaration.undecorated
  | [] => rfl
  | statement :: rest => by
    rw [Statement.undecoratedAll, declarationsIn, declarationsIn, declarationsOf_undecorated,
      declarationsIn_undecorated, List.map_append]

end

end declarations

/-- A tree without decorators has the same declarations, without decorators. -/
theorem Tree.declarations_undecorated (tree : Tree) :
    tree.undecorated.declarations = tree.declarations.map Declaration.undecorated := by
  rw [Tree.declarations, Tree.declarations, Tree.undecorated, List.flatMap_map, List.map_flatMap]
  exact List.flatMap_congr fun entry _ => declarationsIn_undecorated entry.2 [] entry.2.body

namespace Declaration

variable (d : Declaration)

/-- It is a class or none. -/
@[simp] theorem isClass_undecorated : d.undecorated.isClass = d.isClass := by
  rw [isClass, isClass, undecorated]
  cases d.form <;> rfl

/-- It has the same bases. -/
@[simp] theorem baseExprs_undecorated : d.undecorated.baseExprs = d.baseExprs := by
  rw [baseExprs, baseExprs, undecorated]
  cases d.form <;> rfl

/-- Its body is without decorators. -/
@[simp] theorem body_undecorated : d.undecorated.body = d.body.map Statement.undecorated := by
  rw [body, body, undecorated, ← Statement.undecoratedAll_eq_map]
  cases d.form <;> rfl

/-- It has the same qualified name. -/
@[simp] theorem qualifiedName_undecorated : d.undecorated.qualifiedName = d.qualifiedName := rfl

/-- The same classes stand in its body. -/
@[simp] theorem nestedClasses_undecorated : d.undecorated.nestedClasses = d.nestedClasses := by
  rw [nestedClasses, nestedClasses, body_undecorated, List.filterMap_map]
  congr 1
  refine List.filterMap_congr fun statement _ => ?_
  cases statement <;> rfl

end Declaration

/-! ### Names -/

/-- A module without decorators defines the same names. -/
@[simp] theorem Module.defines_undecorated (m : Module) (name : String) :
    m.undecorated.defines name = m.defines name := by
  rw [defines, defines, undecorated, Statement.undecoratedAll_eq_map, List.any_map]
  congr 1
  funext statement
  cases statement <;> rfl

/-- It imports the same names. -/
@[simp] theorem Module.imports_undecorated (m : Module) : m.undecorated.imports = m.imports := by
  rw [imports, imports, undecorated, Statement.undecoratedAll_eq_map, List.flatMap_map]
  congr 1
  refine List.flatMap_congr fun statement _ => ?_
  cases statement <;> rfl

namespace Tree

variable (tree : Tree)

/-- The same classes are found, without decorators. -/
theorem findClass?_undecorated (name : String) :
    tree.undecorated.findClass? name = (tree.findClass? name).map Declaration.undecorated := by
  rw [findClass?, findClass?, declarations_undecorated, ← List.map_reverse, List.find?_map]
  congr 2
  funext d
  simp

/-- Names are qualified alike. -/
theorem qualify_undecorated (m : Module) (scope : List String) :
    tree.undecorated.qualify m.undecorated scope = tree.qualify m scope := by
  have hhead : tree.undecorated.qualifyHead m.undecorated scope = tree.qualifyHead m scope := by
    funext head
    have howner : (if scope.isEmpty then none
          else tree.undecorated.findClass? (Dotted.join (m.undecorated.name :: scope))) =
        (if scope.isEmpty then none else tree.findClass? (Dotted.join (m.name :: scope))).map
          Declaration.undecorated := by
      rw [findClass?_undecorated]
      split <;> rfl
    rw [qualifyHead, qualifyHead, howner, Module.defines_undecorated, Module.imports_undecorated]
    cases (if scope.isEmpty then none else tree.findClass? (Dotted.join (m.name :: scope))) with
    | none => rfl
    | some owner =>
      simp only [Option.map_some, Option.filter_some, Declaration.nestedClasses_undecorated]
      cases owner.nestedClasses.contains head <;> rfl
  funext name
  simp only [qualify, hhead]

/-- Bases have the same names. -/
@[simp] theorem baseClasses_undecorated (d : Declaration) :
    tree.undecorated.baseClasses d.undecorated = tree.baseClasses d := by
  rw [baseClasses, baseClasses, Declaration.baseExprs_undecorated]
  exact congrArg (List.map · _) (tree.qualify_undecorated d.module d.scope)

/-- Qualified names are taken apart alike. -/
@[simp] theorem splitQualified_undecorated (name : String) :
    tree.undecorated.splitQualified name = tree.splitQualified name := by
  have hfind : ∀ m, (tree.undecorated.modules.find? m).isSome = (tree.modules.find? m).isSome := by
    intro m
    rw [undecorated, Table.find?, Table.find?, List.find?_map, Option.isSome_map, Option.isSome_map,
      Option.isSome_map]
    rfl
  simp only [splitQualified, hfind]

end Tree
end Source

/-! ### Schemas -/

variable {s : Surroundings} {d : Source.Declaration}

/-- Surroundings with the tree without decorators. -/
def Surroundings.undecorated (s : Surroundings) : Surroundings := { s with tree := s.tree.undecorated }

/-- Quoted annotations are read alike. -/
theorem parse_undecorated (s : Surroundings) : s.undecorated.parse = s.parse := rfl

/-- Names have the same canonical references. -/
theorem canonical_undecorated (s : Surroundings) (name : String) :
    s.undecorated.canonical name = s.canonical name :=
  have hlibrary : s.undecorated.library = s.library := rfl
  canonical_congr hlibrary (s.tree.splitQualified_undecorated name)

/-- Names are qualified alike in the body of a class. -/
theorem qualify_innerScope_undecorated (s : Surroundings) (d : Source.Declaration) :
    s.undecorated.tree.qualify d.undecorated.module d.undecorated.innerScope =
      s.tree.qualify d.module d.innerScope :=
  s.tree.qualify_undecorated d.module d.innerScope

/-- A class without decorators has the same own fields. -/
theorem ownFields_undecorated (s : Surroundings) (d : Source.Declaration) :
    ownFields s.undecorated d.undecorated = ownFields s d := by
  have hfields : d.undecorated.body.mapM (ownField s.undecorated d.undecorated) =
      d.body.mapM (ownField s d) := by
    have hstatement : ∀ statement : Statement,
        ownField s d statement.undecorated = ownField s d statement := by
      intro statement
      cases statement <;> rfl
    rw [ownField_congr (parse_undecorated s) (qualify_innerScope_undecorated s d), d.body_undecorated,
      List.mapM_map]
    exact Outcome.mapM_congr fun statement _ => hstatement statement
  rw [ownFields, ownFields, hfields, d.isClass_undecorated, d.qualifiedName_undecorated]

/-- **A tree mirrors the one without decorators.** -/
theorem mirrors_undecorated (s : Surroundings) :
    Mirrors s s.undecorated fun d d' => d ∈ s.tree.declarations ∧ d' = d.undecorated where
  mem := by
    rintro d _ ⟨hd, rfl⟩
    refine ⟨hd, ?_⟩
    rw [Surroundings.undecorated, Source.Tree.declarations_undecorated]
    exact List.mem_map_of_mem hd
  isClass_eq := by
    rintro d _ ⟨-, rfl⟩
    exact d.isClass_undecorated
  module_eq := by
    rintro d _ ⟨-, rfl⟩
    rfl
  package_eq := by
    rintro d _ ⟨-, rfl⟩
    rfl
  qualname_eq := by
    rintro d _ ⟨-, rfl⟩
    rfl
  baseClasses_eq := by
    rintro d _ ⟨-, rfl⟩
    exact s.tree.baseClasses_undecorated d
  foundAlike := by
    rintro d _ ⟨-, rfl⟩ name -
    have hfound := s.tree.findClass?_undecorated name
    cases hc : s.tree.findClass? name with
    | none => exact .inr ⟨hc, hfound.trans (by rw [hc]; rfl)⟩
    | some c =>
      refine .inl ⟨c, c.undecorated, hc, hfound.trans (by rw [hc]; rfl), ?_, rfl⟩
      exact List.mem_reverse.mp (List.mem_of_find?_eq_some hc)
  ownFields_eq := by
    rintro d _ ⟨-, rfl⟩
    exact ownFields_undecorated s d
  hint_eq := by
    rintro d _ ⟨-, rfl⟩ own - field -
    rw [Resolving.exec_hint_eq (parse_undecorated s) (qualify_innerScope_undecorated s d) field.2 fun name _ =>
      canonical_undecorated s name]

section

variable {tree : Source.Tree}

/-- **A declaration is of the same kind without decorators.** -/
theorem kindOf_undecorated (hd : d ∈ tree.declarations) :
    tree.undecorated.kindOf d.undecorated = tree.kindOf d :=
  (mirrors_undecorated (.ofTree tree)).kindOf_eq ⟨hd, rfl⟩

/-- **It has the same schema.** -/
theorem schemaOf_undecorated (hd : d ∈ tree.declarations) :
    schemaOf (.ofTree tree.undecorated) d.undecorated = schemaOf (.ofTree tree) d :=
  (mirrors_undecorated (.ofTree tree)).schemaOf_eq ⟨hd, rfl⟩

/-- **It has the same builder.** -/
theorem builderOf?_undecorated (hd : d ∈ tree.declarations) :
    builderOf? (.ofTree tree.undecorated) d.undecorated = builderOf? (.ofTree tree) d := by
  rw [builderOf?, builderOf?, schemaOf_undecorated hd]

end

end FluentBuilder
