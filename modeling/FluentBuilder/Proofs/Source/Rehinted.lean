import FluentBuilder.Proofs.Outcome
import FluentBuilder.Proofs.Schema.Mirror

/-!
# Trees with other annotations

Names do not depend on annotations. A tree whose annotations are others makes the same declarations, each
with its annotations in its body (`Tree.Rehinted.declarations`), the same classes stand in their bodies,
and so names are qualified alike (`Tree.Rehinted.qualify_eq`) and have the same canonical references
(`canonical_rehinted`).

**The route.** What a statement declares, defines or imports is compared statement by statement; the
declarations are paired by induction over the statements and the bodies of the classes among them.
-/

namespace FluentBuilder

open Syntax

variable {R : Expr → Expr → Prop} {α β γ : Type}

/-! ### Paired lists -/

namespace Outcome

variable {Q : α → β → Prop} {xs : List α} {ys : List β}

/-- Paired lists have the same image under functions that agree on pairs. -/
theorem map_eq_of_forall₂ {f : α → γ} {g : β → γ} (h : List.Forall₂ Q xs ys)
    (hpairs : ∀ x y, Q x y → g y = f x) : ys.map g = xs.map f := by
  induction h with
  | nil => rfl
  | cons hxy _ ih => rw [List.map_cons, List.map_cons, hpairs _ _ hxy, ih]

/-- The first of paired lists to have a property are paired, if pairs have it alike. -/
theorem find?_of_forall₂ {p : α → Bool} {q : β → Bool} (h : List.Forall₂ Q xs ys)
    (hpairs : ∀ x y, Q x y → q y = p x) : Option.Rel Q (xs.find? p) (ys.find? q) := by
  induction h with
  | nil => exact .none
  | @cons x y xs ys hxy _ ih =>
    rw [List.find?_cons, List.find?_cons, hpairs x y hxy]
    cases p x with
    | true => exact .some hxy
    | false => exact ih

end Outcome

/-! ### Statements -/

namespace Syntax.Statement

/-- A statement with other annotations. Classes and functions may stand elsewhere. -/
inductive Rehinted (R : Expr → Expr → Prop) : Statement → Statement → Prop where
  /-- It is the same statement. -/
  | same (statement : Statement) : Rehinted R statement statement
  /-- It is an annotated target with another annotation. -/
  | annotated {target hint hint' : Expr} {value : Option Expr} :
      R hint hint' → Rehinted R (.annotated target hint value) (.annotated target hint' value)
  /-- It is a class with other annotations in its body. -/
  | classDef {name : String} {bases decorators : List Expr} {body body' : List Statement}
      {position position' : Position} :
      List.Forall₂ (Rehinted R) body body' →
        Rehinted R (.classDef name bases decorators body position)
          (.classDef name bases decorators body' position')
  /-- It is a function. -/
  | functionDef {name : String} {decorators : List Expr} {position position' : Position} :
      Rehinted R (.functionDef name decorators position) (.functionDef name decorators position')

variable {statement statement' : Statement}

/-- The same class is declared. -/
theorem Rehinted.classNameOf_eq (h : Rehinted R statement statement') :
    Source.Declaration.classNameOf statement' = Source.Declaration.classNameOf statement := by
  cases h <;> rfl

/-- The same names are defined. -/
theorem Rehinted.definedBy_eq (h : Rehinted R statement statement') :
    Source.Module.definedBy statement' = Source.Module.definedBy statement := by
  cases h <;> rfl

end Syntax.Statement

namespace Source

open Syntax.Statement

/-! ### Modules and declarations -/

variable {m m' : Module}

/-- A module with other annotations. -/
structure Module.Rehinted (R : Expr → Expr → Prop) (m m' : Module) : Prop where
  /-- It has the same name. -/
  name_eq : m'.name = m.name
  /-- It is a package if the other one is. -/
  isPackage_eq : m'.isPackage = m.isPackage
  /-- Its statements are those of the other one, with other annotations. -/
  body : List.Forall₂ (Statement.Rehinted R) m.body m'.body

/-- It defines the same names. -/
theorem Module.Rehinted.defines_eq (h : Module.Rehinted R m m') (name : String) :
    m'.defines name = m.defines name := by
  have hnames := Outcome.map_eq_of_forall₂ h.body fun _ _ => Statement.Rehinted.definedBy_eq
  have hany (body : List Statement) : (body.any fun statement => (definedBy statement).contains name) =
      (body.map definedBy).any (·.contains name) := by
    rw [List.any_map]
    rfl
  rw [defines, defines, hany, hany, hnames]

/-- It imports the same names. -/
theorem Module.Rehinted.imports_eq (h : Module.Rehinted R m m') : m'.imports = m.imports := by
  have hpackage : m'.package = m.package := by rw [package, package, h.name_eq, h.isPackage_eq]
  have hsource (target : Option String) (level : Nat) :
      m'.importSource target level = m.importSource target level := by
    rw [importSource, importSource, hpackage]
  have himports := Outcome.map_eq_of_forall₂ h.body fun statement statement' hstatement =>
    show m'.importsOf statement' = m.importsOf statement by
      cases hstatement with
      | same => cases statement <;> simp only [importsOf, hsource]
      | _ => rfl
  rw [imports, imports, List.flatMap_def, List.flatMap_def, himports]

/-- A declaration with other annotations in its body. -/
structure Declaration.Rehinted (R : Expr → Expr → Prop) (d d' : Declaration) : Prop where
  /-- It is in the module with other annotations. -/
  module : Module.Rehinted R d.module d'.module
  /-- It is in the same classes. -/
  scope_eq : d'.scope = d.scope
  /-- It has the same name. -/
  name_eq : d'.name = d.name
  /-- It is a class if the other one is. -/
  isClass_eq : d'.isClass = d.isClass
  /-- The statements in its body are those of the other one, with other annotations. -/
  body : List.Forall₂ (Statement.Rehinted R) d.body d'.body

namespace Declaration.Rehinted

variable {d d' : Declaration}

/-- It has the same qualified name. -/
theorem qualifiedName_eq (h : Declaration.Rehinted R d d') : d'.qualifiedName = d.qualifiedName := by
  rw [qualifiedName, qualifiedName, qualname, qualname, h.module.name_eq, h.scope_eq, h.name_eq]

/-- Its body has the same scope. -/
theorem innerScope_eq (h : Declaration.Rehinted R d d') : d'.innerScope = d.innerScope := by
  rw [innerScope, innerScope, h.scope_eq, h.name_eq]

/-- The same classes stand in its body. -/
theorem nestedClasses_eq (h : Declaration.Rehinted R d d') : d'.nestedClasses = d.nestedClasses := by
  have hnames := Outcome.map_eq_of_forall₂ h.body fun _ _ => Statement.Rehinted.classNameOf_eq
  have hclasses (body : List Statement) : body.filterMap classNameOf =
      (body.map classNameOf).filterMap id := by
    rw [List.filterMap_map]
    rfl
  rw [nestedClasses, nestedClasses, hclasses, hclasses, hnames]

end Declaration.Rehinted

/-- A statement is a statement with other annotations, if any annotation is another one of itself. -/
theorem forall₂_same (body : List Statement) : List.Forall₂ (Statement.Rehinted R) body body := by
  induction body with
  | nil => exact .nil
  | cons statement rest ih => exact .cons (.same statement) ih

mutual

/-- A statement with other annotations makes the same declarations, with other annotations. -/
theorem declarationsOf_rehinted (hm : Module.Rehinted R m m') (scope : List String) :
    (statement statement' : Statement) → Statement.Rehinted R statement statement' →
      List.Forall₂ (Declaration.Rehinted R) (declarationsOf m scope statement)
        (declarationsOf m' scope statement')
  | .classDef name bases decorators body position, _, h => by
    cases h with
    | same =>
      exact .cons ⟨hm, rfl, rfl, rfl, forall₂_same body⟩
        (declarationsIn_rehinted hm _ body body (forall₂_same body))
    | classDef hbody =>
      exact .cons ⟨hm, rfl, rfl, rfl, hbody⟩ (declarationsIn_rehinted hm _ body _ hbody)
  | .functionDef .., _, h => by
    cases h <;> exact .cons ⟨hm, rfl, rfl, rfl, .nil⟩ .nil
  | .importModules .., _, h => by cases h; exact .nil
  | .importFrom .., _, h => by cases h; exact .nil
  | .assign .., _, h => by cases h; exact .nil
  | .annotated .., _, h => by cases h <;> exact .nil
  | .other, _, h => by cases h; exact .nil

/-- So do statements one after the other. -/
theorem declarationsIn_rehinted (hm : Module.Rehinted R m m') (scope : List String) :
    (body body' : List Statement) → List.Forall₂ (Statement.Rehinted R) body body' →
      List.Forall₂ (Declaration.Rehinted R) (declarationsIn m scope body)
        (declarationsIn m' scope body')
  | [], _, h => by cases h; exact .nil
  | statement :: rest, _, h => by
    cases h with
    | cons hstatement hrest =>
      rw [declarationsIn, declarationsIn]
      exact List.rel_append (declarationsOf_rehinted hm scope statement _ hstatement)
        (declarationsIn_rehinted hm scope rest _ hrest)

end

/-! ### Trees -/

/-- A tree with other annotations. -/
def Tree.Rehinted (R : Expr → Expr → Prop) (tree tree' : Tree) : Prop :=
  List.Forall₂ (fun entry entry' => entry'.1 = entry.1 ∧ Module.Rehinted R entry.2 entry'.2)
    tree.modules tree'.modules

namespace Tree.Rehinted

variable {tree tree' : Tree}

/-- **A tree with other annotations makes the same declarations**, in the same order, with other
annotations. -/
theorem declarations (h : Tree.Rehinted R tree tree') :
    List.Forall₂ (Declaration.Rehinted R) tree.declarations tree'.declarations :=
  List.rel_flatMap h fun _ _ hentry => declarationsIn_rehinted hentry.2 [] _ _ hentry.2.body

/-- The same classes are found, with other annotations. -/
theorem findClass? (h : Tree.Rehinted R tree tree') (name : String) :
    Option.Rel (Declaration.Rehinted R) (tree.findClass? name) (tree'.findClass? name) :=
  Outcome.find?_of_forall₂ (List.rel_reverse h.declarations) fun _ _ hd => by
    rw [hd.isClass_eq, hd.qualifiedName_eq]

/-- **Names are qualified alike.** -/
theorem qualify_eq (h : Tree.Rehinted R tree tree') (hm : Module.Rehinted R m m') (scope : List String) :
    tree'.qualify m' scope = tree.qualify m scope := by
  have hhead : tree'.qualifyHead m' scope = tree.qualifyHead m scope := by
    funext head
    have howner : Option.Rel (Declaration.Rehinted R)
        (if scope.isEmpty then none else tree.findClass? (Dotted.join (m.name :: scope)))
        (if scope.isEmpty then none else tree'.findClass? (Dotted.join (m'.name :: scope))) := by
      rw [hm.name_eq]
      split
      · exact .none
      · exact h.findClass? _
    rw [qualifyHead, qualifyHead, hm.name_eq, hm.defines_eq, hm.imports_eq]
    revert howner
    generalize (if scope.isEmpty then none else tree.findClass? (Dotted.join (m.name :: scope))) = owner
    rw [hm.name_eq]
    generalize (if scope.isEmpty then none else tree'.findClass? (Dotted.join (m.name :: scope))) = owner'
    intro howner
    cases howner with
    | none => rfl
    | @some d d' hd =>
      simp only [Option.filter_some, hd.nestedClasses_eq]
      cases d.nestedClasses.contains head with
      | true => simp only [if_true, hd.qualifiedName_eq]
      | false => rfl
  funext name
  simp only [qualify, hhead]

/-- Names are qualified alike in the body of a class. -/
theorem qualify_innerScope_eq (h : Tree.Rehinted R tree tree') {d d' : Declaration}
    (hd : Declaration.Rehinted R d d') :
    tree'.qualify d'.module d'.innerScope = tree.qualify d.module d.innerScope := by
  rw [hd.innerScope_eq]
  exact h.qualify_eq hd.module _

/-- Qualified names are taken apart alike. -/
theorem splitQualified_eq (h : Tree.Rehinted R tree tree') (name : String) :
    tree'.splitQualified name = tree.splitQualified name := by
  have hfind (m : String) : (tree'.modules.find? m).isSome = (tree.modules.find? m).isSome := by
    have hrel := Outcome.find?_of_forall₂ h fun entry entry' hentry =>
      show (entry'.1 == m) = (entry.1 == m) by rw [hentry.1]
    rw [Table.find?, Table.find?, Option.isSome_map, Option.isSome_map]
    revert hrel
    generalize List.find? (fun entry => entry.1 == m) tree.modules = found
    generalize List.find? (fun entry => entry.1 == m) tree'.modules = found'
    rintro (_ | _) <;> rfl
  simp only [splitQualified, hfind]

end Tree.Rehinted
end Source

/-- Names have the same canonical references. -/
theorem canonical_rehinted {tree tree' : Source.Tree} (h : Source.Tree.Rehinted R tree tree')
    (name : String) : (Surroundings.ofTree tree').canonical name = (Surroundings.ofTree tree).canonical name :=
  have hlibrary : (Surroundings.ofTree tree').library = (Surroundings.ofTree tree).library := rfl
  canonical_congr hlibrary (h.splitQualified_eq name)

end FluentBuilder
