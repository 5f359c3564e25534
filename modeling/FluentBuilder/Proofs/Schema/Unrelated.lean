import FluentBuilder.Proofs.Resolving.Frame
import FluentBuilder.Proofs.Schema.Mirror
import FluentBuilder.Proofs.Source.Extending

/-!
# Unrelated modules

Modules that are added to a tree change nothing about the declarations that were there, if none of them
encloses the name of a class of the tree, the name of a base, or a name that is looked up for an annotation
(`Unrelated`). Then every declaration is marked or not as it was, and has the same bases, the same kind, the
same line of descent and the same schema, or the same fault (`unchanged_of_unrelated`). Names that only
decorators and the values of fields have are not looked up in the tree, and may be enclosed.
-/

namespace FluentBuilder

open Source Syntax Stateful

variable {tree tree' : Tree} {d : Declaration}

/-- A tree has further modules, and none of them is related to what the first tree declares. -/
structure Unrelated (tree tree' : Tree) : Prop where
  /-- The tree has further modules. -/
  further : tree.Extends tree'
  /-- None encloses the name of a class. -/
  classes : ∀ d ∈ tree.declarations, d.isClass = true → tree.Untouched tree' d.qualifiedName
  /-- None encloses the name of a base. -/
  bases : ∀ d ∈ tree.declarations, ∀ name ∈ tree.baseClasses d, tree.Untouched tree' name
  /-- None encloses a name that is looked up for the annotation of a field. -/
  annotations : ∀ d ∈ tree.declarations, ∀ own, ownFields (.ofTree tree) d = .ok own → ∀ field ∈ own,
    ∀ name ∈ Resolving.lookedUp (.ofTree tree) field.2 d, tree.Untouched tree' name

namespace Unrelated

variable (h : Unrelated tree tree')

include h

/-- Names are seen alike from the body of a class. -/
theorem qualify_eq (hd : d ∈ tree.declarations) (hclass : d.isClass = true) :
    (Surroundings.ofTree tree').tree.qualify d.module d.innerScope =
      (Surroundings.ofTree tree).tree.qualify d.module d.innerScope :=
  h.further.qualify_innerScope_eq (h.classes d hd hclass)

/-- The bases have the same names. -/
theorem baseClasses_eq (hd : d ∈ tree.declarations) : tree'.baseClasses d = tree.baseClasses d := by
  cases hclass : d.isClass with
  | true =>
    rw [Tree.baseClasses, Tree.baseClasses, h.further.qualify_scope_eq (h.classes d hd hclass)]
  | false => rw [Tree.baseClasses_of_not_isClass hclass, Tree.baseClasses_of_not_isClass hclass]

/-- The class that is found for a base is the same. -/
theorem foundAlike (hd : d ∈ tree.declarations) {name : String} (hname : name ∈ tree.baseClasses d) :
    FoundAlike (.ofTree tree) (.ofTree tree') (fun d d' => d ∈ tree.declarations ∧ d' = d) name := by
  have hfound : tree'.findClass? name = tree.findClass? name :=
    h.further.findClass?_eq (h.bases d hd name hname)
  cases hc : tree.findClass? name with
  | none => exact .inr ⟨hc, hfound.trans hc⟩
  | some c => exact .inl ⟨c, c, hc, hfound.trans hc, List.mem_reverse.mp (List.mem_of_find?_eq_some hc), rfl⟩

/-- The body contributes the same fields. -/
theorem ownFields_eq (hd : d ∈ tree.declarations) :
    ownFields (.ofTree tree') d = ownFields (.ofTree tree) d := by
  have hparse : (Surroundings.ofTree tree').parse = (Surroundings.ofTree tree).parse := rfl
  cases hclass : d.isClass with
  | true =>
    have hfield : ownField (.ofTree tree') d = ownField (.ofTree tree) d :=
      ownField_congr hparse (h.qualify_eq hd hclass)
    rw [ownFields, ownFields, hfield]
  | false => rw [ownFields, ownFields, hclass, if_neg Bool.false_ne_true, if_neg Bool.false_ne_true]

/-- Annotations are resolved alike. -/
theorem hint_eq (hd : d ∈ tree.declarations) {own : List (String × Expr)}
    (hown : ownFields (.ofTree tree) d = .ok own) {field : String × Expr} (hfield : field ∈ own) :
    exec (Resolving.hint (.ofTree tree') field.2 d) [] = exec (Resolving.hint (.ofTree tree) field.2 d) [] := by
  have hparse : (Surroundings.ofTree tree').parse = (Surroundings.ofTree tree).parse := rfl
  have hlibrary : (Surroundings.ofTree tree').library = (Surroundings.ofTree tree).library := rfl
  have hclass : d.isClass = true := by
    by_contra hother
    rw [ownFields, if_neg hother] at hown
    cases hown
  refine Resolving.exec_hint_eq hparse (h.qualify_eq hd hclass) field.2 fun name hname => ?_
  have hname' := h.annotations d hd own hown field hfield name hname
  exact canonical_congr hlibrary (h.further.splitQualified_eq hname')

/-- **The declarations of the tree are alike in both trees.** -/
theorem mirrors :
    Mirrors (.ofTree tree) (.ofTree tree') fun d d' => d ∈ tree.declarations ∧ d' = d where
  mem := by
    rintro d _ ⟨hd, rfl⟩
    exact ⟨hd, h.further.mem_declarations hd⟩
  isClass_eq := by
    rintro d _ ⟨-, rfl⟩
    rfl
  module_eq := by
    rintro d _ ⟨-, rfl⟩
    rfl
  package_eq := by
    rintro d _ ⟨-, rfl⟩
    rfl
  qualname_eq := by
    rintro d _ ⟨-, rfl⟩
    rfl
  baseClasses_eq := by
    rintro d _ ⟨hd, rfl⟩
    exact h.baseClasses_eq hd
  foundAlike := by
    rintro d _ ⟨hd, rfl⟩ name hname
    exact h.foundAlike hd hname
  ownFields_eq := by
    rintro d _ ⟨hd, rfl⟩
    exact h.ownFields_eq hd
  hint_eq := by
    rintro d _ ⟨hd, rfl⟩ own hown field hfield
    rw [h.hint_eq hd hown hfield]

end Unrelated

/-- **Unrelated modules change nothing**: every declaration of the tree is one of the larger tree, carries
the marker there or not as it did, and has the same bases, the same kind, the same line of descent and the
same schema, or the same fault. -/
theorem unchanged_of_unrelated (h : Unrelated tree tree') (hd : d ∈ tree.declarations) :
    d ∈ tree'.declarations ∧ tree'.isMarked d = tree.isMarked d ∧ tree'.kindOf d = tree.kindOf d ∧
      tree'.baseClasses d = tree.baseClasses d ∧ lineage tree' d = lineage tree d ∧
      schemaOf (.ofTree tree') d = schemaOf (.ofTree tree) d :=
  ⟨h.further.mem_declarations hd, by rw [Tree.isMarked_eq tree' tree], h.mirrors.kindOf_eq ⟨hd, rfl⟩,
    h.baseClasses_eq hd, h.mirrors.lineage_eq ⟨hd, rfl⟩, h.mirrors.schemaOf_eq ⟨hd, rfl⟩⟩

/-- Two modules with classes. One of them descends from a class of the other module, and all annotations are
names. -/
def plant : Table Source.Module :=
  [("base", ⟨"base", Path.ofText "base.py", false,
      [.classDef "Wheel" [] [] [] ⟨1, 0⟩,
        .classDef "Vehicle" [] [] [.annotated (.name "wheel") (.name "Wheel") none] ⟨3, 0⟩]⟩),
    ("shop.cars", ⟨"shop.cars", Path.ofText "shop/cars.py", false,
      [.importFrom (some "base") [⟨"Vehicle", none⟩] 0, .classDef "Engine" [] [] [] ⟨2, 0⟩,
        .classDef "Car" [.name "Vehicle"] [] [.annotated (.name "engine") (.name "Engine") none] ⟨4, 0⟩]⟩)]

/-- A further module beside them. -/
def annex : Table Source.Module := [("shop.bikes", ⟨"shop.bikes", Path.ofText "shop/bikes.py", false,
  [.classDef "Vehicle" [] [] [] ⟨1, 0⟩, .classDef "Car" [.name "Vehicle"] [] [] ⟨3, 0⟩]⟩)]

/-- Nothing changes about the two modules. -/
theorem unchanged_of_annex :
    let tree := Tree.ofModules plant
    let tree' := Tree.ofModules (annex ++ plant)
    Unrelated tree tree' ∧ ∃ d ∈ tree.declarations, d.qualifiedName = "shop.cars.Car" ∧
      lineage tree' d = .ok ["shop.cars.Car", "base.Vehicle"] ∧
      schemaOf (.ofTree tree') d = schemaOf (.ofTree tree) d := by
  intro tree tree'
  have hnames : ∀ d ∈ tree.declarations, (d.isClass = true → tree.Untouched tree' d.qualifiedName) ∧
      (∀ name ∈ tree.baseClasses d, tree.Untouched tree' name) ∧
      (ownFields (.ofTree tree) d).toOption.all (fun own => own.all fun field =>
        (Source.Module.plainName field.2).any fun id =>
          decide (tree.Untouched tree' (tree.qualify d.module d.innerScope id))) = true := by decide
  have hfurther : tree.Extends tree' :=
    Tree.extends_ofModules (by decide) (by decide) (by decide) (List.subset_append_right annex plant)
  have hunrelated : Unrelated tree tree' := by
    refine ⟨hfurther, fun d hd => (hnames d hd).1, fun d hd => (hnames d hd).2.1, ?_⟩
    intro d hd own hown field hfield name hname
    have hall := (hnames d hd).2.2
    rw [hown] at hall
    have hone := List.all_eq_true.mp (show own.all _ = true from hall) field hfield
    cases hexpr : field.2 with
    | name id =>
      rw [hexpr, Resolving.lookedUp_name, List.mem_singleton] at hname
      rw [hexpr] at hone
      rw [hname]
      exact of_decide_eq_true hone
    | _ =>
      rw [hexpr] at hone
      cases hone
  refine ⟨hunrelated, ?_⟩
  have hcar : ∃ d ∈ tree.declarations, d.qualifiedName = "shop.cars.Car" ∧
      (lineage tree d).toOption = some ["shop.cars.Car", "base.Vehicle"] := by decide
  obtain ⟨d, hd, hname, hline⟩ := hcar
  obtain ⟨-, -, -, -, hlineage, hschema⟩ := unchanged_of_unrelated hunrelated hd
  exact ⟨d, hd, hname, hlineage.trans (Outcome.toOption_eq_some_iff.mp hline), hschema⟩

end FluentBuilder
