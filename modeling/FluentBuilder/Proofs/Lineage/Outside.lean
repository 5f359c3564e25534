import FluentBuilder.Proofs.Lineage.Descent
import FluentBuilder.Proofs.Lineage.Restriction
import FluentBuilder.Proofs.Schema.Walk

/-!
# Bases outside the tree

A class may have bases that are no classes of the tree. Its line of descent is found as if these were
not there. In the program that is described they are there, and the order of the classes of the tree may
depend on them: a base outside the tree that two classes share stands in two lists of a merge and keeps
what is behind it back. The line is the one of the whole graph, but for the classes outside the tree, iff
nothing is held back in this way (`lineage_eq_filter_iff`); otherwise the same classes stand in another
order, or no line is found at all. The fields come in the order of the line.
-/

namespace FluentBuilder

open Source Lineage Stateful

/-! ### The whole graph -/

/-- The declared bases of the class of a qualified name, in the tree or not. What is no class of the tree
has none. -/
def Source.Tree.basesOf (tree : Tree) (name : String) : List String :=
  match tree.findClass? name with
  | some d => tree.baseClasses d
  | none => []

/-- Is it the name of a class of the tree? -/
def Source.Tree.hasClass (tree : Tree) (name : String) : Bool := (tree.findClass? name).isSome

/-- The bases in the tree are what is kept of all bases. -/
theorem keptBases_basesOf (tree : Tree) :
    keptBases tree.hasClass tree.basesOf = tree.parentsOf := by
  funext name
  rw [keptBases, Tree.basesOf, Tree.parentsOf]
  cases tree.findClass? name with
  | none => rfl
  | some d => rfl

/-- What is no class of the tree has no bases. -/
theorem basesOf_eq_nil {tree : Tree} {name : String} (h : tree.hasClass name = false) :
    tree.basesOf name = [] := by
  rw [Tree.basesOf, Option.isSome_eq_false_iff.mp h |> Option.isNone_iff_eq_none.mp]

/-- The line of descent of a class is the line that it has in the graph of the tree. -/
theorem lineage_eq_ok_iff {tree : Tree} {name : String} {d : Declaration} {names : List String}
    (h : tree.findClass? name = some d) :
    lineage tree d = .ok names ↔ HasLine tree.parentsOf d.qualifiedName names := by
  rw [lineage_eq_line h]
  constructor
  · exact fun hline => ⟨lineageDepth tree, hline⟩
  · rintro ⟨depth, hline⟩
    have hmore := line_of_way_subset hline (List.nil_subset [])
      (Nat.le_add_left depth (lineageDepth tree))
    rwa [line_eq_of_depth (parentsOf_subset_classNames tree) List.nodup_nil (List.nil_subset _)
      (mem_classNames_of_findClass (findClass?_qualifiedName h)) (parentsOf_subset_classNames tree _)
      (classNames_length_lt tree) depth] at hmore

/-! ### The order of the classes of the tree -/

/-- **Bases outside the tree and the line of descent.** Let a class have a line in the whole graph.

* Its line of descent is that line, but for the classes outside the tree, iff at no class of it a class
  outside the tree holds something back.
* Whenever it has a line of descent, that has the same classes in it.
* If nothing is held back, the fields of the class are those on the walk along the line in the whole
  graph. -/
theorem lineage_eq_filter_iff {tree : Tree} {name : String} {d : Declaration} {full : List String}
    (h : tree.findClass? name = some d) (hfull : HasLine tree.basesOf d.qualifiedName full) :
    (lineage tree d = .ok (full.filter tree.hasClass) ↔
      ∀ c ∈ full, tree.hasClass c = true → ¬ HeldBackAt tree.hasClass tree.basesOf c) ∧
    (∀ names, lineage tree d = .ok names → names.Perm (full.filter tree.hasClass)) ∧
    ((∀ c ∈ full, tree.hasClass c = true → ¬ HeldBackAt tree.hasClass tree.basesOf c) →
      ∀ s table schema, s.tree = tree → Resolving.Sound s table →
        (exec (Resolving.schema s d) table).1 = .ok schema →
        ∃ found, List.Forall₂ (Contribution.Gives s)
            (walk s (lineDeclarations tree d (full.filter tree.hasClass))) found ∧
          schema.fields = (fieldTable found).map Prod.snd) := by
  have hself : tree.hasClass d.qualifiedName = true := by
    rw [Tree.hasClass, findClass?_qualifiedName h, Option.isSome_some]
  have hout : ∀ name, tree.hasClass name = false → tree.basesOf name = [] :=
    fun _ hnot => basesOf_eq_nil hnot
  have hiff := hasLine_filter_iff hout hself hfull
  rw [keptBases_basesOf, ← lineage_eq_ok_iff h] at hiff
  refine ⟨hiff, fun names hnames => ?_, fun hnone s table schema htree hsound hschema => ?_⟩
  · have hline := (lineage_eq_ok_iff h).mp hnames
    refine (List.perm_ext_iff_of_nodup hline.nodup (hfull.nodup.filter _)).mpr fun c => ?_
    rw [hline.mem_iff, List.mem_filter, hfull.mem_iff, ← keptBases_basesOf,
      descends_keptBases_iff hout hself]
  · subst htree
    obtain ⟨-, names, found, hnames, -, hgiven, rfl⟩ :=
      (Resolving.schema_eq_ok_iff hsound).mp hschema
    obtain rfl := Except.ok.inj (hnames.symm.trans (hiff.mpr hnone))
    exact ⟨found, hgiven, rfl⟩

/-- A class with two bases that have a base of fields each. What other bases these two have is given. -/
def mixins (left right : List String) : Tree :=
  let cls (name : String) (bases : List String) (body : List Syntax.Statement) : Syntax.Statement :=
    .classDef name (bases.map .name) [] body ⟨1, 0⟩
  let field (name : String) : Syntax.Statement := .annotated (.name name) (.name "Key") none
  ⟨[("m", ⟨"m", Path.ofText "m.py", false,
    [.importFrom (some "abc") [⟨"ABC", none⟩] 0, cls "Key" [] [.other],
      cls "Named" [] [field "name"], cls "Sized" [] [field "size"],
      cls "Left" left [.other], cls "Right" right [.other],
      cls "Item" ["Left", "Right"] [.other]]⟩)]⟩

/-- The base outside the tree comes last in both classes. -/
def alignedMixins : Tree := mixins ["Named", "ABC"] ["Sized", "ABC"]

/-- The base outside the tree comes first in one class and last in the other one. -/
def crossedMixins : Tree := mixins ["ABC", "Named"] ["Sized", "ABC"]

/-- A base outside the tree that comes last holds nothing back. -/
theorem lineage_of_alignedMixins :
    ∃ d, alignedMixins.findClass? "m.Item" = some d ∧
      lineage alignedMixins d = .ok ["m.Item", "m.Left", "m.Named", "m.Right", "m.Sized"] ∧
      ∀ c ∈ ["m.Item", "m.Left", "m.Named", "m.Right", "m.Sized", "abc.ABC"],
        alignedMixins.hasClass c = true →
          ¬ HeldBackAt alignedMixins.hasClass alignedMixins.basesOf c := by
  have hfound : (alignedMixins.findClass? "m.Item").isSome = true := by decide +kernel
  have hline : line alignedMixins.basesOf 4 [] "m.Item" (alignedMixins.basesOf "m.Item") =
      .ok ["m.Item", "m.Left", "m.Named", "m.Right", "m.Sized", "abc.ABC"] := by decide +kernel
  have hlineage : (alignedMixins.findClass? "m.Item").map (lineage alignedMixins) =
      some (.ok ["m.Item", "m.Left", "m.Named", "m.Right", "m.Sized"]) := by decide +kernel
  have hkept : ["m.Item", "m.Left", "m.Named", "m.Right", "m.Sized", "abc.ABC"].filter
      alignedMixins.hasClass = ["m.Item", "m.Left", "m.Named", "m.Right", "m.Sized"] := by
    decide +kernel
  obtain ⟨d, hd⟩ := Option.isSome_iff_exists.mp hfound
  rw [hd, Option.map_some, Option.some.injEq] at hlineage
  rw [← qualifiedName_of_findClass hd] at hline
  obtain ⟨hiff, -, -⟩ := lineage_eq_filter_iff hd ⟨4, hline⟩
  rw [qualifiedName_of_findClass hd, hkept] at hiff
  exact ⟨d, hd, hlineage, hiff.mp hlineage⟩

/-- **A base outside the tree that two classes share changes the order**: in the whole graph `ABC` keeps
`Named` back until `Right` and `Sized` are taken. The fields come in another order, too. -/
theorem not_filter_of_crossedMixins :
    ∃ d full schema, crossedMixins.findClass? "m.Item" = some d ∧
      HasLine crossedMixins.basesOf d.qualifiedName full ∧
      full.filter crossedMixins.hasClass =
        ["m.Item", "m.Left", "m.Right", "m.Sized", "m.Named"] ∧
      lineage crossedMixins d = .ok ["m.Item", "m.Left", "m.Named", "m.Right", "m.Sized"] ∧
      lineage crossedMixins d ≠ .ok (full.filter crossedMixins.hasClass) ∧
      (exec (Resolving.schema (.ofTree crossedMixins) d) []).1 = .ok schema ∧
      schema.fields.map (·.name) = ["size", "name"] ∧
      (walk (.ofTree crossedMixins) (lineDeclarations crossedMixins d
        (full.filter crossedMixins.hasClass))).map (·.name) = ["name", "size"] := by
  have hfound : (crossedMixins.findClass? "m.Item").isSome = true := by decide +kernel
  have hline : line crossedMixins.basesOf 4 [] "m.Item" (crossedMixins.basesOf "m.Item") =
      .ok ["m.Item", "m.Left", "m.Right", "m.Sized", "abc.ABC", "m.Named"] := by decide +kernel
  have hkept : ["m.Item", "m.Left", "m.Right", "m.Sized", "abc.ABC", "m.Named"].filter
      crossedMixins.hasClass = ["m.Item", "m.Left", "m.Right", "m.Sized", "m.Named"] := by
    decide +kernel
  have hchecked : (crossedMixins.findClass? "m.Item").map (fun d =>
      (lineage crossedMixins d,
        Resolving.isPlainLine (.ofTree crossedMixins) (lineDeclarations crossedMixins d
          ["m.Item", "m.Left", "m.Named", "m.Right", "m.Sized"]))) =
      some (.ok ["m.Item", "m.Left", "m.Named", "m.Right", "m.Sized"], true) := by decide +kernel
  have hfields : (crossedMixins.findClass? "m.Item").map (fun d =>
      (((fieldTable ((walk (.ofTree crossedMixins) (lineDeclarations crossedMixins d
          ["m.Item", "m.Left", "m.Named", "m.Right", "m.Sized"])).map
            (Resolving.plainField (.ofTree crossedMixins)))).map Prod.snd).map (·.name),
        (walk (.ofTree crossedMixins) (lineDeclarations crossedMixins d
          ["m.Item", "m.Left", "m.Right", "m.Sized", "m.Named"])).map (·.name))) =
      some (["size", "name"], ["name", "size"]) := by decide +kernel
  obtain ⟨d, hd⟩ := Option.isSome_iff_exists.mp hfound
  rw [hd, Option.map_some, Option.some.injEq, Prod.mk.injEq] at hchecked hfields
  obtain ⟨hlineage, hplain⟩ := hchecked
  have hschema := Resolving.schema_of_plain (Resolving.sound_nil (.ofTree crossedMixins))
    hlineage hplain
  refine ⟨d, ["m.Item", "m.Left", "m.Right", "m.Sized", "abc.ABC", "m.Named"], _, hd,
    ⟨4, ?_⟩, hkept, hlineage, ?_, hschema, hfields.1, ?_⟩
  · rw [qualifiedName_of_findClass hd]
    exact hline
  · rw [hkept, hlineage]
    decide
  · rw [hkept]
    exact hfields.2

end FluentBuilder
