import FluentBuilder.Proofs.Lineage.Line
import FluentBuilder.Schema

/-!
# Lines of descent in a source tree

The classes of a tree form a graph: a class leads to those of its bases that are classes of the tree
(`Tree.parentsOf`). `lineage_of_findClass` says what the line of a class is in any such graph: it is
refused wherever the class descends from a class on a cycle, a cycle is reported only there, and a
line that is found lists every class that the class descends from once, with the bases of each of
them in order and with the lines of its own bases as subsequences.

The work is done in `Lineage.Line` for any graph. Here the graph is that of a tree: its classes are
finitely many and under each of their names the same class is found again
(`findClass?_qualifiedName`), so that the line of a base is the line that the base has by itself.
-/

namespace FluentBuilder

open Source Lineage

/-! ### The graph of a tree -/

/-- The names of the classes of a tree. -/
def Source.Tree.classNames (tree : Tree) : List String :=
  (tree.declarations.filter (·.isClass)).map (·.qualifiedName)

/-- A class is found under its own name. -/
theorem qualifiedName_of_findClass {tree : Tree} {name : String} {d : Declaration}
    (h : tree.findClass? name = some d) : d.qualifiedName = name := by
  have hfound := List.find?_some h
  simp only [Bool.and_eq_true, beq_iff_eq] at hfound
  exact hfound.2

/-- What is found under a name is found again under the name that it has. -/
theorem findClass?_qualifiedName {tree : Tree} {name : String} {d : Declaration}
    (h : tree.findClass? name = some d) : tree.findClass? d.qualifiedName = some d := by
  rw [qualifiedName_of_findClass h, h]

/-- The name of a class that is found is one of the names of classes. -/
theorem mem_classNames_of_findClass {tree : Tree} {name : String} {d : Declaration}
    (h : tree.findClass? name = some d) : name ∈ tree.classNames := by
  have hfound := List.find?_some h
  simp only [Bool.and_eq_true, beq_iff_eq] at hfound
  have hmem : d ∈ tree.declarations := List.mem_reverse.mp (List.mem_of_find?_eq_some h)
  exact List.mem_map.mpr ⟨d, List.mem_filter.mpr ⟨hmem, hfound.1⟩, hfound.2⟩

/-- A base in the tree is a class of the tree. -/
theorem exists_findClass_of_mem_parents {tree : Tree} {d : Declaration} {base : String}
    (h : base ∈ tree.parents d) : ∃ p, tree.findClass? base = some p :=
  Option.isSome_iff_exists.mp (List.mem_filter.mp h).2

/-- The bases of a class that is found are those of its name. -/
theorem parentsOf_eq_parents {tree : Tree} {name : String} {d : Declaration}
    (h : tree.findClass? name = some d) : tree.parentsOf name = tree.parents d := by
  rw [Tree.parentsOf, h]

/-- All bases in the tree are names of classes. -/
theorem parentsOf_subset_classNames (tree : Tree) (name : String) :
    tree.parentsOf name ⊆ tree.classNames := by
  intro base hbase
  rw [Tree.parentsOf] at hbase
  split at hbase
  · obtain ⟨p, hp⟩ := exists_findClass_of_mem_parents hbase
    exact mem_classNames_of_findClass hp
  · exact absurd hbase List.not_mem_nil

/-- The depth that a line in the tree is given. -/
def lineageDepth (tree : Tree) : Nat :=
  (tree.declarations.filter (·.isClass)).length + 1

/-- The line of a class is that of its name in the graph of the tree. -/
theorem lineage_eq_line {tree : Tree} {name : String} {d : Declaration}
    (h : tree.findClass? name = some d) :
    lineage tree d =
      line tree.parentsOf (lineageDepth tree) [] d.qualifiedName
        (tree.parentsOf d.qualifiedName) := by
  rw [parentsOf_eq_parents (findClass?_qualifiedName h)]
  rfl

/-- The depth suffices for all classes. -/
theorem classNames_length_lt (tree : Tree) :
    tree.classNames.length < lineageDepth tree + ([] : List String).length := by
  rw [Tree.classNames, List.length_map, lineageDepth]
  exact Nat.lt_succ_self _

/-! ### The line of a class -/

/-- **The line of descent of a class**, in any tree.

* More depth changes nothing, and more steps change no merge: the recursion ends by itself.
* If the class descends from a class on a cycle, it has no line; a cycle is reported only then.
* A line begins with the class, has the classes that the class descends from, each once, keeps the
  order of the bases of each of them, and has the line of every base of the class as a subsequence. -/
theorem lineage_of_findClass (tree : Tree) (name : String) (d : Declaration)
    (h : tree.findClass? name = some d) :
    (∀ extra, line tree.parentsOf (lineageDepth tree + extra) [] d.qualifiedName (tree.parents d) =
      lineage tree d) ∧
    (∀ (lists : List (List String)) (extra : Nat),
      mergeWithin (itemCount lists + extra) lists = merge lists) ∧
    ((∃ c, Descends tree.parentsOf d.qualifiedName c ∧ OnCycle tree.parentsOf c) →
      ∃ fault, lineage tree d = .error fault) ∧
    ((∃ way, lineage tree d = .error (.cycle way)) →
      ∃ c, Descends tree.parentsOf d.qualifiedName c ∧ OnCycle tree.parentsOf c) ∧
    ∀ names, lineage tree d = .ok names →
      names.head? = some d.qualifiedName ∧ names.Nodup ∧
      (∀ c, c ∈ names ↔ Descends tree.parentsOf d.qualifiedName c) ∧
      (∀ c ∈ names, (tree.parentsOf c).Sublist names) ∧
      ∀ base ∈ tree.parents d, ∃ p own,
        tree.findClass? base = some p ∧ lineage tree p = .ok own ∧ own.Sublist names := by
  have hself := findClass?_qualifiedName h
  have hparents := parentsOf_eq_parents hself
  have hclass := mem_classNames_of_findClass hself
  have hsubset := parentsOf_subset_classNames tree
  have hdepth := classNames_length_lt tree
  have hline := lineage_eq_line h
  refine ⟨fun extra => ?_, mergeWithin_eq_merge, ?_, ?_, ?_⟩
  · rw [hline, ← hparents]
    exact line_eq_of_depth hsubset List.nodup_nil (List.nil_subset _) hclass (hsubset _) hdepth extra
  · rintro ⟨c, hdescends, hcycle⟩
    cases hresult : lineage tree d with
    | error fault => exact ⟨fault, rfl⟩
    | ok names =>
      rw [hline] at hresult
      exact absurd hcycle (not_onCycle_of_mem_line hresult ((mem_line_iff hresult).mpr hdescends))
  · rintro ⟨way, hreported⟩
    rw [hline] at hreported
    exact exists_onCycle_of_line hsubset List.nodup_nil (List.nil_subset _) hclass hdepth
      (fun x hx => absurd hx List.not_mem_nil) hreported
  · intro names hnames
    rw [hline] at hnames
    refine ⟨?_, line_nodup hnames, fun c => mem_line_iff hnames,
      fun c hc => bases_sublist_line hnames hc, ?_⟩
    · rw [line_eq_cons hnames, List.head?_cons]
    · intro base hbase
      obtain ⟨p, hp⟩ := exists_findClass_of_mem_parents hbase
      rw [← hparents] at hbase
      obtain ⟨below, own, hbelow, hown, hsub⟩ := line_of_mem_bases hnames hbase
      refine ⟨p, own, hp, ?_, hsub⟩
      -- The line of the base was found on the way over the class; it is the one found on no way.
      rw [lineage_eq_line hp, qualifiedName_of_findClass hp]
      exact line_of_way_subset hown (List.nil_subset _) (by omega)

/-- A class with two bases that share one. -/
def diamond : Tree :=
  let cls (name : String) (bases : List String) : Syntax.Statement :=
    .classDef name (bases.map .name) [] [] ⟨1, 0⟩
  ⟨[("m", ⟨"m", Path.ofText "m.py", false,
    [cls "A" [], cls "B" ["A"], cls "C" ["A"], cls "D" ["B", "C"]]⟩)]⟩

/-- The line of a class that descends from a class in two ways has that class last, and none of the
classes in it is on a cycle. -/
theorem lineage_of_diamond :
    ∃ d, diamond.findClass? "m.D" = some d ∧
      lineage diamond d = .ok ["m.D", "m.B", "m.C", "m.A"] ∧
      ["m.D", "m.B", "m.C", "m.A"].Nodup ∧
      (∀ c, c ∈ ["m.D", "m.B", "m.C", "m.A"] ↔ Descends diamond.parentsOf d.qualifiedName c) ∧
      ∀ c, Descends diamond.parentsOf d.qualifiedName c → ¬ OnCycle diamond.parentsOf c := by
  have hfound : (diamond.findClass? "m.D").isSome = true := by decide
  have hlined : (diamond.findClass? "m.D").map (lineage diamond) =
      some (.ok ["m.D", "m.B", "m.C", "m.A"]) := by decide
  obtain ⟨d, hd⟩ := Option.isSome_iff_exists.mp hfound
  rw [hd, Option.map_some, Option.some.injEq] at hlined
  obtain ⟨-, -, hrefused, -, hline⟩ := lineage_of_findClass diamond "m.D" d hd
  obtain ⟨-, hnodup, hmem, -⟩ := hline _ hlined
  refine ⟨d, hd, hlined, hnodup, hmem, fun c hdescends hcycle => ?_⟩
  obtain ⟨fault, hfault⟩ := hrefused ⟨c, hdescends, hcycle⟩
  rw [hlined] at hfault
  cases hfault

end FluentBuilder
