import FluentBuilder.Proofs.Lineage.Descent
import FluentBuilder.Proofs.Schema.Walk

/-!
# Bases that are imported on the way

A class can be known under more names than its own: a module that imports it passes it on, and a base
may be spelled by the name of that module. `Tree.Leads` follows such imports from name to name, as a
program does that looks the base up. The line of descent does not: it has the classes that are reached
by names which are those of classes as they stand (`mem_lineage_iff`).

So a base that is spelled by the name of its class is in the line, with all its fields
(`fields_subset_of_mem_lineage`), and a base that is spelled by an import adds nothing to it: its class
is in the line only if it is reached without that base (`mem_lineage_of_basedOn`). The fields of such a
base are missing, and nothing says so (`not_mem_lineage_of_showroom`).
-/

namespace FluentBuilder

open Source Lineage Stateful

variable {s : Surroundings} {tree : Tree} {c d : Declaration} {name base cls : String}
variable {line : List String} {schema own : Schema} {table : Table TypeRef}

/-! ### Names that lead to classes -/

/-- A name leads to another one by imports: its beginning is a module of the tree, the next segment is
imported there and not defined, and the name goes on from what is imported. -/
inductive Source.Tree.Leads (tree : Tree) : String → String → Prop
  /-- A name leads to itself. -/
  | here (name : String) : Leads tree name name
  /-- The name is what a module imports. -/
  | imported {m : Module} {bound target last : String} (hmodule : tree.modules.find? m.name = some m)
    (hdefined : m.defines bound = false) (hbound : m.imports.find? bound = some target)
    (hleads : Leads tree target last) : Leads tree (m.name ++ "." ++ bound) last
  /-- The name is in what a module imports. -/
  | member {m : Module} {bound target rest last : String}
    (hmodule : tree.modules.find? m.name = some m) (hdefined : m.defines bound = false)
    (hbound : m.imports.find? bound = some target) (hleads : Leads tree (target ++ "." ++ rest) last) :
    Leads tree (m.name ++ "." ++ bound ++ "." ++ rest) last

/-- A declaration has a class of the tree as a base, spelled by a name that leads to the class. -/
structure Source.Tree.BasedOn (tree : Tree) (d : Declaration) (base cls : String) : Prop where
  /-- The base is declared under this name. -/
  declared : base ∈ tree.baseClasses d
  /-- The name leads to the class. -/
  leads : tree.Leads base cls
  /-- It is a class of the tree. -/
  isClass : (tree.findClass? cls).isSome = true

/-- A base that is spelled by the name of its class is one of the bases in the tree. -/
theorem Source.Tree.BasedOn.mem_parents (h : tree.BasedOn d cls cls) : cls ∈ tree.parents d :=
  List.mem_filter.mpr ⟨h.declared, h.isClass⟩

/-! ### Lines -/

/-- **The classes of a line** are the class itself and those that its bases in the tree descend from. -/
theorem mem_lineage_iff (hd : tree.findClass? name = some d) (hline : lineage tree d = .ok line) :
    cls ∈ line ↔ cls = d.qualifiedName ∨
      ∃ parent ∈ tree.parents d, Descends tree.parentsOf parent cls := by
  rw [lineage_eq_line hd] at hline
  rw [mem_line_iff hline, descends_iff, parentsOf_eq_parents (findClass?_qualifiedName hd)]

/-- The declarations of a line are those that are found under its names. -/
theorem mem_lineDeclarations_iff (hd : tree.findClass? name = some d)
    (hline : lineage tree d = .ok line) :
    c ∈ lineDeclarations tree d line ↔ ∃ n ∈ line, tree.findClass? n = some c := by
  have hself := findClass?_qualifiedName hd
  rw [lineage_eq_line hd] at hline
  rw [lineDeclarations, line_eq_cons hline, List.tail_cons, List.mem_cons, List.mem_filterMap]
  constructor
  · rintro (rfl | ⟨n, hn, hfound⟩)
    · exact ⟨_, List.mem_cons_self, hself⟩
    · exact ⟨n, List.mem_cons_of_mem _ hn, hfound⟩
  · rintro ⟨n, hn, hfound⟩
    rcases List.mem_cons.mp hn with rfl | hn
    · exact .inl (Option.some.inj (hfound.symm.trans hself))
    · exact .inr ⟨n, hn, hfound⟩

/-- The line of a class has all classes of the lines of its classes. -/
theorem lineage_subset_of_mem {below : List String} (hd : tree.findClass? name = some d)
    (hline : lineage tree d = .ok line) (hc : tree.findClass? cls = some c)
    (hbelow : lineage tree c = .ok below) (hmem : cls ∈ line) : below ⊆ line := by
  intro n hn
  rw [lineage_eq_line hd] at hline
  rw [lineage_eq_line hc] at hbelow
  have hup : Descends tree.parentsOf c.qualifiedName n := (mem_line_iff hbelow).mp hn
  rw [qualifiedName_of_findClass hc] at hup
  exact (mem_line_iff hline).mpr (((mem_line_iff hline).mp hmem).trans hup)

/-- **The fields of the classes of a line are fields**, as far as names go. -/
theorem fields_subset_of_mem_lineage (hsound : Resolving.Sound s table)
    (hd : s.tree.findClass? name = some d) (hline : lineage s.tree d = .ok line)
    (hc : s.tree.findClass? cls = some c) (hmem : cls ∈ line)
    (hschema : (exec (Resolving.schema s d) table).1 = .ok schema)
    (hown : (exec (Resolving.schema s c) table).1 = .ok own) :
    own.fields.map (·.name) ⊆ schema.fields.map (·.name) := by
  intro field hfield
  obtain ⟨below, hbelow, howned⟩ := mem_names_schema_iff hsound hown
  obtain ⟨line', hline', hfields⟩ := mem_names_schema_iff hsound hschema
  obtain rfl := Except.ok.inj (hline.symm.trans hline')
  obtain ⟨owner, howner, hgiven⟩ := (howned field).mp hfield
  obtain ⟨n, hn, hfound⟩ := (mem_lineDeclarations_iff hc hbelow).mp howner
  have hkept := lineage_subset_of_mem hd hline hc hbelow hmem hn
  exact (hfields field).mpr ⟨owner, (mem_lineDeclarations_iff hd hline).mpr ⟨n, hkept, hfound⟩, hgiven⟩

/-! ### Bases -/

/-- **When the class of a base is in the line.** A base that is spelled by the name of its class is. Where
the name of a base is no name of a class, the base is left out: the class is in the line iff the line
has it without that base. The fields of all classes in the line are fields. -/
theorem mem_lineage_of_basedOn (hd : s.tree.findClass? name = some d)
    (hline : lineage s.tree d = .ok line) (h : s.tree.BasedOn d base cls) :
    (base = cls → cls ∈ line) ∧
    (s.tree.findClass? base = none →
      (cls ∈ line ↔ cls = d.qualifiedName ∨ ∃ parent ∈ s.tree.parents d,
        parent ≠ base ∧ Descends s.tree.parentsOf parent cls)) ∧
    (cls ∈ line → ∀ table c schema own, Resolving.Sound s table → s.tree.findClass? cls = some c →
      (exec (Resolving.schema s d) table).1 = .ok schema →
      (exec (Resolving.schema s c) table).1 = .ok own →
      own.fields.map (·.name) ⊆ schema.fields.map (·.name)) := by
  refine ⟨?_, fun hnone => ?_, fun hmem table c schema own hsound hc hschema hown => ?_⟩
  · rintro rfl
    exact (mem_lineage_iff hd hline).mpr (.inr ⟨base, h.mem_parents, .refl⟩)
  · -- No base in the tree has this name.
    have hother : ∀ parent ∈ s.tree.parents d, parent ≠ base := by
      rintro parent hparent rfl
      obtain ⟨p, hp⟩ := exists_findClass_of_mem_parents hparent
      cases hnone.symm.trans hp
    rw [mem_lineage_iff hd hline]
    refine or_congr_right (exists_congr fun parent => and_congr_right fun hparent => ?_)
    rw [and_iff_right (hother parent hparent)]
  · exact fields_subset_of_mem_lineage hsound hd hline hc hmem hschema hown

/-- A package that imports a class of one of its modules. -/
def displayPackage : Module :=
  ⟨"pkg", Path.ofText "pkg/__init__.py", true,
    [.importFrom (some "pkg.base") [⟨"Vehicle", none⟩] 0]⟩

/-- This package, with a class in another module of it that has the class as its base, imported from
`source`. -/
def showroom (source : String) : Tree :=
  let field (name type : String) : Syntax.Statement := .annotated (.name name) (.name type) none
  ⟨[("pkg", displayPackage),
    ("pkg.base", ⟨"pkg.base", Path.ofText "pkg/base.py", false,
      [.classDef "Vehicle" [] [] [field "wheels" "int"] ⟨1, 0⟩]⟩),
    ("pkg.car", ⟨"pkg.car", Path.ofText "pkg/car.py", false,
      [.importFrom (some source) [⟨"Vehicle", none⟩] 0,
        .classDef "Car" [.name "Vehicle"] [] [field "name" "str"] ⟨2, 0⟩]⟩)]⟩

/-- The package passes the class on. -/
theorem leads_of_showroom (source : String) :
    (showroom source).Leads "pkg.Vehicle" "pkg.base.Vehicle" := by
  have hmodule : (showroom source).modules.find? displayPackage.name = some displayPackage := rfl
  have hdefined : displayPackage.defines "Vehicle" = false := by decide +kernel
  have hbound : displayPackage.imports.find? "Vehicle" = some "pkg.base.Vehicle" := by
    decide +kernel
  exact .imported hmodule hdefined hbound (.here _)

/-- A base that is imported from the module of its class is in the line, and its fields are fields. -/
theorem mem_lineage_of_showroom :
    ∃ d, (showroom "pkg.base").findClass? "pkg.car.Car" = some d ∧
      (showroom "pkg.base").BasedOn d "pkg.base.Vehicle" "pkg.base.Vehicle" ∧
      lineage (showroom "pkg.base") d = .ok ["pkg.car.Car", "pkg.base.Vehicle"] ∧
      "pkg.base.Vehicle" ∈ ["pkg.car.Car", "pkg.base.Vehicle"] := by
  have hfound : ((showroom "pkg.base").findClass? "pkg.car.Car").isSome = true := by decide +kernel
  have hclass : ((showroom "pkg.base").findClass? "pkg.base.Vehicle").isSome = true := by
    decide +kernel
  have hline : ((showroom "pkg.base").findClass? "pkg.car.Car").map (fun d =>
      (lineage (showroom "pkg.base") d, (showroom "pkg.base").baseClasses d)) =
      some (.ok ["pkg.car.Car", "pkg.base.Vehicle"], ["pkg.base.Vehicle"]) := by decide +kernel
  obtain ⟨d, hd⟩ := Option.isSome_iff_exists.mp hfound
  rw [hd, Option.map_some, Option.some.injEq, Prod.mk.injEq] at hline
  have hbased : (showroom "pkg.base").BasedOn d "pkg.base.Vehicle" "pkg.base.Vehicle" :=
    ⟨by rw [hline.2]; exact List.mem_cons_self, .here _, hclass⟩
  have hd' : (Surroundings.ofTree (showroom "pkg.base")).tree.findClass? "pkg.car.Car" = some d := hd
  obtain ⟨hmem, -, -⟩ := mem_lineage_of_basedOn hd' hline.1 hbased
  exact ⟨d, hd, hbased, hline.1, hmem rfl⟩

/-- A class that is alone in its line and has one annotation has one field. -/
theorem exists_schema_of_annotated {field type : String}
    (hline : lineage s.tree d = .ok [d.qualifiedName]) (hclass : d.isClass = true)
    (hbody : d.body = [.annotated (.name field) (.name type) none])
    (hsegments : Dotted.segments type = [type]) (himport : d.module.imports.find? type = none)
    (hother : ∀ form ∈ "dataclasses.KW_ONLY" :: classVarForms,
      ¬('.' :: type.toList) <:+ form.toList) :
    ∃ schema, (exec (Resolving.schema s d) []).1 = .ok schema ∧
      schema.fields.map (·.name) = [field] := by
  have hown : ownFields s d = .ok [(field, .name type)] := by
    have hfields : d.body =
        [(field, type)].map fun f => .annotated (.name f.1) (.name f.2) none := hbody
    have hplain : ∀ f ∈ [(field, type)], Dotted.segments f.2 = [f.2] ∧
        d.module.imports.find? f.2 = none ∧
        ∀ form ∈ "dataclasses.KW_ONLY" :: classVarForms, ¬('.' :: f.2.toList) <:+ form.toList := by
      rw [List.forall_mem_singleton]
      exact ⟨hsegments, himport, hother⟩
    exact ownFields_of_find?_imports hclass hfields hplain
  have hplain : Resolving.isPlainLine s [d] = true :=
    Resolving.isPlainLine_singleton hown (List.forall_mem_singleton.mpr rfl)
  refine ⟨_, Resolving.schema_of_plain (Resolving.sound_nil s) hline hplain, ?_⟩
  show ((fieldTable ((walk s [d]).map (Resolving.plainField s))).map Prod.snd).map (·.name) = [field]
  rw [walk_singleton, contributions_of_ok hown]
  rfl

/-- **A base that is imported from the package is not in the line**, and its field is missing. -/
theorem not_mem_lineage_of_showroom :
    ∃ d c schema own, (showroom "pkg").findClass? "pkg.car.Car" = some d ∧
      (showroom "pkg").findClass? "pkg.base.Vehicle" = some c ∧
      (showroom "pkg").BasedOn d "pkg.Vehicle" "pkg.base.Vehicle" ∧
      lineage (showroom "pkg") d = .ok ["pkg.car.Car"] ∧
      "pkg.base.Vehicle" ∉ ["pkg.car.Car"] ∧
      (exec (Resolving.schema (.ofTree (showroom "pkg")) d) []).1 = .ok schema ∧
      (exec (Resolving.schema (.ofTree (showroom "pkg")) c) []).1 = .ok own ∧
      schema.fields.map (·.name) = ["name"] ∧ own.fields.map (·.name) = ["wheels"] := by
  let s := Surroundings.ofTree (showroom "pkg")
  have hfound : ((showroom "pkg").findClass? "pkg.car.Car").isSome = true := by decide +kernel
  have hclass : ((showroom "pkg").findClass? "pkg.base.Vehicle").isSome = true := by decide +kernel
  have hbase : ((showroom "pkg").findClass? "pkg.car.Car").map (showroom "pkg").baseClasses =
      some ["pkg.Vehicle"] := by decide +kernel
  have hline : ((showroom "pkg").findClass? "pkg.car.Car").map (lineage (showroom "pkg")) =
      some (.ok ["pkg.car.Car"]) := by decide +kernel
  have hline' : ((showroom "pkg").findClass? "pkg.base.Vehicle").map (lineage (showroom "pkg")) =
      some (.ok ["pkg.base.Vehicle"]) := by decide +kernel
  have hbody : ((showroom "pkg").findClass? "pkg.car.Car").map (fun d =>
      (d.isClass, d.body, d.module.imports.find? "str")) =
      some (true, [.annotated (.name "name") (.name "str") none], none) := rfl
  have hbody' : ((showroom "pkg").findClass? "pkg.base.Vehicle").map (fun d =>
      (d.isClass, d.body, d.module.imports.find? "int")) =
      some (true, [.annotated (.name "wheels") (.name "int") none], none) := rfl
  obtain ⟨d, hd⟩ := Option.isSome_iff_exists.mp hfound
  obtain ⟨c, hc⟩ := Option.isSome_iff_exists.mp hclass
  rw [hd, Option.map_some, Option.some.injEq] at hbase hline hbody
  rw [hc, Option.map_some, Option.some.injEq] at hline' hbody'
  simp only [Prod.mk.injEq] at hbody hbody'
  obtain ⟨hisClass, hcontent, himport⟩ := hbody
  obtain ⟨hisClass', hcontent', himport'⟩ := hbody'
  have halone : lineage s.tree d = .ok [d.qualifiedName] := by
    rw [qualifiedName_of_findClass hd]
    exact hline
  have halone' : lineage s.tree c = .ok [c.qualifiedName] := by
    rw [qualifiedName_of_findClass hc]
    exact hline'
  obtain ⟨schema, hschema, hnames⟩ :=
    exists_schema_of_annotated halone hisClass hcontent (by decide +kernel) himport (by decide +kernel)
  obtain ⟨own, hown, hnames'⟩ :=
    exists_schema_of_annotated halone' hisClass' hcontent' (by decide +kernel) himport'
      (by decide +kernel)
  refine ⟨d, c, schema, own, hd, hc, ⟨?_, leads_of_showroom "pkg", hclass⟩, hline, by decide,
    hschema, hown, hnames, hnames'⟩
  rw [hbase]
  exact List.mem_cons_self

end FluentBuilder
