import FluentBuilder.Processing.Loading
import FluentBuilder.Proofs.Processing.Verdict

/-!
# Modules that hide builders

A builder is to be imported by the name of its module, from the root that it was written to. Where
sources are read from the same root, a module that is no package can be in the way: a program that looks
for `car.EngineBuilder` finds the module `car` in the file `car.py`, and not the directory beside it. The
name of the module of a builder is chosen without a look at the other modules, so that this happens
(`hides_of_workshop`), and a round reports such a builder as generated.

`hides_iff_of_processRound` says when it does: iff a module that is no package is named like the
namespace of the builder or one around it. For a class at module level in a package whose name is in
lower case this is so only if its own module is hidden in the same way. For a class inside another one
the namespace goes on with the name of the outer class in lower case, which may be that of any module.
-/

namespace FluentBuilder

open Source Stateful Processing

variable {s : Surroundings} {tree : Tree} {d : Declaration} {b : Blueprint} {name : String}

/-! ### Names that are in the way -/

/-- A module of the tree that is no package has this name. -/
def Source.Tree.IsPlain (tree : Tree) (name : String) : Prop :=
  ∃ m, tree.modules.find? name = some m ∧ m.isPackage = false

/-- A module that is no package is in the way of a name: its name encloses it. -/
def Source.Tree.Hides (tree : Tree) (name : String) : Prop :=
  ∃ outer, tree.IsPlain outer ∧ Dotted.Encloses outer name

/-- The package of a declaration, followed by the classes around it. -/
def Source.Declaration.surroundingScope (d : Declaration) : String :=
  Dotted.join ([d.module.package, Dotted.parent d.qualname].filter fun part => !part.isEmpty)

/-- The namespace of a builder is named for where the class stands. -/
theorem namespaceName_of_builderOf? (hb : builderOf? s d = some b) :
    b.namespaceName = namespaceFor d.surroundingScope ∧ '.' ∉ b.name.toList := by
  obtain ⟨schema, hschema, haccepted⟩ := exists_of_builderOf? hb
  obtain ⟨-, hname, hnamespace, -⟩ := Schema.ofSchema_eq_ok haccepted
  obtain ⟨-, -, hqualname, hpackage⟩ := schema_of_schemaOf hschema
  refine ⟨?_, ?_⟩
  · rw [hnamespace, Schema.enclosingScope, hqualname, hpackage, Declaration.surroundingScope]
  · rw [hname]
    exact not_mem_builderName (Dotted.not_mem_lastSegment _)

/-- Around a class at module level there is only the package. -/
theorem surroundingScope_of_nil (hscope : d.scope = []) (hname : '.' ∉ d.name.toList) :
    d.surroundingScope = d.module.package := by
  have hqualname : d.qualname = d.name := by
    rw [Declaration.qualname, hscope, List.nil_append, Dotted.join, List.map_singleton,
      Dotted.joinPieces, String.ofList_toList]
  rw [Declaration.surroundingScope, hqualname, Dotted.parent_of_not_mem hname]
  by_cases hempty : d.module.package = ""
  · simp [hempty, Dotted.join, Dotted.joinPieces]
  · simp [hempty, Dotted.join, Dotted.joinPieces]

/-- A builder is hidden iff a module that is no package is named like its namespace, or like one around
it. -/
theorem hides_moduleName_iff (hb : builderOf? s d = some b) :
    tree.Hides b.moduleName ↔ namespaceFor d.surroundingScope ≠ "" ∧ ∃ outer, tree.IsPlain outer ∧
      (outer = namespaceFor d.surroundingScope ∨
        Dotted.Encloses outer (namespaceFor d.surroundingScope)) := by
  obtain ⟨hnamespace, hname⟩ := namespaceName_of_builderOf? hb
  rw [← hnamespace]
  constructor
  · rintro ⟨outer, hplain, hencloses⟩
    obtain ⟨hne, hor⟩ := (Dotted.encloses_within_iff hname).mp hencloses
    exact ⟨hne, outer, hplain, hor⟩
  · rintro ⟨hne, outer, hplain, hor⟩
    exact ⟨outer, hplain, (Dotted.encloses_within_iff hname).mpr ⟨hne, hor⟩⟩

/-- What is named like the package of a module, or like one around it, encloses the module, unless the
module is that package. -/
theorem encloses_of_package {m : Module} {outer : String} (hne : m.package ≠ "")
    (h : outer = m.package ∨ Dotted.Encloses outer m.package) :
    Dotted.Encloses outer m.name ∨ m.isPackage = true ∧ outer = m.name := by
  rw [Module.package] at h hne
  split at h
  · next hpackage =>
    rcases h with rfl | h
    · exact .inr ⟨hpackage, rfl⟩
    · exact .inl h
  · next hplain =>
    rw [if_neg hplain] at hne
    obtain ⟨last, hlast⟩ := Dotted.encloses_parent hne
    rcases h with rfl | ⟨rest, hrest⟩
    · exact .inl ⟨last, hlast⟩
    · refine .inl ⟨rest ++ "." ++ last, ?_⟩
      rw [hlast, hrest]
      simp only [String.append_assoc]

/-- The builder of a class at module level is hidden only if the module is, where the package has a name
in lower case. -/
theorem hides_module_of_hides (hb : builderOf? s d = some b) (hscope : d.scope = [])
    (hname : '.' ∉ d.name.toList) (hlower : namespaceFor d.module.package = d.module.package)
    (hpackage : d.module.isPackage = true → ¬ tree.IsPlain d.module.name)
    (h : tree.Hides b.moduleName) : tree.Hides d.module.name := by
  rw [hides_moduleName_iff hb, surroundingScope_of_nil hscope hname, hlower] at h
  obtain ⟨hne, outer, hplain, hor⟩ := h
  rcases encloses_of_package hne hor with hencloses | ⟨hispackage, rfl⟩
  · exact ⟨outer, hplain, hencloses⟩
  · exact absurd hplain (hpackage hispackage)

namespace Processing

/-- **When builders are hidden.** Every declaration whose outcome is as it should be has a builder, and
the outcome names its module. This is hidden iff a module that is no package is named like the namespace
of where the class stands, or like one around it. At module level, in a package whose name is in lower
case, it is not hidden unless the module of the class is. -/
theorem hides_iff_of_processRound {e : Emitter} {tree : Tree} {isLast : Bool} {run run' : Run}
    {result : RoundResult} (h : exec (processRound e tree isLast) run = (.ok result, run')) :
    List.Forall₂ (fun d o => o.isOk = true → ∃ module, o.module = some module ∧
      (tree.Hides module ↔ namespaceFor d.surroundingScope ≠ "" ∧ ∃ outer, tree.IsPlain outer ∧
        (outer = namespaceFor d.surroundingScope ∨
          Dotted.Encloses outer (namespaceFor d.surroundingScope))) ∧
      (d.scope = [] → '.' ∉ d.name.toList → namespaceFor d.module.package = d.module.package →
        (d.module.isPackage = true → ¬ tree.IsPlain d.module.name) →
        ¬ tree.Hides d.module.name → ¬ tree.Hides module)) tree.marked result.outcomes := by
  obtain ⟨run₁, -, hall⟩ := exec_processRound_ok h
  refine List.Forall₂.imp ?_ (judged_processAll (Resolving.sound_nil _) hall)
  rintro d o ⟨claimed, before, claimed', after, hjudged⟩ hok
  obtain ⟨b, hb, hnames⟩ := hjudged.exists_builder hok
  exact ⟨b.moduleName, hnames.module_eq, hides_moduleName_iff hb,
    fun hscope hname hlower hpackage hnot hhides =>
      hnot (hides_module_of_hides hb hscope hname hlower hpackage hhides)⟩

/-- A package with a module in it, which has a class at module level. -/
def depot : Tree :=
  ⟨[("shop", ⟨"shop", Path.ofText "shop/__init__.py", true, []⟩),
    ("shop.cars", ⟨"shop.cars", Path.ofText "shop/cars.py", false,
      [.importFrom (some "buildergen") [⟨"builder", none⟩] 0,
        .classDef "Car" [] [.name "builder"] [] ⟨2, 0⟩]⟩)]⟩

/-- The builder of this class is not hidden. -/
theorem not_hides_of_depot :
    ∃ result run', exec (processRound ⟨Path.ofText "/src", false⟩ depot false)
        ⟨⟨[], [], "/root"⟩, [], []⟩ = (.ok result, run') ∧
      result.outcomes.map (fun o => (o.status, o.module)) =
        [(.emitted .generated, some "shop.CarBuilder")] ∧
      ¬ depot.Hides "shop.CarBuilder" := by
  have hcomputed : (exec (processRound ⟨Path.ofText "/src", false⟩ depot false)
      ⟨⟨[], [], "/root"⟩, [], []⟩).1.toOption.map
        (fun result => result.outcomes.map fun o => (o.status, o.module)) =
      some [(.emitted .generated, some "shop.CarBuilder")] := by decide +kernel
  have hmarked : ∀ d ∈ depot.marked, namespaceFor d.surroundingScope = "shop" := by decide
  have hpackage : (depot.modules.find? "shop").map (·.isPackage) = some true := by decide
  rcases h : exec (processRound ⟨Path.ofText "/src", false⟩ depot false) ⟨⟨[], [], "/root"⟩, [], []⟩
    with ⟨fault | result, run'⟩
  · rw [h] at hcomputed
    cases hcomputed
  rw [h] at hcomputed
  have houtcomes : result.outcomes.map (fun o => (o.status, o.module)) =
      [(.emitted .generated, some "shop.CarBuilder")] := Option.some.inj hcomputed
  refine ⟨result, run', rfl, houtcomes, ?_⟩
  obtain ⟨o, ho, hpair⟩ := List.mem_map.mp (houtcomes ▸ List.mem_cons_self)
  obtain ⟨hstatus, hmodule⟩ := Prod.mk.inj hpair
  obtain ⟨d, hd, hnamed⟩ :=
    FluentBuilder.Outcome.exists_of_mem_right (hides_iff_of_processRound h) ho
  obtain ⟨module, hnames, hiff, -⟩ := hnamed (Outcome.isOk_of_generated hstatus)
  obtain rfl := Option.some.inj (hmodule.symm.trans hnames)
  rw [hiff, hmarked d hd]
  rintro ⟨-, outer, ⟨m, hm, hplain⟩, rfl | hencloses⟩
  · rw [hm, Option.map_some, hplain] at hpackage
    cases hpackage
  · exact Dotted.not_encloses_of_not_mem (by decide) hencloses

/-- Sources with a class inside the class for which the module is named. -/
def workshopSource : String :=
  "from buildergen import builder\nclass Car:\n    @builder\n    class Engine:\n        pass\n"

/-- A directory with these sources. -/
def workshop : Store :=
  ⟨[(["src"], .directory), (["src", "car.py"], .file (Utf8.encode workshopSource))], [], "/root"⟩

/-- **The module hides the builder of the inner class**, which is reported as generated. -/
theorem hides_of_workshop :
    ∃ tree run₁ result run₂,
      exec (loadTree [Path.ofText "/src"] true) ⟨workshop, [], []⟩ = (.ok (tree, []), run₁) ∧
      exec (processRound ⟨Path.ofText "/src", false⟩ tree false) run₁ = (.ok result, run₂) ∧
      result.outcomes.map (fun o => (o.status, o.module)) =
        [(.emitted .generated, some "car.EngineBuilder")] ∧
      tree.Hides "car.EngineBuilder" := by
  let whole : Running (Nat × Option Bool × List (Status × Option String)) := do
    let loaded ← loadTree [Path.ofText "/src"] true
    let result ← processRound ⟨Path.ofText "/src", false⟩ loaded.1 false
    return (loaded.2.length, (loaded.1.modules.find? "car").map (·.isPackage),
      result.outcomes.map fun o => (o.status, o.module))
  have hcomputed : (exec whole ⟨workshop, [], []⟩).1.toOption =
      some (0, some false, [(.emitted .generated, some "car.EngineBuilder")]) := by decide +kernel
  rcases hwhole : exec whole ⟨workshop, [], []⟩ with ⟨fault | found, run₂⟩
  · rw [hwhole] at hcomputed
    cases hcomputed
  rw [hwhole] at hcomputed
  obtain ⟨⟨tree, faults⟩, run₁, hload, hrest⟩ := exec_bind_ok_iff.mp hwhole
  obtain ⟨result, run₃, hround, hlast⟩ := exec_bind_ok_iff.mp hrest
  cases hlast
  obtain ⟨hfaults, hfound⟩ := Prod.mk.inj (Option.some.inj hcomputed)
  obtain ⟨hplain, houtcomes⟩ := Prod.mk.inj hfound
  obtain rfl := List.length_eq_zero_iff.mp hfaults
  obtain ⟨m, hm, hpackage⟩ := Option.map_eq_some_iff.mp hplain
  exact ⟨tree, run₁, result, run₂, hload, hround, houtcomes, "car", ⟨m, hm, hpackage⟩,
    "EngineBuilder", rfl⟩

end Processing
end FluentBuilder
