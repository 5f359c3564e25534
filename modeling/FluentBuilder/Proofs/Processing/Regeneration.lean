import FluentBuilder.Proofs.Processing.Generation
import FluentBuilder.Proofs.Processing.Reloading
import FluentBuilder.Proofs.Processing.Repetition

/-!
# Generating again

Where builders are written among the sources, they are loaded by the next run, and that run works on a
tree that has modules more.

**What is kept and what is not.** The next run finds a tree, and in it the marked declarations of all
modules under whose names no builder was written, in the same order (`generate_again`). If that is all
that was marked, then it is all that is marked, and the next run leaves alone what was as it should be iff
the new modules do not change the text of its builder. Either can fail: a builder can be written over the
file of a marked class, and a class can have a builder as the type of a field, whose module is imported
in another way once it is there.
-/

namespace FluentBuilder.Processing

open Stateful Source Store

variable {s s' : Store} {root : Path} {run run' : Run} {config : Config} {check : Bool} {tree : Tree}

/-! ### Builders among the sources -/

/-- The names of the modules in the files below a root that a round has generated. -/
def generatedNames (root : Path) (result : RoundResult) : List String :=
  (result.outcomes.filter (·.status == .emitted .generated)).filterMap fun o =>
    o.path.map fun p => moduleNameAt (p.parts.drop root.parts.length)

/-- The file of a builder can be read again: its text has no carriage returns, and is a module in which
nothing is marked. -/
structure Rereadable (root : Path) (b : Blueprint) : Prop where
  /-- There are no carriage returns. -/
  no_return : '\r' ∉ b.render.toList
  /-- It is a module in which nothing is marked. -/
  module : ∃ m, reread root (b.outputPath root) b.render = .ok m ∧ Tree.markedIn m = []

/-- **A round that writes among the sources** writes files of the modules that it generates. -/
theorem rewritten_of_processRound (hroot : Resolved root) (hsound : run.store.Sound)
    (hproper : run.store.Proper) (hnames : ∀ d ∈ tree.marked, '/' ∉ d.qualifiedName.toList)
    (htexts : ∀ d ∈ tree.marked, ∀ b, builderOf? (.ofTree tree) d = some b → Rereadable root b)
    {first : RoundResult} {isLast : Bool}
    (hfirst : exec (processRound ⟨root, check⟩ tree isLast) run = (.ok first, run')) :
    Rewritten root (generatedNames root first) (GeneratedAt first.outcomes run'.store)
      run.store run'.store := by
  obtain ⟨runA, hcontinues, hall⟩ := exec_processRound_ok hfirst
  have hrefs := Resolving.sound_nil (.ofTree tree)
  have hcompleted := completed_processAll hrefs hall
  rw [← hcontinues.store_eq] at hsound hproper ⊢
  -- What was generated at a place below the root is the builder of a marked class.
  have hbuilder : ∀ file, GeneratedAt first.outcomes run'.store (root.parts ++ file) →
      moduleNameAt file ∈ generatedNames root first ∧
        ∃ d ∈ tree.marked, ∃ b, builderOf? (.ofTree tree) d = some b ∧
          b.outputPath root = ⟨root.root, root.parts ++ file⟩ ∧
          run'.store.bytes (b.outputPath root) = .ok (Utf8.encode b.render) := by
    rintro file ⟨o, ho, hstatus, p, hpath, hplace⟩
    have hbelow : ∀ d ∈ tree.marked, ∀ b, builderOf? (.ofTree tree) d = some b →
        Path.Below root (b.outputPath root) := fun d hd _ hb => below_of_builderOf? (hnames d hd) hb root
    obtain ⟨d, hd, hholds⟩ := FluentBuilder.Outcome.exists_of_mem_right (hcompleted.holds hbelow) ho
    obtain ⟨b, hb, hpath', hbytes⟩ := hholds hstatus
    obtain rfl := Option.some.inj (hpath.symm.trans hpath')
    obtain ⟨further, hfurther, -, hup⟩ := hbelow d hd b hb
    rw [hfurther] at hplace
    obtain rfl := List.append_cancel_left (hroot.placeOf_eq hup hplace)
    refine ⟨List.mem_filterMap.mpr ⟨o, List.mem_filter.mpr ⟨ho, ?_⟩, ?_⟩, d, hd, b, hb, hfurther, hbytes⟩
    · rw [hstatus]
      rfl
    · rw [hpath, hfurther, Option.map_some, List.drop_left]
  exact {
    resolved := hroot
    sound := hsound
    proper := hproper
    sound' := (undecodable_of_processAll hrefs hsound hall).1
    evolves := hcompleted.evolves
    mem_names := fun file hfile => (hbuilder file hfile).1
    unmarked := fun file hfile => by
      obtain ⟨-, d, hd, b, hb, hpath, hbytes⟩ := hbuilder file hfile
      obtain ⟨m, hm, hnone⟩ := (htexts d hd b hb).module
      rw [hpath] at hm hbytes
      exact ⟨m, readModuleAt_of_reread (htexts d hd b hb).no_return hbytes hm, hnone⟩ }

/-- **Generating among the sources again.** After a run that wrote into its only source root, with builders
that can be read again, the sources are loaded again, and what was marked in modules under whose names
nothing was generated is found again, in the same order. If nothing was marked under the other names, then
the same declarations are marked. If moreover none of these has a builder now that had none, or fails to be
resolved, then a further run comes to an end, and what was as it should be is unchanged iff the text to be
written is the same. -/
theorem generate_again {source : Path} (hsources : config.sourceRoots = [source])
    (hroot : exec (Running.outputRoot config.toOptions) run = (.ok root, run))
    (hsource : run.store.resolve source = .ok root) (hsound : run.store.Sound)
    (hproper : run.store.Proper) (hloaded : Loaded run.store [source] tree)
    (htexts : ∀ d ∈ tree.marked, ∀ b, builderOf? (.ofTree tree) d = some b → Rereadable root b)
    {results : List RoundResult} (h : exec (generate config false) run = (.ok results, run')) :
    ∃ first tree', results = [first, ⟨[]⟩] ∧ Loaded run'.store [source] tree' ∧
      tree'.markedBeside (generatedNames root first) = tree.markedBeside (generatedNames root first) ∧
      (tree.Quiet (generatedNames root first) → tree'.marked = tree.marked ∧
        ((∀ d ∈ tree.marked, Compatible (.ofTree tree) (.ofTree tree') d) →
          ∀ later : Run, later.store = run'.store → ∃ second later',
            exec (generate config false) later = (.ok [second, ⟨[]⟩], later') ∧
              AllAgain (.ofTree tree) (.ofTree tree') tree.marked first.outcomes second.outcomes)) := by
  rw [← hsources] at hloaded
  obtain ⟨root', tree', runA, first, runB, errors, hroot', hloaded', hreported, -, hfirst, rfl, hend⟩ :=
    exec_generate_ok h
  obtain rfl := Except.ok.inj (Prod.mk.inj (hroot.symm.trans hroot')).1
  obtain rfl := hloaded.unique hloaded'
  have hstore := hreported.store_eq
  have hlast := hend.store_eq
  have hresolved := resolved_of_resolve hsound hproper hsource
  have hnames := hloaded.plain hsound hproper
  rw [← hstore] at hsound hproper
  have hrewritten := rewritten_of_processRound hresolved hsound hproper (fun d hd => (hnames d hd).1)
    htexts hfirst
  rw [hsources, ← hstore] at hloaded
  rw [← hstore] at hsource
  obtain ⟨after, hafter, hbeside, hstays⟩ := hrewritten.exists_loaded hsource hloaded
  rw [← hlast] at hafter
  refine ⟨first, after, rfl, hafter, hbeside, fun hquiet => ?_⟩
  have hmarked : after.marked = tree.marked := by
    rw [← hquiet.markedBeside_eq, ← (hstays hquiet).markedBeside_eq, hbeside]
  refine ⟨hmarked, fun hcompatible later hlater => ?_⟩
  -- The further run finds the same root, and loads the tree.
  have hkept : later.store = runB.store := hlater.trans hlast
  obtain ⟨root', ⟨hroot', hdirectory, -⟩, -⟩ := loaded_singleton_iff.mp hafter
  rw [hlast, resolve_eq hrewritten.evolves.current_eq, hsource] at hroot'
  obtain rfl := Except.ok.inj hroot'
  have houtput : exec (Running.outputRoot config.toOptions) later = (.ok root, later) := by
    refine Running.exec_outputRoot_of_fit hroot ?_ ?_ (Running.fit_of_isDirectory ?_)
    · rw [hkept, hrewritten.evolves.home_eq, hstore]
    · rw [hkept, hrewritten.evolves.current_eq, hstore]
    · rw [hlater, hdirectory]
  rw [← hlater, ← hsources] at hafter
  obtain ⟨runA', errors', hreported', -, hgenerate⟩ := exec_generate_of_loaded false houtput hafter
  obtain ⟨second, runB', hsecond, hagain⟩ : ∃ second runB',
      exec (processRound ⟨root, false⟩ after false) runA' = (.ok second, runB') ∧
        AllAgain (.ofTree tree) (.ofTree after) tree.marked first.outcomes second.outcomes :=
    repeats_processRound rfl hresolved.not_up hresolved.not_null hmarked hcompatible hnames
      (fun d hd b hb => (htexts d hd b hb).no_return) hsound hfirst (hreported'.store_eq.trans hkept)
  obtain ⟨later', hend, -⟩ := exec_lastRound ⟨root, false⟩ runB'
  refine ⟨second, later', ?_, hagain⟩
  rw [hgenerate, roundsOver, exec_bind_of_ok hsecond, exec_bind_of_ok hend, exec_pure]

/-! ### Two directories -/

/-- A module with a marked class. -/
def yardSource : String := "from buildergen import builder\n@builder\nclass Car:\n    pass\n"

/-- The builder of the class. -/
def yardBuilder : String :=
  "# Code generated by buildergen 0.1.0 from m.Car. DO NOT EDIT.\n\n" ++
  "from __future__ import annotations\n\nimport m\n\n" ++
  "from buildergen.runtime import ABSENT, Absent, fluent, require\n\n\n" ++
  "class CarBuilder:\n    \"\"\"Fluent builder for `m.Car`.\"\"\"\n\n    __slots__ = ()\n\n" ++
  "    def __init__(self) -> None:\n        pass\n\n" ++
  "    @fluent\n    def build(self) -> m.Car:\n        return m.Car()\n"

/-- There is no carriage return in it. -/
theorem not_return_yardBuilder : '\r' ∉ yardBuilder.toList := by
  unfold yardBuilder
  simp only [String.toList_append]
  decide +kernel

/-- The only source root, into which is written. -/
def yardRoot : Path := Path.ofText "/src"

/-- The file of the builder. -/
def yardFile : Path := ⟨yardRoot.root, yardRoot.parts ++ ["CarBuilder.py"]⟩

/-- The configuration to write into the root. -/
def inPlace : Config := ⟨[yardRoot], some yardRoot, []⟩

/-- Its text is read as that of a module, in which nothing is marked. -/
theorem markedIn_yardBuilder :
    (Syntax.readWith Syntax.Grammar.wholeModule
      (Syntax.endLastLine yardBuilder.toList (Syntax.unifyLineEnds yardBuilder.toList))
      (some (yardBuilder.toList.flatMap Utf8.encodeChar))).toOption.map (fun body =>
        (Tree.markedIn ⟨moduleNameAt (yardFile.parts.drop yardRoot.parts.length), yardFile,
          (moduleNameOf ⟨.relative, yardFile.parts.drop yardRoot.parts.length⟩).2, body⟩).isEmpty) =
      some true := by
  -- The characters are taken line by line: of a long text they are many.
  unfold yardBuilder
  simp only [String.toList_append]
  decide +kernel

/-- The builder of the class can be read again, and nothing is marked in it. -/
theorem rereadable_yardBuilder {b : Blueprint}
    (hb : (b.outputPath yardRoot, b.render) = (yardFile, yardBuilder)) : Rereadable yardRoot b := by
  obtain ⟨hpath, htext⟩ := Prod.mk.inj hb
  obtain ⟨body, hbody, hnone⟩ := Option.map_eq_some_iff.mp markedIn_yardBuilder
  have hm := reread_of_readWith (r := yardRoot) (p := yardFile) (Outcome.toOption_eq_some_iff.mp hbody)
  rw [← hpath, ← htext] at hm
  refine ⟨htext ▸ not_return_yardBuilder, _, hm, ?_⟩
  rw [hpath]
  exact List.isEmpty_iff.mp hnone

/-- A root whose files can be read is loaded. -/
theorem loaded_of_readable (hdirectory : s.isDirectory yardRoot = .ok true)
    (hread : ∀ file ∈ sourceFiles s yardRoot, ∃ m, readModuleAt s yardRoot file = .ok m) :
    Loaded s [yardRoot] (Tree.ofModules (modulesAt s yardRoot)) := by
  refine loaded_singleton_iff.mpr ⟨yardRoot, ⟨rfl, hdirectory, fun file hfile _ fault hfault => ?_⟩, rfl⟩
  obtain ⟨m, hm⟩ := hread file hfile
  cases hm.symm.trans hfault

/-- A directory with the module. -/
def yard : Store :=
  ⟨[(["src"], .directory), (["src", "m.py"], .file (Utf8.encode yardSource))], [], "/root"⟩

/-- The directory is sound, and its names are proper. -/
theorem sound_yard : yard.Sound ∧ yard.Proper := by
  have hnodes : yard.nodes = [(["src"], .directory), (["src", "m.py"], .file (Utf8.encode yardSource))] := rfl
  refine ⟨⟨rooted_of_nodes ?_, ?_, rfl⟩, ?_⟩
  · rw [hnodes]
    simp only [List.forall_mem_cons]
    exact ⟨rfl, rfl, fun _ h => absurd h List.not_mem_nil⟩
  · rw [hnodes]
    simp only [List.forall_mem_cons]
    exact ⟨rfl, rfl, fun _ h => absurd h List.not_mem_nil⟩
  · unfold Proper
    decide

/-- The root is where it is said to be, and it is a directory. -/
theorem root_yard : yard.resolve yardRoot = .ok yardRoot ∧ yard.isDirectory yardRoot = .ok true :=
  ⟨rfl, rfl⟩

/-- A class that is marked in the module. -/
structure IsYardCar (d : Declaration) : Prop where
  /-- It has neither bases nor annotations. -/
  isBare : d.isBare = true
  /-- It stands at the top of its module. -/
  scope_eq : d.scope = []
  /-- Its module is in no package. -/
  package_eq : d.module.package = ""
  /-- The name of its module. -/
  module_eq : d.module.name = "m"
  /-- Its name. -/
  name_eq : d.name = "Car"

/-- **What is read**: the module can be read, one class is marked in it, and its builder is the one above. -/
theorem facts_of_yard :
    (∀ file ∈ sourceFiles yard yardRoot, ∃ m, readModuleAt yard yardRoot file = .ok m) ∧
      ∃ d, (Tree.ofModules (modulesAt yard yardRoot)).marked = [d] ∧ IsYardCar d ∧
        (builderOf? (.ofTree (Tree.ofModules (modulesAt yard yardRoot))) d).map
          (fun b => (b.outputPath yardRoot, b.render)) = some (yardFile, yardBuilder) := by
  have hread : (∀ file ∈ sourceFiles yard yardRoot,
        (readModuleAt yard yardRoot file).toOption.isSome = true) ∧
      (Tree.ofModules (modulesAt yard yardRoot)).marked.length = 1 ∧
      ∀ d ∈ (Tree.ofModules (modulesAt yard yardRoot)).marked, (d.isBare = true ∧ d.scope = [] ∧
          d.module.package = "" ∧ d.module.name = "m" ∧ d.name = "Car") ∧
        (builderOf? (.ofTree (Tree.ofModules (modulesAt yard yardRoot))) d).map
          (fun b => (b.outputPath yardRoot, b.render)) = some (yardFile, yardBuilder) := by
    decide +kernel
  obtain ⟨hfiles, hone, hall⟩ := hread
  obtain ⟨d, hmarked⟩ := List.length_eq_one_iff.mp hone
  obtain ⟨⟨hbare, hscope, hpackage, hmodule, hname⟩, hbuilder⟩ :=
    hall d (hmarked ▸ List.mem_cons_self)
  refine ⟨fun file hfile => ?_, d, hmarked, ⟨hbare, hscope, hpackage, hmodule, hname⟩, hbuilder⟩
  obtain ⟨m, hm⟩ := Option.isSome_iff_exists.mp (hfiles file hfile)
  exact ⟨m, Outcome.toOption_eq_some_iff.mp hm⟩

/-- The builder of the class is generated, and a further run leaves it alone. -/
theorem generate_again_of_yard :
    ∃ tree first run' tree' second later', Loaded yard [yardRoot] tree ∧
      exec (generate inPlace false) ⟨yard, [], []⟩ = (.ok [first, ⟨[]⟩], run') ∧
      first.outcomes.map Outcome.status = [.emitted .generated] ∧
      Loaded run'.store [yardRoot] tree' ∧ tree'.marked = tree.marked ∧
      exec (generate inPlace false) run' = (.ok [second, ⟨[]⟩], later') ∧
      second.outcomes.map Outcome.status = [.emitted .unchanged] := by
  obtain ⟨hsound, hproper⟩ := sound_yard
  obtain ⟨hresolve, hdirectory⟩ := root_yard
  obtain ⟨hread, car, hcar, hiscar, hcarBuilder⟩ := facts_of_yard
  have hfacts : ∀ d ∈ (Tree.ofModules (modulesAt yard yardRoot)).marked, IsYardCar d ∧
      (builderOf? (.ofTree (Tree.ofModules (modulesAt yard yardRoot))) d).map
        (fun b => (b.outputPath yardRoot, b.render)) = some (yardFile, yardBuilder) := by
    intro d hd
    rw [hcar, List.mem_singleton] at hd
    exact hd ▸ ⟨hiscar, hcarBuilder⟩
  have hstatus : (exec (generate inPlace false) ⟨yard, [], []⟩).1.toOption.map (·.map fun r =>
      (r.outcomes.map Outcome.status, generatedNames yardRoot r)) =
        some [([.emitted .generated], ["CarBuilder"]), ([], [])] := by decide +kernel
  have hfound : (exec (Running.outputRoot inPlace.toOptions) ⟨yard, [], []⟩).1.toOption =
      some yardRoot := by decide +kernel
  have houtput : exec (Running.outputRoot inPlace.toOptions) ⟨yard, [], []⟩ =
      (.ok yardRoot, ⟨yard, [], []⟩) := by
    have hok := Outcome.toOption_eq_some_iff.mp hfound
    obtain ⟨hsame, -⟩ := Running.exec_outputRoot (Prod.ext hok rfl)
    exact Prod.ext hok hsame
  have hloaded := loaded_of_readable hdirectory hread
  have htexts : ∀ d ∈ (Tree.ofModules (modulesAt yard yardRoot)).marked, ∀ b,
      builderOf? (.ofTree (Tree.ofModules (modulesAt yard yardRoot))) d = some b →
        Rereadable yardRoot b := by
    intro d hd b hb
    obtain ⟨-, hbuilder⟩ := hfacts d hd
    rw [hb] at hbuilder
    exact rereadable_yardBuilder (Option.some.inj hbuilder)
  have hsources : inPlace.sourceRoots = [yardRoot] := rfl
  rcases hrun : exec (generate inPlace false) ⟨yard, [], []⟩ with ⟨fault | results, run'⟩
  · rw [hrun] at hstatus
    cases hstatus
  rw [hrun] at hstatus
  obtain ⟨first, tree', rfl, hloaded', -, hagain⟩ :=
    generate_again hsources houtput hresolve hsound hproper hloaded htexts hrun
  obtain ⟨hfirst, hnames⟩ := Prod.mk.inj (List.cons.inj (Option.some.inj hstatus)).1
  have hquiet : (Tree.ofModules (modulesAt yard yardRoot)).Quiet (generatedNames yardRoot first) := by
    intro d hd
    rw [hnames, (hfacts d hd).1.module_eq]
    decide
  obtain ⟨hmarked, hfurther⟩ := hagain hquiet
  obtain ⟨second, later', hsecond, hall⟩ :=
    hfurther (fun d hd => compatible_of_isBare (hfacts d hd).1.isBare _ _) run' rfl
  refine ⟨_, first, run', tree', second, later', hloaded, rfl, hfirst, hloaded', hmarked, hsecond, ?_⟩
  have hunchanged := hall.unchanged fun d hd => by rw [written?_of_isBare (hfacts d hd).1.isBare]
  -- There is one outcome, which was as it should be.
  obtain ⟨o, houtcomes, hgenerated⟩ := List.map_eq_singleton_iff.mp hfirst
  rw [houtcomes] at hunchanged
  obtain ⟨o', others, hagain, hothers, hsecond⟩ := List.forall₂_cons_left_iff.mp hunchanged
  cases hothers
  rw [hsecond, List.map_singleton, (hagain (Outcome.isOk_of_generated hgenerated)).1]

/-- A module with a marked function. -/
def lotSource : String := "from buildergen import builder\n@builder\ndef park():\n    pass\n"

/-- A directory with both modules. The second one is where the builder of the class is to be written. -/
def lot : Store :=
  ⟨[(["src"], .directory), (["src", "m.py"], .file (Utf8.encode yardSource)),
    (["src", "CarBuilder.py"], .file (Utf8.encode lotSource))], [], "/root"⟩

/-- **The builder is written over the second module**, so that the function is not found again. -/
theorem marked_ne_of_lot :
    ∃ tree results run' tree', Loaded lot [yardRoot] tree ∧
      exec (generate inPlace false) ⟨lot, [], []⟩ = (.ok results, run') ∧
      Loaded run'.store [yardRoot] tree' ∧ tree'.marked ≠ tree.marked := by
  have hrooted : ∀ entry ∈ lot.nodes, lot.node? entry.1.dropLast = some .directory := by decide
  have hlisted : ∀ entry ∈ lot.nodes, lot.node? entry.1 = some entry.2 := by decide
  have hsound : lot.Sound := ⟨rooted_of_nodes hrooted, hlisted, rfl⟩
  have hproper : lot.Proper := by
    unfold Proper
    decide
  have hresolve : lot.resolve yardRoot = .ok yardRoot := rfl
  have hdirectory : lot.isDirectory yardRoot = .ok true := by decide +kernel
  have hplace : lot.placeOf yardFile = .ok ["src", "CarBuilder.py"] := by decide +kernel
  have hfiles : ∀ file ∈ sourceFiles lot yardRoot, moduleNameAt file = "CarBuilder" →
      file = ["CarBuilder.py"] := by decide +kernel
  have hread : ∀ file ∈ sourceFiles lot yardRoot,
      (readModuleAt lot yardRoot file).toOption.isSome = true := by decide +kernel
  have hfacts : (∃ d ∈ (Tree.ofModules (modulesAt lot yardRoot)).marked,
        d.module.name = "CarBuilder") ∧
      ∀ d ∈ (Tree.ofModules (modulesAt lot yardRoot)).marked, '/' ∉ d.qualifiedName.toList ∧
        (builderOf? (.ofTree (Tree.ofModules (modulesAt lot yardRoot))) d).all (fun b =>
          (b.outputPath yardRoot, b.render) == (yardFile, yardBuilder)) = true := by decide +kernel
  have hstatus : (exec (generate inPlace false) ⟨lot, [], []⟩).1.toOption.map (·.map fun r =>
      r.outcomes.any fun o => o.status == .emitted .generated && o.path == some yardFile) =
        some [true, false] := by decide +kernel
  have hfound : (exec (Running.outputRoot inPlace.toOptions) ⟨lot, [], []⟩).1.toOption =
      some yardRoot := by decide +kernel
  have hloaded := loaded_of_readable hdirectory fun file hfile =>
    have ⟨m, hm⟩ := Option.isSome_iff_exists.mp (hread file hfile)
    ⟨m, Outcome.toOption_eq_some_iff.mp hm⟩
  rcases hrun : exec (generate inPlace false) ⟨lot, [], []⟩ with ⟨fault | results, run'⟩
  · rw [hrun] at hstatus
    cases hstatus
  rw [hrun] at hstatus
  -- The run is a round over what was loaded, which writes among the sources.
  obtain ⟨root, tree, runA, first, runB, errors, hroot, hloaded', hreported, -, hfirst, rfl, hend⟩ :=
    exec_generate_ok hrun
  have hstore : runA.store = lot := hreported.store_eq
  have hlast := hend.store_eq
  rw [hroot] at hfound
  obtain rfl : root = yardRoot := Option.some.inj hfound
  obtain rfl := hloaded.unique hloaded'
  obtain ⟨⟨d, hd, hname⟩, hbuilders⟩ := hfacts
  have hwritten := rewritten_of_processRound (resolved_of_resolve hsound hproper hresolve)
    (hstore ▸ hsound) (hstore ▸ hproper) (fun d hd => (hbuilders d hd).1)
    (fun d hd b hb => rereadable_yardBuilder (by simpa [hb] using (hbuilders d hd).2)) hfirst
  rw [hstore, ← hlast] at hwritten
  obtain ⟨after, hafter, -⟩ := hwritten.exists_loaded hresolve hloaded
  obtain ⟨root, hsource, rfl⟩ := loaded_singleton_iff.mp hafter
  obtain rfl : yardRoot = root := Except.ok.inj hsource.resolve_eq
  have hchanged : GeneratedAt first.outcomes run'.store ["src", "CarBuilder.py"] := by
    obtain ⟨o, ho, heq⟩ := List.any_eq_true.mp (List.cons.inj (Option.some.inj hstatus)).1
    rw [Bool.and_eq_true, beq_iff_eq, beq_iff_eq] at heq
    exact ⟨o, ho, heq.1, _, heq.2, hwritten.evolves.placeOf_eq hplace⟩
  refine ⟨_, _, run', _, hloaded, rfl, hafter, fun hsame => ?_⟩
  rw [← hsame] at hd
  refine hwritten.name_ne_of_marked (fun file hfile hnamed => ?_) hd hname
  by_contra hkept
  rw [hfiles file ((hwritten.mem_sourceFiles_iff hkept).mp hfile) hnamed] at hkept
  exact hkept hchanged

end FluentBuilder.Processing
