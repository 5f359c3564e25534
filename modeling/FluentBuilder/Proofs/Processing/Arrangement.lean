import FluentBuilder.Proofs.Processing.Dependence
import FluentBuilder.Proofs.Processing.Reloading
import FluentBuilder.Proofs.Source.Rehinted
import Mathlib.Data.List.Perm.Basic

/-!
# The order of what is given

In which order a run is given what it works on makes no difference (`arrangement_irrelevant`). A tree is
the same for its modules in every order. Below roots the same tree is loaded, with the same faults in the
same order, however the file system lists its directories. And roots can be named in any order if no two
of them have modules of one name: then the trees are the same and the faults are the same up to order, so
that a whole run leaves the same files.

**The route.** The modules of a tree are sorted by their names, and the files below a root by their paths,
which tell them apart (`sourceFiles_eq`). A store that lists its nodes in another order shows the same
nodes at all places (`Relisted`). The modules below roots are found root by root, the last one first; where
no name is found below two roots, it does not matter which root comes last (`findSome?_eq_of_perm`).
-/

namespace FluentBuilder

/-! ### Orders -/

section orders

variable {α β : Type}

/-- **Sorting forgets the order**, where different items have different keys. -/
theorem sortedBy_eq_of_perm {key : α → String} {xs ys : List α} (h : ys.Perm xs)
    (hkeys : ∀ x ∈ xs, ∀ y ∈ xs, key x = key y → x = y) : sortedBy key ys = sortedBy key xs := by
  have hperm : (sortedBy key ys).Perm (sortedBy key xs) :=
    (perm_sortedBy ys).trans (h.trans (perm_sortedBy xs).symm)
  refine hperm.eq_of_pairwise (fun a b ha hb hab hba => ?_) (pairwise_sortedBy ys) (pairwise_sortedBy xs)
  exact hkeys a (h.mem_iff.mp (mem_sortedBy.mp ha)) b (mem_sortedBy.mp hb) (le_antisymm hab hba)

/-- What is found first is found in every order, if no two items give anything. -/
theorem findSome?_eq_of_perm {f : α → Option β} {xs ys : List α} (h : ys.Perm xs)
    (hone : xs.Pairwise fun x y => f x = none ∨ f y = none) : ys.findSome? f = xs.findSome? f := by
  induction h with
  | nil => rfl
  | cons x _ ih => rw [List.findSome?_cons, List.findSome?_cons, ih (List.pairwise_cons.mp hone).2]
  | swap x y rest =>
    simp only [List.findSome?_cons]
    rcases (List.pairwise_cons.mp hone).1 y List.mem_cons_self with hx | hy
    · rw [hx]
    · rw [hy]
  | trans _ hsecond ihfirst ihsecond =>
    rw [ihfirst (hsecond.symm.pairwise hone fun hxy => hxy.symm), ihsecond hone]

/-- What holds of any two items of a list holds of what is paired with them. -/
theorem pairwise_of_forall₂ {R : α → β → Prop} {P : α → α → Prop} {Q : β → β → Prop} {xs : List α}
    {ys : List β} (h : List.Forall₂ R xs ys) (hpairs : xs.Pairwise P)
    (hrelated : ∀ a b c d, R a c → R b d → P a b → Q c d) : ys.Pairwise Q := by
  induction h with
  | nil => exact .nil
  | @cons a c xs ys hac hrest ih =>
    obtain ⟨hfirst, hothers⟩ := List.pairwise_cons.mp hpairs
    refine List.pairwise_cons.mpr ⟨fun d hd => ?_, ih hothers⟩
    obtain ⟨b, hb, hbd⟩ := Outcome.exists_of_mem_right hrest hd
    exact hrelated a b c d hac hbd (hfirst b hb)

end orders

/-! ### Modules -/

namespace Source

/-- **A tree is the same for its modules in every order.** -/
theorem Tree.ofModules_of_perm {modules modules' : Table Module} (hnames : modules.names.Nodup)
    (h : modules'.Perm modules) : Tree.ofModules modules' = Tree.ofModules modules := by
  have hkeys : ∀ x ∈ modules, ∀ y ∈ modules, x.1 = y.1 → x = y :=
    fun x hx y hy => List.inj_on_of_nodup_map hnames hx hy
  rw [ofModules, ofModules, Table.sorted, Table.sorted, sortedBy_eq_of_perm h hkeys]

/-- So it is for texts in every order. -/
theorem Tree.ofTexts_of_perm {files : Path → Option (List UInt8)} {texts texts' : Table String}
    {packages : List String} {tree : Tree} (hnames : texts.names.Nodup) (h : texts'.Perm texts)
    (htree : Tree.ofTexts files texts packages = .ok tree) :
    Tree.ofTexts files texts' packages = .ok tree := by
  obtain ⟨modules, hmodules, heq⟩ := Outcome.bind_eq_ok_iff.mp htree
  obtain rfl := Except.ok.inj heq
  obtain ⟨modules', hmodules', hperm⟩ :=
    List.perm_comp_forall₂ h (Outcome.mapM_eq_ok_iff.mp hmodules)
  have hsame : Table.names modules = texts.names := by
    refine Outcome.map_eq_of_forall₂ (Outcome.mapM_eq_ok_iff.mp hmodules) fun entry module hmodule => ?_
    obtain ⟨m, -, heq⟩ := Outcome.bind_eq_ok_iff.mp hmodule
    rw [← Except.ok.inj heq]
  refine Outcome.bind_eq_ok_iff.mpr ⟨modules', Outcome.mapM_eq_ok_iff.mpr hmodules', ?_⟩
  exact congrArg Except.ok (ofModules_of_perm (hsame ▸ hnames) hperm)

end Source

/-! ### Files -/

namespace Store

/-- The same files and directories, listed in another order. -/
structure Relisted (s s' : Store) : Prop where
  /-- What is listed is the same but for its order. -/
  nodes : s'.nodes.Perm s.nodes
  /-- The current directory is the same. -/
  current_eq : s'.current = s.current
  /-- The home directory is the same. -/
  home_eq : s'.home = s.home

namespace Relisted

variable {s s' : Store}

/-- At every place stands the same. -/
theorem node?_eq (h : Relisted s s') (hsound : s.Sound) (place : Place) :
    s'.node? place = s.node? place := by
  by_cases hroot : place = []
  · rw [hroot, node?_nil, node?_nil]
  rcases hnode' : s'.node? place with _ | node
  · rcases hnode : s.node? place with _ | node
    · rfl
    -- What stands there in one store is listed in the other one.
    have hmem := h.nodes.mem_iff.mpr (mem_nodes_of_node? hroot hnode)
    rw [node?_of_ne_nil s' hroot, Option.map_eq_none_iff, List.find?_eq_none] at hnode'
    exact absurd (beq_self_eq_true place) (hnode' _ hmem)
  · exact (hsound.listed _ (h.nodes.mem_iff.mp (mem_nodes_of_node? hroot hnode'))).symm

/-- The same place is reached. -/
theorem walk_eq (h : Relisted s s') (hsound : s.Sound) (path : String) (start : Place)
    (names : List String) : s'.walk path start names = s.walk path start names := by
  induction names generalizing start with
  | nil => rfl
  | cons name rest ih => simp only [walk, ih, h.node?_eq hsound]

/-- The same is found at every path. -/
theorem status_eq (h : Relisted s s') (hsound : s.Sound) (p : Path) : s'.status p = s.status p := by
  have hplace : s'.placeOf p = s.placeOf p := by
    rw [placeOf, placeOf, origin, origin, h.current_eq, h.walk_eq hsound]
  rw [status, status, hplace]
  simp only [h.node?_eq hsound]

/-- The same paths are directories. -/
theorem isDirectory_eq (h : Relisted s s') (hsound : s.Sound) (p : Path) :
    s'.isDirectory p = s.isDirectory p := by
  rw [isDirectory, isDirectory, look, look, h.status_eq hsound]

/-- The files hold the same bytes. -/
theorem bytes_eq (h : Relisted s s') (hsound : s.Sound) (p : Path) : s'.bytes p = s.bytes p := by
  rw [bytes, bytes, h.status_eq hsound]

/-- A directory has the same children, in another order. -/
theorem children_perm (h : Relisted s s') (place : Place) :
    (s'.children place).Perm (s.children place) := h.nodes.filterMap _

end Relisted

end Store

namespace Processing

open Stateful Source Store

variable {s s' : Store} {root : Path}

/-- The files below a directory are found in another order. -/
theorem filesBelow_perm (h : Relisted s s') (fuel : Nat) (place below : Place) :
    (filesBelow s' fuel place below).Perm (filesBelow s fuel place below) := by
  induction fuel generalizing place below with
  | zero => exact .refl _
  | succ fuel ih =>
    rw [filesBelow, filesBelow]
    refine List.Perm.flatMap (h.children_perm place) fun child _ => ?_
    obtain ⟨name, bytes | _⟩ := child
    · exact .refl _
    · simp only
      split
      · exact .refl _
      · exact ih _ _

/-- Directories are inside each other to the same depth. -/
theorem storeDepth_eq (h : Relisted s s') : storeDepth s' = storeDepth s := by
  rw [storeDepth, storeDepth, (h.nodes.map fun entry => entry.1.length).foldl_eq]

/-- **The files of a root are read in the same order**, in whatever order they are found. -/
theorem sourceFiles_eq_of_perm (hsound : s.Sound) (hproper : s.Proper) {files : List Place}
    (h : files.Perm (filesBelow s (storeDepth s) root.parts [])) :
    sortedBy (fun (place : Place) => (Path.mk .relative place).render) files = sourceFiles s root := by
  refine sortedBy_eq_of_perm h fun file hfile file' hfile' heq => ?_
  have hsource : file ∈ sourceFiles s root := mem_sortedBy.mpr hfile
  have hsource' : file' ∈ sourceFiles s root := mem_sortedBy.mpr hfile'
  exact eq_of_render_eq_of_mem hsound hproper hsource hsource' heq

/-- So they are from a store that is listed in another order. -/
theorem sourceFiles_eq (h : Relisted s s') (hsound : s.Sound) (hproper : s.Proper) (root : Path) :
    sourceFiles s' root = sourceFiles s root := by
  refine sourceFiles_eq_of_perm hsound hproper ?_
  rw [storeDepth_eq h]
  exact filesBelow_perm h _ _ _

/-- The same modules are read. -/
theorem readModules_eq (h : Relisted s s') (hsound : s.Sound) (root : Path) (collect : Bool)
    (modules : Table Module) (faults : List SourceFault) (files : List Place) :
    readModules s' root collect modules faults files = readModules s root collect modules faults files := by
  have hread : ∀ name path isPackage, readModule s' name path isPackage = readModule s name path isPackage := by
    intro name path isPackage
    rw [readModule, readModule, h.bytes_eq hsound]
  induction files generalizing modules faults with
  | nil => rfl
  | cons file rest ih => simp only [readModules, hread, ih]

/-- **Below roots the same is read**, the faults among it, and in the same order. -/
theorem readRoots_eq (h : Relisted s s') (hsound : s.Sound) (hproper : s.Proper) (collect : Bool)
    (modules : Table Module) (faults : List SourceFault) (sources : List Path) :
    readRoots s' collect modules faults sources = readRoots s collect modules faults sources := by
  induction sources generalizing modules faults with
  | nil => rfl
  | cons source rest ih =>
    simp only [readRoots, resolve_eq h.current_eq, h.isDirectory_eq hsound, sourceFiles_eq h hsound hproper,
      readModules_eq h hsound, ih]

/-! ### Roots -/

/-- No two of these roots have modules of one name below them. -/
def Separate (s : Store) (sources : List Path) : Prop :=
  sources.Pairwise fun source source' => ∀ root root', s.resolve source = .ok root →
    s.resolve source' = .ok root' → (modulesAt s root).names.Disjoint (modulesAt s root').names

/-- Directories whose modules have different names make the same tree in every order. -/
theorem ofModules_of_roots_perm {roots roots' : List Path} (h : roots'.Perm roots)
    (hseparate : roots.Pairwise fun root root' =>
      (modulesAt s root).names.Disjoint (modulesAt s root').names) :
    Tree.ofModules (Table.ofEntries
        (roots'.flatMap fun root => (sourceFiles s root).filterMap (moduleAt s root))) =
      Tree.ofModules (Table.ofEntries
        (roots.flatMap fun root => (sourceFiles s root).filterMap (moduleAt s root))) := by
  rw [Tree.ofModules, Tree.ofModules, Table.sorted_eq_of_find?_eq (Table.nodup_names_ofEntries _)
    (Table.nodup_names_ofEntries _)]
  intro name
  rw [Table.find?_ofEntries_flatMap, Table.find?_ofEntries_flatMap, ← List.map_reverse, ← List.map_reverse,
    List.findSome?_map, List.findSome?_map]
  have hone : roots.Pairwise fun root root' =>
      (modulesAt s root).find? name = none ∨ (modulesAt s root').find? name = none := by
    refine hseparate.imp fun {root root'} hnames => ?_
    by_contra hboth
    simp only [not_or, ← Option.isSome_iff_ne_none, Table.isSome_find?_iff] at hboth
    exact hnames hboth.1 hboth.2
  exact (findSome?_eq_of_perm ((List.reverse_perm _).trans h) hone).trans
    (findSome?_eq_of_perm (List.reverse_perm _) hone).symm

/-- Roots that are read in another order give the modules of the same tree, and the same faults but for
their order. -/
theorem readRoots_of_perm {sources sources' : List Path} {modules : Table Module}
    {faults : List SourceFault} (hseparate : Separate s sources) (h : sources'.Perm sources)
    (hread : readRoots s true [] [] sources = .ok (modules, faults)) :
    ∃ modules' faults', readRoots s true [] [] sources' = .ok (modules', faults') ∧
      Tree.ofModules modules' = Tree.ofModules modules ∧ faults'.Perm faults := by
  obtain ⟨roots, hroots, rfl, rfl⟩ := readRoots_eq_ok_iff.mp hread
  obtain ⟨roots', hroots', hperm⟩ := List.perm_comp_forall₂ h hroots
  refine ⟨_, _, readRoots_of_sourceRoots hroots', ofModules_of_roots_perm hperm ?_, hperm.flatMap_right _⟩
  exact pairwise_of_forall₂ hroots hseparate fun _ _ _ _ hroot hroot' hnames =>
    hnames _ _ hroot.resolve_eq hroot'.resolve_eq

/-- The modules below roots are read one root after the other. -/
theorem readRoots_cons_eq_ok_iff {collect : Bool} {modules : Table Module} {faults : List SourceFault}
    {source : Path} {sources : List Path} {result : Table Module × List SourceFault} :
    readRoots s collect modules faults (source :: sources) = .ok result ↔
      ∃ root modules' faults', s.resolve source = .ok root ∧ s.isDirectory root = .ok true ∧
        readModules s root collect modules faults (sourceFiles s root) = .ok (modules', faults') ∧
        readRoots s collect modules' faults' sources = .ok result := by
  rw [readRoots]
  constructor
  · intro h
    obtain ⟨root, hroot, h⟩ := Outcome.bind_eq_ok_iff.mp h
    obtain ⟨found, hfound, h⟩ := Outcome.bind_eq_ok_iff.mp h
    cases found with
    | false => cases h
    | true =>
      obtain ⟨⟨modules', faults'⟩, hmodules, h⟩ := Outcome.bind_eq_ok_iff.mp h
      exact ⟨root, modules', faults', Outcome.mapError_eq_ok_iff.mp hroot,
        Outcome.mapError_eq_ok_iff.mp hfound, hmodules, h⟩
  · rintro ⟨root, modules', faults', hroot, hfound, hmodules, h⟩
    refine Outcome.bind_eq_ok_iff.mpr ⟨root, Outcome.mapError_eq_ok_iff.mpr hroot, ?_⟩
    refine Outcome.bind_eq_ok_iff.mpr ⟨true, Outcome.mapError_eq_ok_iff.mpr hfound, ?_⟩
    exact Outcome.bind_eq_ok_iff.mpr ⟨(modules', faults'), hmodules, h⟩

/-- Faults are added behind those that there were. -/
theorem faults_kept {modules modules' : Table Module} {faults faults' : List SourceFault}
    {files : List Place} (h : readModules s root true modules faults files = .ok (modules', faults')) :
    faults <+: faults' := by
  obtain ⟨-, -, rfl⟩ := readModules_eq_ok_iff.mp h
  exact List.prefix_append _ _

/-- Where faults end the reading, the same modules are read as where they are collected and there are none. -/
theorem readModules_strict_iff {modules modules' : Table Module} {faults faults' : List SourceFault}
    {files : List Place} :
    readModules s root false modules faults files = .ok (modules', faults') ↔
      readModules s root true modules faults files = .ok (modules', faults') ∧ faults' = faults := by
  induction files generalizing modules faults with
  | nil =>
    rw [readModules, readModules]
    constructor
    · intro h
      exact ⟨h, (Prod.mk.inj (Except.ok.inj h)).2.symm⟩
    · exact And.left
  | cons file rest ih =>
    rw [readModules, readModules]
    simp only
    split
    · exact ih
    · split
      · exact ih
      · next fault _ =>
        simp only [Bool.false_eq_true, if_false, if_true, reduceCtorEq, false_iff, not_and]
        rintro h rfl
        -- A fault that is collected remains.
        have hlength := (faults_kept h).length_le
        simp at hlength
      · simp

/-- So it is below several roots. -/
theorem readRoots_strict_iff {modules modules' : Table Module} {faults faults' : List SourceFault}
    {sources : List Path} :
    readRoots s false modules faults sources = .ok (modules', faults') ↔
      readRoots s true modules faults sources = .ok (modules', faults') ∧ faults' = faults := by
  induction sources generalizing modules faults with
  | nil =>
    rw [readRoots, readRoots]
    constructor
    · intro h
      exact ⟨h, (Prod.mk.inj (Except.ok.inj h)).2.symm⟩
    · exact And.left
  | cons source rest ih =>
    rw [readRoots_cons_eq_ok_iff, readRoots_cons_eq_ok_iff]
    constructor
    · rintro ⟨root, modules₁, faults₁, hroot, hfound, hmodules, h⟩
      obtain ⟨hmodules, rfl⟩ := readModules_strict_iff.mp hmodules
      obtain ⟨h, rfl⟩ := ih.mp h
      exact ⟨⟨root, modules₁, _, hroot, hfound, hmodules, h⟩, rfl⟩
    · rintro ⟨⟨root, modules₁, faults₁, hroot, hfound, hmodules, h⟩, rfl⟩
      -- No faults are collected on the way either.
      obtain ⟨roots, -, -, hfaults⟩ := readRoots_eq_ok_iff.mp h
      have hsame : faults₁ = faults' :=
        ((faults_kept hmodules).eq_of_length_le (hfaults ▸ (List.prefix_append _ _).length_le)).symm
      subst hsame
      exact ⟨root, modules₁, faults₁, hroot, hfound, readModules_strict_iff.mpr ⟨hmodules, rfl⟩,
        ih.mpr ⟨h, rfl⟩⟩

/-- What comes of loading a source tree. -/
theorem exec_loadTree_fst (sources : List Path) (collect : Bool) (run : Run) :
    (exec (loadTree sources collect) run).1 =
      (readRoots run.store collect [] [] sources).map fun loaded =>
        (Tree.ofModules loaded.1, loaded.2) := by
  rw [loadTree, exec_bind_of_ok (exec_get run), exec_bind, Running.exec_ofExcept]
  rcases readRoots run.store collect [] [] sources with fault | ⟨modules, faults⟩
  · rfl
  · rfl

/-- **In whatever order roots are named**, the same tree is loaded, with the same faults up to order. -/
theorem loadTree_of_perm {sources sources' : List Path} {collect : Bool} {run : Run} {tree : Tree}
    {faults : List SourceFault} (hseparate : Separate run.store sources) (h : sources'.Perm sources)
    (hload : (exec (loadTree sources collect) run).1 = .ok (tree, faults)) :
    ∃ faults', (exec (loadTree sources' collect) run).1 = .ok (tree, faults') ∧ faults'.Perm faults := by
  simp only [exec_loadTree_fst] at hload ⊢
  rcases hread : readRoots run.store collect [] [] sources with fault | ⟨modules, found⟩
  · rw [hread] at hload
    cases hload
  rw [hread] at hload
  obtain ⟨rfl, rfl⟩ := Prod.mk.inj (Except.ok.inj hload)
  cases collect with
  | true =>
    obtain ⟨modules', faults', hread', htree, hfaults⟩ := readRoots_of_perm hseparate h hread
    exact ⟨faults', by rw [hread', ← htree]; rfl, hfaults⟩
  | false =>
    obtain ⟨hread, rfl⟩ := readRoots_strict_iff.mp hread
    obtain ⟨modules', faults', hread', htree, hfaults⟩ := readRoots_of_perm hseparate h hread
    obtain rfl := hfaults.eq_nil
    exact ⟨[], by rw [readRoots_strict_iff.mpr ⟨hread', rfl⟩, ← htree]; rfl, .nil⟩

/-- Roots with modules of different names are such roots in every order. -/
theorem Separate.of_perm {sources sources' : List Path} (hseparate : Separate s sources)
    (h : sources'.Perm sources) : Separate s sources' :=
  h.symm.pairwise hseparate fun hnames root root' hroot hroot' =>
    (hnames root' root hroot' hroot).symm

/-- The same trees are loaded below roots in every order. -/
theorem loaded_iff_of_perm {sources sources' : List Path} {tree : Tree} (hseparate : Separate s sources)
    (h : sources'.Perm sources) : Loaded s sources' tree ↔ Loaded s sources tree := by
  constructor
  · rintro ⟨modules, faults, hread, rfl⟩
    obtain ⟨modules', faults', hread', htree, -⟩ :=
      readRoots_of_perm (hseparate.of_perm h) h.symm hread
    exact ⟨modules', faults', hread', htree.symm⟩
  · rintro ⟨modules, faults, hread, rfl⟩
    obtain ⟨modules', faults', hread', htree, -⟩ := readRoots_of_perm hseparate h hread
    exact ⟨modules', faults', hread', htree.symm⟩

/-- **A whole run leaves the same files and has the same outcomes**, in whatever order its roots are named. -/
theorem generate_of_perm {config : Config} {sources : List Path} {check : Bool} {run : Run}
    (hseparate : Separate run.store config.sourceRoots) (h : sources.Perm config.sourceRoots) :
    (exec (generate { config with sourceRoots := sources } check) run).2.store =
        (exec (generate config check) run).2.store ∧
      ∀ results, (exec (generate { config with sourceRoots := sources } check) run).1 = .ok results ↔
        (exec (generate config check) run).1 = .ok results := by
  rcases exec_generate_cases config check run with
    ⟨fault, after, hfails, hstore, hnone⟩ | ⟨root, tree, runA, errors, hroot, htree, hreported, -, hrounds⟩
  · rcases exec_generate_cases { config with sourceRoots := sources } check run with
      ⟨fault', after', hfails', hstore', -⟩ | ⟨root', tree', -, -, hroot', htree', -⟩
    · rw [hfails, hfails', hstore, hstore']
      exact ⟨rfl, by simp⟩
    · exact absurd ⟨root', tree', hroot', (loaded_iff_of_perm hseparate h).mp htree'⟩ hnone
  · rcases exec_generate_cases { config with sourceRoots := sources } check run with
      ⟨-, -, -, -, hnone'⟩ |
      ⟨root', tree', runA', errors', hroot', htree', hreported', -, hrounds'⟩
    · exact absurd ⟨root, tree, hroot, (loaded_iff_of_perm hseparate h).mpr htree⟩ hnone'
    · -- Both are rounds over one tree, with the same files.
      obtain rfl := Except.ok.inj (Prod.mk.inj (hroot.symm.trans hroot')).1
      obtain rfl := ((loaded_iff_of_perm hseparate h).mp htree').unique htree
      have hstores : runA'.store = runA.store := hreported'.store_eq.trans hreported.store_eq.symm
      obtain ⟨hresult, hfiles⟩ := DependsOnFiles.roundsOver ⟨root, check⟩ tree' runA runA' hstores
      rw [hrounds, hrounds', hresult]
      exact ⟨hfiles, fun _ => Iff.rfl⟩

/-! ### All orders -/

/-- **The order of what is given makes no difference.** Modules with different names make one tree in
every order, and so do their texts. However the files are listed, loading below roots gives the same, the
faults and their order included. Where no two roots have modules of one name, every order of the roots
gives the same tree and the same faults up to order; a whole run leaves the same files and has the same
outcomes. -/
theorem arrangement_irrelevant :
    (∀ modules modules' : Table Module, modules.names.Nodup → modules'.Perm modules →
      Tree.ofModules modules' = Tree.ofModules modules) ∧
    (∀ (files : Path → Option (List UInt8)) (texts texts' : Table String) (packages : List String),
      texts.names.Nodup → texts'.Perm texts → ∀ tree,
        Tree.ofTexts files texts' packages = .ok tree ↔ Tree.ofTexts files texts packages = .ok tree) ∧
    (∀ (run run' : Run) (sources : List Path) (collect : Bool), run.store.Sound → run.store.Proper →
      Relisted run.store run'.store →
        (exec (loadTree sources collect) run').1 = (exec (loadTree sources collect) run).1) ∧
    (∀ (run : Run) (config : Config) (sources : List Path), Separate run.store config.sourceRoots →
      sources.Perm config.sourceRoots →
        (∀ collect tree faults, (exec (loadTree config.sourceRoots collect) run).1 = .ok (tree, faults) →
          ∃ faults', (exec (loadTree sources collect) run).1 = .ok (tree, faults') ∧ faults'.Perm faults) ∧
        ∀ check, (exec (generate { config with sourceRoots := sources } check) run).2.store =
            (exec (generate config check) run).2.store ∧
          ∀ results, (exec (generate { config with sourceRoots := sources } check) run).1 = .ok results ↔
            (exec (generate config check) run).1 = .ok results) := by
  refine ⟨fun _ _ => Tree.ofModules_of_perm, fun files texts texts' packages hnames h tree => ?_,
    fun run run' sources collect hsound hproper h => ?_, fun run config sources hseparate h =>
      ⟨fun _ _ _ => loadTree_of_perm hseparate h, fun _ => generate_of_perm hseparate h⟩⟩
  · have hnames' : texts'.names.Nodup := (h.map Prod.fst).nodup_iff.mpr hnames
    exact ⟨Tree.ofTexts_of_perm hnames' h.symm, Tree.ofTexts_of_perm hnames h⟩
  · rw [exec_loadTree_fst, exec_loadTree_fst, readRoots_eq h hsound hproper]

/-- Two directories with modules: in one of them two files of one module, in the other one a class that is
marked and a file that cannot be read. -/
def warehouse : Run :=
  ⟨⟨[(["one"], .directory), (["one", "a.py"], .file []), (["one", "a"], .directory),
    (["one", "a", "__init__.py"], .file (Utf8.encode "x = 1\n")), (["two"], .directory),
    (["two", "b.py"], .file (Utf8.encode
      "from buildergen import builder\n@builder\nclass Box:\n    pass\n")),
    (["two", "c.py"], .file (Utf8.encode "("))], [], "/root"⟩, [], []⟩

/-- The same directories and files, listed the other way round. -/
def warehouseBack : Run :=
  { warehouse with store := { warehouse.store with nodes := warehouse.store.nodes.reverse } }

/-- The two directories are the roots, and builders are written beside them. -/
def warehouseConfig : Config := ⟨[⟨.relative, ["one"]⟩, ⟨.relative, ["two"]⟩], some ⟨.relative, ["out"]⟩, []⟩

/-- Nothing about them depends on the order. -/
theorem arrangement_of_warehouse :
    (∃ tree, Tree.ofTexts (fun _ => none) [("b", "x = 1\n"), ("a", "y = 2\n")] [] = .ok tree ∧
      Tree.ofTexts (fun _ => none) [("a", "y = 2\n"), ("b", "x = 1\n")] [] = .ok tree ∧
      Tree.ofModules tree.modules.reverse = Tree.ofModules tree.modules) ∧
    ∃ tree fault results, (exec (loadTree warehouseConfig.sourceRoots true) warehouse).1 = .ok (tree, [fault]) ∧
      (exec (loadTree warehouseConfig.sourceRoots true) warehouseBack).1 = .ok (tree, [fault]) ∧
      (exec (loadTree warehouseConfig.sourceRoots.reverse true) warehouse).1 = .ok (tree, [fault]) ∧
      (exec (generate warehouseConfig false) warehouse).1 = .ok results ∧
      (exec (generate { warehouseConfig with sourceRoots := warehouseConfig.sourceRoots.reverse } false)
        warehouse).1 = .ok results ∧
      (exec (generate { warehouseConfig with sourceRoots := warehouseConfig.sourceRoots.reverse } false)
        warehouse).2.store = (exec (generate warehouseConfig false) warehouse).2.store := by
  obtain ⟨hmodules, htexts, hlisted, hroots⟩ := arrangement_irrelevant
  constructor
  · have hread : (Tree.ofTexts (fun _ => none) [("a", "y = 2\n"), ("b", "x = 1\n")] []).toOption.any
        (fun tree => tree.modules.names == ["a", "b"]) = true := by decide +kernel
    rcases htree : Tree.ofTexts (fun _ => none) [("a", "y = 2\n"), ("b", "x = 1\n")] [] with fault | tree
    · rw [htree] at hread
      cases hread
    rw [htree] at hread
    have hnames : tree.modules.names = ["a", "b"] := eq_of_beq hread
    exact ⟨tree, (htexts _ _ _ _ (by decide) (.swap _ _ _) tree).mpr htree, rfl,
      hmodules _ _ (hnames ▸ by decide) (List.reverse_perm _)⟩
  · have hnodes : ∀ entry ∈ warehouse.store.nodes, warehouse.store.node? entry.1 = some entry.2 := by
      decide
    have hsound : warehouse.store.Sound := ⟨Store.rooted_of_nodes (by decide), hnodes, rfl⟩
    have hproper : warehouse.store.Proper := by
      unfold Store.Proper
      decide
    have hnames : (modulesAt warehouse.store ⟨.absolute, ["one"]⟩).names = ["a"] ∧
        (modulesAt warehouse.store ⟨.absolute, ["two"]⟩).names = ["b"] := by decide +kernel
    have hseparate : Separate warehouse.store warehouseConfig.sourceRoots := by
      refine List.pairwise_pair.mpr fun root root' hroot hroot' => ?_
      obtain rfl : ⟨.absolute, ["one"]⟩ = root := Except.ok.inj hroot
      obtain rfl : ⟨.absolute, ["two"]⟩ = root' := Except.ok.inj hroot'
      rw [hnames.1, hnames.2]
      simp
    have hload : (exec (loadTree warehouseConfig.sourceRoots true) warehouse).1.toOption.any
        (fun loaded => loaded.2.length == 1) = true := by decide +kernel
    have hgenerate : (exec (generate warehouseConfig false) warehouse).1.toOption.isSome = true := by
      decide +kernel
    obtain ⟨⟨tree, faults⟩, hsome, hlength⟩ := (Option.any_eq_true _ _).mp hload
    obtain ⟨results, hsome'⟩ := Option.isSome_iff_exists.mp hgenerate
    have hloaded := Outcome.toOption_eq_some_iff.mp hsome
    have hresults := Outcome.toOption_eq_some_iff.mp hsome'
    obtain ⟨fault, rfl⟩ := List.length_eq_one_iff.mp (eq_of_beq hlength)
    obtain ⟨hagain, hwhole⟩ := hroots warehouse warehouseConfig warehouseConfig.sourceRoots.reverse hseparate
      (List.reverse_perm _)
    obtain ⟨faults', hloaded', hfaults⟩ := hagain true tree [fault] hloaded
    rw [List.perm_singleton.mp hfaults] at hloaded'
    have hback := hlisted warehouse warehouseBack warehouseConfig.sourceRoots true hsound hproper
      ⟨List.reverse_perm _, rfl, rfl⟩
    obtain ⟨hfiles, hsame⟩ := hwhole false
    exact ⟨tree, fault, results, hloaded, hback.trans hloaded, hloaded', hresults,
      (hsame results).mpr hresults, by rw [hfiles]⟩

end Processing
end FluentBuilder
