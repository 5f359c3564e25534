import FluentBuilder.Processing.Loading
import FluentBuilder.Proofs.Processing.Running
import FluentBuilder.Proofs.Source.Marked
import FluentBuilder.Proofs.Store.Sound

/-!
# What is loaded from a root

The files that are loaded from a root are those to which names lead that are not skipped
(`mem_sourceFiles_iff`), and they are read in the order of their paths, so that of several with one
module name the last one is the module (`readModules_eq_ok_iff`). Several roots are read one after the
other (`readRoots_eq_ok_iff`).
-/

namespace FluentBuilder

open Stateful Store

namespace Store

variable {s : Store} {place : Place}

/-- The children of a directory are what stands directly below it. -/
theorem mem_children_iff (h : s.Sound) {name : String} {node : Node} :
    (name, node) ∈ s.children place ↔ s.node? (place ++ [name]) = some node := by
  rw [children, List.mem_filterMap]
  constructor
  · rintro ⟨⟨other, node'⟩, hmem, hchild⟩
    simp only [Option.ite_none_right_eq_some, Bool.and_eq_true, decide_eq_true_eq, beq_iff_eq,
      Option.some.injEq, Prod.mk.injEq] at hchild
    obtain ⟨⟨hlength, hparent⟩, hname, rfl⟩ := hchild
    have hne : other ≠ [] := by
      rintro rfl
      cases hlength
    have hother : other = place ++ [name] := by
      rw [← hparent, ← hname, List.getLastD_eq_getLast?, List.getLast?_eq_some_getLast hne, Option.getD_some,
        List.dropLast_concat_getLast hne]
    rw [← hother]
    exact h.listed _ hmem
  · intro hnode
    refine ⟨(place ++ [name], node), mem_nodes_of_node? (by simp) hnode, ?_⟩
    simp

/-- The length of a place that is listed is at most the number of directories that can be inside each
other. -/
theorem length_lt_storeDepth {entry : Place × Node} (h : entry ∈ s.nodes) :
    entry.1.length < Processing.storeDepth s := by
  have hfold : ∀ (ns : List Nat) (m n : Nat), n ≤ m ∨ n ∈ ns → n ≤ ns.foldl max m := by
    intro ns
    induction ns with
    | nil => intro m n hn; simpa using hn
    | cons k ns ih =>
      intro m n hn
      refine ih (max m k) n ?_
      rcases hn with hn | hn
      · exact .inl (hn.trans (le_max_left m k))
      · rcases List.mem_cons.mp hn with rfl | hn
        · exact .inl (le_max_right m n)
        · exact .inr hn
  exact Nat.lt_succ_of_le (hfold _ 0 _ (.inr (List.mem_map_of_mem h)))

end Store

namespace Processing

open Source

variable {s s' : Store} {root : Path} {place below file : Place}

/-! ### The files of a root -/

/-- These names lead to the file of a module: through directories that are not skipped. -/
def LeadsToModule : Place → Prop
  | [] => False
  | [name] => isModuleFile name = true
  | name :: next :: rest => isSkippedDirectory name = false ∧ LeadsToModule (next :: rest)

/-- The files below a directory are those to which names lead from there on. -/
theorem mem_filesBelow_iff (h : s.Sound) {fuel : Nat} :
    file ∈ filesBelow s fuel place below ↔ ∃ names, file = below ++ names ∧ names.length ≤ fuel ∧
      LeadsToModule names ∧ ∃ bytes, s.fileAt (place ++ names) = some bytes := by
  induction fuel generalizing place below with
  | zero =>
    rw [filesBelow]
    constructor
    · exact fun hmem => absurd hmem List.not_mem_nil
    · rintro ⟨names, -, hlength, hleads, -⟩
      rw [List.eq_nil_of_length_eq_zero (Nat.le_zero.mp hlength)] at hleads
      exact hleads.elim
  | succ fuel ih =>
    rw [filesBelow, List.mem_flatMap]
    constructor
    · rintro ⟨⟨name, node⟩, hchild, hmem⟩
      rw [mem_children_iff h] at hchild
      cases node with
      | directory =>
        simp only at hmem
        split at hmem
        · cases hmem
        · next hvisible =>
          obtain ⟨names, rfl, hlength, hleads, hfile⟩ := ih.mp hmem
          rw [List.append_assoc, List.singleton_append] at hfile
          refine ⟨name :: names, by simp, by simpa using hlength, ?_, hfile⟩
          cases names with
          | nil => exact hleads.elim
          | cons next rest => exact ⟨by simpa using hvisible, hleads⟩
      | file bytes =>
        simp only at hmem
        split at hmem
        · next hmodule =>
          exact ⟨[name], List.mem_singleton.mp hmem, by simp, hmodule, bytes,
            fileAt_eq_some_iff.mpr hchild⟩
        · cases hmem
    · rintro ⟨names, rfl, hlength, hleads, bytes, hfile⟩
      rw [fileAt_eq_some_iff] at hfile
      match names, hleads with
      | [name], hmodule =>
        refine ⟨(name, .file bytes), (mem_children_iff h).mpr hfile, ?_⟩
        simp only
        rw [if_pos (show isModuleFile name = true from hmodule)]
        exact List.mem_singleton_self _
      | name :: next :: rest, ⟨hvisible, hleads⟩ =>
        have hassoc : place ++ name :: next :: rest = place ++ [name] ++ (next :: rest) := by simp
        rw [hassoc] at hfile
        have hdirectory : s.node? (place ++ [name]) = some .directory :=
          h.rooted.directory (List.cons_ne_nil next rest) (by rw [hfile]; simp)
        refine ⟨(name, .directory), (mem_children_iff h).mpr hdirectory, ?_⟩
        simp only
        rw [hvisible]
        exact ih.mpr ⟨next :: rest, by simp, by simpa using hlength, hleads, bytes,
          fileAt_eq_some_iff.mpr hfile⟩

/-- **The files of a root** are the files of modules that stand below it. -/
theorem mem_sourceFiles_iff (h : s.Sound) :
    file ∈ sourceFiles s root ↔
      LeadsToModule file ∧ ∃ bytes, s.fileAt (root.parts ++ file) = some bytes := by
  rw [sourceFiles, mem_sortedBy, mem_filesBelow_iff h]
  constructor
  · rintro ⟨names, rfl, -, hfile⟩
    exact hfile
  · rintro ⟨hleads, bytes, hfile⟩
    refine ⟨file, rfl, ?_, hleads, bytes, hfile⟩
    have hne : root.parts ++ file ≠ [] := by
      cases file with
      | nil => exact hleads.elim
      | cons name rest => simp
    have hlisted := length_lt_storeDepth
      (mem_nodes_of_node? hne (fileAt_eq_some_iff.mp hfile))
    rw [List.length_append] at hlisted
    omega

/-! ### Reading them -/

/-- The name of the module in a file below a root. -/
def moduleNameAt (file : Place) : String := (moduleNameOf ⟨.relative, file⟩).1

/-- Reads the module in a file below a root. -/
def readModuleAt (s : Store) (root : Path) (file : Place) : Except RunFault Module :=
  readModule s (moduleNameAt file) ⟨root.root, root.parts ++ file⟩ (moduleNameOf ⟨.relative, file⟩).2

/-- The module in a file below a root, under its name. There is none in a file that names no module, or
that cannot be read. -/
def moduleAt (s : Store) (root : Path) (file : Place) : Option (String × Module) :=
  if (moduleNameAt file).isEmpty then none
  else (readModuleAt s root file).toOption.map (moduleNameAt file, ·)

/-- What is wrong with the source in a file below a root, if it cannot be read. -/
def faultAt (s : Store) (root : Path) (file : Place) : Option SourceFault :=
  if (moduleNameAt file).isEmpty then none
  else match readModuleAt s root file with
    | .error (.read (.source fault)) => some fault
    | _ => none

/-- Nothing is wrong with a file below a root, unless it is a source that cannot be read. -/
def Tolerable (s : Store) (root : Path) (file : Place) : Prop :=
  moduleNameAt file ≠ "" → ∀ fault, readModuleAt s root file = .error fault →
    ∃ reason, fault = .read (.source reason)

/-- One file after another: a module is put into the table, a fault of a source is collected, and any other
fault ends the reading. -/
theorem readModules_cons (s : Store) (root : Path) (file : Place) (modules : Table Module)
    (faults : List SourceFault) (rest : List Place) :
    (Tolerable s root file ∧ readModules s root true modules faults (file :: rest) =
      readModules s root true ((moduleAt s root file).elim modules fun entry =>
        modules.put entry.1 entry.2) (faults ++ (faultAt s root file).toList) rest) ∨
    ¬ Tolerable s root file ∧ ∃ fault, readModuleAt s root file = .error fault ∧
      readModules s root true modules faults (file :: rest) = .error fault := by
  rw [readModules, moduleAt, faultAt, Tolerable, readModuleAt, moduleNameAt]
  rcases moduleNameOf ⟨.relative, file⟩ with ⟨name, isPackage⟩
  simp only
  by_cases hname : name.isEmpty = true
  · rw [if_pos hname, if_pos hname, if_pos hname]
    exact .inl ⟨fun hne => absurd (String.isEmpty_iff.mp hname) hne, by simp⟩
  have hne : name ≠ "" := fun h => hname (String.isEmpty_iff.mpr h)
  rw [if_neg hname, if_neg hname, if_neg hname]
  rcases hread : readModule s name ⟨root.root, root.parts ++ file⟩ isPackage with fault | m
  · by_cases hsource : ∃ reason, fault = .read (.source reason)
    · obtain ⟨reason, rfl⟩ := hsource
      exact .inl ⟨fun _ _ h => ⟨reason, (Except.error.inj h).symm⟩, rfl⟩
    · refine .inr ⟨fun h => hsource (h hne fault rfl), fault, rfl, ?_⟩
      split
      · next h => cases h
      · next h => exact absurd ⟨_, Except.error.inj h⟩ hsource
      · next h => rw [Except.error.inj h]
  · refine .inl ⟨fun _ _ h => ?_, by simp [Except.toOption]⟩
    cases h

/-- **The modules in files are those that can be read**, put into a table one after the other, and there is
a fault for each of the others. All this is found iff nothing else is wrong with a file than that it
cannot be read. -/
theorem readModules_eq_ok_iff {modules modules' : Table Module} {faults faults' : List SourceFault}
    {files : List Place} :
    readModules s root true modules faults files = .ok (modules', faults') ↔
      (∀ file ∈ files, Tolerable s root file) ∧
        modules' = (files.filterMap (moduleAt s root)).foldl
          (fun table entry => table.put entry.1 entry.2) modules ∧
        faults' = faults ++ files.filterMap (faultAt s root) := by
  induction files generalizing modules faults with
  | nil =>
    rw [readModules]
    simp [eq_comm]
  | cons file rest ih =>
    rw [List.forall_mem_cons]
    rcases readModules_cons s root file modules faults rest with
      ⟨htolerable, hcons⟩ | ⟨hnot, fault, -, hcons⟩
    · rw [hcons, ih, and_iff_right htolerable]
      have hmodules : ((file :: rest).filterMap (moduleAt s root)).foldl
          (fun table entry => table.put entry.1 entry.2) modules =
          (rest.filterMap (moduleAt s root)).foldl (fun table entry => table.put entry.1 entry.2)
            ((moduleAt s root file).elim modules fun entry => modules.put entry.1 entry.2) := by
        cases hmodule : moduleAt s root file with
        | none => rw [List.filterMap_cons_none hmodule]; rfl
        | some entry => rw [List.filterMap_cons_some hmodule, List.foldl_cons]; rfl
      have hfaults : faults ++ (file :: rest).filterMap (faultAt s root) =
          faults ++ (faultAt s root file).toList ++ rest.filterMap (faultAt s root) := by
        cases hfault : faultAt s root file with
        | none => rw [List.filterMap_cons_none hfault]; simp
        | some reason => rw [List.filterMap_cons_some hfault]; simp
      rw [hmodules, hfaults]
    · rw [hcons]
      constructor
      · intro h
        cases h
      · rintro ⟨⟨htolerable, -⟩, -⟩
        exact absurd htolerable hnot

/-- The fault that ends the reading of files is that of one of them, and it is none of a source. -/
theorem exists_of_readModules_eq_error {modules : Table Module} {faults : List SourceFault}
    {files : List Place} {fault : RunFault}
    (h : readModules s root true modules faults files = .error fault) :
    ∃ file ∈ files, ¬ Tolerable s root file ∧ readModuleAt s root file = .error fault := by
  induction files generalizing modules faults with
  | nil => cases h
  | cons file rest ih =>
    rcases readModules_cons s root file modules faults rest with ⟨-, hcons⟩ | ⟨hnot, fault', hread, hcons⟩
    · rw [hcons] at h
      obtain ⟨other, hother, hfault⟩ := ih h
      exact ⟨other, List.mem_cons_of_mem file hother, hfault⟩
    · obtain rfl := Except.error.inj (hcons.symm.trans h)
      exact ⟨file, List.mem_cons_self, hnot, hread⟩

/-! ### Trees -/

/-- The modules below a root, under their names. -/
def modulesAt (s : Store) (root : Path) : Table Module :=
  Table.ofEntries ((sourceFiles s root).filterMap (moduleAt s root))

/-- Below roots the same tree is loaded from two stores, if below each of them the same modules are found. -/
theorem ofModules_eq_of_find?_eq {roots : List Path}
    (h : ∀ root ∈ roots, ∀ name, (modulesAt s root).find? name = (modulesAt s' root).find? name) :
    Tree.ofModules (Table.ofEntries
        (roots.flatMap fun root => (sourceFiles s root).filterMap (moduleAt s root))) =
      Tree.ofModules (Table.ofEntries
        (roots.flatMap fun root => (sourceFiles s' root).filterMap (moduleAt s' root))) := by
  rw [Tree.ofModules, Tree.ofModules, Table.sorted_eq_of_find?_eq (Table.nodup_names_ofEntries _)
    (Table.nodup_names_ofEntries _)]
  intro name
  rw [Table.find?_ofEntries_flatMap, Table.find?_ofEntries_flatMap]
  exact congrArg (fun found => found.reverse.findSome? id)
    (List.map_congr_left fun root hmem => h root hmem name)

/-- A source root is at a directory, and nothing else is wrong with the files below it than that some
cannot be read. -/
structure SourceRoot (s : Store) (source root : Path) : Prop where
  /-- Where it is. -/
  resolve_eq : s.resolve source = .ok root
  /-- It is a directory. -/
  isDirectory : s.isDirectory root = .ok true
  /-- Nothing else is wrong with its files. -/
  tolerable : ∀ file ∈ sourceFiles s root, Tolerable s root file

/-- **The modules below roots** are put into a table one root after the other. -/
theorem readRoots_eq_ok_iff {modules modules' : Table Module} {faults faults' : List SourceFault}
    {sources : List Path} :
    readRoots s true modules faults sources = .ok (modules', faults') ↔
      ∃ roots, List.Forall₂ (SourceRoot s) sources roots ∧
        modules' = (roots.flatMap fun root => (sourceFiles s root).filterMap (moduleAt s root)).foldl
          (fun table entry => table.put entry.1 entry.2) modules ∧
        faults' = faults ++ roots.flatMap fun root => (sourceFiles s root).filterMap (faultAt s root) := by
  induction sources generalizing modules faults with
  | nil =>
    rw [readRoots]
    constructor
    · intro h
      obtain ⟨rfl, rfl⟩ := Prod.mk.inj (Except.ok.inj h)
      exact ⟨[], .nil, rfl, by simp⟩
    · rintro ⟨roots, hroots, rfl, rfl⟩
      cases hroots
      simp
  | cons source rest ih =>
    rw [readRoots]
    constructor
    · intro h
      obtain ⟨root, hroot, h⟩ := Outcome.bind_eq_ok_iff.mp h
      obtain ⟨found, hfound, h⟩ := Outcome.bind_eq_ok_iff.mp h
      cases found with
      | false => cases h
      | true =>
        obtain ⟨⟨modules₁, faults₁⟩, hmodules, h⟩ := Outcome.bind_eq_ok_iff.mp h
        obtain ⟨htolerable, rfl, rfl⟩ := readModules_eq_ok_iff.mp hmodules
        obtain ⟨roots, hroots, rfl, rfl⟩ := ih.mp h
        refine ⟨root :: roots, .cons ⟨Outcome.mapError_eq_ok_iff.mp hroot,
          Outcome.mapError_eq_ok_iff.mp hfound, htolerable⟩ hroots, ?_, ?_⟩
        · rw [List.flatMap_cons, List.foldl_append]
        · rw [List.flatMap_cons, List.append_assoc]
    · rintro ⟨_, hfound, rfl, rfl⟩
      obtain ⟨root, roots, hroot, hroots, rfl⟩ := List.forall₂_cons_left_iff.mp hfound
      rw [hroot.resolve_eq, Outcome.mapError_ok]
      simp only [bind, Except.bind, hroot.isDirectory, Outcome.mapError_ok, Bool.not_true,
        Bool.false_eq_true, if_false]
      rw [readModules_eq_ok_iff.mpr ⟨hroot.tolerable, rfl, rfl⟩]
      simp only
      refine ih.mpr ⟨roots, hroots, ?_, ?_⟩
      · rw [List.flatMap_cons, List.foldl_append]
      · rw [List.flatMap_cons, List.append_assoc]

/-- The modules below roots that can be loaded, as a table of entries. -/
theorem readRoots_of_sourceRoots {sources roots : List Path} (h : List.Forall₂ (SourceRoot s) sources roots) :
    readRoots s true [] [] sources =
      .ok (Table.ofEntries (roots.flatMap fun root => (sourceFiles s root).filterMap (moduleAt s root)),
        roots.flatMap fun root => (sourceFiles s root).filterMap (faultAt s root)) :=
  readRoots_eq_ok_iff.mpr ⟨roots, h, rfl, rfl⟩

/-- The source tree below roots. -/
def Loaded (s : Store) (roots : List Path) (tree : Tree) : Prop :=
  ∃ modules faults, readRoots s true [] [] roots = .ok (modules, faults) ∧ tree = Tree.ofModules modules

/-- There is one source tree at most. -/
theorem Loaded.unique {roots : List Path} {tree tree' : Tree} (h : Loaded s roots tree)
    (h' : Loaded s roots tree') : tree = tree' := by
  obtain ⟨modules, faults, hread, rfl⟩ := h
  obtain ⟨modules', faults', hread', rfl⟩ := h'
  obtain ⟨rfl, -⟩ := Prod.mk.inj (Except.ok.inj (hread.symm.trans hread'))
  rfl

/-- Every module that is found below the roots can be read. -/
def AllRead (s : Store) (sources : List Path) : Prop :=
  ∀ source ∈ sources, ∀ root, s.resolve source = .ok root → ∀ file ∈ sourceFiles s root,
    moduleNameAt file ≠ "" → ∃ m, readModuleAt s root file = .ok m

/-- There is a fault of a file iff it is to be read and cannot be. -/
theorem faultAt_eq_none_iff (h : Tolerable s root file) :
    faultAt s root file = none ↔ (moduleNameAt file ≠ "" → ∃ m, readModuleAt s root file = .ok m) := by
  rw [faultAt]
  by_cases hname : moduleNameAt file = ""
  · simp [hname]
  rw [if_neg (by simpa [String.isEmpty_iff] using hname), imp_iff_right hname]
  rcases hread : readModuleAt s root file with fault | m
  · obtain ⟨reason, rfl⟩ := h hname fault hread
    simp
  · simp

/-- **No faults are collected iff every module can be read.** -/
theorem faults_eq_nil_iff {modules : Table Module} {faults : List SourceFault} {sources : List Path}
    (h : readRoots s true [] [] sources = .ok (modules, faults)) :
    faults = [] ↔ AllRead s sources := by
  obtain ⟨roots, hroots, -, rfl⟩ := readRoots_eq_ok_iff.mp h
  rw [List.nil_append, List.flatMap_eq_nil_iff]
  simp only [List.filterMap_eq_nil_iff]
  constructor
  · intro hnone source hsource root hresolve file hfile
    obtain ⟨root', hroot', hfound⟩ := Outcome.exists_of_mem_left hroots hsource
    obtain rfl := Except.ok.inj (hresolve.symm.trans hfound.resolve_eq)
    exact (faultAt_eq_none_iff (hfound.tolerable file hfile)).mp (hnone root hroot' file hfile)
  · intro hall root hroot file hfile
    obtain ⟨source, hsource, hfound⟩ := Outcome.exists_of_mem_right hroots hroot
    exact (faultAt_eq_none_iff (hfound.tolerable file hfile)).mpr
      (hall source hsource root hfound.resolve_eq file hfile)

/-- A source tree is loaded where the modules below its roots can be read. -/
theorem exec_loadTree_of_readRoots {sources : List Path} {run : Run} {modules : Table Module}
    {faults : List SourceFault} (h : readRoots run.store true [] [] sources = .ok (modules, faults)) :
    ∃ run', exec (loadTree sources true) run = (.ok (Tree.ofModules modules, faults), run') ∧
      Run.Continues [] run run' := by
  obtain ⟨run', hlog, hcontinues⟩ := Running.exec_log .debug "source" ("Loaded " ++
    toString modules.length ++ " module(s) from " ++ toString sources.length ++ " root(s)") run
  refine ⟨run', ?_, hcontinues⟩
  rw [loadTree, exec_bind_of_ok (exec_get run), h, exec_bind_of_ok (Running.exec_ofExcept _ _)]
  simp only
  rw [exec_bind_of_ok hlog, exec_pure]

/-- It is not where they cannot. -/
theorem exec_loadTree_of_readRoots_eq_error {sources : List Path} {run : Run} {fault : RunFault}
    (h : readRoots run.store true [] [] sources = .error fault) :
    exec (loadTree sources true) run = (.error fault, run) := by
  rw [loadTree, exec_bind_of_ok (exec_get run), h]
  exact exec_bind_of_error (Running.exec_ofExcept _ _)

/-- **Loading a source tree** changes nothing but the log, and fails where there is none. -/
theorem exec_loadTree (sources : List Path) (run : Run) :
    (∃ modules faults run', readRoots run.store true [] [] sources = .ok (modules, faults) ∧
      exec (loadTree sources true) run = (.ok (Tree.ofModules modules, faults), run') ∧
      Run.Continues [] run run') ∨
    (∃ fault, exec (loadTree sources true) run = (.error fault, run)) ∧
      ∀ tree, ¬ Loaded run.store sources tree := by
  rcases hread : readRoots run.store true [] [] sources with fault | ⟨modules, faults⟩
  · refine .inr ⟨⟨fault, exec_loadTree_of_readRoots_eq_error hread⟩, ?_⟩
    rintro tree ⟨modules, faults, h, -⟩
    cases hread.symm.trans h
  · obtain ⟨run', hload, hcontinues⟩ := exec_loadTree_of_readRoots hread
    exact .inl ⟨modules, faults, run', rfl, hload, hcontinues⟩

/-- **A source tree is made of the modules below its roots**: of those with one name it has the last one.
There is one iff the roots are directories, and nothing else is wrong with a file below them than that it
cannot be read. -/
theorem loaded_iff {sources : List Path} {tree : Tree} :
    Loaded s sources tree ↔ ∃ roots, List.Forall₂ (SourceRoot s) sources roots ∧
      tree = Tree.ofModules (Table.ofEntries
        (roots.flatMap fun root => (sourceFiles s root).filterMap (moduleAt s root))) := by
  simp only [Loaded, readRoots_eq_ok_iff]
  constructor
  · rintro ⟨_, _, ⟨roots, hroots, rfl, -⟩, rfl⟩
    exact ⟨roots, hroots, rfl⟩
  · rintro ⟨roots, hroots, rfl⟩
    exact ⟨_, _, ⟨roots, hroots, rfl, rfl⟩, rfl⟩

/-- So it is below one root. -/
theorem loaded_singleton_iff {source : Path} {tree : Tree} :
    Loaded s [source] tree ↔
      ∃ root, SourceRoot s source root ∧ tree = Tree.ofModules (modulesAt s root) := by
  rw [loaded_iff]
  constructor
  · rintro ⟨_, hroots, rfl⟩
    obtain ⟨root, roots, hroot, hnil, rfl⟩ := List.forall₂_cons_left_iff.mp hroots
    cases hnil
    exact ⟨root, hroot, by rw [List.flatMap_singleton]; rfl⟩
  · rintro ⟨root, hroot, rfl⟩
    exact ⟨[root], .cons hroot .nil, by rw [List.flatMap_singleton]; rfl⟩

end Processing
end FluentBuilder
