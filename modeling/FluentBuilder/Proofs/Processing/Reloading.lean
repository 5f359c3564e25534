import FluentBuilder.Proofs.Processing.Loading
import FluentBuilder.Proofs.Store.Resolved

/-!
# Loading sources again

When files below a root have been written, the sources are loaded again. What was not written is read as
before (`Rewritten.readModuleAt_eq`), and is found under the name that it had, unless a file that was
written names the same module (`Rewritten.find?_modulesAt_eq`). So the marked declarations in modules of
other names are found again, in the same order (`Rewritten.exists_loaded`).

Several files can name one module, and the last one that can be read is it. A file that was written can
take the place of another one, but it does not bring one back that another one stood before: for this it
has to be readable (`Rewritten.find?_modulesAt_of_marked`).
-/

namespace FluentBuilder

open Stateful Store Source

namespace Processing

variable {s s' : Store} {root : Path} {file : Place} {names : List String} {changed : Place → Prop}

/-! ### One file -/

/-- A file that names a module and is tolerable can be read. -/
theorem Tolerable.exists_bytes (h : Tolerable s root file) (hname : moduleNameAt file ≠ "") :
    ∃ bytes, s.bytes ⟨root.root, root.parts ++ file⟩ = .ok bytes := by
  rcases hbytes : s.bytes ⟨root.root, root.parts ++ file⟩ with fault | bytes
  · have hread : readModuleAt s root file = .error (.store fault) := by
      rw [readModuleAt, readModule, hbytes]
      rfl
    obtain ⟨reason, hreason⟩ := h hname _ hread
    cases hreason
  · exact ⟨bytes, rfl⟩

/-- What is read is in a file. -/
theorem exists_bytes_of_readModuleAt {m : Module} (h : readModuleAt s root file = .ok m) :
    ∃ bytes, s.bytes ⟨root.root, root.parts ++ file⟩ = .ok bytes := by
  rw [readModuleAt, readModule] at h
  obtain ⟨bytes, hbytes, -⟩ := Outcome.bind_eq_ok_iff.mp h
  exact ⟨bytes, Outcome.mapError_eq_ok_iff.mp hbytes⟩

/-- What is read from a file depends on its bytes only. -/
theorem readModuleAt_congr {bytes : List UInt8}
    (h : s.bytes ⟨root.root, root.parts ++ file⟩ = .ok bytes)
    (h' : s'.bytes ⟨root.root, root.parts ++ file⟩ = .ok bytes) :
    readModuleAt s' root file = readModuleAt s root file := by
  rw [readModuleAt, readModuleAt, readModule, readModule, h, h']

/-- A module has the name that it was read under. -/
theorem name_of_readModuleAt {m : Module} (h : readModuleAt s root file = .ok m) :
    m.name = moduleNameAt file := by
  rw [readModuleAt, readModule] at h
  obtain ⟨bytes, -, h⟩ := Outcome.bind_eq_ok_iff.mp h
  split at h
  · cases h
  · exact Module.name_of_ofText (Outcome.mapError_eq_ok_iff.mp h)

/-- It has the path that it was read from. -/
theorem path_of_readModuleAt {m : Module} (h : readModuleAt s root file = .ok m) :
    m.path = ⟨root.root, root.parts ++ file⟩ := by
  rw [readModuleAt, readModule] at h
  obtain ⟨bytes, -, h⟩ := Outcome.bind_eq_ok_iff.mp h
  split at h
  · cases h
  · exact Module.path_of_ofText (Outcome.mapError_eq_ok_iff.mp h)

/-- What is read from a file below a root that holds a text. -/
def reread (root path : Path) (text : String) : Except ReadError Module :=
  let file := path.parts.drop root.parts.length
  Module.ofText (moduleNameAt file) path (moduleNameOf ⟨.relative, file⟩).2 (some (Utf8.encode text)) text

/-- It is read as its characters are. -/
theorem reread_of_readWith {r p : Path} {text : String} {body : List Syntax.Statement}
    (h : Syntax.readWith Syntax.Grammar.wholeModule
      (Syntax.endLastLine text.toList (Syntax.unifyLineEnds text.toList))
      (some (text.toList.flatMap Utf8.encodeChar)) = .ok body) :
    reread r p text = .ok ⟨moduleNameAt (p.parts.drop r.parts.length), p,
      (moduleNameOf ⟨.relative, p.parts.drop r.parts.length⟩).2, body⟩ := by
  have hparse : Syntax.parseModule text (some (Utf8.encode text)) = .ok body := h
  simp only [reread, Module.ofText, hparse]

/-- A text that was written is read again, if it has no carriage returns. -/
theorem readModuleAt_of_reread {text : String} {m : Module} (hreturn : '\r' ∉ text.toList)
    (h : s.bytes ⟨root.root, root.parts ++ file⟩ = .ok (Utf8.encode text))
    (hm : reread root ⟨root.root, root.parts ++ file⟩ text = .ok m) :
    readModuleAt s root file = .ok m := by
  simp only [reread, List.drop_left] at hm
  rw [readModuleAt, readModule, h, Outcome.mapError_ok]
  simp only [bind, Except.bind, Running.textOf_encode hreturn]
  rw [moduleNameAt] at hm
  rw [moduleNameAt, hm, Outcome.mapError_ok]

/-! ### All files -/

/-- The last name that leads to a file is not empty. -/
theorem exists_ne_of_leadsToModule {names : Place} (h : LeadsToModule names) :
    ∃ name ∈ names, name ≠ "" := by
  match names, h with
  | [name], hmodule =>
    refine ⟨name, List.mem_singleton_self name, ?_⟩
    rintro rfl
    exact absurd (show isModuleFile "" = true from hmodule) (by decide)
  | name :: next :: rest, ⟨_, hleads⟩ =>
    obtain ⟨last, hlast, hne⟩ := exists_ne_of_leadsToModule hleads
    exact ⟨last, List.mem_cons_of_mem name hlast, hne⟩

/-- The names that lead to a file of a root are those that files can have. -/
theorem names_of_mem_sourceFiles (hsound : s.Sound) (hproper : s.Proper)
    (hfile : file ∈ sourceFiles s root) :
    ∀ name ∈ file, '/' ∉ name.toList ∧ '\x00' ∉ name.toList ∧ name ≠ ".." := by
  obtain ⟨-, bytes, hbytes⟩ := (mem_sourceFiles_iff hsound).mp hfile
  exact fun name hname =>
    hproper.names (fileAt_eq_some_iff.mp hbytes) name (List.mem_append_right _ hname)

/-- Files of a root whose paths have the same text are the same. -/
theorem eq_of_render_eq_of_mem {file' : Place} (hsound : s.Sound) (hproper : s.Proper)
    (hfile : file ∈ sourceFiles s root) (hfile' : file' ∈ sourceFiles s root)
    (heq : (⟨.relative, file⟩ : Path).render = (⟨.relative, file'⟩ : Path).render) : file = file' :=
  Path.eq_of_render_eq (fun name hname => (names_of_mem_sourceFiles hsound hproper hfile name hname).1)
    (fun name hname => (names_of_mem_sourceFiles hsound hproper hfile' name hname).1)
    (exists_ne_of_leadsToModule ((mem_sourceFiles_iff hsound).mp hfile).1)
    (exists_ne_of_leadsToModule ((mem_sourceFiles_iff hsound).mp hfile').1) heq

/-- Where the files of a root are. -/
theorem fileAt_of_bytes (hresolved : Resolved root) (hsound : s.Sound) (hproper : s.Proper)
    (hfile : file ∈ sourceFiles s root) {bytes : List UInt8}
    (hbytes : s.bytes ⟨root.root, root.parts ++ file⟩ = .ok bytes) :
    s.placeOf ⟨root.root, root.parts ++ file⟩ = .ok (root.parts ++ file) ∧
      s.fileAt (root.parts ++ file) = some bytes := by
  have hup : ".." ∉ file := fun hup => (names_of_mem_sourceFiles hsound hproper hfile _ hup).2.2 rfl
  obtain ⟨-, place, hplace, hfound⟩ := bytes_eq_ok_iff.mp hbytes
  obtain rfl := hresolved.placeOf_eq hup hplace
  exact ⟨hplace, hfound⟩

/-- When a store develops, a file that does not change is one of a root as before. -/
theorem mem_sourceFiles_of_evolves (hsound : s.Sound) (hsound' : s'.Sound) (h : Evolves changed s s')
    (hkept : ¬ changed (root.parts ++ file)) : file ∈ sourceFiles s' root ↔ file ∈ sourceFiles s root := by
  rw [mem_sourceFiles_iff hsound, mem_sourceFiles_iff hsound', h.fileAt_eq _ hkept]

/-- It is read as before. -/
theorem readModuleAt_of_evolves (hresolved : Resolved root) (hsound : s.Sound) (hproper : s.Proper)
    (h : Evolves changed s s') (hkept : ¬ changed (root.parts ++ file)) (hfile : file ∈ sourceFiles s root)
    {bytes : List UInt8} (hbytes : s.bytes ⟨root.root, root.parts ++ file⟩ = .ok bytes) :
    readModuleAt s' root file = readModuleAt s root file :=
  readModuleAt_congr hbytes
    (h.bytes_eq (fileAt_of_bytes hresolved hsound hproper hfile hbytes).1 hkept hbytes)

/-- A module is found in the last file of its name that can be read. -/
theorem find?_modulesAt (s : Store) (root : Path) (name : String) :
    (modulesAt s root).find? name = ((sourceFiles s root).reverse.findSome? fun file =>
      (moduleAt s root file).filter (·.1 == name)).map Prod.snd := by
  rw [modulesAt, Table.find?_ofEntries, List.filter_filterMap, List.getLast?_filterMap]

/-- **Under a name the same module is found in two stores**, if the files in which modules of this name are found
in either of them hold the same module in both. -/
theorem find?_modulesAt_eq_of_moduleAt_eq (hsound : s.Sound) (hproper : s.Proper) {name : String}
    (hleft : ∀ file ∈ sourceFiles s root, (moduleAt s root file).filter (·.1 == name) ≠ none →
      file ∈ sourceFiles s' root ∧ moduleAt s' root file = moduleAt s root file)
    (hright : ∀ file ∈ sourceFiles s' root, (moduleAt s' root file).filter (·.1 == name) ≠ none →
      file ∈ sourceFiles s root ∧ moduleAt s' root file = moduleAt s root file) :
    (modulesAt s root).find? name = (modulesAt s' root).find? name := by
  rw [find?_modulesAt, find?_modulesAt]
  congr 1
  refine findSome?_reverse_eq (pairwise_sortedBy _) (pairwise_sortedBy _)
    (fun file hfile file' hfile' => eq_of_render_eq_of_mem hsound hproper hfile hfile') ?_ ?_
  · intro file hfile hne
    obtain ⟨hmem, hsame⟩ := hleft file hfile hne
    exact ⟨hmem, by rw [hsame]⟩
  · intro file hfile hne
    obtain ⟨hmem, hsame⟩ := hright file hfile hne
    exact ⟨hmem, by rw [hsame]⟩

/-- What module is in a file, and under which name. -/
theorem moduleAt_eq_some {entry : String × Module} (h : moduleAt s root file = some entry) :
    moduleNameAt file = entry.1 ∧ entry.1 ≠ "" ∧ readModuleAt s root file = .ok entry.2 := by
  rw [moduleAt] at h
  split at h
  · cases h
  · next hfull =>
    obtain ⟨m, hm, rfl⟩ := Option.map_eq_some_iff.mp h
    exact ⟨rfl, fun hempty => hfull (String.isEmpty_iff.mpr hempty), Outcome.toOption_eq_some_iff.mp hm⟩

/-- A module stands under its name, and is in a file of this name. -/
theorem exists_file_of_mem_modulesAt {entry : String × Module} (h : entry ∈ modulesAt s root) :
    entry.2.name = entry.1 ∧ ∃ file ∈ sourceFiles s root, moduleNameAt file = entry.1 ∧
      readModuleAt s root file = .ok entry.2 := by
  obtain ⟨file, hfile, hmodule⟩ := List.mem_filterMap.mp (Table.mem_of_mem_ofEntries h)
  obtain ⟨hname, -, hread⟩ := moduleAt_eq_some hmodule
  exact ⟨(name_of_readModuleAt hread).trans hname, file, hfile, hname, hread⟩

/-- What is in a file of the name of a module. -/
theorem moduleAt_filter_eq_some {name : String} {entry : String × Module}
    (h : (moduleAt s root file).filter (·.1 == name) = some entry) :
    moduleNameAt file = name ∧ name ≠ "" ∧ readModuleAt s root file = .ok entry.2 := by
  obtain ⟨hmodule, hname⟩ := Option.filter_eq_some_iff.mp h
  rw [← eq_of_beq hname]
  exact moduleAt_eq_some hmodule

/-- Files below a root have been written: those of modules of some names only, and they are modules in
which nothing is marked. -/
structure Rewritten (root : Path) (names : List String) (changed : Place → Prop) (s s' : Store) :
    Prop where
  /-- The root is one that was resolved. -/
  resolved : Resolved root
  /-- The store was sound. -/
  sound : s.Sound
  /-- Its names were proper. -/
  proper : s.Proper
  /-- It still is sound. -/
  sound' : s'.Sound
  /-- Only files that are written change. -/
  evolves : Evolves changed s s'
  /-- They are of these modules. -/
  mem_names : ∀ file, changed (root.parts ++ file) → moduleNameAt file ∈ names
  /-- Nothing is marked in them. -/
  unmarked : ∀ file, changed (root.parts ++ file) →
    ∃ m, readModuleAt s' root file = .ok m ∧ Tree.markedIn m = []

namespace Rewritten

/-- What was not written is a file of the root as before. -/
theorem mem_sourceFiles_iff (h : Rewritten root names changed s s')
    (hkept : ¬ changed (root.parts ++ file)) :
    file ∈ sourceFiles s' root ↔ file ∈ sourceFiles s root :=
  mem_sourceFiles_of_evolves h.sound h.sound' h.evolves hkept

/-- **A file that was not written is read as before.** -/
theorem readModuleAt_eq (h : Rewritten root names changed s s')
    (hkept : ¬ changed (root.parts ++ file)) (hfile : file ∈ sourceFiles s root)
    (htolerable : Tolerable s root file) (hname : moduleNameAt file ≠ "") :
    readModuleAt s' root file = readModuleAt s root file := by
  obtain ⟨bytes, hbytes⟩ := htolerable.exists_bytes hname
  exact readModuleAt_of_evolves h.resolved h.sound h.proper h.evolves hkept hfile hbytes

/-- So the module in it is the same. -/
theorem moduleAt_eq (h : Rewritten root names changed s s') (hkept : ¬ changed (root.parts ++ file))
    (hfile : file ∈ sourceFiles s root) (htolerable : Tolerable s root file) :
    moduleAt s' root file = moduleAt s root file := by
  rw [moduleAt, moduleAt]
  split
  · rfl
  · next hfull =>
    rw [h.readModuleAt_eq hkept hfile htolerable
      (fun hempty => hfull (String.isEmpty_iff.mpr hempty))]

/-- All files are tolerable, if they were. -/
theorem tolerable_of_mem (h : Rewritten root names changed s s')
    (htolerable : ∀ file ∈ sourceFiles s root, Tolerable s root file)
    (hfile : file ∈ sourceFiles s' root) : Tolerable s' root file := by
  intro hname fault hread
  by_cases hchanged : changed (root.parts ++ file)
  · obtain ⟨m, hm, -⟩ := h.unmarked file hchanged
    cases hm.symm.trans hread
  · have hbefore := (h.mem_sourceFiles_iff hchanged).mp hfile
    rw [h.readModuleAt_eq hchanged hbefore (htolerable file hbefore) hname] at hread
    exact htolerable file hbefore hname fault hread

/-- **A module of another name is found as before.** -/
theorem find?_modulesAt_eq (h : Rewritten root names changed s s')
    (htolerable : ∀ file ∈ sourceFiles s root, Tolerable s root file) {name : String}
    (hname : name ∉ names) :
    (modulesAt s root).find? name = (modulesAt s' root).find? name := by
  -- What is found under the name is in files of this name, and these were not written.
  have hkept : ∀ {s : Store} {file : Place}, (moduleAt s root file).filter (·.1 == name) ≠ none →
      ¬ changed (root.parts ++ file) := by
    intro s file hne hchanged
    obtain ⟨entry, hentry⟩ := Option.ne_none_iff_exists'.mp hne
    exact hname ((moduleAt_filter_eq_some hentry).1 ▸ h.mem_names _ hchanged)
  refine find?_modulesAt_eq_of_moduleAt_eq h.sound h.proper (fun file hfile hne => ?_) fun file hfile hne => ?_
  · exact ⟨(h.mem_sourceFiles_iff (hkept hne)).mpr hfile,
      h.moduleAt_eq (hkept hne) hfile (htolerable file hfile)⟩
  · have hbefore := (h.mem_sourceFiles_iff (hkept hne)).mp hfile
    exact ⟨hbefore, h.moduleAt_eq (hkept hne) hbefore (htolerable file hbefore)⟩

/-- A file of a module that could be read can still be read. -/
theorem moduleAt_filter_ne_none (h : Rewritten root names changed s s')
    (htolerable : ∀ file ∈ sourceFiles s root, Tolerable s root file) {name : String}
    {entry : String × Module} (hfile : file ∈ sourceFiles s root)
    (hentry : (moduleAt s root file).filter (·.1 == name) = some entry) :
    file ∈ sourceFiles s' root ∧ (moduleAt s' root file).filter (·.1 == name) ≠ none := by
  by_cases hchanged : changed (root.parts ++ file)
  · obtain ⟨m, hm, -⟩ := h.unmarked file hchanged
    obtain ⟨rfl, hfull, -⟩ := moduleAt_filter_eq_some hentry
    obtain ⟨hleads, -⟩ := (Processing.mem_sourceFiles_iff h.sound).mp hfile
    obtain ⟨bytes, hbytes⟩ := exists_bytes_of_readModuleAt hm
    obtain ⟨-, place, hplace, hbytes⟩ := bytes_eq_ok_iff.mp hbytes
    have hup : ".." ∉ file := fun hup =>
      (names_of_mem_sourceFiles h.sound h.proper hfile _ hup).2.2 rfl
    obtain rfl := h.resolved.placeOf_eq hup hplace
    refine ⟨(Processing.mem_sourceFiles_iff h.sound').mpr ⟨hleads, bytes, hbytes⟩, ?_⟩
    rw [moduleAt, if_neg (by simpa [String.isEmpty_iff] using hfull), hm]
    simp [Except.toOption]
  · refine ⟨(h.mem_sourceFiles_iff hchanged).mpr hfile, ?_⟩
    rw [h.moduleAt_eq hchanged hfile (htolerable file hfile), hentry]
    simp

/-- A module in which something is marked was there before: no file that was read in its place has become
unreadable. -/
theorem find?_modulesAt_of_marked (h : Rewritten root names changed s s')
    (htolerable : ∀ file ∈ sourceFiles s root, Tolerable s root file) {name : String} {m : Module}
    (hfound : (modulesAt s' root).find? name = some m) (hmarked : Tree.markedIn m ≠ []) :
    (modulesAt s root).find? name = some m := by
  rw [find?_modulesAt, Option.map_eq_some_iff] at hfound
  obtain ⟨entry, hfound, rfl⟩ := hfound
  obtain ⟨file, hfile, hentry, hlast⟩ :=
    exists_of_findSome?_reverse (pairwise_sortedBy _) hfound
  obtain ⟨-, hfull, hread⟩ := moduleAt_filter_eq_some hentry
  have hkept : ¬ changed (root.parts ++ file) := by
    intro hchanged
    obtain ⟨m, hm, hnone⟩ := h.unmarked file hchanged
    obtain rfl := Except.ok.inj (hread.symm.trans hm)
    exact hmarked hnone
  have hbefore := (h.mem_sourceFiles_iff hkept).mp hfile
  have hsame := h.moduleAt_eq hkept hbefore (htolerable file hbefore)
  rw [hsame] at hentry
  -- The file was the last one of its name before, too.
  rw [find?_modulesAt]
  rcases hwinner : (sourceFiles s root).reverse.findSome? fun file =>
      (moduleAt s root file).filter (·.1 == name) with _ | entry'
  · rw [List.findSome?_eq_none_iff] at hwinner
    cases hentry.symm.trans (hwinner file (List.mem_reverse.mpr hbefore))
  obtain ⟨winner, hmem, hwins, hmax⟩ :=
    exists_of_findSome?_reverse (pairwise_sortedBy _) hwinner
  obtain ⟨hstill, hreads⟩ := h.moduleAt_filter_ne_none htolerable hmem hwins
  obtain rfl : winner = file := eq_of_render_eq_of_mem h.sound h.proper hmem hbefore
    (le_antisymm (hlast winner hstill hreads) (hmax file hbefore (by rw [hentry]; simp)))
  rw [hwinner, ← hwins, hentry, Option.map_some]

/-- **Nothing is marked in the modules that were written**, if nothing was marked under their names. -/
theorem quiet (h : Rewritten root names changed s s')
    (htolerable : ∀ file ∈ sourceFiles s root, Tolerable s root file)
    (hquiet : (Tree.ofModules (modulesAt s root)).Quiet names) :
    (Tree.ofModules (modulesAt s' root)).Quiet names := by
  intro d hd hname
  rw [Tree.marked_eq_flatMap] at hd
  obtain ⟨entry, hentry, hd⟩ := List.mem_flatMap.mp hd
  have hmodule : d.module = entry.2 := module_of_mem_declarationsIn _ (List.mem_of_mem_filter hd)
  have hfound := Table.find?_of_mem (Table.nodup_names_ofEntries _) (mem_sortedBy.mp hentry)
  have hbefore := h.find?_modulesAt_of_marked htolerable hfound (List.ne_nil_of_mem hd)
  refine hquiet d ?_ hname
  rw [Tree.marked_eq_flatMap]
  refine List.mem_flatMap.mpr ⟨entry, mem_sortedBy.mpr ?_, hd⟩
  exact (Table.find?_eq_some_iff (Table.nodup_names_ofEntries _)).mp hbefore

/-- Nothing is marked in a module whose files were all written. -/
theorem name_ne_of_marked (h : Rewritten root names changed s s') {name : String}
    (hwritten : ∀ file ∈ sourceFiles s' root, moduleNameAt file = name → changed (root.parts ++ file))
    {d : Declaration} (hd : d ∈ (Tree.ofModules (modulesAt s' root)).marked) : d.module.name ≠ name := by
  rintro rfl
  rw [Tree.marked_eq_flatMap] at hd
  obtain ⟨entry, hentry, hd⟩ := List.mem_flatMap.mp hd
  have hmodule : d.module = entry.2 := module_of_mem_declarationsIn _ (List.mem_of_mem_filter hd)
  obtain ⟨hname, file, hfile, hfound, hread⟩ := exists_file_of_mem_modulesAt (mem_sortedBy.mp hentry)
  obtain ⟨m, hm, hnone⟩ := h.unmarked file (hwritten file hfile (by rw [hfound, hmodule, hname]))
  obtain rfl := Except.ok.inj (hread.symm.trans hm)
  rw [hnone] at hd
  cases hd

/-- The root is still one of sources. -/
theorem sourceRoot (h : Rewritten root names changed s s') {source : Path}
    (hroot : SourceRoot s source root) : SourceRoot s' source root where
  resolve_eq := by rw [resolve_eq h.evolves.current_eq, hroot.resolve_eq]
  isDirectory := h.evolves.isDirectory hroot.isDirectory
  tolerable := fun _ hfile => h.tolerable_of_mem hroot.tolerable hfile

/-- **The sources are loaded again.** What is marked in modules of other names is found again, in the same
order, and nothing else is marked if nothing was. -/
theorem exists_loaded (h : Rewritten root names changed s s') {source : Path}
    (hresolve : s.resolve source = .ok root) {tree : Tree} (hloaded : Loaded s [source] tree) :
    ∃ tree', Loaded s' [source] tree' ∧ tree'.markedBeside names = tree.markedBeside names ∧
      (tree.Quiet names → tree'.Quiet names) := by
  obtain ⟨root', hroot, rfl⟩ := loaded_singleton_iff.mp hloaded
  obtain rfl := Except.ok.inj (hresolve.symm.trans hroot.resolve_eq)
  refine ⟨Tree.ofModules (modulesAt s' root), loaded_singleton_iff.mpr ⟨root, h.sourceRoot hroot, rfl⟩, ?_,
    h.quiet hroot.tolerable⟩
  exact (Tree.markedBeside_eq (Table.nodup_names_ofEntries _) (Table.nodup_names_ofEntries _)
    (fun _ hentry => (exists_file_of_mem_modulesAt hentry).1)
    (fun _ hentry => (exists_file_of_mem_modulesAt hentry).1)
    fun _ hname => h.find?_modulesAt_eq hroot.tolerable hname).symm

end Rewritten

/-! ### Roots that are left alone -/

/-- Files were written, and none of them stands below a root. -/
theorem rewritten_of_untouched (hresolved : Resolved root) (hsound : s.Sound) (hproper : s.Proper)
    (hsound' : s'.Sound) (hevolves : Evolves changed s s')
    (hkept : ∀ file, ¬ changed (root.parts ++ file)) : Rewritten root [] changed s s' where
  resolved := hresolved
  sound := hsound
  proper := hproper
  sound' := hsound'
  evolves := hevolves
  mem_names := fun file hchanged => absurd hchanged (hkept file)
  unmarked := fun file hchanged => absurd hchanged (hkept file)

/-- Then none of its files was written. -/
theorem Rewritten.not_changed (h : Rewritten root [] changed s s') (file : Place) :
    ¬ changed (root.parts ++ file) := fun hchanged => List.not_mem_nil (h.mem_names file hchanged)

/-- **Where nothing was written below the roots, the same tree is loaded.** -/
theorem loaded_of_untouched {sources : List Path} {tree : Tree}
    (h : ∀ source ∈ sources, ∀ root, SourceRoot s source root → Rewritten root [] changed s s')
    (hloaded : Loaded s sources tree) : Loaded s' sources tree := by
  obtain ⟨roots, hroots, rfl⟩ := loaded_iff.mp hloaded
  refine loaded_iff.mpr ⟨roots, FluentBuilder.Outcome.imp_of_mem (fun source hsource root _ hroot =>
    (h source hsource root hroot).sourceRoot hroot) hroots, ?_⟩
  refine ofModules_eq_of_find?_eq fun root hmem name => ?_
  obtain ⟨source, hsource, hroot⟩ := FluentBuilder.Outcome.exists_of_mem_right hroots hmem
  exact (h source hsource root hroot).find?_modulesAt_eq hroot.tolerable List.not_mem_nil

/-- Every module can still be read. -/
theorem allRead_of_untouched {sources : List Path}
    (h : ∀ source ∈ sources, ∀ root, SourceRoot s source root → Rewritten root [] changed s s')
    {tree : Tree} (hloaded : Loaded s sources tree) (hread : AllRead s sources) : AllRead s' sources := by
  intro source hsource root hresolve file hfile hname
  obtain ⟨roots, hroots, -⟩ := loaded_iff.mp hloaded
  obtain ⟨root', -, hroot⟩ := FluentBuilder.Outcome.exists_of_mem_left hroots hsource
  have hrewritten := h source hsource root' hroot
  rw [resolve_eq hrewritten.evolves.current_eq, hroot.resolve_eq] at hresolve
  obtain rfl := Except.ok.inj hresolve
  have hbefore := (hrewritten.mem_sourceFiles_iff (hrewritten.not_changed file)).mp hfile
  rw [hrewritten.readModuleAt_eq (hrewritten.not_changed file) hbefore (hroot.tolerable file hbefore) hname]
  exact hread source hsource root' hroot.resolve_eq file hbefore hname

end Processing
end FluentBuilder
