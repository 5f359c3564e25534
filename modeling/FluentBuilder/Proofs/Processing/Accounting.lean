import FluentBuilder.Proofs.Processing.Unreadable

/-!
# Files that are replaced

Every file that is met is to be that of a module of the tree, or of a fault (`AccountedFor`). It is, unless it
is replaced (`accountedFor_iff`): it can be read, and each time that it is met, another file of the same
module name is met later and can be read too (`Replaced`).

Several files can have one module name: a package and the module beside it, files below different roots, files
with points in their names. Nothing is replaced where every name is that of one file
(`not_replaced_of_distinct`). A module beside a package is lost, and no fault tells of it (`lost_of_annex`).
-/

namespace FluentBuilder.Processing

open Stateful Store Source

variable {s : Store} {root : Path} {sources roots : List Path} {file : Place} {path : Path} {tree : Tree}
  {faults : List SourceFault} {run run' : Run}

/-! ### Meeting files -/

/-- The files that are to be read, root by root, each with the root from which it is met. -/
def meetings (s : Store) (roots : List Path) : List (Path × Place) :=
  roots.flatMap fun root =>
    ((sourceFiles s root).filter fun file => !(moduleNameAt file).isEmpty).map (root, ·)

/-- The path of a file that is met. -/
def pathAt (meeting : Path × Place) : Path := ⟨meeting.1.root, meeting.1.parts ++ meeting.2⟩

/-- It is the file of a module. -/
def IsModule (s : Store) (meeting : Path × Place) : Prop :=
  ∃ m, readModuleAt s meeting.1 meeting.2 = .ok m

/-- What is met is a file of a root, and has a name. -/
theorem mem_meetings_iff : (root, file) ∈ meetings s roots ↔
    root ∈ roots ∧ file ∈ sourceFiles s root ∧ moduleNameAt file ≠ "" := by
  simp [meetings, and_assoc]

/-- The module in a file that is met, under its name. -/
def entryAt (s : Store) (meeting : Path × Place) : Option (String × Module) := moduleAt s meeting.1 meeting.2

/-- Files of modules are files that are met. -/
theorem filterMap_meetings (s : Store) (roots : List Path) :
    (meetings s roots).filterMap (entryAt s) =
      roots.flatMap fun root => (sourceFiles s root).filterMap (moduleAt s root) := by
  rw [meetings, List.filterMap_flatMap]
  refine List.flatMap_congr fun root _ => ?_
  rw [List.filterMap_map, List.filterMap_filter]
  refine List.filterMap_congr fun file _ => ?_
  by_cases hname : moduleNameAt file = ""
  · simp [hname, moduleAt]
  · simp [hname, entryAt]

/-- The entry of a file that is met. -/
theorem entryAt_eq_some_iff {meeting : Path × Place} (h : meeting ∈ meetings s roots) {name : String}
    {m : Module} :
    entryAt s meeting = some (name, m) ↔
      moduleNameAt meeting.2 = name ∧ readModuleAt s meeting.1 meeting.2 = .ok m := by
  obtain ⟨-, -, hname⟩ := mem_meetings_iff.mp h
  rw [entryAt, moduleAt, if_neg (by simpa [String.isEmpty_iff] using hname), Option.map_eq_some_iff]
  constructor
  · rintro ⟨found, hfound, hentry⟩
    obtain ⟨rfl, rfl⟩ := Prod.mk.inj hentry
    exact ⟨rfl, Outcome.toOption_eq_some_iff.mp hfound⟩
  · rintro ⟨rfl, hread⟩
    exact ⟨m, Outcome.toOption_eq_some_iff.mpr hread, rfl⟩

/-- The faults are those of files that are met. -/
theorem mem_faults_iff {fault : SourceFault} :
    fault ∈ (roots.flatMap fun root => (sourceFiles s root).filterMap (faultAt s root)) ↔
      ∃ meeting ∈ meetings s roots, readModuleAt s meeting.1 meeting.2 = .error (.read (.source fault)) := by
  have hfault : ∀ {root : Path} {file : Place}, faultAt s root file = some fault ↔
      moduleNameAt file ≠ "" ∧ readModuleAt s root file = .error (.read (.source fault)) := by
    intro root file
    rw [faultAt]
    by_cases hname : moduleNameAt file = ""
    · simp [hname]
    rw [if_neg (by simpa [String.isEmpty_iff] using hname), and_iff_right hname]
    split
    · next fault' hread => simp [hread]
    · next hother =>
      refine iff_of_false (by simp) fun hread => hother fault hread
  simp only [List.mem_flatMap, List.mem_filterMap, hfault]
  constructor
  · rintro ⟨root, hroot, file, hfile, hname, hread⟩
    exact ⟨(root, file), mem_meetings_iff.mpr ⟨hroot, hfile, hname⟩, hread⟩
  · rintro ⟨⟨root, file⟩, hmeeting, hread⟩
    obtain ⟨hroot, hfile, hname⟩ := mem_meetings_iff.mp hmeeting
    exact ⟨root, hroot, file, hfile, hname, hread⟩

/-! ### Accounts -/

/-- The file is that of a module of the tree, or of a fault. -/
def AccountedFor (tree : Tree) (faults : List SourceFault) (path : Path) : Prop :=
  (∃ entry ∈ tree.modules, entry.2.path = path) ∨
    ∃ fault ∈ faults, ∃ name, fault.file = some (name, path)

/-- The file is met, and each time it can be read, but later another file of the same name is met that can be
read too. -/
structure Replaced (s : Store) (roots : List Path) (path : Path) : Prop where
  /-- It is met. -/
  met : ∃ meeting ∈ meetings s roots, pathAt meeting = path
  /-- It gives way to another file. -/
  exists_later : ∀ front meeting back, meetings s roots = front ++ meeting :: back → pathAt meeting = path →
    IsModule s meeting ∧ ∃ later ∈ back, moduleNameAt later.2 = moduleNameAt meeting.2 ∧ IsModule s later ∧
      pathAt later ≠ path

/-- Nothing is replaced where every name is that of one file. -/
theorem not_replaced_of_distinct
    (h : ∀ meeting ∈ meetings s roots, ∀ other ∈ meetings s roots, IsModule s meeting → IsModule s other →
      moduleNameAt meeting.2 = moduleNameAt other.2 → pathAt meeting = pathAt other) :
    ¬ Replaced s roots path := by
  rintro ⟨⟨meeting, hmeeting, rfl⟩, hlater⟩
  obtain ⟨front, back, hmeetings⟩ := List.append_of_mem hmeeting
  obtain ⟨hmodule, later, hmem, hname, hmodule', hne⟩ := hlater front meeting back hmeetings rfl
  refine hne (h later ?_ meeting hmeeting hmodule' hmodule hname)
  rw [hmeetings]
  exact List.mem_append_right front (List.mem_cons_of_mem meeting hmem)

/-- What comes of reading a file that is met, where the roots can be loaded: a module, or a fault of its
source. -/
theorem readModuleAt_of_mem_meetings (h : List.Forall₂ (SourceRoot s) sources roots) {meeting : Path × Place}
    (hmeeting : meeting ∈ meetings s roots) :
    IsModule s meeting ∨
      ∃ fault, readModuleAt s meeting.1 meeting.2 = .error (.read (.source fault)) ∧
        fault.file = some (moduleNameAt meeting.2, pathAt meeting) := by
  obtain ⟨hroot, hfile, hname⟩ := mem_meetings_iff.mp hmeeting
  obtain ⟨source, -, hfound⟩ := FluentBuilder.Outcome.exists_of_mem_right h hroot
  have htolerable := hfound.tolerable meeting.2 hfile
  obtain ⟨bytes, hbytes⟩ := htolerable.exists_bytes hname
  have hreads := reads_readModuleAt hbytes
  have hsource := htolerable hname
  rw [IsModule]
  generalize readModuleAt s meeting.1 meeting.2 = result at hreads hsource
  cases hreads with
  | @module m => exact .inl ⟨m, rfl⟩
  | @faulty fault hfault => exact .inr ⟨fault, rfl, hfault⟩
  | null =>
    obtain ⟨reason, hreason⟩ := hsource _ rfl
    cases hreason

/-- The modules of the tree are those of files that are met last of their names. -/
theorem mem_ofEntries_meetings_iff {entry : String × Module} :
    entry ∈ Table.ofEntries ((meetings s roots).filterMap (entryAt s)) ↔
      ∃ front meeting back, meetings s roots = front ++ meeting :: back ∧ entryAt s meeting = some entry ∧
        ∀ later ∈ back, ∀ m, entryAt s later ≠ some (entry.1, m) := by
  rw [Table.mem_ofEntries_iff]
  constructor
  · rintro ⟨front, back, hentries, hlast⟩
    obtain ⟨before, rest, hmeetings, rfl, hrest⟩ := List.filterMap_eq_append_iff.mp hentries
    obtain ⟨skipped, meeting, after, rfl, -, hentry, rfl⟩ := List.filterMap_eq_cons_iff.mp hrest
    refine ⟨before ++ skipped, meeting, after, by rw [hmeetings, List.append_assoc], hentry, ?_⟩
    intro later hlater m hm
    exact hlast _ (List.mem_filterMap.mpr ⟨later, hlater, hm⟩) rfl
  · rintro ⟨front, meeting, back, hmeetings, hentry, hlast⟩
    refine ⟨_, _, by rw [hmeetings, List.filterMap_append, List.filterMap_cons_some hentry], ?_⟩
    rintro later hlater hname
    obtain ⟨other, hother, hm⟩ := List.mem_filterMap.mp hlater
    exact hlast other hother later.2 (by rw [hm, ← hname])

/-- The tree below roots, by the files that are met. -/
def treeMet (s : Store) (roots : List Path) : Tree :=
  Tree.ofModules (Table.ofEntries ((meetings s roots).filterMap (entryAt s)))

/-- The faults of the files that are met. -/
def faultsMet (s : Store) (roots : List Path) : List SourceFault :=
  roots.flatMap fun root => (sourceFiles s root).filterMap (faultAt s root)

/-- What is accounted for is not replaced. -/
theorem not_replaced_of_accountedFor (h : List.Forall₂ (SourceRoot s) sources roots)
    (haccounted : AccountedFor (treeMet s roots) (faultsMet s roots) path) : ¬ Replaced s roots path := by
  intro hreplaced
  rcases haccounted with ⟨⟨name, m⟩, hentry, hpath⟩ | ⟨fault, hfault, name, hfile⟩
  · -- It is met last of its name where the module is read.
    obtain ⟨front, meeting, back, hmeetings, hentry, hlast⟩ :=
      mem_ofEntries_meetings_iff.mp (mem_sortedBy.mp hentry)
    have hmem : ∀ {other}, other ∈ meeting :: back → other ∈ meetings s roots := fun hother => by
      rw [hmeetings]
      exact List.mem_append_right front hother
    obtain ⟨rfl, hread⟩ := (entryAt_eq_some_iff (hmem List.mem_cons_self)).mp hentry
    have hsame : pathAt meeting = path := (path_of_readModuleAt hread).symm.trans hpath
    obtain ⟨-, later, hlater, hname, ⟨m', hm'⟩, -⟩ :=
      hreplaced.exists_later front meeting back hmeetings hsame
    have hmem' := hmem (List.mem_cons_of_mem meeting hlater)
    exact hlast later hlater m' ((entryAt_eq_some_iff hmem').mpr ⟨hname, hm'⟩)
  · -- It cannot be read where the fault is found.
    obtain ⟨meeting, hmeeting, hread⟩ := mem_faults_iff.mp hfault
    have hsame : pathAt meeting = path := by
      rcases readModuleAt_of_mem_meetings h hmeeting with ⟨m, hm⟩ | ⟨fault', hfault', hplace⟩
      · cases hread.symm.trans hm
      · cases hread.symm.trans hfault'
        exact (Prod.mk.inj (Option.some.inj (hplace.symm.trans hfile))).2
    obtain ⟨front, back, hmeetings⟩ := List.append_of_mem hmeeting
    obtain ⟨⟨m, hm⟩, -⟩ := hreplaced.exists_later front meeting back hmeetings hsame
    cases hread.symm.trans hm

/-- What is met and is not replaced is accounted for. -/
theorem accountedFor_of_not_replaced (h : List.Forall₂ (SourceRoot s) sources roots)
    (hmet : ∃ meeting ∈ meetings s roots, pathAt meeting = path) (hkept : ¬ Replaced s roots path) :
    AccountedFor (treeMet s roots) (faultsMet s roots) path := by
  have hsome := mt (Replaced.mk hmet) hkept
  push Not at hsome
  obtain ⟨front, meeting, back, hmeetings, rfl, hlast⟩ := hsome
  have hmem : ∀ {other}, other ∈ meeting :: back → other ∈ meetings s roots := fun hother => by
    rw [hmeetings]
    exact List.mem_append_right front hother
  rcases readModuleAt_of_mem_meetings h (hmem List.mem_cons_self) with ⟨m, hread⟩ | ⟨fault, hread, hfile⟩
  · -- The last file of its name from here on has its path.
    have hfirst := (entryAt_eq_some_iff (hmem List.mem_cons_self)).mpr ⟨rfl, hread⟩
    obtain ⟨m', hm'⟩ := Table.exists_mem_ofEntries
      (List.mem_filterMap.mpr ⟨meeting, List.mem_cons_self (l := back), hfirst⟩)
    obtain ⟨other, hother, hentry⟩ := List.mem_filterMap.mp (Table.mem_of_mem_ofEntries hm')
    obtain ⟨hname, hread'⟩ := (entryAt_eq_some_iff (hmem hother)).mp hentry
    refine .inl ⟨(moduleNameAt meeting.2, m'), mem_sortedBy.mpr ?_, ?_⟩
    · rw [hmeetings, List.filterMap_append]
      exact Table.mem_ofEntries_append hm'
    · rw [path_of_readModuleAt hread']
      rcases List.mem_cons.mp hother with rfl | hback
      · rfl
      · exact hlast ⟨m, hread⟩ other hback hname ⟨m', hread'⟩
  · exact .inr ⟨fault, mem_faults_iff.mpr ⟨meeting, hmem List.mem_cons_self, hread⟩, _, hfile⟩

/-- **A file is accounted for iff it is not replaced**, whenever loading gives a tree. -/
theorem accountedFor_iff (hsound : run.store.Sound)
    (hload : exec (loadTree sources true) run = (.ok (tree, faults), run'))
    (hroots : List.Forall₂ (fun source root => run.store.resolve source = .ok root) sources roots)
    (hroot : root ∈ roots) (hleads : LeadsToModule file) {bytes : List UInt8}
    (hfile : run.store.fileAt (root.parts ++ file) = some bytes) (hname : moduleNameAt file ≠ "") :
    AccountedFor tree faults ⟨root.root, root.parts ++ file⟩ ↔
      ¬ Replaced run.store roots ⟨root.root, root.parts ++ file⟩ := by
  obtain ⟨modules, faults', run'', hread, hdone, -⟩ | ⟨⟨fault, hfailed⟩, -⟩ := exec_loadTree sources run
  · obtain ⟨rfl, rfl⟩ := Prod.mk.inj (Except.ok.inj (Prod.mk.inj (hdone.symm.trans hload)).1)
    obtain ⟨roots', hfound, rfl, rfl⟩ := readRoots_eq_ok_iff.mp hread
    obtain rfl := roots_unique hroots (hfound.imp fun _ _ => SourceRoot.resolve_eq)
    rw [← filterMap_meetings, List.nil_append]
    refine ⟨not_replaced_of_accountedFor hfound, accountedFor_of_not_replaced hfound ⟨(root, file), ?_, rfl⟩⟩
    exact mem_meetings_iff.mpr ⟨hroot, (mem_sourceFiles_iff hsound).mpr ⟨hleads, bytes, hfile⟩, hname⟩
  · cases hfailed.symm.trans hload

/-- A file that cannot be read is accounted for by its fault. -/
theorem accountedFor_of_spoiledShelf :
    ∃ tree faults run', exec (loadTree [shelfRoot] true) ⟨spoiledShelf, [], []⟩ = (.ok (tree, faults), run') ∧
      AccountedFor tree faults ⟨.absolute, ["src", "b.py"]⟩ := by
  have hok : (exec (loadTree [shelfRoot] true) ⟨spoiledShelf, [], []⟩).1.toOption.isSome = true := by
    decide +kernel
  have hdistinct : ∀ meeting ∈ meetings spoiledShelf [shelfRoot], ∀ other ∈ meetings spoiledShelf [shelfRoot],
      moduleNameAt meeting.2 = moduleNameAt other.2 → pathAt meeting = pathAt other := by decide +kernel
  obtain ⟨hsound, -, -⟩ := openRoot_of_shelf [0xff] (Utf8.encode "x = (\n")
  rcases hrun : exec (loadTree [shelfRoot] true) ⟨spoiledShelf, [], []⟩ with ⟨fault | ⟨tree, faults⟩, run'⟩
  · rw [hrun] at hok
    cases hok
  have hroots : List.Forall₂ (fun source root => spoiledShelf.resolve source = .ok root)
      [shelfRoot] [shelfRoot] := .cons rfl .nil
  have hleads : LeadsToModule ["b.py"] := rfl
  have hfile : spoiledShelf.fileAt (shelfRoot.parts ++ ["b.py"]) = some [0xff] := rfl
  refine ⟨tree, faults, run', rfl, ?_⟩
  exact (accountedFor_iff hsound hrun hroots List.mem_cons_self hleads hfile (by decide +kernel)).mpr
    (not_replaced_of_distinct fun meeting hmeeting other hother _ _ =>
      hdistinct meeting hmeeting other hother)

/-- A module beside a package of the same name. -/
def annex : Store :=
  ⟨[(["src"], .directory), (["src", "a.py"], .file (Utf8.encode "class Car:\n    pass\n")),
    (["src", "a"], .directory), (["src", "a", "__init__.py"], .file [])], [], "/root"⟩

/-- The module is lost there, and no fault tells of it. -/
theorem lost_of_annex :
    annex.Sound ∧ LeadsToModule ["a.py"] ∧ moduleNameAt ["a.py"] ≠ "" ∧
      annex.fileAt ["src", "a.py"] = some (Utf8.encode "class Car:\n    pass\n") ∧
      ∃ tree run', exec (loadTree [shelfRoot] true) ⟨annex, [], []⟩ = (.ok (tree, []), run') ∧
        ¬ AccountedFor tree [] ⟨.absolute, ["src", "a.py"]⟩ := by
  have hrooted : ∀ entry ∈ annex.nodes, annex.node? entry.1.dropLast = some .directory := by decide +kernel
  have hlisted : ∀ entry ∈ annex.nodes, annex.node? entry.1 = some entry.2 := by decide +kernel
  have hdone : (exec (loadTree [shelfRoot] true) ⟨annex, [], []⟩).1.toOption.map (fun result =>
      (result.1.modules.map fun entry => entry.2.path, result.2)) =
        some ([⟨.absolute, ["src", "a", "__init__.py"]⟩], []) := by decide +kernel
  refine ⟨⟨rooted_of_nodes hrooted, hlisted, rfl⟩, rfl, by decide +kernel, rfl, ?_⟩
  rcases hrun : exec (loadTree [shelfRoot] true) ⟨annex, [], []⟩ with ⟨fault | ⟨tree, faults⟩, run'⟩
  · rw [hrun] at hdone
    cases hdone
  rw [hrun] at hdone
  obtain ⟨hpaths, rfl⟩ := Prod.mk.inj (Option.some.inj hdone)
  refine ⟨tree, run', rfl, ?_⟩
  rintro (⟨entry, hentry, hpath⟩ | ⟨fault, hfault, -⟩)
  · have hmem : (⟨.absolute, ["src", "a.py"]⟩ : Path) ∈ tree.modules.map fun entry => entry.2.path :=
      List.mem_map.mpr ⟨entry, hentry, hpath⟩
    rw [hpaths] at hmem
    exact absurd hmem (by decide)
  · cases hfault

end FluentBuilder.Processing
