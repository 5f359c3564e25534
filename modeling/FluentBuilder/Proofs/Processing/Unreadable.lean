import FluentBuilder.Proofs.Processing.Reloading

/-!
# Sources that cannot be read

A file that is no text of a module is to be reported, once for each time that it is met, and everything else
is to be loaded as if it were not there (`Collected`). That is so iff the character of code zero is in none of
the texts (`collected_iff`): a text with this character is no source with a fault, and nothing at all is loaded
where there is one (`exec_loadTree_of_null`).

The tree is compared with the one that is loaded when the files have been deleted (`Store.without`). A file may
be met from several roots, under different names. Whether it is the text of a module depends on its bytes only
(`Reads`), so that no file is deleted that is a module to another root.
-/

namespace FluentBuilder

open Stateful Store Source

/-! ### Stores without some files -/

namespace Store

variable {s : Store} {places : List Place}

/-- The store without what stands at some places. -/
def without (s : Store) (places : List Place) : Store := places.foldl removeNode s

/-- Nothing stands at these places then, and everything else stands as before. -/
theorem node?_without (hne : [] ∉ places) (other : Place) :
    (s.without places).node? other = if other ∈ places then none else s.node? other := by
  induction places generalizing s with
  | nil => rfl
  | cons place rest ih =>
    rw [List.mem_cons, not_or] at hne
    rw [without, List.foldl_cons, ← without, ih hne.2, node?_removeNode s (Ne.symm hne.1)]
    by_cases hrest : other ∈ rest
    · simp [hrest]
    · simp [hrest]

/-- The current directory stays. -/
@[simp] theorem without_current (s : Store) (places : List Place) :
    (s.without places).current = s.current := by
  induction places generalizing s with
  | nil => rfl
  | cons place rest ih => rw [without, List.foldl_cons, ← without, ih, removeNode_current]

/-- The home directory stays. -/
@[simp] theorem without_home (s : Store) (places : List Place) : (s.without places).home = s.home := by
  induction places generalizing s with
  | nil => rfl
  | cons place rest ih => rw [without, List.foldl_cons, ← without, ih, removeNode_home]

/-- Where files are deleted, directories stay, and so do all other files. -/
theorem evolves_without (h : ∀ place ∈ places, s.node? place ≠ some .directory) :
    Evolves (· ∈ places) s (s.without places) := by
  have hnode := node?_without (s := s) fun hnil => h [] hnil (node?_nil s)
  refine ⟨without_current s places, without_home s places, fun place hplace => ?_, fun place hkept => ?_⟩
  · rw [hnode, if_neg fun hmem => h place hmem hplace, hplace]
  · exact fileAt_congr (by rw [hnode, if_neg hkept])

/-- A store without some files is sound. -/
theorem Sound.without (hsound : s.Sound) (h : ∀ place ∈ places, s.node? place ≠ some .directory) :
    (s.without places).Sound := by
  induction places generalizing s with
  | nil => exact hsound
  | cons place rest ih =>
    have hplace := h place List.mem_cons_self
    refine ih (hsound.removeNode hplace) fun other hother => ?_
    rw [node?_removeNode s (ne_nil_of_node?_ne hplace)]
    split
    · simp
    · exact h other (List.mem_cons_of_mem place hother)

end Store

/-- What a fault of a source is a fault of: the name of a module, and the path of its file. -/
def Source.SourceFault.file : SourceFault → Option (String × Path)
  | .unparsable name path _ => some (name, path)
  | .undecodable name path _ => some (name, path)
  | .noDirectory _ => none

namespace Processing

variable {s s' : Store} {source root : Path} {sources roots : List Path} {file : Place} {bytes : List UInt8}
  {run : Run}

/-! ### What comes of reading a file -/

/-- Are these bytes the text of a module? -/
def isModuleText (bytes : List UInt8) : Bool :=
  (Running.textOf bytes).toOption.any fun text => (Syntax.parseModule text (some bytes)).toOption.isSome

/-- The character of code zero is in the text. -/
def HoldsNull (bytes : List UInt8) : Prop := ∃ text, Utf8.decode bytes = .ok text ∧ '\x00' ∈ text.toList

/-- Unifying line ends makes no difference to this. -/
theorem holdsNull_iff {text : String} (h : Running.textOf bytes = .ok text) :
    HoldsNull bytes ↔ '\x00' ∈ text.toList := by
  rw [HoldsNull]
  rw [Running.textOf] at h
  rcases hdecode : Utf8.decode bytes with fault | written
  · rw [hdecode] at h
    cases h
  · rw [hdecode] at h
    obtain rfl := Except.ok.inj h
    rw [String.toList_ofList]
    constructor
    · rintro ⟨text, htext, hmem⟩
      obtain rfl := Except.ok.inj htext
      exact Syntax.mem_unifyLineEnds (by decide) hmem
    · exact fun hmem => ⟨written, rfl, Syntax.mem_of_mem_unifyLineEnds (by decide) hmem⟩

/-- What comes of reading the module of this name from these bytes at this path. -/
inductive Reads (name : String) (path : Path) (bytes : List UInt8) : Except RunFault Module → Prop
  /-- They are the text of a module. -/
  | module {m : Module} (hname : m.name = name) (hpath : m.path = path) (htext : isModuleText bytes = true)
    (hnull : ¬ HoldsNull bytes) : Reads name path bytes (.ok m)
  /-- They are not, and this is a fault of the source. -/
  | faulty {fault : SourceFault} (hfile : fault.file = some (name, path)) (htext : isModuleText bytes = false)
    (hnull : ¬ HoldsNull bytes) : Reads name path bytes (.error (.read (.source fault)))
  /-- They are not, because of the character of code zero. -/
  | null (htext : isModuleText bytes = false) (hnull : HoldsNull bytes) :
    Reads name path bytes (.error (.read .nullCharacter))

/-- **What comes of reading a file** depends on its bytes. -/
theorem reads_readModuleAt (hbytes : s.bytes ⟨root.root, root.parts ++ file⟩ = .ok bytes) :
    Reads (moduleNameAt file) ⟨root.root, root.parts ++ file⟩ bytes (readModuleAt s root file) := by
  rw [readModuleAt, readModule, hbytes, Outcome.mapError_ok]
  simp only [bind, Except.bind]
  rcases htext : Running.textOf bytes with fault | text
  · refine .faulty rfl (by rw [isModuleText, htext]; rfl) ?_
    rintro ⟨text, hdecode, -⟩
    rw [Running.textOf, hdecode] at htext
    cases htext
  · have hmodule : isModuleText bytes = (Syntax.parseModule text (some bytes)).toOption.isSome := by
      rw [isModuleText, htext]
      rfl
    simp only
    rcases hread : Module.ofText (moduleNameAt file) ⟨root.root, root.parts ++ file⟩
      (moduleNameOf ⟨.relative, file⟩).2 (some bytes) text with e | m
    · have hno : isModuleText bytes = false := by
        rw [hmodule, Option.isSome_eq_false_iff, Option.isNone_iff_eq_none, Option.eq_none_iff_forall_ne_some]
        intro body hbody
        obtain ⟨m, hm⟩ := Module.exists_ofText_iff.mpr ⟨body, Outcome.toOption_eq_some_iff.mp hbody⟩
        cases hread.symm.trans hm
      by_cases hnull : '\x00' ∈ text.toList
      · rw [Module.ofText_of_nullCharacter hnull] at hread
        obtain rfl := Except.error.inj hread
        exact .null hno ((holdsNull_iff htext).mpr hnull)
      · obtain ⟨fault, rfl⟩ := Module.source_of_ofText hread hnull
        exact .faulty rfl hno (fun h => hnull ((holdsNull_iff htext).mp h))
    · obtain ⟨body, hbody⟩ := Module.exists_ofText_iff.mp ⟨m, hread⟩
      refine .module (Module.name_of_ofText hread) (Module.path_of_ofText hread) ?_ fun h => ?_
      · rw [hmodule, hbody]
        rfl
      · cases (Module.ofText_of_nullCharacter ((holdsNull_iff htext).mp h)).symm.trans hread

/-! ### Roots with files that can be opened -/

/-- A source root is at a directory, and the bytes of the files below it can be read, whatever they are. -/
structure OpenRoot (s : Store) (source root : Path) : Prop where
  /-- Where it is. -/
  resolve_eq : s.resolve source = .ok root
  /-- It is a directory. -/
  isDirectory : s.isDirectory root = .ok true
  /-- The files below it can be read. -/
  exists_bytes : ∀ file ∈ sourceFiles s root, ∃ bytes, s.bytes ⟨root.root, root.parts ++ file⟩ = .ok bytes

/-- The character of code zero is in no file of a root that is to be read. -/
def NullFree (s : Store) (root : Path) : Prop :=
  ∀ file ∈ sourceFiles s root, moduleNameAt file ≠ "" → ∀ bytes,
    s.bytes ⟨root.root, root.parts ++ file⟩ = .ok bytes → ¬ HoldsNull bytes

/-- A root whose files can be opened is one that can be loaded iff the character of code zero is in none. -/
theorem OpenRoot.sourceRoot_iff (h : OpenRoot s source root) :
    SourceRoot s source root ↔ NullFree s root := by
  constructor
  · intro hroot file hfile hname bytes hbytes
    have htolerable := hroot.tolerable file hfile hname
    have hreads := reads_readModuleAt hbytes
    generalize readModuleAt s root file = result at htolerable hreads
    cases hreads with
    | module _ _ _ hnull => exact hnull
    | faulty _ _ hnull => exact hnull
    | null =>
      obtain ⟨reason, hreason⟩ := htolerable _ rfl
      cases hreason
  · refine fun hnull => ⟨h.resolve_eq, h.isDirectory, fun file hfile hname fault hfault => ?_⟩
    obtain ⟨bytes, hbytes⟩ := h.exists_bytes file hfile
    have hreads := reads_readModuleAt hbytes
    rw [hfault] at hreads
    cases hreads with
    | faulty => exact ⟨_, rfl⟩
    | null _ hnone => exact absurd hnone (hnull file hfile hname bytes hbytes)

/-- Roots are at one place. -/
theorem roots_unique {roots' : List Path} (h : List.Forall₂ (fun p p' => s.resolve p = .ok p') sources roots)
    (h' : List.Forall₂ (fun p p' => s.resolve p = .ok p') sources roots') : roots = roots' :=
  List.right_unique_forall₂' (fun _ _ _ hroot hroot' => Except.ok.inj (hroot.symm.trans hroot')) h h'

/-- The fault that ends the reading of such roots is that of a text with the character of code zero. -/
theorem fault_of_readRoots (h : List.Forall₂ (OpenRoot s) sources roots) {modules : Table Module}
    {faults : List SourceFault} {fault : RunFault}
    (hread : readRoots s true modules faults sources = .error fault) :
    fault = .read .nullCharacter := by
  induction h generalizing modules faults with
  | nil => cases hread
  | @cons source root sources roots hroot _ ih =>
    rw [readRoots, hroot.resolve_eq, Outcome.mapError_ok] at hread
    simp only [bind, Except.bind, hroot.isDirectory, Outcome.mapError_ok, Bool.not_true, Bool.false_eq_true,
      if_false] at hread
    rcases hmodules : readModules s root true modules faults (sourceFiles s root) with
      fault' | ⟨modules', faults'⟩
    · rw [hmodules] at hread
      obtain rfl := Except.error.inj hread
      obtain ⟨file, hfile, hnot, hfault⟩ := exists_of_readModules_eq_error hmodules
      obtain ⟨bytes, hbytes⟩ := hroot.exists_bytes file hfile
      have hreads := reads_readModuleAt hbytes
      rw [hfault] at hreads
      cases hreads with
      | null => rfl
      | faulty =>
        refine absurd (fun _ fault' hfault' => ?_) hnot
        exact ⟨_, (Except.error.inj (hfault.symm.trans hfault')).symm⟩
    · rw [hmodules] at hread
      exact ih hread

/-- **Where the character of code zero is in a file, nothing is loaded.** -/
theorem exec_loadTree_of_null (h : List.Forall₂ (OpenRoot run.store) sources roots)
    (hnull : ¬ ∀ root ∈ roots, NullFree run.store root) :
    exec (loadTree sources true) run = (.error (.read .nullCharacter), run) := by
  rcases hread : readRoots run.store true [] [] sources with fault | ⟨modules, faults⟩
  · obtain rfl := fault_of_readRoots h hread
    exact exec_loadTree_of_readRoots_eq_error hread
  · obtain ⟨roots', hroots', -⟩ := readRoots_eq_ok_iff.mp hread
    obtain rfl := roots_unique (h.imp fun _ _ => OpenRoot.resolve_eq)
      (hroots'.imp fun _ _ => SourceRoot.resolve_eq)
    refine absurd (fun root hroot => ?_) hnull
    obtain ⟨source, -, hopen⟩ := FluentBuilder.Outcome.exists_of_mem_right h hroot
    obtain ⟨_, -, hfound⟩ := FluentBuilder.Outcome.exists_of_mem_right hroots' hroot
    exact hopen.sourceRoot_iff.mp ⟨hopen.resolve_eq, hfound.isDirectory, hfound.tolerable⟩

/-! ### Loading without the files that cannot be read -/

/-- The files of a root that are to be read and are no texts of modules, in order. -/
def faultyFiles (s : Store) (root : Path) : List Place :=
  (sourceFiles s root).filter fun file =>
    !(moduleNameAt file).isEmpty && (s.fileAt (root.parts ++ file)).any fun bytes => !isModuleText bytes

/-- Where these files are. -/
def faultyPlaces (s : Store) (roots : List Path) : List Place :=
  roots.flatMap fun root => (faultyFiles s root).map (root.parts ++ ·)

/-- A file that is to be read is such a file iff its bytes are no text of a module. -/
theorem mem_faultyFiles_iff (hfile : file ∈ sourceFiles s root) (hname : moduleNameAt file ≠ "")
    (hbytes : s.fileAt (root.parts ++ file) = some bytes) :
    file ∈ faultyFiles s root ↔ isModuleText bytes = false := by
  rw [faultyFiles, List.mem_filter, hbytes, and_iff_right hfile]
  simp [hname]

/-- What stands at such a place is a file that is no text of a module. -/
theorem exists_of_mem_faultyPlaces {place : Place} (h : place ∈ faultyPlaces s roots) :
    ∃ bytes, s.fileAt place = some bytes ∧ isModuleText bytes = false := by
  obtain ⟨root, -, hmem⟩ := List.mem_flatMap.mp h
  obtain ⟨file, hfile, rfl⟩ := List.mem_map.mp hmem
  obtain ⟨-, hfaulty⟩ := List.mem_filter.mp hfile
  have htext := (Bool.and_eq_true_iff.mp hfaulty).2
  rcases hbytes : s.fileAt (root.parts ++ file) with _ | bytes
  · rw [hbytes] at htext
    cases htext
  · rw [hbytes] at htext
    exact ⟨bytes, rfl, by simpa using htext⟩

/-- So no directory stands there. -/
theorem node?_of_mem_faultyPlaces {place : Place} (h : place ∈ faultyPlaces s roots) :
    s.node? place ≠ some .directory := by
  obtain ⟨bytes, hbytes, -⟩ := exists_of_mem_faultyPlaces h
  rw [fileAt_eq_some_iff.mp hbytes]
  simp

/-- A root whose files can be opened, and those of which are deleted that cannot be read, with those of other
roots. -/
structure Cleared (s : Store) (roots : List Path) (source root : Path) : Prop where
  /-- The root. -/
  opened : OpenRoot s source root
  /-- It is one that was resolved. -/
  resolved : Resolved root
  /-- The store is sound. -/
  sound : s.Sound
  /-- Its names are proper. -/
  proper : s.Proper
  /-- The character of code zero is in none of the files. -/
  nullFree : NullFree s root
  /-- The root is one of those whose files are deleted. -/
  mem_roots : root ∈ roots

namespace Cleared

/-- The store without these files is sound, and has developed. -/
theorem after (h : Cleared s roots source root) : (s.without (faultyPlaces s roots)).Sound ∧
    Evolves (· ∈ faultyPlaces s roots) s (s.without (faultyPlaces s roots)) :=
  have hfiles : ∀ place ∈ faultyPlaces s roots, s.node? place ≠ some .directory :=
    fun _ => node?_of_mem_faultyPlaces
  ⟨h.sound.without hfiles, evolves_without hfiles⟩

/-- A file that is a module is not deleted. -/
theorem not_mem_faultyPlaces (h : Cleared s roots source root) (hfile : file ∈ sourceFiles s root)
    {m : Module} (hread : readModuleAt s root file = .ok m) : root.parts ++ file ∉ faultyPlaces s roots := by
  intro hgone
  obtain ⟨bytes, hbytes⟩ := h.opened.exists_bytes file hfile
  have hreads := reads_readModuleAt hbytes
  rw [hread] at hreads
  obtain ⟨bytes', hfound, hno⟩ := exists_of_mem_faultyPlaces hgone
  obtain rfl := Option.some.inj
    ((fileAt_of_bytes h.resolved h.sound h.proper hfile hbytes).2.symm.trans hfound)
  cases hreads with
  | module _ _ hyes => cases hyes.symm.trans hno

/-- A file that is still there is one that can be read, and it is read as before. -/
theorem read_of_mem (h : Cleared s roots source root)
    (hfile : file ∈ sourceFiles (s.without (faultyPlaces s roots)) root) :
    file ∈ sourceFiles s root ∧
      readModuleAt (s.without (faultyPlaces s roots)) root file = readModuleAt s root file ∧
      (moduleNameAt file ≠ "" → ∃ m, readModuleAt s root file = .ok m) := by
  obtain ⟨hsound', hevolves⟩ := h.after
  have hkept : root.parts ++ file ∉ faultyPlaces s roots := by
    intro hgone
    obtain ⟨-, bytes, hbytes⟩ := (mem_sourceFiles_iff hsound').mp hfile
    rw [fileAt_eq_some_iff, node?_without fun hnil => node?_of_mem_faultyPlaces hnil (node?_nil s),
      if_pos hgone] at hbytes
    cases hbytes
  have hbefore := (mem_sourceFiles_of_evolves h.sound hsound' hevolves hkept).mp hfile
  obtain ⟨bytes, hbytes⟩ := h.opened.exists_bytes file hbefore
  refine ⟨hbefore, readModuleAt_of_evolves h.resolved h.sound h.proper hevolves hkept hbefore hbytes,
    fun hname => ?_⟩
  have hreads := reads_readModuleAt hbytes
  have hfaulty := mem_faultyFiles_iff hbefore hname
    (fileAt_of_bytes h.resolved h.sound h.proper hbefore hbytes).2
  generalize readModuleAt s root file = result at hreads
  cases hreads with
  | @module m => exact ⟨m, rfl⟩
  | faulty _ hno =>
    refine absurd (List.mem_flatMap.mpr ⟨root, h.mem_roots, ?_⟩) hkept
    exact List.mem_map_of_mem (hfaulty.mpr hno)
  | null _ hnull => exact absurd hnull (h.nullFree file hbefore hname bytes hbytes)

/-- The root can be loaded then. -/
theorem sourceRoot (h : Cleared s roots source root) :
    SourceRoot (s.without (faultyPlaces s roots)) source root where
  resolve_eq := by rw [resolve_eq (without_current s _), h.opened.resolve_eq]
  isDirectory := h.after.2.isDirectory h.opened.isDirectory
  tolerable := by
    intro file hfile hname fault hfault
    obtain ⟨-, hsame, hok⟩ := h.read_of_mem hfile
    obtain ⟨m, hm⟩ := hok hname
    rw [hsame, hm] at hfault
    cases hfault

/-- **The modules below it are the same.** -/
theorem find?_modulesAt_eq (h : Cleared s roots source root) (name : String) :
    (modulesAt s root).find? name = (modulesAt (s.without (faultyPlaces s roots)) root).find? name := by
  obtain ⟨hsound', hevolves⟩ := h.after
  refine find?_modulesAt_eq_of_moduleAt_eq h.sound h.proper (fun file hfile hne => ?_) fun file hfile _ => ?_
  · obtain ⟨entry, hentry⟩ := Option.ne_none_iff_exists'.mp hne
    have hkept := h.not_mem_faultyPlaces hfile (moduleAt_filter_eq_some hentry).2.2
    obtain ⟨bytes, hbytes⟩ := h.opened.exists_bytes file hfile
    refine ⟨(mem_sourceFiles_of_evolves h.sound hsound' hevolves hkept).mpr hfile, ?_⟩
    rw [moduleAt, moduleAt,
      readModuleAt_of_evolves h.resolved h.sound h.proper hevolves hkept hfile hbytes]
  · obtain ⟨hbefore, hsame, -⟩ := h.read_of_mem hfile
    exact ⟨hbefore, by rw [moduleAt, moduleAt, hsame]⟩

/-- There is one fault for each of the files that cannot be read, in their order. -/
theorem map_file_faults (h : Cleared s roots source root) :
    ((sourceFiles s root).filterMap (faultAt s root)).map SourceFault.file =
      (faultyFiles s root).map fun file => some (moduleNameAt file, ⟨root.root, root.parts ++ file⟩) := by
  rw [List.map_filterMap, faultyFiles, ← List.filterMap_eq_filter, List.map_filterMap]
  refine List.filterMap_congr fun file hfile => ?_
  obtain ⟨bytes, hbytes⟩ := h.opened.exists_bytes file hfile
  have hfound := (fileAt_of_bytes h.resolved h.sound h.proper hfile hbytes).2
  rw [faultAt, Option.guard, hfound]
  by_cases hname : moduleNameAt file = ""
  · simp [hname]
  have hreads := reads_readModuleAt hbytes
  have hnull := h.nullFree file hfile hname bytes hbytes
  generalize readModuleAt s root file = result at hreads
  cases hreads with
  | module _ _ hyes => simp [hname, hyes]
  | faulty hsource hno => simp [hname, hno, hsource]
  | null _ hnone => exact absurd hnone hnull

end Cleared

/-! ### Every fault is collected -/

/-- What loading is to come to: a tree, with one fault for each file that cannot be read, in the order in
which they are met; and this tree is loaded without faults when the files have been deleted. -/
def Collected (sources roots : List Path) (run : Run) : Prop :=
  ∃ tree faults run', exec (loadTree sources true) run = (.ok (tree, faults), run') ∧
    faults.map SourceFault.file = (roots.flatMap fun root => (faultyFiles run.store root).map fun file =>
      some (moduleNameAt file, ⟨root.root, root.parts ++ file⟩)) ∧
    ∃ after, exec (loadTree sources true)
      { run with store := run.store.without (faultyPlaces run.store roots) } = (.ok (tree, []), after)

/-- **Loading comes to this iff the character of code zero is in no file.** -/
theorem collected_iff (hsound : run.store.Sound) (hproper : run.store.Proper)
    (h : List.Forall₂ (OpenRoot run.store) sources roots) :
    Collected sources roots run ↔ ∀ root ∈ roots, NullFree run.store root := by
  constructor
  · rintro ⟨tree, faults, run', hload, -⟩
    by_contra hnull
    cases (exec_loadTree_of_null h hnull).symm.trans hload
  intro hnull
  have hcleared : List.Forall₂ (Cleared run.store roots) sources roots :=
    FluentBuilder.Outcome.imp_of_mem (fun source _ root hroot hopen => ⟨hopen,
      resolved_of_resolve hsound hproper hopen.resolve_eq, hsound, hproper, hnull root hroot, hroot⟩) h
  have hroot : ∀ root ∈ roots, ∃ source ∈ sources, Cleared run.store roots source root :=
    fun root hmem => FluentBuilder.Outcome.exists_of_mem_right hcleared hmem
  -- Both stores can be loaded.
  have hread := readRoots_of_sourceRoots (FluentBuilder.Outcome.imp_of_mem (fun source _ root hmem hopen =>
    hopen.sourceRoot_iff.mpr (hnull root hmem)) h)
  have hread' := readRoots_of_sourceRoots (hcleared.imp fun _ _ => Cleared.sourceRoot)
  obtain ⟨run', hload, -⟩ := exec_loadTree_of_readRoots hread
  obtain ⟨after, hload', -⟩ := exec_loadTree_of_readRoots (show readRoots
    (Run.store { run with store := run.store.without (faultyPlaces run.store roots) }) true [] [] sources = _
    from hread')
  refine ⟨_, _, run', hload, ?_, after, ?_⟩
  · rw [List.map_flatMap]
    refine List.flatMap_congr fun root hmem => ?_
    obtain ⟨source, -, hfound⟩ := hroot root hmem
    exact hfound.map_file_faults
  · -- Nothing is left that cannot be read, and the same module is found under every name.
    have hnone := (faults_eq_nil_iff hread').mpr fun source hsource root hresolve file hfile hname => by
      obtain ⟨root', -, hfound⟩ := FluentBuilder.Outcome.exists_of_mem_left hcleared hsource
      obtain rfl := Except.ok.inj (hresolve.symm.trans hfound.sourceRoot.resolve_eq)
      obtain ⟨-, hsame, hok⟩ := hfound.read_of_mem hfile
      exact hsame ▸ hok hname
    rw [hload', hnone]
    congr 3
    refine (ofModules_eq_of_find?_eq fun root hmem name => ?_).symm
    obtain ⟨source, -, hfound⟩ := hroot root hmem
    exact hfound.find?_modulesAt_eq name

/-! ### A directory with three files -/

/-- The directory that is loaded. -/
def shelfRoot : Path := ⟨.absolute, ["src"]⟩

/-- A directory with the module of a class, and two more files. -/
def shelf (first second : List UInt8) : Store :=
  ⟨[(["src"], .directory), (["src", "a.py"], .file (Utf8.encode "class Car:\n    pass\n")),
    (["src", "b.py"], .file first), (["src", "c.py"], .file second)], [], "/root"⟩

/-- It can be opened. -/
theorem openRoot_of_shelf (first second : List UInt8) :
    (shelf first second).Sound ∧ (shelf first second).Proper ∧
      List.Forall₂ (OpenRoot (shelf first second)) [shelfRoot] [shelfRoot] := by
  have hnodes : (shelf first second).nodes = [(["src"], .directory),
      (["src", "a.py"], .file (Utf8.encode "class Car:\n    pass\n")), (["src", "b.py"], .file first),
      (["src", "c.py"], .file second)] := rfl
  have hfiles : sourceFiles (shelf first second) shelfRoot = [["a.py"], ["b.py"], ["c.py"]] := rfl
  refine ⟨⟨rooted_of_nodes ?_, ?_, rfl⟩, ?_, .cons ⟨rfl, rfl, ?_⟩ .nil⟩
  · rw [hnodes]
    simp only [List.forall_mem_cons]
    exact ⟨rfl, rfl, rfl, rfl, fun _ h => absurd h List.not_mem_nil⟩
  · rw [hnodes]
    simp only [List.forall_mem_cons]
    exact ⟨rfl, rfl, rfl, rfl, fun _ h => absurd h List.not_mem_nil⟩
  · have hnames : ∀ place ∈ [["src"], ["src", "a.py"], ["src", "b.py"], ["src", "c.py"]], ∀ name ∈ place,
        '/' ∉ name.toList ∧ '\x00' ∉ name.toList ∧ name ≠ ".." := by decide
    exact fun entry hentry => hnames entry.1 (List.mem_map_of_mem (hnodes ▸ hentry))
  · rw [hfiles]
    simp only [List.forall_mem_cons]
    exact ⟨⟨_, rfl⟩, ⟨_, rfl⟩, ⟨_, rfl⟩, fun _ h => absurd h List.not_mem_nil⟩

/-- Bytes that are no text at all, and a text that is no text of a module. -/
def spoiledShelf : Store := shelf [0xff] (Utf8.encode "x = (\n")

/-- Both are collected. -/
theorem collected_of_spoiledShelf :
    faultyFiles spoiledShelf shelfRoot = [["b.py"], ["c.py"]] ∧
      Collected [shelfRoot] [shelfRoot] ⟨spoiledShelf, [], []⟩ := by
  obtain ⟨hsound, hproper, hopen⟩ := openRoot_of_shelf [0xff] (Utf8.encode "x = (\n")
  have htexts : ∀ file ∈ sourceFiles spoiledShelf shelfRoot,
      (spoiledShelf.bytes ⟨shelfRoot.root, shelfRoot.parts ++ file⟩).toOption.all (fun bytes =>
        (Utf8.decode bytes).toOption.all fun text => '\x00' ∉ text.toList) = true := by decide
  have hiff : Collected [shelfRoot] [shelfRoot] ⟨spoiledShelf, [], []⟩ ↔
      ∀ root ∈ [shelfRoot], NullFree spoiledShelf root := collected_iff hsound hproper hopen
  refine ⟨by decide +kernel, hiff.mpr ?_⟩
  rintro root hroot file hfile - bytes hbytes ⟨text, htext, hnull⟩
  obtain rfl := List.mem_singleton.mp hroot
  have hfree := htexts file hfile
  rw [hbytes] at hfree
  simp only [Except.toOption, Option.all_some, htext] at hfree
  exact of_decide_eq_true hfree hnull

/-- A module with the character of code zero, and one without statements. -/
def brokenShelf : Store := shelf (Utf8.encode "x = 1\x00\n") []

/-- There nothing is loaded. -/
theorem not_collected_of_brokenShelf :
    brokenShelf.Sound ∧ brokenShelf.Proper ∧ List.Forall₂ (OpenRoot brokenShelf) [shelfRoot] [shelfRoot] ∧
      exec (loadTree [shelfRoot] true) ⟨brokenShelf, [], []⟩ =
        (.error (.read .nullCharacter), ⟨brokenShelf, [], []⟩) ∧
      ¬ Collected [shelfRoot] [shelfRoot] ⟨brokenShelf, [], []⟩ := by
  obtain ⟨hsound, hproper, hopen⟩ := openRoot_of_shelf (Utf8.encode "x = 1\x00\n") []
  have hdone : exec (loadTree [shelfRoot] true) ⟨brokenShelf, [], []⟩ =
      (.error (.read .nullCharacter), ⟨brokenShelf, [], []⟩) := by
    refine exec_loadTree_of_null hopen fun hnull => ?_
    refine hnull shelfRoot List.mem_cons_self ["b.py"] (by decide) (by decide) _ rfl ?_
    exact ⟨"x = 1\x00\n", Utf8.decode_encode _, by decide⟩
  refine ⟨hsound, hproper, hopen, hdone, ?_⟩
  rintro ⟨tree, faults, run', hload, -⟩
  cases hdone.symm.trans hload

end Processing
end FluentBuilder
