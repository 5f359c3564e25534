import FluentBuilder.Proofs.Processing.Reloading
import FluentBuilder.Proofs.Processing.Settled

/-!
# Whole runs beside their sources

Where a run writes no file below a source root (`Beside`), the next run loads the same sources
(`Beside.loaded_again`), and works on the same declarations. If it finds the directory to write to, then it
changes no file, has outcomes for the same elements, and leaves alone all that was as it should be
(`Beside.exec_again`).

**The directory to write to.** It can be looked at in the first run, but perhaps not in the second one: a
name in its path that is too long is not noticed where a directory before it is missing, and the first run
makes that directory. Then the second run ends at once (`Beside.exec_refused`). This does not happen if
something is as it should be, or nothing is marked (`Beside.exists_look`).
-/

namespace FluentBuilder.Processing

open Stateful Source Store

variable {config : Config} {run run' later : Run} {root : Path} {tree : Tree} {p : Path}
variable {s : Surroundings} {e : Emitter} {ds : List Declaration}

/-! ### One round -/

/-- The annotations of classes whose outcomes are known can be resolved. -/
theorem Passes.resolved {outcomes : List Outcome} {progress progress' : Progress}
    (h : Passes s e ds progress run outcomes progress' run') (hrefs : Resolving.Sound s progress.refs) :
    ∀ d ∈ ds, s.tree.kindOf d = .plainClass → ∀ fault, schemaOf s d ≠ .error (.resolve fault) := by
  induction h with
  | nil => exact fun d hd => absurd hd List.not_mem_nil
  | @cons d rest o outcomes progress progress' _ run run' _ hone hrest ih =>
    rcases worked_processOne hrefs e d run with
      ⟨_, _, _, hone', hrefs', -, -, hspared⟩ | ⟨fault, _, hone', -, -⟩
    · cases hone.symm.trans hone'
      exact List.forall_mem_cons.mpr ⟨fun hkind => (hspared hkind).resolved, ih hrefs'⟩
    · cases hone.symm.trans hone'

/-- The second outcomes are about the same elements. -/
theorem AllAgain.elements_eq {s' : Surroundings} {outcomes outcomes' : List Outcome}
    (h : AllAgain s s' ds outcomes outcomes') :
    outcomes'.map Outcome.element = outcomes.map Outcome.element := by
  induction h with
  | nil => rfl
  | cons hagain _ ih => rw [List.map_cons, List.map_cons, ih, hagain.element_eq, hagain.element_eq']

/-- What a second run reports, beside the first one: the same elements, and all that was as it should be
is unchanged, at the same path and under the same name. -/
structure SameReport (outcomes outcomes' : List Outcome) : Prop where
  /-- The elements are the same, in the same order. -/
  elements : outcomes'.map Outcome.element = outcomes.map Outcome.element
  /-- What was as it should be is unchanged. -/
  unchanged : List.Forall₂ (fun o o' => o.isOk = true →
    o'.status = .emitted .unchanged ∧ o'.path = o.path ∧ o'.module = o.module) outcomes outcomes'

/-- **A round that is repeated at once** comes to an end, changes no file, and reports the same. -/
theorem processRound_again (check : Bool) {isLast : Bool} (isLast' : Bool) (hroot : Resolved root)
    (hsound : run.store.Sound) (hnames : ∀ d ∈ tree.marked, Plain d)
    (htexts : ∀ d ∈ tree.marked, ∀ b, builderOf? (.ofTree tree) d = some b → '\r' ∉ b.render.toList)
    {first : RoundResult} (hfirst : exec (processRound ⟨root, false⟩ tree isLast) run = (.ok first, run'))
    (hstore : later.store = run'.store) :
    ∃ second later', exec (processRound ⟨root, check⟩ tree isLast') later = (.ok second, later') ∧
      SameReport first.outcomes second.outcomes ∧
      ∀ place, later'.store.fileAt place = later.store.fileAt place := by
  obtain ⟨runA, hcontinues, hall⟩ := exec_processRound_ok hfirst
  obtain ⟨progress, hpasses⟩ := passes_iff.mp hall
  have hcompatible : ∀ d ∈ tree.marked, Compatible (.ofTree tree) (.ofTree tree) d := fun d hd =>
    ⟨hpasses.resolved (Resolving.sound_nil _) d hd, fun b hb => ⟨b, hb⟩⟩
  have hroots : (⟨root, check⟩ : Emitter).root = (⟨root, false⟩ : Emitter).root := rfl
  obtain ⟨second, later', hsecond, hagain⟩ := repeats_processRound hroots hroot.not_up hroot.not_null rfl
    hcompatible hnames htexts hsound hfirst hstore
  exact ⟨second, later', hsecond, ⟨hagain.elements_eq, hagain.unchanged fun _ _ => rfl⟩,
    fileAt_of_processRound_again hroot hsound hnames htexts hfirst hstore hsecond⟩

/-! ### Runs beside their sources -/

/-- A run that writes beside its sources: it finds the directory to write to and loads the sources, there
are no carriage returns in the builders, and no file of a builder is below a source root. -/
structure Beside (config : Config) (run : Run) (root : Path) (tree : Tree) : Prop where
  /-- The store is one that file systems have. -/
  sound : run.store.Sound
  /-- So are its names. -/
  proper : run.store.Proper
  /-- The directory to write to is found. -/
  outputRoot : exec (Running.outputRoot config.toOptions) run = (.ok root, run)
  /-- The sources are loaded. -/
  loaded : Loaded run.store config.sourceRoots tree
  /-- There are no carriage returns. -/
  no_return : ∀ d ∈ tree.marked, ∀ b, builderOf? (.ofTree tree) d = some b → '\r' ∉ b.render.toList
  /-- No file of a builder is below a source root. -/
  outside : ∀ source ∈ config.sourceRoots, ∀ top, run.store.resolve source = .ok top →
    ∀ d ∈ tree.marked, ∀ b, builderOf? (.ofTree tree) d = some b →
      ∀ names ≠ [], (b.outputPath root).parts ≠ top.parts ++ names

namespace Beside

/-- The directory to write to is resolved. -/
theorem resolved (h : Beside config run root tree) : Resolved root := by
  obtain ⟨-, ⟨path, hresolve⟩, -⟩ := Running.exec_outputRoot h.outputRoot
  exact resolved_of_resolve h.sound h.proper hresolve

/-- The names of declarations are those that can be read from sources. -/
theorem plain (h : Beside config run root tree) : ∀ d ∈ tree.marked, Plain d :=
  h.loaded.plain h.sound h.proper

/-- **What a run comes to**: it is a round over the sources. -/
theorem exists_round (h : Beside config run root tree) {results : List RoundResult}
    (hrun : exec (generate config false) run = (.ok results, run')) :
    ∃ first runA runB, results = [first, ⟨[]⟩] ∧ runA.store = run.store ∧ runB.store = run'.store ∧
      exec (processRound ⟨root, false⟩ tree false) runA = (.ok first, runB) := by
  obtain ⟨root', tree', runA, first, runB, errors, hroot, hloaded, hreported, -, hfirst, rfl, hend⟩ :=
    exec_generate_ok hrun
  obtain rfl := Except.ok.inj (Prod.mk.inj (h.outputRoot.symm.trans hroot)).1
  obtain rfl := h.loaded.unique hloaded
  exact ⟨first, runA, runB, rfl, hreported.store_eq, hend.store_eq.symm, hfirst⟩

/-- **Nothing is written below a source root.** -/
theorem untouched (h : Beside config run root tree) {first : RoundResult}
    (hstore : later.store = run.store)
    (hfirst : exec (processRound ⟨root, false⟩ tree false) later = (.ok first, run')) :
    ∀ source ∈ config.sourceRoots, ∀ top, SourceRoot run.store source top →
      Rewritten top [] (GeneratedAt first.outcomes run'.store) run.store run'.store := by
  intro source hsource top htop
  obtain ⟨runA, hcontinues, hall⟩ := exec_processRound_ok hfirst
  have hrefs := Resolving.sound_nil (.ofTree tree)
  have hcompleted := completed_processAll hrefs hall
  have hbegin : runA.store = run.store := hcontinues.store_eq.trans hstore
  have hsound' := (undecodable_of_processAll hrefs (hbegin ▸ h.sound) hall).1
  have hevolves := hcompleted.evolves
  rw [hbegin] at hevolves
  have hresolved := resolved_of_resolve h.sound h.proper htop.resolve_eq
  refine rewritten_of_untouched hresolved h.sound h.proper hsound' hevolves ?_
  rintro names ⟨o, ho, hstatus, p, hpath, hplace⟩
  -- What was generated is the builder of a marked class.
  have hholds := hcompleted.holds fun d hd b hb => below_of_builderOf? (h.plain d hd).1 hb root
  obtain ⟨d, hd, hheld⟩ := FluentBuilder.Outcome.exists_of_mem_right hholds ho
  obtain ⟨b, hb, hpath', hbytes⟩ := hheld hstatus
  obtain rfl := Option.some.inj (hpath.symm.trans hpath')
  have htarget := target_outputPath (h.plain d hd) hb h.resolved
  have hparts := htarget.path.eq_of_placeOf hplace
  by_cases hnames : names = []
  · -- A directory stands at the root.
    obtain ⟨-, place, htopPlace, hdirectory⟩ := isDirectory_eq_true_iff.mp htop.isDirectory
    obtain rfl := hresolved.eq_of_placeOf htopPlace
    obtain ⟨-, place', hplace', hfile⟩ := bytes_eq_ok_iff.mp hbytes
    obtain rfl := Except.ok.inj (hplace.symm.trans hplace')
    rw [hnames, List.append_nil, fileAt_eq_some_iff, hevolves.directory _ hdirectory] at hfile
    cases hfile
  · exact h.outside source hsource top htop.resolve_eq d hd b hb names hnames hparts.symm

/-- **The same sources are loaded again**, and can still be read. -/
theorem loaded_again (h : Beside config run root tree) {results : List RoundResult}
    (hrun : exec (generate config false) run = (.ok results, run')) :
    Loaded run'.store config.sourceRoots tree ∧
      (AllRead run.store config.sourceRoots → AllRead run'.store config.sourceRoots) := by
  obtain ⟨first, runA, runB, -, hbegin, hend, hfirst⟩ := h.exists_round hrun
  have huntouched := h.untouched hbegin hfirst
  rw [hend] at huntouched
  exact ⟨loaded_of_untouched huntouched h.loaded, allRead_of_untouched huntouched h.loaded⟩

/-- The directory to write to is found again where it can be looked at. -/
theorem exec_outputRoot_again (h : Beside config run root tree) {results : List RoundResult}
    (hrun : exec (generate config false) run = (.ok results, run')) (hstore : later.store = run'.store) :
    exec (Running.outputRoot config.toOptions) later =
      (match run'.store.look root with
        | .error fault => .error (.store fault)
        | .ok _ => .ok root, later) := by
  obtain ⟨first, runA, runB, -, hbegin, hend, hfirst⟩ := h.exists_round hrun
  obtain ⟨runC, hcontinues, hall⟩ := exec_processRound_ok hfirst
  obtain ⟨-, -, hfit, hagain⟩ := Running.exec_outputRoot h.outputRoot
  have hstart : runC.store = run.store := hcontinues.store_eq.trans hbegin
  have hevolves := (completed_processAll (Resolving.sound_nil _) hall).evolves
  obtain ⟨last, hsince⟩ := since_processAll (fun d hd => (h.plain d hd).1) (Resolving.sound_nil _)
    (Since.refl (hstart ▸ h.sound.rooted) h.resolved.not_up : Since root runC.store [] runC.store) hall
  rw [hagain later (by rw [hstore, ← hend, hevolves.home_eq, hstart])
    (by rw [hstore, ← hend, hevolves.current_eq, hstart])]
  -- No file stands at the root, since none did.
  have hfree : ¬ Running.Blocked run'.store root := by
    rw [← hend, hsince.blocked_iff, hstart]
    exact hfit.not_blocked
  rcases Running.fit_or_blocked_or_error run'.store root with hfit' | hblocked | ⟨fault, hlook⟩
  · obtain ⟨node, hnode⟩ := hfit'.exists_look
    rw [exec_bind_of_ok (Running.exec_checkOutput_of_fit (hstore ▸ hfit')), exec_pure, hnode]
  · exact absurd hblocked hfree
  · rw [exec_bind_of_error (Running.exec_checkOutput_of_error (hstore ▸ hlook)), hlook]

/-- **Where the directory to write to cannot be looked at any more**, the next run ends at once. -/
theorem exec_refused (h : Beside config run root tree) {results : List RoundResult}
    (hrun : exec (generate config false) run = (.ok results, run')) (hstore : later.store = run'.store)
    {fault : StoreFault} (hlook : run'.store.look root = .error fault) (check : Bool) :
    exec (generate config check) later = (.error (.store fault), later) := by
  have houtput := h.exec_outputRoot_again hrun hstore
  rw [hlook] at houtput
  rw [generate, exec_bind_of_error houtput]

/-- **Where it can be looked at**, the next run comes to an end, changes no file, and reports the same. -/
theorem exec_again (h : Beside config run root tree) {first last : RoundResult}
    (hrun : exec (generate config false) run = (.ok [first, last], run'))
    (hstore : later.store = run'.store) (hlook : ∃ node, run'.store.look root = .ok node) (check : Bool) :
    ∃ second later', exec (generate config check) later = (.ok [second, ⟨[]⟩], later') ∧
      SameReport first.outcomes second.outcomes ∧
      ∀ place, later'.store.fileAt place = later.store.fileAt place := by
  obtain ⟨_, runA, runB, hresults, hbegin, hend, hfirst⟩ := h.exists_round hrun
  obtain ⟨rfl, hlast⟩ := List.cons.inj hresults
  obtain ⟨node, hnode⟩ := hlook
  have houtput := h.exec_outputRoot_again hrun hstore
  rw [hnode] at houtput
  have hloaded := (h.loaded_again hrun).1
  rw [← hstore] at hloaded
  obtain ⟨runC, errors, hreported, -, hgenerate⟩ := exec_generate_of_loaded check houtput hloaded
  have hkept : runC.store = runB.store := by rw [hreported.store_eq, hstore, hend]
  obtain ⟨second, runD, hsecond, hsame, hfiles⟩ := processRound_again check false h.resolved
    (hbegin ▸ h.sound) h.plain h.no_return hfirst hkept
  obtain ⟨runE, hover, hcontinues⟩ := exec_lastRound ⟨root, check⟩ runD
  refine ⟨second, runE, ?_, hsame, fun place => ?_⟩
  · rw [hgenerate, roundsOver, exec_bind_of_ok hsecond, exec_bind_of_ok hover, exec_pure]
  · rw [hcontinues.store_eq, hfiles, hreported.store_eq]

/-- **It can be looked at if all is as it should be.** -/
theorem exists_look (h : Beside config run root tree) {first last : RoundResult}
    (hrun : exec (generate config false) run = (.ok [first, last], run'))
    (hok : ∀ o ∈ first.outcomes, o.isOk = true) : ∃ node, run'.store.look root = .ok node := by
  obtain ⟨_, runA, runB, hresults, hbegin, hend, hfirst⟩ := h.exists_round hrun
  obtain ⟨rfl, hlast⟩ := List.cons.inj hresults
  obtain ⟨runC, hcontinues, hall⟩ := exec_processRound_ok hfirst
  have hstands := stands_processAll (fun d hd => (h.plain d hd).1) h.no_return (Resolving.sound_nil _) hall
  rw [← hend]
  rcases hmarked : tree.marked with _ | ⟨d, rest⟩
  · -- Nothing was done.
    rw [hmarked] at hall
    obtain rfl : runC = runB := (Prod.mk.inj hall).2
    obtain ⟨-, -, hfit, -⟩ := Running.exec_outputRoot h.outputRoot
    rw [hcontinues.store_eq, hbegin]
    exact hfit.exists_look
  · rw [hmarked] at hstands
    obtain ⟨o, others, hstand, -, houtcomes⟩ := List.forall₂_cons_left_iff.mp hstands
    obtain ⟨b, hb, -, htext⟩ := hstand (hok o (houtcomes ▸ List.mem_cons_self))
    obtain ⟨bytes, hbytes, -⟩ := textAt_eq_some_iff.mp htext
    have hd : Plain d := h.plain d (hmarked ▸ List.mem_cons_self)
    exact (Evolves.refl (fun _ => True) runB.store).exists_look_of_below
      (below_of_builderOf? hd.1 hb root) hbytes

end Beside

end FluentBuilder.Processing
