import FluentBuilder.Proofs.Processing.Halting
import FluentBuilder.Proofs.Processing.Spelling
import FluentBuilder.Proofs.Processing.Verdict

/-!
# Whole runs

A whole run finds the directory to write to, loads the sources and works on them in one round, with one
more round over nothing (`exec_generate_ok`, `exec_generate_of_loaded`). Up to the round it only looks at
the files.

**Refusals.** A configuration is refused before anything is written (`exec_generate_refused`): the one
fault of a configuration that a round can have is that a file stands at the root, and then it stood there
at the beginning, where the run has looked (`blocked_of_processAll`).
-/

namespace FluentBuilder.Processing

open Stateful Source Store

variable {s : Store} {root : Path} {run run' : Run} {config : Config} {check : Bool} {tree : Tree}

/-! ### The directory to write to -/

/-- A directory is fit to write to. -/
theorem Running.fit_of_isDirectory (h : s.isDirectory root = .ok true) : Fit s root := by
  rw [isDirectory] at h
  rcases hlook : s.look root with fault | _ | _ | _
  · rw [hlook] at h
    cases h
  · exact .inl hlook
  · rw [hlook] at h
    cases h
  · exact .inr hlook

/-- A part that only looks leaves the run as it is. -/
theorem Running.exec_checkOutput_snd (root : Path) (run : Run) :
    (exec (checkOutput root) run).2 = run := by
  rcases fit_or_blocked_or_error run.store root with hfit | hblocked | ⟨fault, hlook⟩
  · rw [exec_checkOutput_of_fit hfit]
  · rw [exec_checkOutput_of_blocked hblocked]
  · rw [exec_checkOutput_of_error hlook]

/-- The directory to write to is looked for without changes. -/
theorem Running.exec_outputRoot_snd (options : Options) (run : Run) :
    (exec (outputRoot options) run).2 = run := by
  rw [outputRoot, exec_ite]
  split
  · rfl
  simp only
  rw [exec_bind_of_ok (exec_get run)]
  split
  · rfl
  next path hpath =>
  rw [exec_bind, exec_look]
  rcases run.store.resolve path with fault | found
  · rfl
  have hcheck := exec_checkOutput_snd found run
  simp only [Outcome.mapError_ok, exec_bind]
  rcases hresult : exec (checkOutput found) run with ⟨fault | _, run'⟩
  · rw [hresult] at hcheck
    exact hcheck
  · rw [hresult] at hcheck
    exact hcheck

/-- The directory that is found is fit to write to, and is found again from every store with the same
home and current directory in which it is fit. -/
theorem Running.exec_outputRoot {options : Options}
    (h : exec (outputRoot options) run = (.ok root, run')) :
    run' = run ∧ (∃ path, run.store.resolve path = .ok root) ∧ Fit run.store root ∧
      ∀ later : Run, later.store.home = run.store.home → later.store.current = run.store.current →
        exec (outputRoot options) later = exec (do checkOutput root; return root) later := by
  have hsame := exec_outputRoot_snd options run
  rw [h] at hsame
  refine ⟨hsame, ?_⟩
  rw [outputRoot, exec_ite] at h
  split at h
  · cases h
  next hnamed =>
  simp only at h
  rw [exec_bind_of_ok (exec_get run)] at h
  split at h
  · cases h
  next path hpath =>
  obtain ⟨found, runA, hresolve, h⟩ := exec_bind_ok_iff.mp h
  rw [exec_look] at hresolve
  obtain ⟨hfound, rfl⟩ := Prod.mk.inj hresolve
  obtain ⟨⟨⟩, runB, hcheck, h⟩ := exec_bind_ok_iff.mp h
  obtain ⟨hroot, -⟩ := Prod.mk.inj h
  obtain rfl := Except.ok.inj hroot
  refine ⟨⟨path, Outcome.mapError_eq_ok_iff.mp hfound⟩, ?_, fun later hhome hcurrent => ?_⟩
  · -- The root is fit: otherwise it would have been refused.
    rcases fit_or_blocked_or_error run.store found with hfit | hblocked | ⟨fault, hlook⟩
    · exact hfit
    · cases hcheck.symm.trans (exec_checkOutput_of_blocked hblocked)
    · cases hcheck.symm.trans (exec_checkOutput_of_error hlook)
  · rw [outputRoot, exec_ite, if_neg hnamed]
    simp only
    rw [exec_bind_of_ok (exec_get later), hhome, hpath]
    have hlater : exec (look (·.resolve path)) later = (.ok found, later) := by
      rw [exec_look, resolve_eq hcurrent, hfound]
    simp only
    rw [exec_bind_of_ok hlater]

/-- Where the directory is fit, it is found again. -/
theorem Running.exec_outputRoot_of_fit {options : Options} {later : Run}
    (h : exec (outputRoot options) run = (.ok root, run')) (hhome : later.store.home = run.store.home)
    (hcurrent : later.store.current = run.store.current) (hfit : Fit later.store root) :
    exec (outputRoot options) later = (.ok root, later) := by
  obtain ⟨-, -, -, hagain⟩ := exec_outputRoot h
  rw [hagain later hhome hcurrent, exec_bind_of_ok (exec_checkOutput_of_fit hfit), exec_pure]

/-- A directory that is named, and at which no file stands, is found. -/
theorem Running.exec_outputRoot_of_text {options : Options} {text : String} {path : Path}
    (htext : Text.stripBlanks ((options.find? outputOption).getD []).toTextMarking = text)
    (hsome : text.isEmpty = false)
    (hhome : Store.expandHome run.store.home (Path.ofText text) = some path)
    (hresolve : run.store.resolve path = .ok root) (hfit : Fit run.store root) :
    exec (outputRoot options) run = (.ok root, run) := by
  have hlooked : exec (look (·.resolve path)) run = (.ok root, run) := by
    rw [exec_look, hresolve]
    rfl
  rw [outputRoot, htext, exec_ite, if_neg (by simp [hsome])]
  simp only
  rw [exec_bind_of_ok (exec_get run), hhome]
  simp only
  rw [exec_bind_of_ok hlooked, exec_bind_of_ok (exec_checkOutput_of_fit hfit), exec_pure]

/-! ### The other parts -/

/-- Every fault of a source is reported as an error. -/
theorem exec_reportFaults (faults : List SourceFault) (run : Run) :
    ∃ errors run', exec (faults.forM fun fault => do
      let _ ← Running.error fault.message none none fault.location) run = (.ok ⟨⟩, run') ∧
        Run.Continues errors run run' ∧ (errors = [] ↔ faults = []) := by
  induction faults generalizing run with
  | nil => exact ⟨[], run, rfl, .refl run, by simp⟩
  | cons fault rest ih =>
    obtain ⟨d, run₁, herror, -, hfirst⟩ := Running.exec_error fault.message none none fault.location run
    obtain ⟨errors, run₂, hothers, hrest, -⟩ := ih run₁
    refine ⟨_, run₂, ?_, hfirst.trans hrest, by simp⟩
    have hone : exec (do let _ ← Running.error fault.message none none fault.location) run =
        (.ok ⟨⟩, run₁) := exec_bind_of_ok herror
    rw [List.forM_eq_forM, List.forM_cons, exec_bind_of_ok hone]
    exact hothers

/-- The last round has nothing to work on. -/
theorem exec_lastRound (e : Emitter) (run : Run) :
    ∃ run', exec (processRound e Tree.empty true) run = (.ok ⟨[]⟩, run') ∧
      Run.Continues [] run run' := by
  obtain ⟨run', hcontinues, hround⟩ := exec_processRound e Tree.empty true run
  exact ⟨run', hround, hcontinues⟩

/-- What is left of a whole run when the sources are loaded. -/
def roundsOver (e : Emitter) (tree : Tree) : Running (List RoundResult) := do
  let first ← processRound e tree false
  let last ← processRound e Tree.empty true
  return [first, last]

/-- Nothing comes of it but the outcomes of the round over the sources. -/
theorem exec_roundsOver_ok {e : Emitter} {results : List RoundResult}
    (h : exec (roundsOver e tree) run = (.ok results, run')) :
    ∃ first runB, exec (processRound e tree false) run = (.ok first, runB) ∧
      results = [first, ⟨[]⟩] ∧ Run.Continues [] runB run' := by
  obtain ⟨first, runB, hfirst, h⟩ := exec_bind_ok_iff.mp h
  obtain ⟨runC, hlast, hkept⟩ := exec_lastRound e runB
  rw [exec_bind_of_ok hlast, exec_pure] at h
  obtain ⟨hresults, rfl⟩ := Prod.mk.inj h
  exact ⟨first, runB, hfirst, (Except.ok.inj hresults).symm, hkept⟩

/-- It fails as the round over the sources does. -/
theorem exec_roundsOver_error {e : Emitter} {fault : RunFault}
    (h : exec (roundsOver e tree) run = (.error fault, run')) :
    exec (processRound e tree false) run = (.error fault, run') := by
  rcases exec_bind_cases h with ⟨fault', hfirst, heq⟩ | ⟨first, runB, hfirst, hrest⟩
  · obtain rfl := Except.error.inj heq
    exact hfirst
  · obtain ⟨runC, hlast, -⟩ := exec_lastRound e runB
    rw [exec_bind_of_ok hlast] at hrest
    cases hrest

/-- **All that can come of a whole run before its rounds**: it fails without changes of the files, or the
sources are loaded, and an error is reported for every module that cannot be read. -/
theorem exec_generate_cases (config : Config) (check : Bool) (run : Run) :
    (∃ fault run', exec (generate config check) run = (.error fault, run') ∧ run'.store = run.store ∧
      ¬ ∃ root tree, exec (Running.outputRoot config.toOptions) run = (.ok root, run) ∧
        Loaded run.store config.sourceRoots tree) ∨
    ∃ root tree runA errors, exec (Running.outputRoot config.toOptions) run = (.ok root, run) ∧
      Loaded run.store config.sourceRoots tree ∧ Run.Continues errors run runA ∧
      (errors = [] ↔ AllRead run.store config.sourceRoots) ∧
      exec (generate config check) run = exec (roundsOver ⟨root, check⟩ tree) runA := by
  have hsame := Running.exec_outputRoot_snd config.toOptions run
  rcases houtput : exec (Running.outputRoot config.toOptions) run with ⟨fault | root, run₁⟩
  · rw [houtput] at hsame
    obtain rfl : run₁ = run := hsame
    refine .inl ⟨fault, run₁, by rw [generate, exec_bind_of_error houtput], rfl, ?_⟩
    rintro ⟨root, tree, hroot, -⟩
    cases hroot
  rw [houtput] at hsame
  obtain rfl : run₁ = run := hsame
  rcases exec_loadTree config.sourceRoots run₁ with
    ⟨modules, faults, runL, hread, hload, hcontinues⟩ | ⟨⟨fault, hload⟩, hnone⟩
  · obtain ⟨errors, runA, hfaults, hreported, hnil⟩ := exec_reportFaults faults runL
    refine .inr ⟨root, Tree.ofModules modules, runA, errors, rfl, ⟨modules, faults, hread, rfl⟩,
      hcontinues.trans hreported, hnil.trans (faults_eq_nil_iff hread), ?_⟩
    have hattempt : exec (attempt (loadTree config.sourceRoots true)) run₁ =
        (.ok (.ok (Tree.ofModules modules, faults)), runL) := by
      rw [Running.exec_attempt, hload]
    rw [generate, exec_bind_of_ok houtput, exec_bind, exec_bind_of_ok hattempt]
    exact exec_bind_of_ok hfaults
  · have hattempt : exec (attempt (loadTree config.sourceRoots true)) run₁ =
        (.ok (.error fault), run₁) := by
      rw [Running.exec_attempt, hload]
    have hfails : ∃ reported, exec (generate config check) run₁ = (.error reported, run₁) := by
      rw [generate, exec_bind_of_ok houtput, exec_bind, exec_bind_of_ok hattempt]
      cases fault with
      | read e => cases e <;> exact ⟨_, rfl⟩
      | _ => exact ⟨_, rfl⟩
    obtain ⟨reported, hreported⟩ := hfails
    refine .inl ⟨reported, run₁, hreported, rfl, ?_⟩
    rintro ⟨root', tree, -, hloaded⟩
    exact hnone tree hloaded

/-- **A whole run is a round over what was loaded**, if a directory to write to is found. -/
theorem exec_generate_of_loaded (check : Bool)
    (houtput : exec (Running.outputRoot config.toOptions) run = (.ok root, run))
    (hloaded : Loaded run.store config.sourceRoots tree) :
    ∃ runA errors, Run.Continues errors run runA ∧
      (errors = [] ↔ AllRead run.store config.sourceRoots) ∧
      exec (generate config check) run = exec (roundsOver ⟨root, check⟩ tree) runA := by
  rcases exec_generate_cases config check run with
    ⟨-, -, -, -, hnone⟩ | ⟨root', tree', runA, errors, hroot, htree, hcontinues, hnil, hgenerate⟩
  · exact absurd ⟨root, tree, houtput, hloaded⟩ hnone
  · obtain rfl := Except.ok.inj (Prod.mk.inj (houtput.symm.trans hroot)).1
    obtain rfl := hloaded.unique htree
    exact ⟨runA, errors, hcontinues, hnil, hgenerate⟩

/-- **What a whole run is**: a round over what was loaded, and one over nothing. -/
theorem exec_generate_ok {results : List RoundResult}
    (h : exec (generate config check) run = (.ok results, run')) :
    ∃ root tree runA first runB errors,
      exec (Running.outputRoot config.toOptions) run = (.ok root, run) ∧
      Loaded run.store config.sourceRoots tree ∧ Run.Continues errors run runA ∧
      (errors = [] ↔ AllRead run.store config.sourceRoots) ∧
      exec (processRound ⟨root, check⟩ tree false) runA = (.ok first, runB) ∧
      results = [first, ⟨[]⟩] ∧ Run.Continues [] runB run' := by
  rcases exec_generate_cases config check run with
    ⟨fault, run₁, hgenerate, -⟩ | ⟨root, tree, runA, errors, hroot, htree, hcontinues, hnil, hgenerate⟩
  · cases h.symm.trans hgenerate
  · rw [hgenerate] at h
    obtain ⟨first, runB, hfirst, hresults, hlast⟩ := exec_roundsOver_ok h
    exact ⟨root, tree, runA, first, runB, errors, hroot, htree, hcontinues, hnil, hfirst, hresults, hlast⟩

/-! ### Refusals -/

variable {e : Emitter} {before : Store}

/-- **A round refuses a configuration only if a file stood at the root at the beginning.** -/
theorem blocked_of_processAll (hnull : hasNull e.root = false) {surroundings : Surroundings}
    {ds : List Declaration}
    (hnames : ∀ d ∈ ds, '/' ∉ d.qualifiedName.toList ∧ '\x00' ∉ d.qualifiedName.toList)
    {progress : Progress} (hrefs : Resolving.Sound surroundings progress.refs)
    (h : Since e.root before progress.paths run.store) {reason : ConfigFault}
    (hfault : exec (processAll surroundings e progress ds) run = (.error (.config reason), run')) :
    Running.Blocked before e.root := by
  induction ds generalizing progress run with
  | nil => cases hfault
  | cons d rest ih =>
    obtain ⟨⟨hslash, hzero⟩, hrest⟩ := List.forall_mem_cons.mp hnames
    rw [processAll] at hfault
    rcases worked_processOne hrefs e d run with
      ⟨o, progress', run₁, hone, hrefs', -, heffect, -⟩ | ⟨fault, run₁, hone, -, hhalts⟩
    · rw [exec_bind_of_ok hone] at hfault
      rcases exec_bind_cases hfault with ⟨fault, hothers, heq⟩ | ⟨others, run₂, -, hlast⟩
      · rw [← Except.error.inj heq] at hothers
        exact ih hrest hrefs' (h.step hslash heffect) hothers
      · cases hlast
    · rw [exec_bind_of_error hone] at hfault
      obtain rfl := Except.error.inj (Prod.mk.inj hfault).1
      rcases h.breaks_or_blocked hnull hslash hzero hhalts with ⟨hother, -⟩ | ⟨-, -, -, -, hblocked⟩
      · exact absurd rfl (hother reason)
      · exact hblocked

/-- **A configuration is refused before anything is written.** -/
theorem exec_generate_refused (hsound : run.store.Sound) (hproper : run.store.Proper)
    {reason : ConfigFault} (h : exec (generate config check) run = (.error (.config reason), run')) :
    run'.store = run.store := by
  rcases exec_generate_cases config check run with
    ⟨fault, run₁, hgenerate, hstore, -⟩ | ⟨root, tree, runA, errors, hroot, htree, hcontinues, -, hgenerate⟩
  · obtain ⟨-, rfl⟩ := Prod.mk.inj (h.symm.trans hgenerate)
    exact hstore
  -- A round that refuses the root began with a file there, but the root was fit then.
  rw [hgenerate] at h
  obtain ⟨-, ⟨path, hresolve⟩, hfit, -⟩ := Running.exec_outputRoot hroot
  have hresolved := resolved_of_resolve hsound hproper hresolve
  obtain ⟨runB, hkept, hround⟩ := exec_processRound ⟨root, check⟩ tree false runA
  have hfirst := exec_roundsOver_error h
  rw [hround, map_eq_pure_bind] at hfirst
  have hstore : runB.store = run.store := hkept.store_eq.trans hcontinues.store_eq
  have hbegin : Since root run.store [] runB.store := by
    rw [hstore]
    exact Since.refl hsound.rooted hresolved.not_up
  rcases exec_bind_cases hfirst with ⟨fault, hall, heq⟩ | ⟨outcomes, runC, -, hlast⟩
  · rw [← Except.error.inj heq] at hall
    exact absurd (blocked_of_processAll hresolved.not_null (htree.plain hsound hproper)
      (Resolving.sound_nil _) hbegin hall) hfit.not_blocked
  · cases hlast

/-- A round ends if no class is fatal and no file stands at the root. -/
theorem exists_processRound_of_not_fatal (hroot : Resolved e.root) (hrooted : run.store.Rooted)
    (hnames : ∀ d ∈ tree.marked, '/' ∉ d.qualifiedName.toList ∧ '\x00' ∉ d.qualifiedName.toList)
    (hregular : ¬ Fatal (Surroundings.ofTree tree) e run.store tree.marked)
    (hfree : ¬ Running.Blocked run.store e.root) (isLast : Bool) :
    ∃ result run', exec (processRound e tree isLast) run = (.ok result, run') := by
  obtain ⟨run₁, hcontinues, hround⟩ := exec_processRound e tree isLast run
  have hbegin : Since e.root run.store [] run₁.store := by
    rw [hcontinues.store_eq]
    exact Since.refl hrooted hroot.not_up
  rw [hround, map_eq_pure_bind, exec_bind]
  rcases hall : exec (processAll (Surroundings.ofTree tree) e ⟨[], []⟩ tree.marked) run₁ with
    ⟨fault | outcomes, run'⟩
  · -- The fault is neither one that stops the work, nor one of the configuration.
    have hgoes : ¬ Stops (exec (processAll (Surroundings.ofTree tree) e ⟨[], []⟩ tree.marked) run₁).1 :=
      fun hstops => hregular
        ((stops_processAll_iff hroot.not_null hnames (Resolving.sound_nil _) hbegin).mp hstops)
    rw [hall] at hgoes
    by_cases hreason : ∃ reason, fault = .config reason
    · obtain ⟨reason, rfl⟩ := hreason
      exact absurd (blocked_of_processAll hroot.not_null hnames (Resolving.sound_nil _) hbegin hall) hfree
    · exact absurd ⟨fault, rfl, not_exists.mp hreason⟩ hgoes
  · exact ⟨⟨outcomes⟩, run', rfl⟩

/-- No class without bases and annotations is fatal, where there are no files of builders. -/
theorem not_fatal_of_isBare {store : Store} (hbare : ∀ d ∈ tree.marked, d.isBare = true)
    (hfiles : ∀ d ∈ tree.marked, ∀ b, builderOf? (.ofTree tree) d = some b →
      ∀ bytes, store.bytes (b.outputPath e.root) ≠ .ok bytes) :
    ¬ Fatal (Surroundings.ofTree tree) e store tree.marked := by
  rintro ⟨front, d, back, hsplit, -, hbreaks, -⟩
  have hd : d ∈ tree.marked := hsplit ▸ List.mem_append_right _ List.mem_cons_self
  rcases hbreaks with ⟨fault, hfault⟩ | ⟨b, hb, bytes, hbytes, -⟩
  · cases (schemaOf_of_isBare (hbare d hd) _).symm.trans hfault
  · exact hfiles d hd b hb bytes hbytes

/-- A round over classes without bases and annotations ends, where there are no files. -/
theorem exists_processRound_of_isBare (hroot : Resolved e.root) (hrooted : run.store.Rooted)
    (hnames : ∀ d ∈ tree.marked, '/' ∉ d.qualifiedName.toList ∧ '\x00' ∉ d.qualifiedName.toList)
    (hbare : ∀ d ∈ tree.marked, d.isBare = true) (hfiles : ∀ p bytes, run.store.bytes p ≠ .ok bytes)
    (isLast : Bool) : ∃ result run', exec (processRound e tree isLast) run = (.ok result, run') := by
  refine exists_processRound_of_not_fatal hroot hrooted hnames
    (not_fatal_of_isBare hbare fun _ _ _ _ _ => hfiles _ _) (fun hblocked => ?_) isLast
  obtain ⟨bytes, hbytes⟩ := Running.blocked_iff.mp hblocked
  exact hfiles _ _ hbytes

end FluentBuilder.Processing
