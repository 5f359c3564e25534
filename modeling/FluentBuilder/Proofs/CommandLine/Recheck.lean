import FluentBuilder.Proofs.CommandLine.Exit
import FluentBuilder.Proofs.Processing.FixedPoint
import FluentBuilder.Proofs.Processing.Interference
import FluentBuilder.Proofs.Processing.Regeneration
import FluentBuilder.Proofs.Text.CodePoints

/-!
# Running once more, and checking

A run that wrote beside its sources is a fixed point (`regenerate_iff`): the next run changes no file,
reports the same elements, and finds unchanged what was as it should be. If all was, and every module was
read, then a check exits with 0 (`exit_of_recheck`).

**Where it is none.** The next run needs to look at the directory to write to, and that is all: the way to
it may be missing, and the name behind it one that no file can have. Then the first run makes the
directory on the way, and the next run ends before it reports anything (`refused_of_deepRoot`).
-/

namespace FluentBuilder.CommandLine

open Stateful Processing Source Store Filing

variable {i : Invocation} {config : Config} {run run' later later' : Run} {root : Path} {tree : Tree}
variable {s : Store} {check : Bool} {results : List RoundResult}

/-! ### Checks -/

/-- What the command came to is reported. -/
theorem exec_execute_of_commanded (h : exec (commanded i) run = (.ok results, run')) :
    exec (execute i) run = (.ok (reportOf i run' results), run') := by
  have hattempt : exec (attempt (commanded i)) run = (.ok (.ok results), run') := by
    rw [Running.exec_attempt, h]
  change exec (attempt (commanded i) >>= _) run = _
  rw [exec_bind_of_ok hattempt, exec_bind_of_ok (exec_get run')]
  rfl

/-- Where all was as it should be, the second outcomes say that it is unchanged. -/
theorem status_of_sameReport {outcomes outcomes' : List Outcome} (h : SameReport outcomes outcomes')
    (hok : ∀ o ∈ outcomes, o.isOk = true) : ∀ o' ∈ outcomes', o'.status = .emitted .unchanged := by
  intro o' ho'
  obtain ⟨o, ho, hsame⟩ := FluentBuilder.Outcome.exists_of_mem_right h.unchanged ho'
  exact (hsame (hok o ho)).1

/-- **The exit of a check.** The check of a run that was as it should be exits with 0, if every module was
read. -/
theorem exit_of_recheck (h : Beside config run root tree) {first second : RoundResult}
    (hrun : exec (generate config false) run = (.ok [first, ⟨[]⟩], run'))
    (hok : ∀ o ∈ first.outcomes, o.isOk = true) (hread : AllRead run.store config.sourceRoots)
    (hstore : later.store = run'.store) (hfresh : later.diagnostics = [])
    (hchosen : (exec (chosenConfig i) later).1 = .ok config)
    (hagain : exec (generate config i.check) later = (.ok [second, ⟨[]⟩], later'))
    (hsame : SameReport first.outcomes second.outcomes) :
    ∃ report, exec (execute i) later = (.ok report, later') ∧ report.exit = 0 := by
  have hcommanded : exec (commanded i) later = (.ok [second, ⟨[]⟩], later') := by
    rw [exec_commanded_of_chosen hchosen, hagain]
  refine ⟨_, exec_execute_of_commanded hcommanded, ?_⟩
  obtain ⟨hloaded, hallRead⟩ := h.loaded_again hrun
  have hunchanged := status_of_sameReport hsame hok
  have herrors : later.errors = [] := by rw [Run.errors, hfresh, List.filter_nil]
  have hnone : later'.errors = [] := by
    obtain ⟨tree', second', -, heq, hloaded', -, -, helements, -⟩ := errors_of_generate hagain
    obtain rfl : second = second' := (List.cons.inj heq).1
    refine (errors_eq_nil_iff herrors hagain).mpr ⟨tree', second, rfl, hloaded', ?_, ?_⟩
    · exact hstore ▸ hallRead hread
    · exact FluentBuilder.Outcome.imp_of_mem
        (fun d _ o ho helement => ⟨helement, .inr (hunchanged o ho)⟩) helements
  rw [exit_reportOf hcommanded, if_pos hnone]

/-! ### The fixed point -/

/-- What the next run is to do: come to an end, change no file, and report the same. -/
def RunsAgain (config : Config) (check : Bool) (outcomes : List Outcome) (run : Run) : Prop :=
  ∃ second run', exec (generate config check) run = (.ok [second, ⟨[]⟩], run') ∧
    SameReport outcomes second.outcomes ∧ ∀ place, run'.store.fileAt place = run.store.fileAt place

/-- **Regeneration is a fixed point where the directory to write to can be looked at.** Let a run that
writes beside its sources come to an end. Then the next run, be it a check or not, comes to an end, changes
no file, reports the same elements, and finds unchanged what was as it should be, iff the directory to
write to can be looked at; otherwise it ends at once with the fault of that look, and not all was as it
should be. If all was, and every module was read, then the command exits with 0 where it finds the same
configuration, be it called for a check or not. -/
theorem regenerate_iff (h : Beside config run root tree)
    (hrun : exec (generate config false) run = (.ok results, run')) :
    ∃ first, results = [first, ⟨[]⟩] ∧ ∀ later : Run, later.store = run'.store →
      (∀ check, RunsAgain config check first.outcomes later ↔ ∃ node, run'.store.look root = .ok node) ∧
      (∀ fault, run'.store.look root = .error fault →
        (∃ o ∈ first.outcomes, o.isOk = false) ∧
        ∀ check, exec (generate config check) later = (.error (.store fault), later)) ∧
      ((∀ o ∈ first.outcomes, o.isOk = true) →
        (∀ check, RunsAgain config check first.outcomes later) ∧
        (AllRead run.store config.sourceRoots → later.diagnostics = [] →
          ∀ i, (exec (chosenConfig i) later).1 = .ok config →
            ∃ report later', exec (execute i) later = (.ok report, later') ∧ report.exit = 0)) := by
  obtain ⟨first, -, -, rfl, -⟩ := h.exists_round hrun
  refine ⟨first, rfl, fun later hstore => ?_⟩
  have hagain : (∃ node, run'.store.look root = .ok node) → ∀ check,
      RunsAgain config check first.outcomes later := fun hlook check =>
    h.exec_again hrun hstore hlook check
  refine ⟨fun check => ⟨?_, fun hlook => hagain hlook check⟩, fun fault hlook => ⟨?_, ?_⟩, fun hok => ?_⟩
  · rintro ⟨second, after, hsecond, -⟩
    rcases hlook : run'.store.look root with fault | node
    · cases hsecond.symm.trans (h.exec_refused hrun hstore hlook check)
    · exact ⟨node, rfl⟩
  · by_contra hall
    have hok : ∀ o ∈ first.outcomes, o.isOk = true := by simpa using hall
    obtain ⟨node, hnode⟩ := h.exists_look hrun hok
    cases hnode.symm.trans hlook
  · exact h.exec_refused hrun hstore hlook
  · have hlook := h.exists_look hrun hok
    refine ⟨hagain hlook, fun hread hfresh i hchosen => ?_⟩
    obtain ⟨second, after, hsecond, hsame, -⟩ := hagain hlook i.check
    obtain ⟨report, hreport, hexit⟩ :=
      exit_of_recheck h hrun hok hread hstore hfresh hchosen hsecond hsame
    exact ⟨report, after, hreport, hexit⟩

/-! ### Two directories to write to -/

/-- The arguments that ask for a check of what is written to a directory. -/
def recheckInto (out : String) : Invocation := ⟨["/src"], some out, none, true, 0⟩

/-- The configuration to write the builder of the module to a directory. -/
def yardInto (out : Path) : Config := ⟨[yardRoot], some out, []⟩

/-! ### A directory with a name that is too long -/

/-- A directory with a name that no file can have, in another one. -/
def deepRoot : Path := ⟨.absolute, ["a", lettered 300]⟩

/-- The characters of its name. -/
theorem toList_lettered (n : Nat) : (lettered n).toList = List.replicate n 'L' := by
  rw [lettered, String.toList_ofList]

/-- The path is not too long. -/
theorem size_deepRoot : Utf8.size deepRoot.render.toList ≤ pathLimit := by
  have hfront : Utf8.size "/".toList + Utf8.size ("a" ++ "/").toList = 3 := by decide
  rw [deepRoot, Path.render_pair, String.toList_append, String.toList_append, Path.size_append,
    Path.size_append, toList_lettered, Path.size_replicate, show Utf8.width 'L' = 1 from rfl, pathLimit]
  omega

/-- It is as resolved paths are. -/
theorem resolved_deepRoot : Resolved deepRoot where
  isAbsolute := rfl
  not_up := by decide +kernel
  not_null := by
    have hfirst : "a".toList.contains '\x00' = false := by decide
    have hlast : (lettered 300).toList.contains '\x00' = false := by
      rw [toList_lettered]
      decide
    rw [hasNull, deepRoot, List.any_cons, List.any_cons, hfirst, hlast]
    rfl

/-- Its name is. -/
theorem not_fits_deepRoot : ¬ Fits deepRoot := by
  intro hfits
  have hname := hfits.names (lettered 300) (by simp [deepRoot])
  rw [toList_lettered, Path.size_replicate, show Utf8.width 'L' = 1 from rfl] at hname
  exact absurd hname (by decide)

/-- The characters of the path. -/
theorem toList_deepRoot : deepRoot.render.toList = '/' :: 'a' :: '/' :: List.replicate 300 'L' := by
  rw [deepRoot, Path.render_pair, String.toList_append, String.toList_append, String.toList_append,
    toList_lettered]
  rfl

/-- The text names the path. -/
theorem ofText_deepRoot : Path.ofText deepRoot.render = deepRoot := by
  rw [Path.ofText, toList_deepRoot]
  decide +kernel

/-- No directory stands before it. -/
theorem not_paved_yard : ¬ Paved yard [] ["a"] := by
  intro hpaved
  have hnode := hpaved ["a"] (List.prefix_refl _) (by simp)
  exact absurd hnode (by decide)

/-- No blanks stand at the ends of the text. -/
theorem stripBlanks_deepRoot : Text.stripBlanks deepRoot.render = deepRoot.render := by
  have hslash : Text.isBlank '/' = false := by decide
  have hletter : Text.isBlank 'L' = false := by decide
  have hreverse : ('/' :: 'a' :: '/' :: List.replicate 300 'L').reverse =
      'L' :: (List.replicate 299 'L' ++ ['/', 'a', '/']) := by decide +kernel
  rw [Text.stripBlanks, toList_deepRoot, Text.trimEnds, List.dropWhile_cons_of_neg (by simp [hslash]),
    hreverse, List.dropWhile_cons_of_neg (by simp [hletter]), ← hreverse, List.reverse_reverse,
    ← toList_deepRoot, String.ofList_toList]

/-- **The directory is found**, since nothing stands before it. -/
theorem exec_outputRoot_deepRoot :
    exec (Running.outputRoot (yardInto deepRoot).toOptions) ⟨yard, [], []⟩ =
      (.ok deepRoot, ⟨yard, [], []⟩) := by
  have htext : Text.stripBlanks (((yardInto deepRoot).toOptions.find? outputOption).getD
      []).toTextMarking = deepRoot.render := by
    have hoptions : (yardInto deepRoot).toOptions =
        [(.ofText outputOption, .ofText deepRoot.render)] := rfl
    rw [hoptions, Options.find?, List.find?_cons_of_pos (by simp), Option.map_some, Option.getD_some,
      CodePoints.toTextMarking_ofText, stripBlanks_deepRoot]
  have hfit : Running.Fit yard deepRoot :=
    .inl (resolved_deepRoot.look_of_not_paved size_deepRoot (by decide) not_paved_yard)
  have hresolve : yard.resolve deepRoot = .ok deepRoot := by
    rw [Store.resolve, resolved_deepRoot.not_null]
    decide +kernel
  have hraw : deepRoot.render.isEmpty = false := by
    rw [Bool.eq_false_iff, ne_eq, String.isEmpty_iff, ← String.toList_eq_nil_iff, toList_deepRoot]
    exact List.cons_ne_nil _ _
  have hhome : Store.expandHome yard.home (Path.ofText deepRoot.render) = some deepRoot := by
    rw [ofText_deepRoot]
    rfl
  exact Running.exec_outputRoot_of_text htext hraw hhome hresolve hfit

/-- Nothing is found behind a directory that is not there. -/
theorem placeOf_of_missing {rest : List String} (hrest : rest ≠ [])
    (hsize : Utf8.size (⟨.absolute, "a" :: rest⟩ : Path).render.toList ≤ pathLimit)
    (h : s.node? ["a"] = none) :
    s.placeOf ⟨.absolute, "a" :: rest⟩ = .error (.missing (⟨.absolute, "a" :: rest⟩ : Path).render) := by
  have horigin : s.origin ⟨.absolute, "a" :: rest⟩ = [] := if_pos rfl
  have hshort : ¬ Utf8.size "a".toList > nameLimit := by decide
  rw [placeOf, if_neg (not_lt.mpr hsize), horigin, Store.walk, if_neg (by decide), if_neg hshort]
  simp [h, hrest]

/-- Making the directory makes the one before it. -/
theorem exec_ensureDirectories_deepRoot (h : s.node? ["a"] = none) :
    exec (ensureDirectories 3 deepRoot) s =
      (.error (.nameTooLong deepRoot.render), s.putNode ["a"] .directory) := by
  -- Only the last name is too long.
  have hfirst : Resolved ⟨.absolute, ["a"]⟩ := ⟨rfl, by decide, by decide⟩
  have hfits : Fits ⟨.absolute, ["a"]⟩ := by decide
  have hmissing : s.placeOf deepRoot = .error (.missing deepRoot.render) :=
    placeOf_of_missing (by simp) size_deepRoot h
  have hplace : ∀ s' : Store, s'.placeOf ⟨.absolute, ["a"]⟩ = .ok ["a"] := fun s' =>
    hfirst.placeOf_of_paved hfits (paved_nil s' [])
  have hmade : (s.putNode ["a"] .directory).node? ["a"] = some .directory := by
    rw [node?_putNode s (by simp), if_pos rfl]
  have hlong : (s.putNode ["a"] .directory).placeOf deepRoot = .error (.nameTooLong deepRoot.render) :=
    resolved_deepRoot.placeOf_of_not_fits not_fits_deepRoot (Paved.cons hmade (paved_nil _ _))
  have hparent : deepRoot.parent = ⟨.absolute, ["a"]⟩ := rfl
  have hne : deepRoot.parent ≠ deepRoot := fun heq => by cases congrArg (List.length ∘ Path.parts) heq
  have habove : exec (ensureDirectories 2 ⟨.absolute, ["a"]⟩) s = (.ok (), s.putNode ["a"] .directory) := by
    rw [ensureDirectories, exec_tryCatch, exec_ensureDirectory hfirst, hplace]
    simp only [h]
  have hagain : exec (ensureDirectory deepRoot) (s.putNode ["a"] .directory) =
      (.error (.nameTooLong deepRoot.render), s.putNode ["a"] .directory) := by
    rw [exec_ensureDirectory resolved_deepRoot, hlong]
  have hrefused : exec (ensureDirectory deepRoot) s = (.error (.missing deepRoot.render), s) := by
    rw [exec_ensureDirectory resolved_deepRoot, hmissing]
  exact exec_ensureDirectories_of_missing hne hrefused (hparent ▸ habove) hagain

/-- The file of the builder. -/
def deepFile : Path := ⟨.absolute, ["a", lettered 300, "CarBuilder.py"]⟩

/-- Its path is not too long. -/
theorem size_deepFile : Utf8.size deepFile.render.toList ≤ pathLimit := by
  have htext : PathRoot.absolute.text ++ String.intercalate "/" ["a", lettered 300, "CarBuilder.py"] =
      "/" ++ ("a" ++ "/" ++ (lettered 300 ++ "/" ++ "CarBuilder.py")) := by
    simp [PathRoot.text, String.intercalate_cons_cons]
  have hne : ("/" ++ ("a" ++ "/" ++ (lettered 300 ++ "/" ++ "CarBuilder.py"))).isEmpty = false := by
    simp
  have hends : Utf8.size "/".toList + Utf8.size ("a" ++ "/").toList + Utf8.size "/".toList +
      Utf8.size "CarBuilder.py".toList = 17 := by decide
  have hrender : deepFile.render = "/" ++ ("a" ++ "/" ++ (lettered 300 ++ "/" ++ "CarBuilder.py")) := by
    rw [deepFile, Path.render, htext, hne]
    rfl
  rw [hrender]
  simp only [String.toList_append, Path.size_append, toList_lettered, Path.size_replicate] at hends ⊢
  rw [show Utf8.width 'L' = 1 from rfl, pathLimit]
  omega

/-- No text stands at it where the directory before is not there. -/
theorem textAt_deepFile (h : s.node? ["a"] = none) : textAt s deepFile = .ok none := by
  have hplace : s.placeOf deepFile = .error (.missing deepFile.render) :=
    placeOf_of_missing (by simp) size_deepFile h
  have hlook : s.look deepFile = .ok none := by
    rw [Store.look, status, hplace]
    split
    · rfl
    · rfl
  rw [textAt, hlook]

/-- Writing it makes the directory. -/
theorem exec_writeWhole_deepFile (bytes : List UInt8) (h : s.node? ["a"] = none) :
    exec (writeWhole deepFile bytes) s =
      (.error (.nameTooLong deepRoot.render), s.putNode ["a"] .directory) := by
  rw [writeWhole]
  exact exec_bind_of_error (exec_ensureDirectories_deepRoot h)

/-- Work on a class whose builder is to be written there leaves the directory behind. -/
theorem node?_of_processOne {d : Declaration} {surroundings : Surroundings} {o : Outcome}
    {progress : Processing.Progress} (hd : d.isBare = true)
    (hpath : ∀ b, builderOf? surroundings d = some b → b.outputPath deepRoot = deepFile)
    (hstore : run.store.node? ["a"] = none)
    (h : exec (processOne surroundings ⟨deepRoot, false⟩ d ⟨[], []⟩) run = (.ok (o, progress), run')) :
    run'.store.node? ["a"] = some .directory := by
  have hroot : ∃ node, run.store.look deepRoot = .ok node := by
    refine ⟨none, ?_⟩
    rw [Store.look, resolved_deepRoot.not_null, status, deepRoot,
      placeOf_of_missing (by simp) size_deepRoot hstore]
    rfl
  have hjudged : Judged surroundings ⟨deepRoot, false⟩ d [] run.store o progress.paths run'.store :=
    judged_processOne (Resolving.sound_nil surroundings) h
  generalize progress.paths = claimed at hjudged
  generalize run'.store = after at hjudged ⊢
  cases hjudged with
  | invalid hkind => exact absurd (kindOf_of_isBare hd _) hkind
  | unbuilt _ hb =>
    obtain ⟨b, hb'⟩ := exists_builderOf?_of_isBare hd surroundings
    cases hb.symm.trans hb'
  | built _ hb hhandled =>
    have hopened : opened deepRoot [] run.store deepFile = some none :=
      opened_eq_some_iff.mpr ⟨hroot, List.not_mem_nil, textAt_deepFile hstore⟩
    rw [← hpath _ hb] at hopened
    cases hhandled with
    | unopened hnone => cases hopened.symm.trans hnone
    | upToDate hfound => cases hopened.symm.trans hfound
    | drifted hcheck => cases hcheck
    | written _ _ _ hwrite =>
      rw [hpath _ hb, exec_writeWhole_deepFile _ hstore] at hwrite
      cases hwrite
    | unwritten _ _ _ hwrite =>
      rw [hpath _ hb, exec_writeWhole_deepFile _ hstore] at hwrite
      rw [← (Prod.mk.inj hwrite).2, node?_putNode run.store (by simp), if_pos rfl]

/-! ### Runs that write beside a module -/

/-- A run that writes beside the module. -/
theorem beside_of_yard {out : Path} {name : String} {rest : List String}
    (hfound : (exec (Running.outputRoot (yardInto out).toOptions) ⟨yard, [], []⟩).1 = .ok root)
    (hparts : root.parts = name :: rest) (hname : name ≠ "src") :
    Beside (yardInto out) ⟨yard, [], []⟩ root (Tree.ofModules (modulesAt yard yardRoot)) := by
  have hsources : (yardInto out).sourceRoots = [yardRoot] := rfl
  obtain ⟨hsound, hproper⟩ := sound_yard
  obtain ⟨hresolve, hdirectory⟩ := root_yard
  obtain ⟨hread, car, hcar, -, hbuilder⟩ := facts_of_yard
  have hloaded := loaded_of_readable hdirectory hread
  exact {
    sound := hsound
    proper := hproper
    outputRoot := Prod.ext hfound (Running.exec_outputRoot_snd _ _)
    loaded := hsources ▸ hloaded
    no_return := by
      intro d hd b hb
      rw [hcar, List.mem_singleton] at hd
      rw [hd] at hb
      rw [hb] at hbuilder
      rw [show b.render = yardBuilder from congrArg Prod.snd (Option.some.inj hbuilder)]
      exact not_return_yardBuilder
    outside := by
      intro source hsource top htop d hd b hb names _ heq
      rw [hsources, List.mem_singleton] at hsource
      subst hsource
      obtain rfl : yardRoot = top := Except.ok.inj (hresolve.symm.trans htop)
      obtain ⟨hslash, -⟩ := hloaded.plain hsound hproper d hd
      obtain ⟨further, hbelow, -⟩ := below_of_builderOf? hslash hb root
      rw [hbelow, hparts] at heq
      exact hname (List.cons.inj heq).1 }

/-- The module can be read. -/
theorem allRead_of_yard (out : Path) : AllRead yard (yardInto out).sourceRoots := by
  have hsources : (yardInto out).sourceRoots = [yardRoot] := rfl
  intro source hsource top htop file hfile _
  rw [hsources, List.mem_singleton] at hsource
  subst hsource
  obtain rfl : yardRoot = top := Except.ok.inj (root_yard.1.symm.trans htop)
  exact facts_of_yard.1 file hfile

/-- The builder of the module is written to a directory that is to be made, and a check exits with 0. -/
theorem recheck_of_yard :
    ∃ first run' report later', exec (generate (yardInto (Path.ofText "/out")) false) ⟨yard, [], []⟩ =
        (.ok [first, ⟨[]⟩], run') ∧
      first.outcomes.map Outcome.status = [.emitted .generated] ∧
      (∀ check, RunsAgain (yardInto (Path.ofText "/out")) check first.outcomes ⟨run'.store, [], []⟩) ∧
      exec (execute (recheckInto "/out")) ⟨run'.store, [], []⟩ = (.ok report, later') ∧
      report.exit = 0 := by
  have hfound : (exec (Running.outputRoot (yardInto (Path.ofText "/out")).toOptions) ⟨yard, [], []⟩).1.toOption =
      some (Path.ofText "/out") := by decide +kernel
  have hparts : (Path.ofText "/out").parts = ["out"] := rfl
  have hbeside := beside_of_yard (Outcome.toOption_eq_some_iff.mp hfound) hparts (by decide)
  -- No configuration file is made, so that the command finds what it is told.
  obtain ⟨hstatus, hlook⟩ :
      (exec (generate (yardInto (Path.ofText "/out")) false) ⟨yard, [], []⟩).1.toOption.map
          (·.map fun r => r.outcomes.map Outcome.status) = some [[.emitted .generated], []] ∧
        ((exec (generate (yardInto (Path.ofText "/out")) false) ⟨yard, [], []⟩).2.store.isFile
          (Path.ofText defaultConfigFile)).toOption = some false := by
    decide +kernel
  rcases hrun : exec (generate (yardInto (Path.ofText "/out")) false) ⟨yard, [], []⟩ with ⟨fault | results, run'⟩
  · rw [hrun] at hstatus
    cases hstatus
  rw [hrun] at hstatus hlook
  obtain ⟨first, rfl, hagain⟩ := regenerate_iff hbeside hrun
  obtain ⟨-, -, hall⟩ := hagain ⟨run'.store, [], []⟩ rfl
  have hfirst : first.outcomes.map Outcome.status = [.emitted .generated] :=
    (List.cons.inj (Option.some.inj hstatus)).1
  have hok : ∀ o ∈ first.outcomes, o.isOk = true := by
    intro o ho
    have hmem : o.status ∈ first.outcomes.map Outcome.status := List.mem_map_of_mem ho
    rw [hfirst, List.mem_singleton] at hmem
    exact Outcome.isOk_of_generated hmem
  obtain ⟨hruns, hcheck⟩ := hall hok
  have hchosen : (exec (chosenConfig (recheckInto "/out")) ⟨run'.store, [], []⟩).1 =
      .ok (yardInto (Path.ofText "/out")) := by
    have hnone : exec (Running.look (·.isFile (Path.ofText defaultConfigFile))) ⟨run'.store, [], []⟩ =
        (.ok false, ⟨run'.store, [], []⟩) := by
      rw [Running.exec_look, Outcome.toOption_eq_some_iff.mp hlook]
      rfl
    change (exec (do
      let config ← if ← Running.look (·.isFile (Path.ofText defaultConfigFile)) then
        loadConfig (Path.ofText defaultConfigFile) else pure Config.default
      return config.withOverrides ["/src"] (some "/out")) ⟨run'.store, [], []⟩).1 = _
    rw [exec_bind_of_ok hnone]
    rfl
  obtain ⟨report, later', hreport, hexit⟩ :=
    hcheck (allRead_of_yard (Path.ofText "/out")) rfl (recheckInto "/out") hchosen
  exact ⟨first, run', report, later', rfl, hfirst, hruns, hreport, hexit⟩

/-- **The directory before it is made, and then the name is noticed**: a run that writes beside the module
comes to an end, and the next one ends at once. -/
theorem refused_of_deepRoot :
    ∃ tree results run', Beside (yardInto deepRoot) ⟨yard, [], []⟩ deepRoot tree ∧
      exec (generate (yardInto deepRoot) false) ⟨yard, [], []⟩ = (.ok results, run') ∧
      ∀ check, exec (generate (yardInto deepRoot) check) run' =
        (.error (.store (.nameTooLong deepRoot.render)), run') := by
  have houtput := exec_outputRoot_deepRoot
  have hbeside := beside_of_yard (by rw [houtput]) rfl (show "a" ≠ "src" by decide)
  obtain ⟨-, d, hmarked, ⟨hbare, hscope, hpackage, -, hname⟩, -⟩ := facts_of_yard
  generalize Tree.ofModules (modulesAt yard yardRoot) = tree at hbeside hmarked
  have hpath : ∀ b, builderOf? (.ofTree tree) d = some b → b.outputPath deepRoot = deepFile := by
    intro b hb
    rw [outputPath_of_topLevel hb hscope hpackage (by rw [hname]; decide) (by rw [hname]; decide), hname]
    decide +kernel
  have hnode : yard.node? ["a"] = none := by decide
  obtain ⟨runA, errors, hcontinues, -, hgenerate⟩ := exec_generate_of_loaded false houtput hbeside.loaded
  have hstore : runA.store.node? ["a"] = none := by rw [hcontinues.store_eq, hnode]
  -- The round comes to an end, since there is no file that could stop it.
  have hrooted : runA.store.Rooted := by
    rw [hcontinues.store_eq]
    exact hbeside.sound.rooted
  have hlook : runA.store.look deepRoot = .ok none := by
    rw [Store.look, resolved_deepRoot.not_null, status, deepRoot,
      placeOf_of_missing (by simp) size_deepRoot hstore]
    rfl
  have hregular : ¬ Fatal (.ofTree tree) ⟨deepRoot, false⟩ runA.store tree.marked := by
    refine not_fatal_of_isBare (fun c hc => ?_) fun c hc b hb bytes hbytes => ?_
    · rw [hmarked, List.mem_singleton] at hc
      exact hc ▸ hbare
    rw [hmarked, List.mem_singleton] at hc
    subst hc
    have htext := textAt_eq_none_iff.mp (textAt_deepFile hstore)
    exact htext.2 bytes (hpath b hb ▸ hbytes)
  have hfree : ¬ Running.Blocked runA.store deepRoot := by
    rintro ⟨bytes, hfile⟩
    cases hlook.symm.trans hfile
  obtain ⟨first, runB, hfirst⟩ : ∃ first runB,
      exec (processRound ⟨deepRoot, false⟩ tree false) runA = (.ok first, runB) :=
    exists_processRound_of_not_fatal resolved_deepRoot hrooted hbeside.plain hregular hfree false
  obtain ⟨runC, hover, hlast⟩ := exec_lastRound ⟨deepRoot, false⟩ runB
  have hrun : exec (generate (yardInto deepRoot) false) ⟨yard, [], []⟩ = (.ok [first, ⟨[]⟩], runC) := by
    rw [hgenerate, roundsOver, exec_bind_of_ok hfirst, exec_bind_of_ok hover, exec_pure]
  -- It leaves the directory behind, in which the name is looked up.
  obtain ⟨runD, hbegun, hall⟩ := exec_processRound_ok hfirst
  rw [hmarked] at hall
  obtain ⟨o, progress, runE, others, hdone, hnone, -⟩ := exec_processAll_cons_iff.mp hall
  cases hnone
  have hmade := node?_of_processOne hbare hpath (hbegun.store_eq ▸ hstore) hdone
  rw [← hlast.store_eq] at hmade
  have hrefused : runC.store.look deepRoot = .error (.nameTooLong deepRoot.render) := by
    have hplace := resolved_deepRoot.placeOf_of_not_fits not_fits_deepRoot
      (Paved.cons hmade (paved_nil runC.store _))
    rw [Store.look, resolved_deepRoot.not_null, status, hplace]
    rfl
  exact ⟨tree, _, runC, hbeside, hrun, hbeside.exec_refused hrun rfl hrefused⟩

end FluentBuilder.CommandLine
