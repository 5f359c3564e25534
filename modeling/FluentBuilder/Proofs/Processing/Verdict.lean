import FluentBuilder.Proofs.Processing.Round

/-!
# What becomes of a declaration

`judged_processOne` says which status a declaration gets where there is an outcome, and from what. A
declaration that is no plain class is invalid, and one without a builder has failed. For the file of a
builder it matters what is found when it is opened (`opened`): nothing can be found out, or no file
stands there, or a text does. A text that is that of the builder is left alone. Otherwise the file is
reported when files are only checked, and written when they are not; and the writing may fail.

The conditions are all about the files before the work on the declaration, so that two rounds can be
compared by comparing these.
-/

namespace FluentBuilder.Processing

open Stateful Source Store

variable {s : Surroundings} {e : Emitter} {d : Declaration} {b : Blueprint} {o : Outcome}
variable {root p : Path} {claimed claimed' : List Path} {store before after : Store} {run run' : Run}

/-! ### Opening the file of a builder -/

/-- The text of the file at a path, or nothing if no file stands there. -/
def textAt (store : Store) (p : Path) : Except RunFault (Option String) :=
  match store.look p with
  | .error fault => .error (.store fault)
  | .ok (some (.file bytes)) => ((Running.textOf bytes).map some).mapError .undecodable
  | .ok _ => .ok none

/-- The text at a path is that of the bytes of the file. -/
theorem textAt_eq_some_iff {text : String} :
    textAt store p = .ok (some text) ↔
      ∃ bytes, store.bytes p = .ok bytes ∧ Running.textOf bytes = .ok text := by
  constructor
  · intro h
    rw [textAt] at h
    split at h
    · cases h
    · next bytes hlook =>
      refine ⟨bytes, bytes_of_look hlook, ?_⟩
      rcases htext : Running.textOf bytes with fault | text'
      · rw [htext] at h
        cases h
      · rw [htext] at h
        rw [Option.some.inj (Except.ok.inj h)]
    · cases h
  · rintro ⟨bytes, hbytes, htext⟩
    rw [textAt, look_of_bytes hbytes]
    simp only [htext]
    rfl

/-- No file stands at a path that can be looked at and not be read. -/
theorem textAt_eq_none_iff :
    textAt store p = .ok none ↔
      (∃ node, store.look p = .ok node) ∧ ∀ bytes, store.bytes p ≠ .ok bytes := by
  rw [textAt]
  rcases hlook : store.look p with fault | _ | bytes | _
  · simp
  · simp only [true_iff]
    refine ⟨⟨none, rfl⟩, fun bytes hbytes => ?_⟩
    cases hlook.symm.trans (look_of_bytes hbytes)
  · constructor
    · intro h
      rcases htext : Running.textOf bytes with fault | text
      · simp only [htext] at h
        cases h
      · simp only [htext] at h
        cases h
    · intro h
      exact absurd (bytes_of_look hlook) (h.2 bytes)
  · simp only [true_iff]
    refine ⟨⟨some .directory, rfl⟩, fun bytes hbytes => ?_⟩
    cases hlook.symm.trans (look_of_bytes hbytes)

/-- Reading the text of a file that may stand at a path changes nothing. -/
theorem exec_existingText_eq (p : Path) (run : Run) :
    exec (existingText p) run = (textAt run.store p, run) := by
  rw [existingText, exec_bind, Running.exec_look, Store.isFile, textAt]
  rcases hnode : run.store.look p with fault | _ | bytes | _
  · rfl
  · rfl
  · have hbytes := bytes_of_look hnode
    simp only [Except.map, Outcome.mapError_ok, if_true, map_eq_pure_bind]
    rw [exec_bind, Running.readText, exec_bind, Running.exec_look, hbytes]
    simp only [Outcome.mapError_ok, Running.exec_ofExcept]
    rcases Running.textOf bytes with fault | text
    · rfl
    · rfl
  · rfl

/-- What is found when the file of a builder is opened: a text, or that no file stands there. Nothing
is found out where the root or the path cannot be looked at, or the file was claimed before. -/
def opened (root : Path) (claimed : List Path) (store : Store) (p : Path) : Option (Option String) :=
  match store.look root with
  | .error _ => none
  | .ok _ => if p ∈ claimed then none else (textAt store p).toOption

/-- The files that are claimed when the file of a builder was asked for. -/
def claimsWith (root : Path) (claimed : List Path) (store : Store) (p : Path) : List Path :=
  match store.look root with
  | .error _ => claimed
  | .ok _ => if p ∈ claimed then claimed else claimed ++ [p]

/-- Something is found out where the root can be looked at and the file is free and can be read. -/
theorem opened_eq_some_iff {existing : Option String} :
    opened root claimed store p = some existing ↔
      (∃ node, store.look root = .ok node) ∧ p ∉ claimed ∧ textAt store p = .ok existing := by
  rw [opened]
  rcases store.look root with fault | node
  · simp
  · by_cases hclaimed : p ∈ claimed
    · simp [hclaimed]
    · rcases textAt store p with fault | text
      · simp [hclaimed, Except.toOption]
      · simp [hclaimed, Except.toOption]

/-- Where the root can be looked at, a file that is free becomes claimed. -/
theorem claimsWith_of_not_mem {node : Option Node} (hroot : store.look root = .ok node)
    (hfree : p ∉ claimed) : claimsWith root claimed store p = claimed ++ [p] := by
  rw [claimsWith, hroot]
  exact if_neg hfree

/-- A root that is fit can be looked at. -/
theorem Running.Fit.exists_look (h : Running.Fit store root) :
    ∃ node, store.look root = .ok node := by
  rcases h with h | h
  · exact ⟨none, h⟩
  · exact ⟨some .directory, h⟩

/-! ### Statuses -/

/-- An outcome names the file and the module of a builder. -/
structure Names (e : Emitter) (b : Blueprint) (o : Outcome) : Prop where
  /-- The file. -/
  path_eq : o.path = some (b.outputPath e.root)
  /-- The module. -/
  module_eq : o.module = some b.moduleName

/-- What becomes of the file of a builder, given the files that were claimed before. -/
inductive Handled (e : Emitter) (b : Blueprint) (claimed : List Path) (before : Store) :
    Outcome → Store → Prop
  /-- It cannot be opened. -/
  | unopened {o : Outcome} (hopened : opened e.root claimed before (b.outputPath e.root) = none)
    (hstatus : o.status = .failed) : Handled e b claimed before o before
  /-- It holds the text of the builder. -/
  | upToDate {o : Outcome}
    (hopened : opened e.root claimed before (b.outputPath e.root) = some (some b.render))
    (hstatus : o.status = .emitted .unchanged) (hnames : Names e b o) :
    Handled e b claimed before o before
  /-- It is missing or holds another text, and is only checked. -/
  | drifted {o : Outcome} {existing : Option String} (hcheck : e.check = true)
    (hopened : opened e.root claimed before (b.outputPath e.root) = some existing)
    (hother : existing ≠ some b.render)
    (hstatus : o.status = .emitted (if existing.isNone then .missing else .stale))
    (hnames : Names e b o) : Handled e b claimed before o before
  /-- It is written. -/
  | written {o : Outcome} {existing : Option String} {after : Store} (hcheck : e.check = false)
    (hopened : opened e.root claimed before (b.outputPath e.root) = some existing)
    (hother : existing ≠ some b.render)
    (hwrite : exec (Filing.writeWhole (b.outputPath e.root) (Utf8.encode b.render)) before =
      (.ok (), after))
    (hstatus : o.status = .emitted .generated) (hnames : Names e b o) :
    Handled e b claimed before o after
  /-- It cannot be written. -/
  | unwritten {o : Outcome} {existing : Option String} {fault : StoreFault} {after : Store}
    (hcheck : e.check = false)
    (hopened : opened e.root claimed before (b.outputPath e.root) = some existing)
    (hother : existing ≠ some b.render)
    (hwrite : exec (Filing.writeWhole (b.outputPath e.root) (Utf8.encode b.render)) before =
      (.error fault, after))
    (hsystemic : fault.Systemic) (hstatus : o.status = .failed) : Handled e b claimed before o after

namespace Handled

/-- A file that cannot be opened makes a failed outcome. -/
theorem status_of_unopened (h : Handled e b claimed before o after)
    (hopened : opened e.root claimed before (b.outputPath e.root) = none) : o.status = .failed := by
  cases h with
  | unopened _ hstatus => exact hstatus
  | upToDate hfound => cases hopened.symm.trans hfound
  | drifted _ hfound => cases hopened.symm.trans hfound
  | written _ hfound => cases hopened.symm.trans hfound
  | unwritten _ hfound => cases hopened.symm.trans hfound

/-- Then nothing is written. -/
theorem store_of_unopened (h : Handled e b claimed before o after)
    (hopened : opened e.root claimed before (b.outputPath e.root) = none) : after = before := by
  cases h with
  | unopened => rfl
  | upToDate => rfl
  | drifted => rfl
  | written _ hfound => cases hopened.symm.trans hfound
  | unwritten _ hfound => cases hopened.symm.trans hfound

/-- A file with the text of the builder is left alone. -/
theorem unchanged_of_opened (h : Handled e b claimed before o after)
    (hopened : opened e.root claimed before (b.outputPath e.root) = some (some b.render)) :
    o.status = .emitted .unchanged ∧ Names e b o ∧ after = before := by
  cases h with
  | unopened hfound => cases hopened.symm.trans hfound
  | upToDate _ hstatus hnames => exact ⟨hstatus, hnames, rfl⟩
  | drifted _ hfound hother => exact absurd (Option.some.inj (hfound.symm.trans hopened)) hother
  | written _ hfound hother => exact absurd (Option.some.inj (hfound.symm.trans hopened)) hother
  | unwritten _ hfound hother => exact absurd (Option.some.inj (hfound.symm.trans hopened)) hother

/-- Only such a file is. -/
theorem unchanged_iff (h : Handled e b claimed before o after) :
    o.status = .emitted .unchanged ↔
      opened e.root claimed before (b.outputPath e.root) = some (some b.render) := by
  refine ⟨fun hunchanged => ?_, fun hopened => (h.unchanged_of_opened hopened).1⟩
  cases h with
  | unopened _ hstatus => cases hunchanged.symm.trans hstatus
  | upToDate hopened => exact hopened
  | @drifted existing _ _ _ hstatus =>
    have hother := hunchanged.symm.trans hstatus
    cases existing <;> cases hother
  | written _ _ _ _ hstatus => cases hunchanged.symm.trans hstatus
  | unwritten _ _ _ _ _ hstatus => cases hunchanged.symm.trans hstatus

/-- Any other file is written, or cannot be, where files are not only checked. -/
theorem written_of_opened (h : Handled e b claimed before o after) (hcheck : e.check = false)
    {existing : Option String}
    (hopened : opened e.root claimed before (b.outputPath e.root) = some existing)
    (hother : existing ≠ some b.render) :
    (o.status = .emitted .generated ∧ Names e b o) ∨
      o.status = .failed ∧ ∃ fault, fault.Systemic ∧
        exec (Filing.writeWhole (b.outputPath e.root) (Utf8.encode b.render)) before =
          (.error fault, after) := by
  cases h with
  | unopened hfound => cases hopened.symm.trans hfound
  | upToDate hfound => exact absurd (Option.some.inj (hopened.symm.trans hfound)) hother
  | drifted hcheck' => cases hcheck.symm.trans hcheck'
  | written _ _ _ _ hstatus hnames => exact .inl ⟨hstatus, hnames⟩
  | unwritten _ _ _ hwrite hsystemic hstatus => exact .inr ⟨hstatus, _, hsystemic, hwrite⟩

end Handled

/-- What becomes of a declaration, with the files that are claimed then. -/
inductive Judged (s : Surroundings) (e : Emitter) (d : Declaration) (claimed : List Path)
    (before : Store) : Outcome → List Path → Store → Prop
  /-- It is no plain class. -/
  | invalid {o : Outcome} (hkind : s.tree.kindOf d ≠ .plainClass) (hstatus : o.status = .invalid) :
    Judged s e d claimed before o claimed before
  /-- It has no builder. -/
  | unbuilt {o : Outcome} (hkind : s.tree.kindOf d = .plainClass) (hb : builderOf? s d = none)
    (hstatus : o.status = .failed) : Judged s e d claimed before o claimed before
  /-- It has a builder, whose file is handled. -/
  | built {o : Outcome} {b : Blueprint} {after : Store} (hkind : s.tree.kindOf d = .plainClass)
    (hb : builderOf? s d = some b) (hhandled : Handled e b claimed before o after) :
    Judged s e d claimed before o (claimsWith e.root claimed before (b.outputPath e.root)) after

/-! ### The parts of the work -/

/-- A fault that is kept to the class makes a failed outcome. -/
theorem failed_of_failedOutcome {fault : RunFault}
    (h : exec (failedOutcome d fault) run = (.ok o, run')) :
    fault.isLocal = true ∧ o.status = .failed ∧ run'.store = run.store := by
  rw [failedOutcome, exec_ite] at h
  split at h
  · next hlocal =>
    obtain ⟨diagnostic, run₁, herror, -, hcontinues⟩ :=
      Running.exec_error ("Cannot generate builder for " ++ d.qualifiedName ++ ": " ++ fault.message)
        (some d) none none run
    rw [exec_bind_of_ok herror] at h
    cases h
    exact ⟨hlocal, rfl, hcontinues.store_eq⟩
  · cases h

/-- A declaration that is no plain class has an invalid outcome. -/
theorem invalid_of_invalidOutcome {kind : Kind}
    (h : exec (invalidOutcome d kind) run = (.ok o, run')) :
    o.status = .invalid ∧ run'.store = run.store := by
  obtain ⟨diagnostic, run₁, herror, -, hcontinues⟩ :=
    Running.exec_error ("The marker is invalid for the " ++ kind.word ++ " " ++ d.name ++
      ". Please put @" ++ markerName ++ " on a class") (some d) (some "InvalidPlacement") none run
  rw [invalidOutcome, exec_bind_of_ok herror] at h
  cases h
  exact ⟨rfl, hcontinues.store_eq⟩

/-- The outcome of a builder has the status of its file. -/
theorem emitted_of_emittedOutcome {status : EmitStatus}
    (h : exec (emittedOutcome d b p status) run = (.ok o, run')) :
    o.status = .emitted status ∧ o.path = some p ∧ o.module = some b.moduleName ∧
      run'.store = run.store := by
  rw [emittedOutcome, exec_ite] at h
  split at h
  · obtain ⟨run₁, hlog, hcontinues⟩ :=
      Running.exec_log .info "processor" (status.word ++ ": " ++ p.render) run
    rw [exec_bind_of_ok hlog] at h
    cases h
    exact ⟨rfl, rfl, rfl, hcontinues.store_eq⟩
  · obtain ⟨diagnostic, run₁, herror, -, hcontinues⟩ :=
      Running.exec_error (p.render ++ " is " ++
        (if status = .stale then "out of date" else "missing") ++ " (run generator)") (some d)
        none none run
    rw [exec_bind_of_ok herror] at h
    cases h
    exact ⟨rfl, rfl, rfl, hcontinues.store_eq⟩

/-- A file that was claimed before makes a failed outcome. -/
theorem failed_of_writeBuilder {schema : Schema} {entries entries' : List (Path × String)}
    (h : exec (writeBuilder e d schema entries) run = (.ok (.error (o, entries')), run')) :
    o.status = .failed := by
  obtain ⟨-, run₁, -, h⟩ := exec_bind_ok_iff.mp h
  obtain ⟨b, run₂, -, h⟩ := exec_bind_ok_iff.mp h
  obtain ⟨path, run₃, -, h⟩ := exec_bind_ok_iff.mp h
  split at h
  · obtain ⟨diagnostic, run₄, -, h⟩ := exec_bind_ok_iff.mp h
    cases h
    rfl
  · obtain ⟨-, run₄, -, h⟩ := exec_bind_ok_iff.mp h
    cases h

/-- A text that is that of the builder is left alone, and any other is checked only or written. -/
theorem exec_settle (path : Path) (check : Bool) (b : Blueprint) (existing : Option String)
    (run : Run) :
    exec (settle path check b existing) run =
      if existing = some b.render then (.ok .unchanged, run)
      else if check then (.ok (if existing.isNone then .missing else .stale), run)
      else match exec (Filing.writeWhole path (Utf8.encode b.render)) run.store with
        | (.ok (), after) => (.ok .generated, { run with store := after })
        | (.error fault, after) => (.error (.store fault), { run with store := after }) := by
  rw [settle, exec_ite, exec_ite]
  split
  · rfl
  split
  · rfl
  · rw [exec_bind, Running.exec_file]
    rcases exec (Filing.writeWhole path (Utf8.encode b.render)) run.store with ⟨fault | _, after⟩
    · rfl
    · rfl

/-- Emitting a builder where the root is fit: the text that stands there is read, and the file is
settled. -/
theorem exec_emit_of_fit (hroot : Running.Fit run.store root) (check : Bool) (b : Blueprint) :
    exec (emit root check b) run = match textAt run.store (b.outputPath root) with
      | .error fault => (.error fault, run)
      | .ok existing =>
        ((exec (settle (b.outputPath root) check b existing) run).1.map (b.outputPath root, ·),
          (exec (settle (b.outputPath root) check b existing) run).2) := by
  have hpath : exec (emitPath root b) run = (.ok (b.outputPath root), run) := by
    rw [emitPath, exec_bind_of_ok (Running.exec_checkOutput_of_fit hroot), exec_pure]
  rw [emit, exec_bind_of_ok hpath, exec_bind, exec_existingText_eq]
  rcases textAt run.store (b.outputPath root) with fault | existing
  · rfl
  · simp only [exec_bind]
    rcases exec (settle (b.outputPath root) check b existing) run with ⟨fault | status, run'⟩
    · rfl
    · rfl

/-- What is made of emitting a builder. -/
def concluded (e : Emitter) (d : Declaration) (b : Blueprint) (progress : Progress) :
    Running (Outcome × Progress) := do
  match ← attempt (emit e.root e.check b) with
  | .error fault => return (← failedOutcome d fault, progress)
  | .ok (path, status) => return (← emittedOutcome d b path status, progress)

/-- A builder that cannot be emitted has failed. -/
theorem failed_of_concluded {progress progress' : Progress} {fault : RunFault} {run₁ : Run}
    (hemit : exec (emit e.root e.check b) run = (.error fault, run₁))
    (h : exec (concluded e d b progress) run = (.ok (o, progress'), run')) :
    progress' = progress ∧ fault.isLocal = true ∧ o.status = .failed ∧ run'.store = run₁.store := by
  rw [concluded, exec_bind_of_ok (Running.exec_attempt _ run), hemit] at h
  obtain ⟨o, run₂, hfailed, hlast⟩ := exec_bind_ok_iff.mp h
  cases hlast
  exact ⟨rfl, failed_of_failedOutcome hfailed⟩

/-- A builder that is emitted has the status of its file. -/
theorem emitted_of_concluded {progress progress' : Progress} {status : EmitStatus} {run₁ : Run}
    (hemit : exec (emit e.root e.check b) run = (.ok (b.outputPath e.root, status), run₁))
    (h : exec (concluded e d b progress) run = (.ok (o, progress'), run')) :
    progress' = progress ∧ o.status = .emitted status ∧ Names e b o ∧ run'.store = run₁.store := by
  rw [concluded, exec_bind_of_ok (Running.exec_attempt _ run), hemit] at h
  obtain ⟨o, run₂, hemitted, hlast⟩ := exec_bind_ok_iff.mp h
  obtain ⟨hstatus, hpath, hmodule, hstore⟩ := emitted_of_emittedOutcome hemitted
  cases hlast
  exact ⟨rfl, hstatus, ⟨hpath, hmodule⟩, hstore⟩

/-- A builder whose file is free is handled. -/
theorem handled_of_concluded {progress progress' : Progress} (hroot : Running.Fit run.store e.root)
    (hfree : b.outputPath e.root ∉ claimed)
    (h : exec (concluded e d b progress) run = (.ok (o, progress'), run')) :
    progress' = progress ∧ Handled e b claimed run.store o run'.store := by
  have hemit := exec_emit_of_fit hroot e.check b
  rcases htext : textAt run.store (b.outputPath e.root) with fault | existing
  · rw [htext] at hemit
    obtain ⟨hprogress, -, hstatus, hstore⟩ := failed_of_concluded hemit h
    refine ⟨hprogress, ?_⟩
    rw [hstore]
    refine .unopened (Option.eq_none_iff_forall_ne_some.mpr fun existing hopened => ?_) hstatus
    obtain ⟨-, -, hexisting⟩ := opened_eq_some_iff.mp hopened
    cases htext.symm.trans hexisting
  have hopened : opened e.root claimed run.store (b.outputPath e.root) = some existing :=
    opened_eq_some_iff.mpr ⟨hroot.exists_look, hfree, htext⟩
  have hsettle := exec_settle (b.outputPath e.root) e.check b existing run
  simp only [htext] at hemit
  by_cases hsame : existing = some b.render
  · rw [if_pos hsame] at hsettle
    rw [hsettle] at hemit
    obtain ⟨hprogress, hstatus, hnames, hstore⟩ := emitted_of_concluded hemit h
    refine ⟨hprogress, ?_⟩
    rw [hstore]
    exact .upToDate (hsame ▸ hopened) hstatus hnames
  rw [if_neg hsame] at hsettle
  by_cases hcheck : e.check = true
  · rw [if_pos hcheck] at hsettle
    rw [hsettle] at hemit
    obtain ⟨hprogress, hstatus, hnames, hstore⟩ := emitted_of_concluded hemit h
    refine ⟨hprogress, ?_⟩
    rw [hstore]
    exact .drifted hcheck hopened hsame hstatus hnames
  rw [if_neg hcheck] at hsettle
  rw [Bool.not_eq_true] at hcheck
  rcases hwrite : exec (Filing.writeWhole (b.outputPath e.root) (Utf8.encode b.render)) run.store with
    ⟨fault | _, after⟩
  · simp only [hwrite] at hsettle
    rw [hsettle] at hemit
    obtain ⟨hprogress, hlocal, hstatus, hstore⟩ := failed_of_concluded hemit h
    refine ⟨hprogress, ?_⟩
    rw [hstore]
    exact .unwritten hcheck hopened hsame hwrite hlocal hstatus
  · simp only [hwrite] at hsettle
    rw [hsettle] at hemit
    obtain ⟨hprogress, hstatus, hnames, hstore⟩ := emitted_of_concluded hemit h
    refine ⟨hprogress, ?_⟩
    rw [hstore]
    exact .written hcheck hopened hsame hwrite hstatus hnames

/-! ### The whole work -/

/-- A class whose file is not opened keeps the claims as they are. -/
theorem judged_of_claimed (hkind : s.tree.kindOf d = .plainClass) (hb : builderOf? s d = some b)
    (hstatus : o.status = .failed) (hopened : opened e.root claimed store (b.outputPath e.root) = none)
    (hclaims : claimsWith e.root claimed store (b.outputPath e.root) = claimed) :
    Judged s e d claimed store o claimed store := by
  have hjudged := Judged.built hkind hb (.unopened hopened hstatus)
  rw [hclaims] at hjudged
  exact hjudged

/-- What becomes of a plain class. -/
theorem judged_processClass {progress progress' : Progress} (hrefs : Resolving.Sound s progress.refs)
    (hkind : s.tree.kindOf d = .plainClass)
    (h : exec (processClass s e d progress) run = (.ok (o, progress'), run')) :
    Judged s e d progress.paths run.store o progress'.paths run'.store := by
  obtain ⟨refs, run₁, hdescribe, -, hfirst⟩ := exec_describe hrefs d run
  rw [processClass, exec_bind_of_ok hdescribe] at h
  rcases hschema : schemaOf s d with fault | schema
  · rw [hschema] at h
    obtain ⟨o, run₂, hfailed, hlast⟩ := exec_bind_ok_iff.mp h
    obtain ⟨-, hstatus, hstore⟩ := failed_of_failedOutcome hfailed
    cases hlast
    rw [hstore, hfirst.store_eq]
    exact .unbuilt hkind (by rw [builderOf?, hschema]) hstatus
  rw [hschema] at h
  simp only at h
  rw [exec_bind_of_ok (Running.exec_attempt _ run₁)] at h
  have hclaiming := (claiming_writeBuilder e d schema progress.claimed run₁).after hfirst
  have hrefused : ∀ o entries, (exec (writeBuilder e d schema progress.claimed) run₁).1 =
      .ok (.error (o, entries)) → o.status = .failed := fun o entries hresult =>
    failed_of_writeBuilder (Prod.ext hresult rfl)
  generalize (exec (writeBuilder e d schema progress.claimed) run₁).1 = result at hclaiming h hrefused
  generalize (exec (writeBuilder e d schema progress.claimed) run₁).2 = run₂ at hclaiming h
  cases hclaiming with
  | refused hb hcontinues =>
    obtain ⟨o, run₃, hfailed, hlast⟩ := exec_bind_ok_iff.mp h
    obtain ⟨-, hstatus, hstore⟩ := failed_of_failedOutcome hfailed
    cases hlast
    rw [hstore, hcontinues.store_eq]
    refine .unbuilt hkind ?_ hstatus
    rw [builderOf?, hschema]
    simp only [hb]
    rfl
  | blocked hb hroot =>
    obtain ⟨o, run₃, hfailed, -⟩ := exec_bind_ok_iff.mp h
    cases (failed_of_failedOutcome hfailed).1
  | unseen hb hroot hcontinues =>
    obtain ⟨o, run₃, hfailed, hlast⟩ := exec_bind_ok_iff.mp h
    obtain ⟨-, hstatus, hstore⟩ := failed_of_failedOutcome hfailed
    cases hlast
    rw [hstore, hcontinues.store_eq]
    exact judged_of_claimed hkind (builderOf?_of_ofSchema hschema hb) hstatus
      (by rw [opened, hroot]) (by rw [claimsWith, hroot])
  | taken hb hroot htaken hreports hfailed =>
    cases h
    obtain ⟨node, hnode⟩ := hroot.exists_look
    rw [hreports.continues.store_eq]
    exact judged_of_claimed hkind (builderOf?_of_ofSchema hschema hb) (hrefused _ _ rfl)
      (by rw [opened, hnode]; exact if_pos htaken) (by rw [claimsWith, hnode]; exact if_pos htaken)
  | @free b _ hb hroot hfree hcontinues =>
    change b.outputPath e.root ∉ progress.paths at hfree
    obtain ⟨node, hnode⟩ := hroot.exists_look
    have hconcluded : exec (concluded e d b
        ⟨refs, progress.claimed ++ [(b.outputPath e.root, d.qualifiedName)]⟩) run₂ =
          (.ok (o, progress'), run') := h
    obtain ⟨rfl, hhandled⟩ := handled_of_concluded (hcontinues.store_eq ▸ hroot) hfree hconcluded
    have hpaths : Progress.paths ⟨refs, progress.claimed ++ [(b.outputPath e.root, d.qualifiedName)]⟩ =
        claimsWith e.root progress.paths run.store (b.outputPath e.root) := by
      rw [claimsWith_of_not_mem hnode hfree, Progress.paths,
        List.map_append, List.map_singleton, Progress.paths]
    rw [hpaths]
    rw [hcontinues.store_eq] at hhandled
    exact .built hkind (builderOf?_of_ofSchema hschema hb) hhandled

/-- **What becomes of a declaration**, where there is an outcome. -/
theorem judged_processOne {progress progress' : Progress} (hrefs : Resolving.Sound s progress.refs)
    (h : exec (processOne s e d progress) run = (.ok (o, progress'), run')) :
    Judged s e d progress.paths run.store o progress'.paths run'.store := by
  rw [processOne, exec_ite] at h
  split at h
  · next hkind => exact judged_processClass hrefs hkind h
  · next hkind =>
    obtain ⟨o, run₁, hinvalid, hlast⟩ := exec_bind_ok_iff.mp h
    obtain ⟨hstatus, hstore⟩ := invalid_of_invalidOutcome hinvalid
    cases hlast
    rw [hstore]
    exact .invalid hkind hstatus

/-- Where there is an outcome, the references found are sound and what happened to the files fits it. -/
theorem effect_of_processOne {progress progress' : Progress} (hrefs : Resolving.Sound s progress.refs)
    (h : exec (processOne s e d progress) run = (.ok (o, progress'), run')) :
    Resolving.Sound s progress'.refs ∧
      Effect s e d progress.paths run.store o progress'.paths run'.store := by
  rcases worked_processOne hrefs e d run with
    ⟨o', progress'', run'', hone, hsound, -, heffect, -⟩ | ⟨fault, run'', hone, -, -⟩
  · rw [hone] at h
    cases h
    exact ⟨hsound, heffect⟩
  · rw [hone] at h
    cases h

/-- There are outcomes iff there is one of the first declaration, and then there are those of the
others. -/
theorem exec_processAll_cons_iff {progress : Progress} {rest : List Declaration}
    {outcomes : List Outcome} {run'' : Run} :
    exec (processAll s e progress (d :: rest)) run = (.ok outcomes, run'') ↔
      ∃ o progress' run' others, exec (processOne s e d progress) run = (.ok (o, progress'), run') ∧
        exec (processAll s e progress' rest) run' = (.ok others, run'') ∧ outcomes = o :: others := by
  rw [processAll, exec_bind_ok_iff]
  constructor
  · rintro ⟨⟨o, progress'⟩, run', hone, h⟩
    obtain ⟨others, run₂, hrest, hlast⟩ := exec_bind_ok_iff.mp h
    cases hlast
    exact ⟨o, progress', run', others, hone, hrest, rfl⟩
  · rintro ⟨o, progress', run', others, hone, hrest, rfl⟩
    exact ⟨(o, progress'), run', hone, by rw [exec_bind_of_ok hrest, exec_pure]⟩

/-- The outcomes of declarations are judged one by one. -/
theorem judged_processAll {ds : List Declaration} {progress : Progress} {outcomes : List Outcome}
    (hrefs : Resolving.Sound s progress.refs)
    (h : exec (processAll s e progress ds) run = (.ok outcomes, run')) :
    List.Forall₂ (fun d o => ∃ claimed before claimed' after,
      Judged s e d claimed before o claimed' after) ds outcomes := by
  induction ds generalizing progress run outcomes with
  | nil =>
    cases h
    exact .nil
  | cons d rest ih =>
    obtain ⟨o, progress', run₁, others, hone, hrest, rfl⟩ := exec_processAll_cons_iff.mp h
    exact .cons ⟨_, _, _, _, judged_processOne hrefs hone⟩
      (ih (effect_of_processOne hrefs hone).1 hrest)

/-- What is as it should be has a builder, which the outcome names. -/
theorem Judged.exists_builder (h : Judged s e d claimed before o claimed' after)
    (hok : o.isOk = true) : ∃ b, builderOf? s d = some b ∧ Names e b o := by
  cases h with
  | invalid _ hstatus =>
    rw [Outcome.isOk, hstatus] at hok
    cases hok
  | unbuilt _ _ hstatus =>
    rw [Outcome.isOk, hstatus] at hok
    cases hok
  | built _ hb hhandled =>
    refine ⟨_, hb, ?_⟩
    cases hhandled with
    | unopened _ hstatus =>
      rw [Outcome.isOk, hstatus] at hok
      cases hok
    | upToDate _ _ hnames => exact hnames
    | drifted _ _ _ _ hnames => exact hnames
    | written _ _ _ _ _ hnames => exact hnames
    | unwritten _ _ _ _ _ hstatus =>
      rw [Outcome.isOk, hstatus] at hok
      cases hok

/-- The outcomes of a round are those of the declarations, after a note perhaps. -/
theorem exec_processRound_ok {tree : Tree} {isLast : Bool} {result : RoundResult}
    (h : exec (processRound e tree isLast) run = (.ok result, run')) :
    ∃ run₁, Run.Continues [] run run₁ ∧
      exec (processAll (Surroundings.ofTree tree) e ⟨[], []⟩ tree.marked) run₁ =
        (.ok result.outcomes, run') := by
  obtain ⟨run₁, hcontinues, hround⟩ := exec_processRound e tree isLast run
  rw [hround, map_eq_pure_bind] at h
  obtain ⟨outcomes, run₂, hall, hlast⟩ := exec_bind_ok_iff.mp h
  cases hlast
  exact ⟨run₁, hcontinues, hall⟩

end FluentBuilder.Processing
