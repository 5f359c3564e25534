import FluentBuilder.CommandLine.Execution
import FluentBuilder.Proofs.Processing.Generation

/-!
# Exits

What the exit of the command says (`exit_of_execute`). Two records of failure are joined in it: the errors
among the diagnostics, and the outcomes of the declarations. They agree, since every outcome that is not as
it should be carries an error of its own (`Completed.isOk_eq`), and the only other errors are those of
modules that cannot be read (`errors_of_generate`).

**Refused configurations.** The exit 2 is that of a configuration that cannot be used. Finding the
configuration changes nothing (`looks_chosenConfig`), and neither does a whole run that refuses it.
-/

namespace FluentBuilder.CommandLine

open Stateful Processing Source

variable {i : Invocation} {run run' : Run} {config : Config} {check : Bool} {results : List RoundResult}

/-! ### Finding the configuration -/

/-- A part that only looks leaves the run as it is. -/
abbrev Looks {α : Type} (part : Running α) : Prop := Keeps (fun run run' : Run => run' = run) part

/-- One look after another. -/
theorem looks_bind {α β : Type} {part : Running α} {next : α → Running β} (hpart : Looks part)
    (hnext : ∀ a, Looks (next a)) : Looks (part >>= next) :=
  Keeps.bind (fun _ _ _ h h' => h'.trans h) hpart hnext

/-- Reading a configuration file only looks. -/
theorem looks_loadConfig (path : Path) : Looks (loadConfig path) := by
  refine looks_bind (fun _ => rfl) fun occupied => ?_
  cases occupied with
  | false => exact fun _ => rfl
  | true =>
    refine looks_bind (looks_bind (fun _ => rfl) fun _ _ => rfl) fun text => ?_
    split
    · exact fun _ => rfl
    · exact fun _ => rfl
    · exact looks_bind (fun _ => rfl) fun _ => looks_bind (fun _ => rfl) fun _ _ => rfl

/-- **Finding the configuration only looks.** -/
theorem looks_chosenConfig (i : Invocation) : Looks (chosenConfig i) := by
  have hreplaced : ∀ path : Path, Looks (do
      let config ← loadConfig path
      return config.withOverrides i.roots i.out) := fun path =>
    looks_bind (looks_loadConfig path) fun _ _ => rfl
  rw [chosenConfig]
  split
  · exact hreplaced _
  · refine looks_bind (fun _ => rfl) fun found => ?_
    cases found with
    | true => exact hreplaced _
    | false => exact fun _ => rfl

/-! ### What a run comes to -/

/-- What the command does: it finds its configuration and generates. -/
def commanded (i : Invocation) : Running (List RoundResult) := do
  let config ← chosenConfig i
  generate config i.check

/-- It generates from the configuration that it finds, over the same files. -/
theorem exec_commanded_of_chosen (h : (exec (chosenConfig i) run).1 = .ok config) :
    exec (commanded i) run = exec (generate config i.check) run :=
  exec_bind_of_ok (Prod.ext h (looks_chosenConfig i run))

/-- Whenever it generates, it has found a configuration. -/
theorem exists_chosen_of_commanded (h : exec (commanded i) run = (.ok results, run')) :
    ∃ config, (exec (chosenConfig i) run).1 = .ok config ∧
      exec (generate config i.check) run = (.ok results, run') := by
  obtain ⟨config, run₁, hchosen, hgenerate⟩ := exec_bind_ok_iff.mp h
  have hconfig : (exec (chosenConfig i) run).1 = .ok config := by rw [hchosen]
  exact ⟨config, hconfig, (exec_commanded_of_chosen hconfig).symm.trans h⟩

/-- A report is made of what the command came to. -/
theorem exec_execute_ok {report : Report} (h : exec (execute i) run = (.ok report, run')) :
    (∃ results, exec (commanded i) run = (.ok results, run') ∧ report = reportOf i run' results) ∨
      ∃ fault, exec (commanded i) run = (.error (.config fault), run') ∧
        report = refusedReport i run' fault := by
  have hattempt : exec (attempt (commanded i)) run =
      (.ok (exec (commanded i) run).1, (exec (commanded i) run).2) := Running.exec_attempt _ run
  rw [execute] at h
  change exec (attempt (commanded i) >>= _) run = _ at h
  rw [exec_bind_of_ok hattempt] at h
  rcases hresult : exec (commanded i) run with ⟨fault | results, run₁⟩
  · rw [hresult] at h
    rw [exec_bind_of_ok (exec_get run₁)] at h
    cases fault with
    | config fault =>
      cases h
      exact .inr ⟨fault, rfl, rfl⟩
    | _ => cases h
  · rw [hresult] at h
    rw [exec_bind_of_ok (exec_get run₁)] at h
    cases h
    exact .inl ⟨results, rfl, rfl⟩

/-! ### Errors and outcomes -/

/-- Every module below the roots was read, and every marked declaration is as it should be. -/
structure Faultless (config : Config) (before : Run) (tree : Tree) (outcomes : List Outcome) : Prop where
  /-- The declarations are those of the sources. -/
  loaded : Loaded before.store config.sourceRoots tree
  /-- Every module was read. -/
  all_read : AllRead before.store config.sourceRoots
  /-- Every declaration has its outcome, which says that its builder was written or was there. -/
  outcomes : List.Forall₂ (fun d o => o.element = d.qualifiedName ∧
    (o.status = .emitted .generated ∨ o.status = .emitted .unchanged)) tree.marked outcomes

/-- What is as it should be was generated or is unchanged. -/
theorem isOk_iff {o : Outcome} :
    o.isOk = true ↔ o.status = .emitted .generated ∨ o.status = .emitted .unchanged := by
  rw [Outcome.isOk]
  cases o.status with
  | emitted status => cases status <;> simp [Status.isOk, EmitStatus.isUpToDate]
  | failed => simp [Status.isOk]
  | invalid => simp [Status.isOk]

/-- **The errors of a whole run** are those of modules that cannot be read, and those that outcomes
carry. -/
theorem errors_of_generate (h : exec (generate config check) run = (.ok results, run')) :
    ∃ tree first errors, results = [first, ⟨[]⟩] ∧ Loaded run.store config.sourceRoots tree ∧
      run'.errors = run.errors ++ errors ++ first.outcomes.filterMap Outcome.diagnostic ∧
      (errors = [] ↔ AllRead run.store config.sourceRoots) ∧
      List.Forall₂ (fun d o => o.element = d.qualifiedName) tree.marked first.outcomes ∧
      ∀ o ∈ first.outcomes, o.isOk = o.diagnostic.isNone := by
  obtain ⟨root, tree, runA, first, runB, errors, -, hloaded, hreported, hnil, hfirst, rfl, hlast⟩ :=
    exec_generate_ok h
  obtain ⟨runC, hbegun, hall⟩ := exec_processRound_ok hfirst
  have hcompleted := completed_processAll (Resolving.sound_nil _) hall
  refine ⟨tree, first, errors, rfl, hloaded, ?_, hnil, hcompleted.elements, hcompleted.isOk_eq⟩
  have hround : runB.errors = runC.errors ++ first.outcomes.filterMap Outcome.diagnostic :=
    hcompleted.continues.errors_eq
  rw [hlast.errors_eq, hround, hbegun.errors_eq, hreported.errors_eq, List.append_nil, List.append_nil]

/-- **A run is without errors iff it is faultless**, and then all outcomes are as they should be. -/
theorem errors_eq_nil_iff (hfresh : run.errors = [])
    (h : exec (generate config check) run = (.ok results, run')) :
    run'.errors = [] ↔ ∃ tree first, results = [first, ⟨[]⟩] ∧
      Faultless config run tree first.outcomes := by
  obtain ⟨tree, first, errors, rfl, hloaded, herrors, hnil, helements, hcarry⟩ := errors_of_generate h
  rw [herrors, hfresh, List.nil_append, List.append_eq_nil_iff, hnil, List.filterMap_eq_nil_iff]
  constructor
  · rintro ⟨hread, hnone⟩
    refine ⟨tree, first, rfl, hloaded, hread, ?_⟩
    refine FluentBuilder.Outcome.imp_of_mem (fun d _ o ho helement => ⟨helement, ?_⟩) helements
    rw [← isOk_iff, hcarry o ho, hnone o ho]
    rfl
  · rintro ⟨tree', first', heq, hfaultless⟩
    obtain rfl : first = first' := (List.cons.inj heq).1
    refine ⟨hfaultless.all_read, fun o ho => ?_⟩
    obtain ⟨d, -, -, hstatus⟩ := FluentBuilder.Outcome.exists_of_mem_right hfaultless.outcomes ho
    have hok := (hcarry o ho).symm.trans (isOk_iff.mpr hstatus)
    exact Option.isNone_iff_eq_none.mp hok

/-- Outcomes that are not as they should be are among the errors. -/
theorem all_isOk_of_errors (h : exec (generate config check) run = (.ok results, run'))
    (hnone : run'.errors = []) : (results.flatMap RoundResult.outcomes).all Outcome.isOk = true := by
  obtain ⟨tree, first, errors, rfl, -, herrors, -, -, hcarry⟩ := errors_of_generate h
  rw [hnone, eq_comm, List.append_eq_nil_iff, List.filterMap_eq_nil_iff] at herrors
  rw [List.all_eq_true]
  intro o ho
  rw [List.flatMap_cons, List.flatMap_singleton, List.append_nil] at ho
  rw [hcarry o ho, herrors.2 o ho]
  rfl

/-! ### The exit -/

/-- A line is printed among others. -/
def Prints (text line : String) : Prop :=
  ∃ before after : String, text = before ++ (line ++ "\n") ++ after

/-- A line is printed if it is one of those that make up the text. -/
theorem prints_textOfLines {lines : List String} {line : String} (h : line ∈ lines) :
    Prints (textOfLines lines) line := by
  obtain ⟨front, back, rfl⟩ := List.append_of_mem h
  refine ⟨textOfLines front, textOfLines back, ?_⟩
  simp [textOfLines, String.join_append, String.join_cons, String.append_assoc]

/-- **The exit of a run that went through** is 0 iff there is no error. -/
theorem exit_reportOf (h : exec (commanded i) run = (.ok results, run')) :
    (reportOf i run' results).exit = if run'.errors = [] then 0 else 1 := by
  obtain ⟨config, -, hgenerate⟩ := exists_chosen_of_commanded h
  rw [reportOf]
  simp only
  by_cases hnone : run'.errors = []
  · have hdiagnostics : run'.diagnostics.any Diagnostic.isError = false := by
      rw [Run.errors, List.filter_eq_nil_iff] at hnone
      simpa using hnone
    rw [if_pos hnone, hdiagnostics, all_isOk_of_errors hgenerate hnone]
    rfl
  · have hdiagnostics : run'.diagnostics.any Diagnostic.isError = true := by
      obtain ⟨d, hd⟩ := List.exists_mem_of_ne_nil _ hnone
      exact List.any_eq_true.mpr ⟨d, List.mem_filter.mp hd⟩
    rw [if_neg hnone, hdiagnostics]
    rfl

/-- **What the exit says.** For a run over files of which no diagnostics were made before: the exit is 2
iff the configuration was refused, and then nothing has changed; it is 0 iff every module that was found
was read, and the builder of every marked declaration was generated or is unchanged; otherwise it is 1, and
an error is printed. -/
theorem exit_of_run {arguments : List String} (harguments : Invocation.ofArguments arguments = .ok i)
    (hfresh : run.diagnostics = []) (hsound : run.store.Sound) (hproper : run.store.Proper)
    {report : Report} (h : exec (CommandLine.run arguments) run = (.ok report, run')) :
    (report.exit = 2 ↔ ∃ fault after, exec (commanded i) run = (.error (.config fault), after)) ∧
    (report.exit = 2 → run'.store = run.store) ∧
    (report.exit = 0 ↔ ∃ config tree first after, (exec (chosenConfig i) run).1 = .ok config ∧
      exec (commanded i) run = (.ok [first, ⟨[]⟩], after) ∧ Faultless config run tree first.outcomes) ∧
    (report.exit ≠ 2 → report.exit ≠ 0 → report.exit = 1 ∧
      ∃ d ∈ run'.diagnostics, d.isError = true ∧ Prints report.errors d.render) := by
  have herrors : run.errors = [] := by rw [Run.errors, hfresh, List.filter_nil]
  have hexecute : exec (execute i) run = (.ok report, run') := by
    rw [CommandLine.run, harguments] at h
    exact h
  rcases exec_execute_ok hexecute with ⟨results, hresults, rfl⟩ | ⟨fault, hrefused, rfl⟩
  · obtain ⟨config, hchosen, hgenerate⟩ := exists_chosen_of_commanded hresults
    have hexit := exit_reportOf hresults
    have hnil := errors_eq_nil_iff herrors hgenerate
    have hne : (reportOf i run' results).exit ≠ 2 := by
      rw [hexit]
      split <;> simp
    refine ⟨⟨fun htwo => absurd htwo hne, ?_⟩, fun htwo => absurd htwo hne, ?_, fun _ hzero => ?_⟩
    · rintro ⟨fault, after, hrefused⟩
      cases hresults.symm.trans hrefused
    · rw [hexit, ite_eq_left_iff]
      simp only [one_ne_zero, imp_false, not_not, hnil]
      constructor
      · rintro ⟨tree, first, rfl, hfaultless⟩
        exact ⟨config, tree, first, run', hchosen, hresults, hfaultless⟩
      · rintro ⟨config', tree, first, after, hchosen', hresults', hfaultless⟩
        obtain rfl := Except.ok.inj (hchosen.symm.trans hchosen')
        obtain ⟨heq, -⟩ := Prod.mk.inj (hresults.symm.trans hresults')
        exact ⟨tree, first, Except.ok.inj heq, hfaultless⟩
    · have hsome : run'.errors ≠ [] := fun hnone => hzero (by rw [hexit, if_pos hnone])
      refine ⟨by rw [hexit, if_neg hsome], ?_⟩
      obtain ⟨d, hd⟩ := List.exists_mem_of_ne_nil _ hsome
      obtain ⟨hmem, herror⟩ := List.mem_filter.mp hd
      refine ⟨d, hmem, herror, prints_textOfLines (List.mem_append_right _ ?_)⟩
      refine List.mem_map_of_mem (List.mem_filter.mpr ⟨hmem, ?_⟩)
      have hseverity : d.severity = .error := eq_of_beq herror
      simp [hseverity]
  · have hstore : run'.store = run.store := by
      rcases exec_bind_cases hrefused with ⟨fault', hchosen, -⟩ | ⟨config, run₁, hchosen, hgenerate⟩
      · have hsame := looks_chosenConfig i run
        rw [hchosen] at hsame
        rw [show run' = run from hsame]
      · have hsame := looks_chosenConfig i run
        rw [hchosen] at hsame
        obtain rfl : run₁ = run := hsame
        exact exec_generate_refused hsound hproper hgenerate
    refine ⟨⟨fun _ => ⟨fault, run', hrefused⟩, fun _ => rfl⟩, fun _ => hstore, ⟨?_, ?_⟩, ?_⟩
    · intro hzero
      cases hzero
    · rintro ⟨config, tree, first, after, -, hresults, -⟩
      cases hrefused.symm.trans hresults
    · exact fun hne => absurd rfl hne

/-- The text of a module with a class that is marked. -/
def shopSource : String := "from buildergen import builder\n@builder\nclass Car:\n    pass\n"

/-- A directory with the module. -/
def shop : Run :=
  ⟨⟨[(["src"], .directory), (["src", "m.py"], .file (Utf8.encode shopSource))], [], "/root"⟩, [], []⟩

/-- The arguments that ask for the builders of its classes. -/
def shopping : List String := ["generate", "src", "--out", "out"]

/-- The builder of the class is generated there, and the exit says so. -/
theorem exit_of_shop :
    ∃ report after, exec (CommandLine.run shopping) shop = (.ok report, after) ∧ report.exit = 0 ∧
      ∃ config tree first, Faultless config shop tree first := by
  let i : Invocation := ⟨["src"], some "out", none, false, 0⟩
  have harguments : Invocation.ofArguments shopping = .ok i :=
    FluentBuilder.Outcome.toOption_eq_some_iff.mp (by decide +kernel)
  have hlisted : ∀ entry ∈ shop.store.nodes, shop.store.node? entry.1 = some entry.2 := by decide +kernel
  have hsound : shop.store.Sound := ⟨Store.rooted_of_nodes (by decide +kernel), hlisted, rfl⟩
  have hproper : shop.store.Proper := by
    unfold Store.Proper
    decide
  have hexit : (exec (CommandLine.run shopping) shop).1.toOption.map Report.exit = some 0 := by decide +kernel
  rcases hrun : exec (CommandLine.run shopping) shop with ⟨fault | report, after⟩
  · rw [hrun] at hexit
    cases hexit
  rw [hrun] at hexit
  have hzero : report.exit = 0 := Option.some.inj hexit
  obtain ⟨-, -, hfaultless, -⟩ := exit_of_run harguments rfl hsound hproper hrun
  obtain ⟨config, tree, first, -, -, -, hall⟩ := hfaultless.mp hzero
  exact ⟨report, after, rfl, hzero, config, tree, first.outcomes, hall⟩

end FluentBuilder.CommandLine
