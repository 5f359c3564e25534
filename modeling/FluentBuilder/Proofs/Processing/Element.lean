import FluentBuilder.Proofs.Processing.Running
import FluentBuilder.Proofs.Resolving.Builder

/-!
# One declaration of a round

`worked_processOne` lists all that can come of the work on a declaration. Either there is an outcome: it
is reported (`Reports`), and it leaves the files alone or claims the file of the builder (`Effect`). Or
the work ends the round, for one of four reasons (`Halts`). Which of both it is depends on the class by
itself and on the files, and not on the references that were found before (`schema_of_sound`).

**The route.** There is one lemma for each part of the work: describing the class, claiming the file of
its builder, writing it (`emit_spec`), and the outcome of each. The order of the parts is that of the
definition. Where the root is fit for the builder, its file is settled, or it cannot be written, or the file
that stands there is no text. In write mode a file that was generated holds the bytes of the builder, and in
all other cases every file is as it was.
-/

namespace FluentBuilder.Processing

open Stateful Source Store

/-! ### Writing a builder -/

section

variable {root path : Path} {check : Bool} {b : Blueprint} {run : Run}

/-- The file of a builder holds its bytes, and no other file has changed. -/
def Written (b : Blueprint) (path : Path) (before after : Store) : Prop :=
  hasNull path = false ∧ ∃ place, after.placeOf path = .ok place ∧
    after.fileAt place = some (Utf8.encode b.render) ∧ Evolves (· = place) before after

/-- The file of a builder is settled with a status: it was written if it is generated, and left alone
otherwise. -/
def Settled (b : Blueprint) (path : Path) (check : Bool) (before after : Store) (status : EmitStatus) :
    Prop :=
  (status = .generated ∧ check = false ∧ Written b path before after) ∨
    (status ≠ .generated ∧ after = before)

/-- Reading the text of a file that may stand at a path changes nothing. It fails where the path cannot
be looked at, or the file is no text. -/
theorem exec_existingText (path : Path) (run : Run) :
    (∃ existing, exec (existingText path) run = (.ok existing, run) ∧
      ¬ Running.Undecodable run.store path) ∨
    (∃ fault, exec (existingText path) run = (.error (.store fault), run) ∧ fault.Systemic ∧
      ¬ Running.Undecodable run.store path) ∨
    ∃ fault, exec (existingText path) run = (.error (.undecodable fault), run) ∧
      Running.Undecodable run.store path := by
  -- A file that is no text can be looked at.
  have hlook : Running.Undecodable run.store path →
      ∃ bytes, run.store.look path = .ok (some (.file bytes)) := by
    rintro ⟨bytes, hbytes, -⟩
    exact ⟨bytes, look_of_bytes hbytes⟩
  rw [existingText, exec_bind, Running.exec_look, Store.isFile]
  rcases hnode : run.store.look path with fault | _ | bytes | _
  · refine .inr (.inl ⟨fault, rfl, (look_eq_error hnode).2, fun h => ?_⟩)
    obtain ⟨bytes, hfile⟩ := hlook h
    cases hnode.symm.trans hfile
  · refine .inl ⟨none, rfl, fun h => ?_⟩
    obtain ⟨bytes, hfile⟩ := hlook h
    cases hnode.symm.trans hfile
  · simp only [Except.map, Outcome.mapError_ok, if_true, map_eq_pure_bind]
    rcases Running.exec_readText path run with ⟨text, hread, hnot⟩ | ⟨fault, -, hbytes⟩ |
      ⟨fault, hread, hfault⟩
    · exact .inl ⟨some text, by rw [exec_bind_of_ok hread, exec_pure], hnot⟩
    · cases (bytes_of_look hnode).symm.trans hbytes
    · exact .inr (.inr ⟨fault, exec_bind_of_error hread, hfault⟩)
  · refine .inl ⟨none, rfl, fun h => ?_⟩
    obtain ⟨bytes, hfile⟩ := hlook h
    cases hnode.symm.trans hfile

/-- A file is settled, or it cannot be written. -/
theorem settle_spec (path : Path) (check : Bool) (b : Blueprint) (existing : Option String)
    (run : Run) :
    (∃ status store', exec (settle path check b existing) run =
      (.ok status, { run with store := store' }) ∧ Settled b path check run.store store' status) ∨
    ∃ fault store', exec (settle path check b existing) run =
      (.error (.store fault), { run with store := store' }) ∧
      (hasNull path = false → fault.Systemic) ∧ Evolves (fun _ => False) run.store store' := by
  rw [settle, exec_ite, exec_ite]
  split
  · exact .inl ⟨.unchanged, run.store, rfl, .inr ⟨by decide, rfl⟩⟩
  split
  · refine .inl ⟨_, run.store, rfl, .inr ⟨?_, rfl⟩⟩
    split <;> decide
  · next hwrite =>
    rcases Filing.writeWhole_spec path (Utf8.encode b.render) run.store with
      ⟨fault, store', hwritten, hevolves⟩ | ⟨place, store', hwritten, hnull, hplace, hbytes, hevolves⟩
    · refine .inr ⟨fault, store', ?_, fun hnull => ?_, hevolves⟩
      · rw [exec_bind, Running.exec_file, hwritten]
        rfl
      · exact Filing.failsWith_writeWhole hnull _ _ _ _ hwritten
    · refine .inl ⟨.generated, store', ?_, .inl ⟨rfl, by simpa using hwrite, hnull, place, hplace,
        hbytes, hevolves⟩⟩
      rw [exec_bind, Running.exec_file, hwritten]
      rfl

/-- **What comes of writing a builder**: its file is settled, or it cannot be written, or the file that
stands there is no text. -/
theorem emit_spec (hroot : Running.Fit run.store root) (check : Bool) (b : Blueprint) :
    (∃ status store', exec (emit root check b) run =
        (.ok (b.outputPath root, status), { run with store := store' }) ∧
      Settled b (b.outputPath root) check run.store store' status ∧
      ¬ Running.Undecodable run.store (b.outputPath root)) ∨
    (∃ fault store', exec (emit root check b) run =
        (.error (.store fault), { run with store := store' }) ∧
      (hasNull (b.outputPath root) = false → fault.Systemic) ∧
      Evolves (fun _ => False) run.store store' ∧
      ¬ Running.Undecodable run.store (b.outputPath root)) ∨
    ∃ fault, exec (emit root check b) run = (.error (.undecodable fault), run) ∧
      Running.Undecodable run.store (b.outputPath root) := by
  have hpath : exec (emitPath root b) run = (.ok (b.outputPath root), run) := by
    rw [emitPath, exec_bind_of_ok (Running.exec_checkOutput_of_fit hroot), exec_pure]
  rw [emit, exec_bind_of_ok hpath]
  rcases exec_existingText (b.outputPath root) run with ⟨existing, hexisting, hnot⟩ |
    ⟨fault, hexisting, hsystemic, hnot⟩ | ⟨fault, hexisting, hfault⟩
  · rw [exec_bind_of_ok hexisting]
    rcases settle_spec (b.outputPath root) check b existing run with
      ⟨status, store', hsettle, hsettled⟩ | ⟨fault, store', hsettle, hnull, hevolves⟩
    · exact .inl ⟨status, store', by rw [exec_bind_of_ok hsettle, exec_pure], hsettled, hnot⟩
    · exact .inr (.inl ⟨fault, store', exec_bind_of_error hsettle, hnull, hevolves, hnot⟩)
  · exact .inr (.inl ⟨fault, run.store, exec_bind_of_error hexisting, fun _ => hsystemic,
      Evolves.refl _ _, hnot⟩)
  · exact .inr (.inr ⟨fault, exec_bind_of_error hexisting, hfault⟩)

end

variable {s : Surroundings} {e : Emitter} {d : Declaration} {o : Outcome} {run run' run'' : Run}

/-! ### Reports -/

/-- An outcome of a declaration that is reported: it carries an error unless it is as it should be, and
this is the only error that is added. -/
structure Reports (d : Declaration) (o : Outcome) (before after : Run) : Prop where
  /-- It is about the declaration. -/
  element_eq : o.element = d.qualifiedName
  /-- It carries an error unless it is as it should be. -/
  isOk_eq : o.isOk = o.diagnostic.isNone
  /-- Its error is added. -/
  continues : Run.Continues o.diagnostic.toList before after

/-- What is reported later on is reported. -/
theorem Reports.after (hreports : Reports d o run' run'') (h : Run.Continues [] run run') :
    Reports d o run run'' :=
  ⟨hreports.element_eq, hreports.isOk_eq, h.trans hreports.continues⟩

/-- An error makes an outcome that is not as it should be. -/
theorem reports_without {diagnostic : Diagnostic} (status : Status) (hstatus : status.isOk = false)
    (h : Run.Continues [diagnostic] run run') :
    Reports d (.without d.qualifiedName status diagnostic) run run' :=
  ⟨rfl, hstatus, h⟩

/-- A fault of the class is reported. -/
theorem exec_failedOutcome_of_isLocal {fault : RunFault} (h : fault.isLocal = true)
    (d : Declaration) (run : Run) :
    ∃ o run', exec (failedOutcome d fault) run = (.ok o, run') ∧ Reports d o run run' ∧
      o.isOk = false := by
  obtain ⟨diagnostic, run', herror, -, hcontinues⟩ :=
    Running.exec_error ("Cannot generate builder for " ++ d.qualifiedName ++ ": " ++ fault.message)
      (some d) none none run
  refine ⟨_, run', ?_, reports_without .failed rfl hcontinues, rfl⟩
  rw [failedOutcome, if_pos h, exec_bind_of_ok herror, exec_pure]

/-- Any other fault goes on. -/
theorem exec_failedOutcome_of_not_isLocal {fault : RunFault} (h : fault.isLocal = false)
    (d : Declaration) (run : Run) : exec (failedOutcome d fault) run = (.error fault, run) := by
  rw [failedOutcome, if_neg (by simp [h]), exec_throw]

/-- A declaration that is no plain class is reported. -/
theorem exec_invalidOutcome (d : Declaration) (kind : Kind) (run : Run) :
    ∃ o run', exec (invalidOutcome d kind) run = (.ok o, run') ∧ Reports d o run run' ∧
      o.isOk = false := by
  obtain ⟨diagnostic, run', herror, -, hcontinues⟩ :=
    Running.exec_error ("The marker is invalid for the " ++ kind.word ++ " " ++ d.name ++
      ". Please put @" ++ markerName ++ " on a class") (some d) (some "InvalidPlacement") none run
  refine ⟨_, run', ?_, reports_without .invalid rfl hcontinues, rfl⟩
  rw [invalidOutcome, exec_bind_of_ok herror, exec_pure]

/-- A builder whose file is not up to date is reported. -/
theorem exec_emittedOutcome (d : Declaration) (b : Blueprint) (path : Path) (status : EmitStatus)
    (run : Run) :
    ∃ o run', exec (emittedOutcome d b path status) run = (.ok o, run') ∧ Reports d o run run' ∧
      o.status = .emitted status ∧ o.path = some path := by
  rw [emittedOutcome, exec_ite]
  cases hstatus : status.isUpToDate with
  | true =>
    obtain ⟨run', hlog, hcontinues⟩ :=
      Running.exec_log .info "processor" (status.word ++ ": " ++ path.render) run
    exact ⟨_, run', exec_bind_of_ok hlog, ⟨rfl, hstatus, hcontinues⟩, rfl, rfl⟩
  | false =>
    obtain ⟨diagnostic, run', herror, -, hcontinues⟩ :=
      Running.exec_error (path.render ++ " is " ++
        (if status = .stale then "out of date" else "missing") ++ " (run generator)") (some d)
        none none run
    exact ⟨_, run', exec_bind_of_ok herror, ⟨rfl, hstatus, hcontinues⟩, rfl, rfl⟩

/-! ### Describing a class and claiming its file -/

/-- A class is described as it is by itself, whatever references were found before. -/
theorem exec_describe {refs : Table TypeRef} (hrefs : Resolving.Sound s refs) (d : Declaration)
    (run : Run) :
    ∃ refs' run', exec (describe s d refs) run = (.ok (schemaOf s d, refs'), run') ∧
      Resolving.Sound s refs' ∧ Run.Continues [] run run' := by
  obtain ⟨hschema, hsound⟩ := schema_of_sound hrefs d
  obtain ⟨run', hlogs, hcontinues⟩ := exec_forM Run.Continues.refl
    (fun _ _ _ h h' => h.trans h')
    (fun (entry : String × TypeRef) =>
      Running.log .debug "resolver" ("Resolved " ++ entry.1 ++ " -> " ++ entry.2.name))
    (fun _ run => Running.exec_log _ _ _ run)
    ((exec (Resolving.schema s d) refs).2.drop refs.length) run
  refine ⟨_, run', ?_, hsound, hcontinues⟩
  rw [← hschema]
  exact exec_bind_of_ok hlogs

/-- All that can come of claiming the file of a builder. -/
inductive Claiming (e : Emitter) (d : Declaration) (schema : Schema)
    (claimed : List (Path × String)) (before : Run) :
    Except RunFault (Except (Outcome × List (Path × String)) (Blueprint × List (Path × String))) →
      Run → Prop
  /-- The class is refused. -/
  | refused {fault : BlueprintFault} {after : Run} (hb : Blueprint.ofSchema schema = .error fault)
    (hcontinues : Run.Continues [] before after) :
    Claiming e d schema claimed before (.error (.blueprint fault)) after
  /-- A file stands where builders are to be written to. -/
  | blocked {b : Blueprint} {after : Run} (hb : Blueprint.ofSchema schema = .ok b)
    (hroot : Running.Blocked before.store e.root) :
    Claiming e d schema claimed before (.error (.config (.blockedOutput e.root))) after
  /-- It cannot be looked where builders are to be written to. -/
  | unseen {b : Blueprint} {fault : StoreFault} {after : Run}
    (hb : Blueprint.ofSchema schema = .ok b)
    (hroot : before.store.look e.root = .error fault)
    (hcontinues : Run.Continues [] before after) :
    Claiming e d schema claimed before (.error (.store fault)) after
  /-- The file was claimed before. -/
  | taken {b : Blueprint} {o : Outcome} {after : Run} (hb : Blueprint.ofSchema schema = .ok b)
    (hroot : Running.Fit before.store e.root)
    (htaken : b.outputPath e.root ∈ claimed.map Prod.fst) (hreports : Reports d o before after)
    (hfailed : o.isOk = false) :
    Claiming e d schema claimed before (.ok (.error (o, claimed))) after
  /-- The file is claimed. -/
  | free {b : Blueprint} {after : Run} (hb : Blueprint.ofSchema schema = .ok b)
    (hroot : Running.Fit before.store e.root)
    (hfree : b.outputPath e.root ∉ claimed.map Prod.fst)
    (hcontinues : Run.Continues [] before after) :
    Claiming e d schema claimed before
      (.ok (.ok (b, claimed ++ [(b.outputPath e.root, d.qualifiedName)]))) after

/-- Nothing else can come of claiming the file of a builder. -/
theorem claiming_writeBuilder (e : Emitter) (d : Declaration) (schema : Schema)
    (claimed : List (Path × String)) (run : Run) :
    Claiming e d schema claimed run (exec (writeBuilder e d schema claimed) run).1
      (exec (writeBuilder e d schema claimed) run).2 := by
  obtain ⟨run₁, hmembers, hfirst⟩ := Running.exec_note (membersNote schema) (some d) run
  rw [writeBuilder, exec_bind_of_ok hmembers, exec_bind, Running.exec_ofExcept]
  rcases hb : Blueprint.ofSchema schema with fault | b
  · exact .refused hb hfirst
  · rw [Outcome.mapError_ok]
    simp only
    rw [exec_bind, emitPath, exec_bind]
    rcases Running.fit_or_blocked_or_error run.store e.root with hroot | hroot | ⟨fault, hroot⟩
    · rw [Running.exec_checkOutput_of_fit (hfirst.store_eq ▸ hroot)]
      simp only [exec_pure]
      rcases hfind : claimed.find? fun entry => entry.1 == b.outputPath e.root with _ | entry
      · have hfree : b.outputPath e.root ∉ claimed.map Prod.fst := by
          rw [List.mem_map]
          rintro ⟨entry, hentry, heq⟩
          exact absurd (List.find?_eq_none.mp hfind entry hentry) (by simp [heq])
        obtain ⟨run₂, hwriting, hsecond⟩ :=
          Running.exec_note ("Writing " ++ b.moduleName) (some d) run₁
        simp only [hfind, Option.map_none]
        rw [exec_bind_of_ok hwriting, exec_pure]
        exact .free hb hroot hfree (hfirst.trans hsecond)
      · have htaken : b.outputPath e.root ∈ claimed.map Prod.fst :=
          List.mem_map.mpr ⟨entry, List.mem_of_find?_eq_some hfind, by
            simpa using List.find?_some hfind⟩
        obtain ⟨diagnostic, run₂, herror, -, hsecond⟩ :=
          Running.exec_error ("Cannot generate builder for " ++ d.qualifiedName ++ ": " ++
            (b.outputPath e.root).render ++ " is already generated for " ++ entry.2) (some d)
            none none run₁
        simp only [hfind, Option.map_some]
        rw [exec_bind_of_ok herror, exec_pure]
        exact .taken hb hroot htaken
          (reports_without .failed rfl (hfirst.trans hsecond)) rfl
    · rw [Running.exec_checkOutput_of_blocked (hfirst.store_eq ▸ hroot)]
      exact .blocked hb hroot
    · rw [Running.exec_checkOutput_of_error (hfirst.store_eq ▸ hroot)]
      exact .unseen hb hroot hfirst

/-- A run that went on before does not matter. -/
theorem Claiming.after {schema : Schema} {claimed : List (Path × String)}
    {result : Except RunFault (Except (Outcome × List (Path × String))
      (Blueprint × List (Path × String)))}
    (hclaiming : Claiming e d schema claimed run' result run'') (h : Run.Continues [] run run') :
    Claiming e d schema claimed run result run'' := by
  have hstore := h.store_eq
  cases hclaiming with
  | refused hb hcontinues => exact .refused hb (h.trans hcontinues)
  | blocked hb hroot => exact .blocked hb (hstore ▸ hroot)
  | unseen hb hroot hcontinues => exact .unseen hb (hstore ▸ hroot) (h.trans hcontinues)
  | taken hb hroot htaken hreports hfailed =>
    exact .taken hb (hstore ▸ hroot) htaken (hreports.after h) hfailed
  | free hb hroot hfree hcontinues => exact .free hb (hstore ▸ hroot) hfree (h.trans hcontinues)

/-! ### The work on a class -/

/-- The files that were claimed. -/
def Progress.paths (progress : Progress) : List Path := progress.claimed.map Prod.fst

/-- What the work on a declaration does to files, given those that were claimed before: it leaves them
alone, or it claims the file of the builder. -/
inductive Effect (s : Surroundings) (e : Emitter) (d : Declaration) (claimed : List Path)
    (before : Store) : Outcome → List Path → Store → Prop
  /-- It leaves the files alone. -/
  | untouched {o : Outcome} (hfailed : o.isOk = false) : Effect s e d claimed before o claimed before
  /-- It writes the builder. -/
  | written {o : Outcome} {b : Blueprint} {after : Store} (hb : builderOf? s d = some b)
    (hfree : b.outputPath e.root ∉ claimed)
    (hread : ¬ Running.Undecodable before (b.outputPath e.root))
    (hstatus : o.status = .emitted .generated) (hpath : o.path = some (b.outputPath e.root))
    (hcheck : e.check = false) (hwritten : Written b (b.outputPath e.root) before after) :
    Effect s e d claimed before o (claimed ++ [b.outputPath e.root]) after
  /-- It does not write the builder. -/
  | unwritten {o : Outcome} {b : Blueprint} {after : Store} (hb : builderOf? s d = some b)
    (hfree : b.outputPath e.root ∉ claimed)
    (hread : ¬ Running.Undecodable before (b.outputPath e.root))
    (hstatus : o.status ≠ .emitted .generated)
    (hpath : o.isOk = true → o.path = some (b.outputPath e.root))
    (hevolves : Evolves (fun _ => False) before after) :
    Effect s e d claimed before o (claimed ++ [b.outputPath e.root]) after

/-- Nothing about a class ends a round: its annotations can be resolved, and if it has a builder, then
the root is not blocked, and the file is claimed or is a text where it can be looked at. -/
structure Spared (s : Surroundings) (e : Emitter) (d : Declaration) (claimed : List Path)
    (store : Store) : Prop where
  /-- Its annotations can be resolved. -/
  resolved : ∀ fault, schemaOf s d ≠ .error (.resolve fault)
  /-- Its builder can be claimed, and read. -/
  builder : ∀ b, builderOf? s d = some b → ¬ Running.Blocked store e.root ∧
    (b.outputPath e.root ∈ claimed ∨ ¬ Running.Undecodable store (b.outputPath e.root) ∨
      ∃ fault, store.look e.root = .error fault)

/-- The reasons for which the work on a class ends a round. -/
inductive Halts (s : Surroundings) (e : Emitter) (d : Declaration) (claimed : List Path)
    (store : Store) : RunFault → Prop
  /-- An annotation cannot be resolved. -/
  | unresolved {fault : ResolveFault} (hschema : schemaOf s d = .error (.resolve fault)) :
    Halts s e d claimed store (.schema (.resolve fault))
  /-- A file stands where builders are to be written to. -/
  | blocked {b : Blueprint} (hb : builderOf? s d = some b) (hroot : Running.Blocked store e.root) :
    Halts s e d claimed store (.config (.blockedOutput e.root))
  /-- The file that stands at the path of the builder is no text. -/
  | undecodable {b : Blueprint} {fault : Utf8.Fault} (hb : builderOf? s d = some b)
    (hroot : Running.Fit store e.root)
    (hfree : b.outputPath e.root ∉ claimed)
    (hbytes : Running.Undecodable store (b.outputPath e.root)) :
    Halts s e d claimed store (.undecodable fault)
  /-- The path of the builder has the character of code zero. -/
  | nullCharacter {b : Blueprint} {fault : StoreFault} (hb : builderOf? s d = some b)
    (hnull : hasNull (b.outputPath e.root) = true) : Halts s e d claimed store (.store fault)

/-- There is one builder at most. -/
theorem Spared.of_builder {b : Blueprint} {claimed : List Path} {store : Store}
    (hb : builderOf? s d = some b) (hroot : ¬ Running.Blocked store e.root)
    (hpath : b.outputPath e.root ∈ claimed ∨ ¬ Running.Undecodable store (b.outputPath e.root) ∨
      ∃ fault, store.look e.root = .error fault) : Spared s e d claimed store := by
  obtain ⟨schema, hschema, -⟩ := exists_of_builderOf? hb
  refine ⟨fun fault hfault => ?_, fun b' hb' => ?_⟩
  · cases hschema.symm.trans hfault
  · obtain rfl := Option.some.inj (hb.symm.trans hb')
    exact ⟨hroot, hpath⟩

/-- A class without a builder is spared, if its annotations can be resolved. -/
theorem Spared.of_none {claimed : List Path} {store : Store}
    (hschema : ∀ fault, schemaOf s d ≠ .error (.resolve fault)) (hb : builderOf? s d = none) :
    Spared s e d claimed store :=
  ⟨hschema, fun b hb' => by cases hb.symm.trans hb'⟩

/-- What comes of the work on a declaration: an outcome that is reported and fits what happened to the
files, or, for a plain class only, a fault that ends the round. -/
def Worked (s : Surroundings) (e : Emitter) (d : Declaration) (progress : Progress) (run : Run)
    (result : Except RunFault (Outcome × Progress) × Run) : Prop :=
  (∃ o progress' run', result = (.ok (o, progress'), run') ∧ Resolving.Sound s progress'.refs ∧
    Reports d o { run with store := run'.store } run' ∧
    Effect s e d progress.paths run.store o progress'.paths run'.store ∧
    (s.tree.kindOf d = .plainClass → Spared s e d progress.paths run.store)) ∨
  ∃ fault run', result = (.error fault, run') ∧ s.tree.kindOf d = .plainClass ∧
    Halts s e d progress.paths run.store fault

/-- A fault of the class itself is an outcome that leaves the files alone. -/
theorem worked_failedOutcome {progress : Progress} {refs : Table TypeRef}
    (hrefs : Resolving.Sound s refs) (h : Run.Continues [] run run')
    (hspared : Spared s e d progress.paths run.store) {fault : RunFault}
    (hlocal : fault.isLocal = true) :
    Worked s e d progress run (exec (do
      return (← failedOutcome d fault, { progress with refs })) run') := by
  obtain ⟨o, run'', hfailed, hreports, hnot⟩ := exec_failedOutcome_of_isLocal hlocal d run'
  have hstore : run''.store = run.store := hreports.continues.store_eq.trans h.store_eq
  refine .inl ⟨o, _, run'', exec_bind_of_ok hfailed, hrefs, ?_, ?_, fun _ => hspared⟩
  · rw [hstore]
    exact hreports.after h
  · rw [hstore]
    exact .untouched hnot

/-- A class whose file is claimed has its builder written, or ends the round. -/
theorem worked_emit {progress : Progress} {refs : Table TypeRef} {b : Blueprint}
    (hrefs : Resolving.Sound s refs) (hkind : s.tree.kindOf d = .plainClass)
    (h : Run.Continues [] run run') (hb : builderOf? s d = some b)
    (hroot : Running.Fit run.store e.root) (hfree : b.outputPath e.root ∉ progress.paths) :
    Worked s e d progress run (exec (do
      match ← attempt (emit e.root e.check b) with
      | .error fault => return (← failedOutcome d fault,
          ⟨refs, progress.claimed ++ [(b.outputPath e.root, d.qualifiedName)]⟩)
      | .ok (path, status) => return (← emittedOutcome d b path status,
          ⟨refs, progress.claimed ++ [(b.outputPath e.root, d.qualifiedName)]⟩)) run') := by
  have hstore := h.store_eq
  have hspared : ¬ Running.Undecodable run.store (b.outputPath e.root) →
      Spared s e d progress.paths run.store := fun hnot =>
    .of_builder hb hroot.not_blocked (.inr (.inl hnot))
  have hclaimed : Progress.paths ⟨refs, progress.claimed ++ [(b.outputPath e.root, d.qualifiedName)]⟩ =
      progress.paths ++ [b.outputPath e.root] := by
    rw [Progress.paths, List.map_append, List.map_singleton, Progress.paths]
  rw [exec_bind_of_ok (Running.exec_attempt _ run')]
  have hfit : Running.Fit run'.store e.root := hstore ▸ hroot
  rcases emit_spec hfit e.check b with
    ⟨status, store', hemit, hsettled, hnot⟩ | ⟨fault, store', hemit, hnull, hevolves, hnot⟩ |
    ⟨fault, hemit, hbytes⟩
  · obtain ⟨o, run'', hemitted, hreports, hstatus, hpath⟩ :=
      exec_emittedOutcome d b (b.outputPath e.root) status { run' with store := store' }
    have hstore' : run''.store = store' := hreports.continues.store_eq
    rw [hstore] at hsettled hnot
    rw [hemit]
    refine .inl ⟨o, _, run'', exec_bind_of_ok hemitted, hrefs, ?_, ?_, fun _ => hspared hnot⟩
    · rw [hstore']
      exact hreports.after (h.withStore store')
    · rw [hstore', hclaimed]
      rcases hsettled with ⟨rfl, hcheck, hwritten⟩ | ⟨hne, rfl⟩
      · exact .written hb hfree hnot hstatus hpath hcheck hwritten
      · refine .unwritten hb hfree hnot (fun hgenerated => hne ?_) (fun _ => hpath) (Evolves.refl _ _)
        exact Status.emitted.inj (hstatus.symm.trans hgenerated)
  · rw [hstore] at hevolves hnot
    rw [hemit]
    by_cases hsystem : fault.isOfSystem = true
    · have hlocal : (RunFault.store fault).isLocal = true := hsystem
      obtain ⟨o, run'', hfailed, hreports, hfails⟩ :=
        exec_failedOutcome_of_isLocal hlocal d { run' with store := store' }
      have hstore' : run''.store = store' := hreports.continues.store_eq
      refine .inl ⟨o, _, run'', exec_bind_of_ok hfailed, hrefs, ?_, ?_, fun _ => hspared hnot⟩
      · rw [hstore']
        exact hreports.after (h.withStore store')
      · rw [hstore', hclaimed]
        refine .unwritten hb hfree hnot (fun hgenerated => ?_) (fun hok => ?_) hevolves
        · rw [Outcome.isOk, hgenerated] at hfails
          cases hfails
        · cases hfails.symm.trans hok
    · have hglobal : (RunFault.store fault).isLocal = false :=
        Bool.eq_false_iff.mpr hsystem
      refine .inr ⟨_, _, exec_bind_of_error (exec_failedOutcome_of_not_isLocal hglobal d _),
        hkind, .nullCharacter hb ?_⟩
      by_contra hnone
      exact hsystem (hnull (by simpa using hnone))
  · rw [hstore] at hbytes
    rw [hemit]
    exact .inr ⟨_, _, exec_bind_of_error (exec_failedOutcome_of_not_isLocal rfl d run'),
      hkind, .undecodable hb hroot hfree hbytes⟩

/-- What comes of the work on a class. -/
theorem worked_processClass {progress : Progress} (hrefs : Resolving.Sound s progress.refs)
    (e : Emitter) {d : Declaration} (hkind : s.tree.kindOf d = .plainClass) (run : Run) :
    Worked s e d progress run (exec (processClass s e d progress) run) := by
  obtain ⟨refs, run₁, hdescribe, hsound, hfirst⟩ := exec_describe hrefs d run
  rw [processClass, exec_bind_of_ok hdescribe]
  rcases hschema : schemaOf s d with fault | schema
  · have hnone : builderOf? s d = none := by rw [builderOf?, hschema]
    cases fault with
    | resolve fault =>
      refine .inr ⟨.schema (.resolve fault), run₁, ?_, hkind, .unresolved hschema⟩
      exact exec_bind_of_error (exec_failedOutcome_of_not_isLocal rfl d run₁)
    | noClass name =>
      refine worked_failedOutcome hsound hfirst (.of_none (fun fault h => ?_) hnone) rfl
      cases hschema.symm.trans h
    | lineage fault =>
      refine worked_failedOutcome hsound hfirst (.of_none (fun fault h => ?_) hnone) rfl
      cases hschema.symm.trans h
  · simp only
    rw [exec_bind_of_ok (Running.exec_attempt _ run₁)]
    have hclaiming := (claiming_writeBuilder e d schema progress.claimed run₁).after hfirst
    generalize (exec (writeBuilder e d schema progress.claimed) run₁).1 = result at hclaiming ⊢
    generalize (exec (writeBuilder e d schema progress.claimed) run₁).2 = run₂ at hclaiming ⊢
    cases hclaiming with
    | refused hb hcontinues =>
      refine worked_failedOutcome hsound hcontinues (.of_none (fun fault h => ?_) ?_) rfl
      · cases hschema.symm.trans h
      · rw [builderOf?, hschema]
        simp only [hb]
        rfl
    | blocked hb hroot =>
      refine .inr ⟨_, run₂, ?_, hkind, .blocked (builderOf?_of_ofSchema hschema hb) hroot⟩
      exact exec_bind_of_error (exec_failedOutcome_of_not_isLocal rfl d run₂)
    | unseen hb hroot hcontinues =>
      refine worked_failedOutcome hsound hcontinues
        (.of_builder (builderOf?_of_ofSchema hschema hb) ?_ (.inr (.inr ⟨_, hroot⟩)))
        (look_eq_error hroot).2
      rintro ⟨bytes, hblocked⟩
      cases hroot.symm.trans hblocked
    | taken hb hroot htaken hreports hfailed =>
      refine .inl ⟨_, _, run₂, rfl, hsound, ?_, ?_, fun _ =>
        .of_builder (builderOf?_of_ofSchema hschema hb) hroot.not_blocked (.inl htaken)⟩
      · rw [hreports.continues.store_eq]
        exact hreports
      · rw [hreports.continues.store_eq]
        exact .untouched hfailed
    | free hb hroot hfree hcontinues =>
      exact worked_emit hsound hkind hcontinues (builderOf?_of_ofSchema hschema hb) hroot hfree

/-- **What comes of the work on a declaration.** -/
theorem worked_processOne {progress : Progress} (hrefs : Resolving.Sound s progress.refs)
    (e : Emitter) (d : Declaration) (run : Run) :
    Worked s e d progress run (exec (processOne s e d progress) run) := by
  rw [processOne]
  by_cases hkind : s.tree.kindOf d = .plainClass
  · rw [if_pos hkind]
    exact worked_processClass hrefs e hkind run
  · obtain ⟨o, run', hinvalid, hreports, hnot⟩ := exec_invalidOutcome d (s.tree.kindOf d) run
    rw [if_neg hkind]
    refine .inl ⟨o, progress, run', exec_bind_of_ok hinvalid, hrefs, ?_, ?_, fun h => absurd h hkind⟩
    · rw [hreports.continues.store_eq]
      exact hreports
    · rw [hreports.continues.store_eq]
      exact .untouched hnot

end FluentBuilder.Processing
