import FluentBuilder.Proofs.Processing.Generation

/-!
# What a round depends on

A round depends on the files, and not on what was reported or logged before it. Two runs that have the
same files come to the same outcomes and leave the same files (`DependsOnFiles.processRound`), however
they came to these files.
-/

namespace FluentBuilder.Processing

open Stateful Source Store

/-- A part depends on the files alone: in two runs that have the same files, it has the same result and
leaves the same files. -/
def DependsOnFiles {α : Type} (part : Running α) : Prop :=
  ∀ run run' : Run, run'.store = run.store →
    (exec part run').1 = (exec part run).1 ∧ (exec part run').2.store = (exec part run).2.store

namespace DependsOnFiles

variable {α β : Type} {part : Running α}

/-! ### Parts of all kinds -/

/-- A part that does nothing. -/
theorem pure (a : α) : DependsOnFiles (pure a : Running α) := fun _ _ h => ⟨rfl, h⟩

/-- A part that fails. -/
theorem throw (fault : RunFault) : DependsOnFiles (throw fault : Running α) := fun _ _ h => ⟨rfl, h⟩

/-- A result. -/
theorem ofExcept (result : Except RunFault α) : DependsOnFiles (Running.ofExcept result) :=
  fun _ _ h => ⟨rfl, h⟩

/-- A look at the files. -/
theorem look (f : Store → Except StoreFault α) : DependsOnFiles (Running.look f) := by
  intro run run' h
  rw [Running.exec_look, Running.exec_look, h]
  exact ⟨rfl, rfl⟩

/-- A change of the files. -/
theorem file (change : Filing α) : DependsOnFiles (Running.file change) := by
  intro run run' h
  rw [Running.exec_file, Running.exec_file, h]
  exact ⟨rfl, rfl⟩

/-- One part after another. -/
theorem bind {next : α → Running β} (h : DependsOnFiles part) (hnext : ∀ a, DependsOnFiles (next a)) :
    DependsOnFiles (part >>= next) := by
  intro run run' hstore
  obtain ⟨hresult, hfiles⟩ := h run run' hstore
  rw [exec_bind, exec_bind]
  rcases hpart : exec part run with ⟨fault | a, after⟩ <;>
    rcases hpart' : exec part run' with ⟨fault' | a', after'⟩ <;>
    simp only [hpart, hpart', reduceCtorEq, Except.error.injEq, Except.ok.injEq] at hresult hfiles ⊢
  · exact ⟨hresult, hfiles⟩
  · subst hresult
    exact hnext a' after after' hfiles

/-- A part whose fault is kept as a value. -/
theorem attempt (h : DependsOnFiles part) : DependsOnFiles (attempt part) := by
  intro run run' hstore
  obtain ⟨hresult, hfiles⟩ := h run run' hstore
  rw [Running.exec_attempt, Running.exec_attempt]
  exact ⟨congrArg Except.ok hresult, hfiles⟩

/-- A part for every item. -/
theorem forM {part : α → Running PUnit} (h : ∀ a, DependsOnFiles (part a)) (items : List α) :
    DependsOnFiles (items.forM part) := by
  induction items with
  | nil => exact pure _
  | cons a rest ih => exact bind (h a) fun _ => ih

/-! ### Reports -/

/-- A record of the log. -/
theorem log (level : LogLevel) (about message : String) : DependsOnFiles (Running.log level about message) :=
  fun _ _ h => ⟨rfl, h⟩

/-- A note. -/
theorem note (message : String) (element : Option Declaration) :
    DependsOnFiles (Running.note message element) := fun _ _ h => ⟨rfl, h⟩

/-- An error. -/
theorem error (message : String) (element : Option Declaration) (kind location : Option String) :
    DependsOnFiles (Running.error message element kind location) := fun _ _ h => ⟨rfl, h⟩

/-! ### One declaration -/

/-- The schema of a class. -/
theorem describe (s : Surroundings) (d : Declaration) (refs : Table TypeRef) :
    DependsOnFiles (describe s d refs) :=
  bind (forM (fun _ => log _ _ _) _) fun _ => pure _

/-- The directory to write to. -/
theorem checkOutput (root : Path) : DependsOnFiles (Running.checkOutput root) := by
  refine bind (look _) fun there => bind (look _) fun directory => ?_
  split
  · exact throw _
  · exact pure _

/-- The file of a builder. -/
theorem emitPath (root : Path) (b : Blueprint) : DependsOnFiles (emitPath root b) :=
  bind (checkOutput root) fun _ => pure _

/-- What a builder is to be written to. -/
theorem writeBuilder (e : Emitter) (d : Declaration) (schema : Schema) (claimed : List (Path × String)) :
    DependsOnFiles (writeBuilder e d schema claimed) := by
  refine bind (note _ _) fun _ => bind (ofExcept _) fun b => bind (emitPath _ _) fun path => ?_
  split
  · exact bind (error _ _ _ _) fun _ => pure _
  · exact bind (note _ _) fun _ => pure _

/-- The text of a file. -/
theorem existingText (path : Path) : DependsOnFiles (existingText path) := by
  refine bind (look _) fun there => ?_
  split
  · rw [map_eq_pure_bind]
    exact bind (bind (look _) fun _ => ofExcept _) fun _ => pure _
  · exact pure _

/-- A builder that is written, or only checked. -/
theorem emit (root : Path) (check : Bool) (b : Blueprint) : DependsOnFiles (emit root check b) := by
  refine bind (emitPath root b) fun path => bind (existingText path) fun existing =>
    bind ?_ fun _ => pure _
  unfold settle
  split
  · exact pure _
  · split
    · exact pure _
    · exact bind (file _) fun _ => pure _

/-- The outcome of a class that has failed. -/
theorem failedOutcome (d : Declaration) (fault : RunFault) : DependsOnFiles (failedOutcome d fault) := by
  unfold Processing.failedOutcome
  split
  · exact bind (error _ _ _ _) fun _ => pure _
  · exact throw _

/-- The outcome of a builder. -/
theorem emittedOutcome (d : Declaration) (b : Blueprint) (path : Path) (status : EmitStatus) :
    DependsOnFiles (emittedOutcome d b path status) := by
  unfold Processing.emittedOutcome
  simp only
  split
  · exact bind (log _ _ _) fun _ => pure _
  · exact bind (error _ _ _ _) fun _ => pure _

/-- The outcome of a marked declaration. -/
theorem processOne (s : Surroundings) (e : Emitter) (d : Declaration) (progress : Progress) :
    DependsOnFiles (processOne s e d progress) := by
  unfold Processing.processOne
  simp only
  split
  · refine bind (describe s d _) fun described => ?_
    rcases described with ⟨fault | schema, refs⟩
    · exact bind (failedOutcome d _) fun _ => pure _
    · refine bind (attempt (writeBuilder _ d _ _)) fun result => ?_
      split
      · exact bind (failedOutcome d _) fun _ => pure _
      · exact pure _
      · refine bind (attempt (emit _ _ _)) fun emitted => ?_
        split
        · exact bind (failedOutcome d _) fun _ => pure _
        · exact bind (emittedOutcome d _ _ _) fun _ => pure _
  · exact bind (bind (error _ _ _ _) fun _ => pure _) fun _ => pure _

/-! ### All declarations -/

/-- The outcomes of declarations. -/
theorem processAll (s : Surroundings) (e : Emitter) (progress : Progress) (ds : List Declaration) :
    DependsOnFiles (processAll s e progress ds) := by
  induction ds generalizing progress with
  | nil => exact pure _
  | cons d rest ih =>
    exact bind (processOne s e d progress) fun (_, progress') =>
      bind (ih progress') fun _ => pure _

/-- **A round depends on the files alone**: on no diagnostic and no record of the log. -/
theorem processRound (e : Emitter) (tree : Tree) (isLast : Bool) :
    DependsOnFiles (processRound e tree isLast) := by
  intro run run' hstore
  obtain ⟨run₁, hcontinues, hround⟩ := exec_processRound e tree isLast run
  obtain ⟨run₁', hcontinues', hround'⟩ := exec_processRound e tree isLast run'
  rw [hround, hround', map_eq_pure_bind]
  refine bind (processAll _ e _ _) (fun _ => pure _) run₁ run₁' ?_
  rw [hcontinues.store_eq, hcontinues'.store_eq, hstore]

/-- So do the rounds of a whole run over what was loaded. -/
theorem roundsOver (e : Emitter) (tree : Tree) : DependsOnFiles (roundsOver e tree) :=
  bind (processRound e tree false) fun _ => bind (processRound e Tree.empty true) fun _ => pure _

end DependsOnFiles

end FluentBuilder.Processing
