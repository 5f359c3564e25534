import FluentBuilder.Processing.Round
import FluentBuilder.Proofs.Outcome
import FluentBuilder.Proofs.Source.Reading
import FluentBuilder.Proofs.Stateful
import FluentBuilder.Proofs.Store.Faults
import FluentBuilder.Proofs.Text.Utf8

/-!
# What the parts of a run do

The parts of a run are small: some only look, some add a diagnostic or a record of the log, and one
changes files. The equations here say what each of them comes to. A diagnostic adds to the errors of a
run if it is one (`Run.errors`), and nothing else does.
-/

namespace FluentBuilder.Processing

open Stateful

/-- The errors among the diagnostics, in order. -/
def Run.errors (run : Run) : List Diagnostic :=
  run.diagnostics.filter Diagnostic.isError

/-- A run that went on: it kept its diagnostics. -/
structure Run.Continues (errors : List Diagnostic) (before after : Run) : Prop where
  /-- The files are the same. -/
  store_eq : after.store = before.store
  /-- Diagnostics are added to. -/
  diagnostics : before.diagnostics <+: after.diagnostics
  /-- These errors are added. -/
  errors_eq : after.errors = before.errors ++ errors

namespace Run.Continues

variable {errors errors' : List Diagnostic} {run run' run'' : Run}

/-- A run that stays as it is. -/
theorem refl (run : Run) : Run.Continues [] run run :=
  ⟨rfl, List.prefix_refl _, (List.append_nil _).symm⟩

/-- One part after another. -/
theorem trans (h : Run.Continues errors run run') (h' : Run.Continues errors' run' run'') :
    Run.Continues (errors ++ errors') run run'' where
  store_eq := h'.store_eq.trans h.store_eq
  diagnostics := h.diagnostics.trans h'.diagnostics
  errors_eq := by rw [h'.errors_eq, h.errors_eq, List.append_assoc]

/-- The files do not matter. -/
theorem withStore (h : Run.Continues errors run run') (store : Store) :
    Run.Continues errors { run with store := store } { run' with store := store } :=
  ⟨rfl, h.diagnostics, h.errors_eq⟩

end Run.Continues

namespace Running

variable {α : Type}

/-! ### Looking -/

/-- A look changes nothing. -/
@[simp] theorem exec_look (f : Store → Except StoreFault α) (run : Run) :
    exec (look f) run = ((f run.store).mapError .store, run) := rfl

/-- A result changes nothing. -/
@[simp] theorem exec_ofExcept (result : Except RunFault α) (run : Run) :
    exec (ofExcept result) run = (result, run) := rfl

/-- A part whose fault is kept as a value never fails. -/
theorem exec_attempt (part : Running α) (run : Run) :
    exec (attempt part) run = (.ok (exec part run).1, (exec part run).2) := rfl

/-- A change of the files changes nothing else. -/
theorem exec_file (change : Filing α) (run : Run) :
    exec (file change) run =
      ((exec change run.store).1.mapError .store, { run with store := (exec change run.store).2 }) :=
  rfl

/-! ### Reporting -/

/-- A record of the log is no diagnostic. -/
theorem exec_log (level : LogLevel) (part message : String) (run : Run) :
    ∃ run', exec (log level part message) run = (.ok (), run') ∧ Run.Continues [] run run' :=
  ⟨_, rfl, rfl, List.prefix_refl _, (List.append_nil _).symm⟩

/-- A diagnostic is added to the others. -/
theorem exec_report (d : Diagnostic) (run : Run) :
    ∃ run', exec (report d) run = (.ok d, run') ∧
      Run.Continues (if d.isError then [d] else []) run run' := by
  refine ⟨_, rfl, rfl, List.prefix_append _ _, ?_⟩
  show (run.diagnostics ++ [d]).filter Diagnostic.isError = _
  rw [List.filter_append, List.filter_cons, List.filter_nil]
  rfl

/-- A note is no error. -/
theorem exec_note (message : String) (element : Option Source.Declaration) (run : Run) :
    ∃ run', exec (note message element) run = (.ok (), run') ∧ Run.Continues [] run run' := by
  obtain ⟨run', hreport, hcontinues⟩ :=
    exec_report (.make .note message element none none) run
  refine ⟨run', ?_, hcontinues⟩
  rw [note, exec_bind_of_ok hreport, exec_pure]

/-- An error is given back and added to the errors. -/
theorem exec_error (message : String) (element : Option Source.Declaration)
    (kind location : Option String) (run : Run) :
    ∃ d run', exec (error message element kind location) run = (.ok d, run') ∧ d.isError = true ∧
      Run.Continues [d] run run' := by
  obtain ⟨run', hreport, hcontinues⟩ :=
    exec_report (.make .error message element kind location) run
  exact ⟨_, run', hreport, rfl, hcontinues⟩

/-! ### Texts and roots -/

/-- The file at a path holds bytes that are no text. -/
def Undecodable (s : Store) (p : Path) : Prop :=
  ∃ bytes, s.bytes p = .ok bytes ∧ ∃ fault, Utf8.decode bytes = .error fault

/-- A text without carriage returns is read as it was written. -/
theorem textOf_encode {text : String} (h : '\r' ∉ text.toList) :
    textOf (Utf8.encode text) = .ok text := by
  rw [textOf, Utf8.decode_encode, Except.map, Syntax.unifyLineEnds_of_not_mem h, String.ofList_toList]

/-- A text that was written can be read. -/
theorem not_undecodable_of_bytes {s : Store} {p : Path} {text : String}
    (h : s.bytes p = .ok (Utf8.encode text)) : ¬ Undecodable s p := by
  rintro ⟨bytes, hbytes, fault, hfault⟩
  obtain rfl := Except.ok.inj (h.symm.trans hbytes)
  cases (Utf8.decode_encode text).symm.trans hfault

/-- A file stands where builders are to be written to. -/
def Blocked (s : Store) (root : Path) : Prop :=
  ∃ bytes, s.look root = .ok (some (.file bytes))

/-- A root is blocked iff it can be read as a file. -/
theorem blocked_iff {s : Store} {root : Path} :
    Blocked s root ↔ ∃ bytes, s.bytes root = .ok bytes :=
  ⟨fun ⟨bytes, h⟩ => ⟨bytes, Store.bytes_of_look h⟩, fun ⟨bytes, h⟩ => ⟨bytes, Store.look_of_bytes h⟩⟩

/-- Builders can be written to a root: nothing stands there, or a directory. -/
def Fit (s : Store) (root : Path) : Prop :=
  s.look root = .ok none ∨ s.look root = .ok (some .directory)

/-- A root that is fit is not blocked. -/
theorem Fit.not_blocked {s : Store} {root : Path} (h : Fit s root) : ¬ Blocked s root := by
  rintro ⟨bytes, hblocked⟩
  rcases h with h | h <;> cases h.symm.trans hblocked

/-- Reading a text changes nothing, and fails where the bytes cannot be read or are no text. -/
theorem exec_readText (p : Path) (run : Run) :
    (∃ text, exec (readText p) run = (.ok text, run) ∧ ¬ Undecodable run.store p) ∨
    (∃ fault, exec (readText p) run = (.error (.store fault), run) ∧
      run.store.bytes p = .error fault) ∨
    ∃ fault, exec (readText p) run = (.error (.undecodable fault), run) ∧
      Undecodable run.store p := by
  rw [readText, exec_bind, exec_look]
  rcases hbytes : run.store.bytes p with fault | bytes
  · exact .inr (.inl ⟨fault, rfl, rfl⟩)
  · simp only [Outcome.mapError_ok, exec_ofExcept]
    rcases hdecode : Utf8.decode bytes with fault | text
    · refine .inr (.inr ⟨fault, ?_, bytes, hbytes, fault, hdecode⟩)
      rw [textOf, hdecode]
      rfl
    · refine .inl ⟨_, by rw [textOf, hdecode]; rfl, ?_⟩
      rintro ⟨bytes', hbytes', fault, hfault⟩
      obtain rfl := Except.ok.inj (hbytes.symm.trans hbytes')
      rw [hdecode] at hfault
      cases hfault

/-- A root that is fit is accepted. -/
theorem exec_checkOutput_of_fit {root : Path} {run : Run} (h : Fit run.store root) :
    exec (checkOutput root) run = (.ok (), run) := by
  rw [checkOutput, exec_bind, exec_look, Store.occupied]
  rcases h with h | h
  · simp only [h, Except.map, Outcome.mapError_ok, exec_bind, exec_look, Store.isDirectory]
    rfl
  · simp only [h, Except.map, Outcome.mapError_ok, exec_bind, exec_look, Store.isDirectory]
    rfl

/-- A root that is blocked is refused. -/
theorem exec_checkOutput_of_blocked {root : Path} {run : Run} (h : Blocked run.store root) :
    exec (checkOutput root) run = (.error (.config (.blockedOutput root)), run) := by
  obtain ⟨bytes, h⟩ := h
  rw [checkOutput, exec_bind, exec_look, Store.occupied]
  simp only [h, Except.map, Outcome.mapError_ok, exec_bind, exec_look, Store.isDirectory]
  rfl

/-- A root that cannot be looked at is a fault. -/
theorem exec_checkOutput_of_error {root : Path} {run : Run} {fault : StoreFault}
    (h : run.store.look root = .error fault) :
    exec (checkOutput root) run = (.error (.store fault), run) := by
  rw [checkOutput, exec_bind, exec_look, Store.occupied, h]
  rfl

/-- A root is fit, or blocked, or it cannot be looked at. -/
theorem fit_or_blocked_or_error (s : Store) (root : Path) :
    Fit s root ∨ Blocked s root ∨ ∃ fault, s.look root = .error fault := by
  rcases hlook : s.look root with fault | _ | bytes | _
  · exact .inr (.inr ⟨fault, rfl⟩)
  · exact .inl (.inl hlook)
  · exact .inr (.inl ⟨bytes, hlook⟩)
  · exact .inl (.inr hlook)

end Running
end FluentBuilder.Processing
