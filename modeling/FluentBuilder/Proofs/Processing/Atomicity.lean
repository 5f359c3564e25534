import FluentBuilder.Processing.Rendering
import FluentBuilder.Proofs.Processing.Generation
import FluentBuilder.Proofs.Text.CodePoints

/-!
# What is left of an emission that fails

Writing the file of a builder can fail at each of its steps: the root is no directory, the template fails, the
file that stands there is no text, a directory cannot be made, no temporary file can be made, the text cannot
be encoded, the temporary file cannot take the place of the file. `intact_of_emit` says what is left then:
everything that stood before, and directories where nothing stood.

**Encoding.** That a text cannot be encoded is noticed between two steps of writing a file as a whole. The
temporary file is there already, so `writeText_spec` is about it once more, and not only about
`Filing.writeWhole`. For texts without surrogates the two are the same (`exec_writeText_of_toText`), and so are
`emit` and `emitWith` for the standard template (`exec_emitWith_standard`).
-/

namespace FluentBuilder.Processing

open Stateful Store

variable {root path : Path} {check : Bool} {b : Blueprint} {run run' : Run} {template : Template}
variable {s s' : Store} {text : CodePoints}

/-! ### What is left -/

/-- What stood before still stands, and where nothing stood there is nothing or a directory. -/
def Intact (before after : Store) : Prop :=
  ∀ place, after.node? place = before.node? place ∨
    before.node? place = none ∧ after.node? place = some .directory

/-- Where no file changes, all is left. -/
theorem intact_of_evolves (h : Evolves (fun _ => False) s s') : Intact s s' := by
  intro place
  have hfile := h.fileAt_eq place not_false
  cases hnode : s.node? place with
  | none =>
    cases hnode' : s'.node? place with
    | none => exact .inl rfl
    | some node =>
      cases node with
      | directory => exact .inr ⟨rfl, rfl⟩
      | file bytes =>
        rw [fileAt_eq_some_iff.mpr hnode', fileAt, hnode] at hfile
        cases hfile
  | some node =>
    cases node with
    | directory => exact .inl (h.directory place hnode)
    | file bytes =>
      rw [fileAt_eq_some_iff.mpr hnode] at hfile
      exact .inl (fileAt_eq_some_iff.mp hfile)

/-! ### Writing a text -/

/-- A change of files fails with another fault. -/
@[simp] theorem exec_filing {α : Type} (change : Filing α) (s : Store) :
    exec (Emitting.filing change) s =
      ((exec change s).1.mapError (EmissionFault.run ∘ RunFault.store), (exec change s).2) := rfl

/-- A change that goes through. -/
theorem exec_filing_of_ok {α : Type} {change : Filing α} {a : α} (h : exec change s = (.ok a, s')) :
    exec (Emitting.filing change) s = (.ok a, s') := by
  rw [exec_filing, h]
  rfl

/-- A change that does not. -/
theorem exec_filing_of_error {α : Type} {change : Filing α} {fault : StoreFault}
    (h : exec change s = (.error fault, s')) :
    exec (Emitting.filing change) s = (.error (.run (.store fault)), s') := by
  rw [exec_filing, h]
  rfl

/-- One change after another. -/
theorem exec_filing_bind {α β : Type} (change : Filing α) (next : α → Filing β) (s : Store) :
    exec (Emitting.filing change >>= fun a => Emitting.filing (next a)) s =
      exec (Emitting.filing (change >>= next)) s := by
  rw [exec_filing, exec_bind, exec_bind, exec_filing]
  rcases exec change s with ⟨fault | a, s'⟩
  · rfl
  · rfl

/-- **A text without surrogates is written as its bytes are.** -/
theorem exec_writeText_of_toText {chars : String} (h : text.toText = .ok chars) (p : Path) (s : Store) :
    exec (writeText p text) s = exec (Emitting.filing (Filing.writeWhole p (Utf8.encode chars))) s := by
  rw [writeText, exec_filing, Filing.writeWhole, h]
  rcases hmade : exec (Filing.ensureDirectories p.parts.length p.parent) s with ⟨fault | _, s₀⟩
  · rw [exec_bind_of_error (exec_filing_of_error hmade), exec_bind_of_error hmade]
    rfl
  rw [exec_bind_of_ok (exec_filing_of_ok hmade), exec_bind_of_ok hmade, exec_bind_of_ok (exec_get s₀),
    exec_bind_of_ok (exec_get s₀)]
  rcases hcreate : exec (Filing.createTemporary p (s₀.nodes.length + 1) 0) s₀ with ⟨fault | temporary, s₁⟩
  · rw [exec_bind_of_error (exec_filing_of_error hcreate), exec_bind_of_error hcreate]
    rfl
  rw [exec_bind_of_ok (exec_filing_of_ok hcreate), exec_bind_of_ok hcreate, exec_tryCatch, exec_tryCatch]
  simp only [exec_filing_bind, exec_filing]
  rcases exec (do Filing.writeFile temporary (Utf8.encode chars); Filing.replaceFile temporary p) s₁ with
    ⟨fault | _, s₂⟩
  · -- The temporary file is removed in both cases.
    simp only [Outcome.mapError_error, exec_bind, exec_filing]
    rcases exec (Filing.removeFile temporary) s₂ with ⟨fault' | _, s₃⟩
    · rfl
    · rfl
  · rfl

/-- **No file changes where a text cannot be written.** -/
theorem evolves_of_writeText {p : Path} {fault : EmissionFault}
    (h : exec (writeText p text) s = (.error fault, s')) : Evolves (fun _ => False) s s' := by
  rcases htext : text.toText with surrogates | chars
  · have hmade := Filing.evolves_ensureDirectories p.parts.length p.parent s
    rw [writeText, htext] at h
    rcases hdirectories : exec (Filing.ensureDirectories p.parts.length p.parent) s with ⟨fault | _, s₀⟩
    · rw [exec_bind_of_error (exec_filing_of_error hdirectories)] at h
      obtain ⟨-, rfl⟩ := Prod.mk.inj h
      rwa [hdirectories] at hmade
    rw [hdirectories] at hmade
    rw [exec_bind_of_ok (exec_filing_of_ok hdirectories), exec_bind_of_ok (exec_get s₀)] at h
    rcases Filing.createTemporary_spec p (s₀.nodes.length + 1) 0 s₀ with
      ⟨fault, hcreate⟩ | ⟨temporary, place, hcreate, -, -, hplace, hfree⟩
    · rw [exec_bind_of_error (exec_filing_of_error hcreate)] at h
      obtain ⟨-, rfl⟩ := Prod.mk.inj h
      exact hmade
    · -- The temporary file is there, empty, and is removed.
      have hempty := Filing.Staged.create hfree []
      have hremove := Filing.exec_removeFile (hempty.placeOf_eq hplace)
        (by rw [hempty.node?_eq, if_pos rfl]; simp)
      rw [exec_bind_of_ok (exec_filing_of_ok hcreate), exec_tryCatch, exec_throw] at h
      simp only at h
      rw [exec_bind_of_ok (exec_filing_of_ok hremove), exec_throw] at h
      obtain ⟨-, rfl⟩ := Prod.mk.inj h
      exact hmade.trans hempty.remove
  · rw [exec_writeText_of_toText htext, exec_filing] at h
    rcases Filing.writeWhole_spec p (Utf8.encode chars) s with
      ⟨fault', s₁, hwrite, hevolves⟩ | ⟨place, s₁, hwrite, -⟩
    · rw [hwrite] at h
      obtain ⟨-, rfl⟩ := Prod.mk.inj h
      exact hevolves
    · rw [hwrite] at h
      cases (Prod.mk.inj h).1

/-! ### Emissions -/

/-- A change of files within a run. -/
theorem exec_file {α : Type} (change : Emitting Store α) (run : Run) :
    exec (Emitting.file change) run =
      ((exec change run.store).1, { run with store := (exec change run.store).2 }) := rfl

/-- A part that leaves everything behind when it fails. -/
def Atomic {α : Type} (part : Emitting Run α) : Prop :=
  ∀ run fault run', exec part run = (.error fault, run') → Intact run.store run'.store

namespace Atomic

variable {α β : Type}

/-- What stays as it is is left. -/
theorem refl (s : Store) : Intact s s := fun _ => .inl rfl

/-- A result is no failure. -/
theorem pure (a : α) : Atomic (Pure.pure a) := by
  intro run fault run' h
  cases h

/-- A part that only fails. -/
theorem throw (fault : EmissionFault) : Atomic (throw fault : Emitting Run α) := by
  intro run fault' run' h
  obtain ⟨-, rfl⟩ := Prod.mk.inj h
  exact refl _

/-- A part under a condition. -/
theorem ite {c : Prop} [Decidable c] {part other : Emitting Run α} (hpart : Atomic part)
    (hother : Atomic other) : Atomic (if c then part else other) := by
  split
  · exact hpart
  · exact hother

/-- A part behind one that only looks. -/
theorem bind_of_looks {part : Emitting Run α} {next : α → Emitting Run β}
    (hpart : Keeps (fun run run' => run' = run) part) (hnext : ∀ a, Atomic (next a)) :
    Atomic (part >>= next) := by
  intro run fault run' h
  have hsame := hpart run
  rcases exec_bind_cases h with ⟨fault', hfails, -⟩ | ⟨a, run₁, hlooks, hrest⟩
  · rw [hfails] at hsame
    rw [show run' = run from hsame]
    exact refl _
  · rw [hlooks] at hsame
    obtain rfl : run₁ = run := hsame
    exact hnext a run₁ fault run' hrest

/-- A part whose result is taken over. -/
theorem bind_pure {part : Emitting Run α} (hpart : Atomic part) (b : β) :
    Atomic (part >>= fun _ => Pure.pure b) := by
  intro run fault run' h
  rcases exec_bind_cases h with ⟨fault', hfails, -⟩ | ⟨a, run₁, -, hrest⟩
  · exact hpart run fault' run' hfails
  · cases hrest

/-- Writing a text. -/
theorem writeText (p : Path) (text : CodePoints) : Atomic (Emitting.file (writeText p text)) := by
  intro run fault run' h
  rw [exec_file] at h
  obtain ⟨hfails, rfl⟩ := Prod.mk.inj h
  exact intact_of_evolves (evolves_of_writeText (Prod.ext hfails rfl))

end Atomic

/-- The path of a builder is found without changes. -/
theorem looks_emitPath (root : Path) (b : Blueprint) :
    Keeps (fun run run' : Run => run' = run) (emitPath root b) :=
  Keeps.bind (fun _ _ _ h h' => h'.trans h) (Running.exec_checkOutput_snd root) fun _ _ => rfl

/-- So is the text at a path. -/
theorem looks_existingText (path : Path) : Keeps (fun run run' : Run => run' = run) (existingText path) := by
  intro run
  rw [exec_existingText_eq]

/-- **Writing from a template leaves everything behind when it fails.** -/
theorem atomic_emitWith (template : Template) (root : Path) (check : Bool) (b : Blueprint) :
    Atomic (emitWith template root check b) := by
  refine Atomic.bind_of_looks (looks_emitPath root b) fun path => ?_
  cases template b with
  | none => exact Atomic.throw _
  | some text =>
    refine Atomic.bind_of_looks (looks_existingText path) fun existing => ?_
    refine Atomic.ite (Atomic.pure _) (Atomic.ite (Atomic.pure _) ?_)
    exact Atomic.bind_pure (Atomic.writeText path text) _

/-- **With the standard template, builders are written as they are.** -/
theorem exec_emitWith_standard (root : Path) (check : Bool) (b : Blueprint) (run : Run) :
    exec (emitWith .standard root check b) run =
      ((exec (emit root check b) run).1.mapError .run, (exec (emit root check b) run).2) := by
  rw [emitWith, emit, exec_bind, exec_bind, exec_adapt]
  rcases exec (emitPath root b) run with ⟨fault | path, run₁⟩
  · rfl
  simp only [Outcome.mapError_ok, Template.standard]
  rw [exec_bind, exec_bind, exec_adapt]
  rcases exec (existingText path) run₁ with ⟨fault | existing, run₂⟩
  · rfl
  have hsame : existing.map CodePoints.ofText = some (.ofText b.render) ↔ existing = some b.render := by
    cases existing with
    | none => simp
    | some text => simp [CodePoints.ofText_inj]
  simp only [Outcome.mapError_ok, hsame]
  rw [exec_bind, exec_settle, exec_ite, exec_ite]
  split
  · rfl
  split
  · rfl
  · rw [exec_bind, exec_file, exec_writeText_of_toText (CodePoints.toText_ofText b.render), exec_filing]
    rcases exec (Filing.writeWhole path (Utf8.encode b.render)) run₂.store with ⟨fault | _, store'⟩
    · rfl
    · rfl

/-- **What is left of an emission that fails**, of any builder, whether it writes or only checks, and over any
files: everything that stood before stands as it was, and where nothing stood there is nothing or a directory.
So no file has changed, none has been made or removed, and there is no temporary file. The same holds where
the text of the builder is made by a template, which may fail, or make a text that cannot be encoded. -/
theorem intact_of_emit (root : Path) (check : Bool) (b : Blueprint) (run : Run) :
    (∀ fault run', exec (emit root check b) run = (.error fault, run') → Intact run.store run'.store) ∧
      ∀ template fault run', exec (emitWith template root check b) run = (.error fault, run') →
        Intact run.store run'.store := by
  refine ⟨fun fault run' h => ?_, fun template => atomic_emitWith template root check b run⟩
  have hstandard := exec_emitWith_standard root check b run
  rw [h] at hstandard
  exact atomic_emitWith .standard root check b run _ _ hstandard

/-- The builder of a class without fields. -/
def barnBuilder : Blueprint := ⟨"BarnBuilder", "", "m.Barn", "m", [], ["m"]⟩

/-- A directory stands where its file is to be. -/
def barn : Run :=
  ⟨⟨[(["out"], .directory), (["out", "BarnBuilder.py"], .directory)], [], "/root"⟩, [], []⟩

/-- The builder cannot be written there. With a template that makes a surrogate it cannot be written anywhere
else either, but a directory is made. -/
theorem intact_of_barn :
    ∃ fault run' fault' run'',
      exec (emit ⟨.absolute, ["out"]⟩ false barnBuilder) barn = (.error fault, run') ∧
      Intact barn.store run'.store ∧
      exec (emitWith (fun _ => some [0xD800]) ⟨.absolute, ["new"]⟩ false barnBuilder) barn =
        (.error fault', run'') ∧
      run''.store.node? ["new"] = some .directory ∧ Intact barn.store run''.store := by
  have hfails : (exec (emit ⟨.absolute, ["out"]⟩ false barnBuilder) barn).1.toOption = none := by
    decide
  have hfails' : (exec (emitWith (fun _ => some [0xD800]) ⟨.absolute, ["new"]⟩ false barnBuilder)
      barn).1.toOption = none := by decide +kernel
  have hmade : (exec (emitWith (fun _ => some [0xD800]) ⟨.absolute, ["new"]⟩ false barnBuilder)
      barn).2.store.node? ["new"] = some .directory := by decide +kernel
  rcases hemit : exec (emit ⟨.absolute, ["out"]⟩ false barnBuilder) barn with ⟨fault | _, run'⟩
  case ok =>
    rw [hemit] at hfails
    cases hfails
  rcases hemit' : exec (emitWith (fun _ => some [0xD800]) ⟨.absolute, ["new"]⟩ false barnBuilder) barn
    with ⟨fault' | _, run''⟩
  case ok =>
    rw [hemit'] at hfails'
    cases hfails'
  rw [hemit'] at hmade
  exact ⟨fault, run', fault', run'', rfl, (intact_of_emit _ _ _ _).1 fault run' hemit, rfl, hmade,
    (intact_of_emit _ _ _ _).2 _ fault' run'' hemit'⟩

end FluentBuilder.Processing
