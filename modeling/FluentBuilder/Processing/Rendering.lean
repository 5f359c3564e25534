import FluentBuilder.Processing.Emission

/-!
# Writing builders from templates

The text of a builder is what a template makes of it. A template may fail, and its text may have surrogates in
it: that it cannot be written is noticed only when the temporary file is there already, which is removed then.
The standard template always makes the text of the builder.
-/

namespace FluentBuilder.Processing

/-- What a template makes of a builder: a text, unless it fails. -/
abbrev Template := Blueprint → Option CodePoints

/-- The template that makes the texts of builders. -/
def Template.standard : Template := fun b => some (.ofText b.render)

/-- Why a builder is not written from a template. -/
inductive EmissionFault where
  /-- Its file cannot be read or written. -/
  | run (fault : RunFault)
  /-- The template fails on the builder of this class. -/
  | template (target : String)
  /-- The text has surrogates. -/
  | unencodable (surrogates : SurrogateRun)
  deriving Repr

/-- The wording of a fault. -/
def EmissionFault.message : EmissionFault → String
  | .run fault => fault.message
  | .template target => "Failed rendering builder for " ++ target
  | .unencodable surrogates => surrogates.message

/-- A part of the work on a state that may fail in this way. -/
abbrev Emitting (σ : Type) := ExceptT EmissionFault (StateM σ)

/-- A change of files. -/
def Emitting.filing {α : Type} (change : Filing α) : Emitting Store α :=
  ExceptT.adapt (EmissionFault.run ∘ RunFault.store) change

/-- A change of the files of a run. -/
def Emitting.file {α : Type} (change : Emitting Store α) : Emitting Run α := do
  let run ← get
  let (result, store) := (ExceptT.run change).run run.store
  set { run with store }
  ExceptT.mk (pure result)

/-- Writes a text to a file as a whole: no other state of it is ever seen. The text is encoded when the
temporary file is written. -/
def writeText (p : Path) (text : CodePoints) : Emitting Store Unit := do
  Emitting.filing (Filing.ensureDirectories p.parts.length p.parent)
  let temporary ← Emitting.filing (Filing.createTemporary p ((← get).nodes.length + 1) 0)
  try
    match text.toText with
    | .error surrogates => throw (.unencodable surrogates)
    | .ok text =>
      Emitting.filing (Filing.writeFile temporary (Utf8.encode text))
      Emitting.filing (Filing.replaceFile temporary p)
  catch fault =>
    Emitting.filing (Filing.removeFile temporary)
    throw fault

/-- Writes what a template makes of a builder, or only checks its file. -/
def emitWith (template : Template) (root : Path) (check : Bool) (b : Blueprint) :
    Emitting Run (Path × EmitStatus) := do
  let path ← ExceptT.adapt .run (emitPath root b)
  match template b with
  | none => throw (.template b.target)
  | some text =>
    let existing ← ExceptT.adapt .run (existingText path)
    if existing.map CodePoints.ofText = some text then return (path, .unchanged)
    else if check then return (path, if existing.isNone then .missing else .stale)
    else
      Emitting.file (writeText path text)
      return (path, .generated)

end FluentBuilder.Processing
