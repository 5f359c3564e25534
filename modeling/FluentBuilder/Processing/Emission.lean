import FluentBuilder.Processing.Run

/-!
# Writing builders

A builder is written to its file unless the file holds its text already. When only checked, nothing
is written, and it is told whether the file is missing or out of date.
-/

namespace FluentBuilder.Processing

/-- What was found or done about the file of a builder. -/
inductive EmitStatus where
  | generated | unchanged | stale | missing
  deriving DecidableEq, Repr

/-- The word for a status. -/
def EmitStatus.word : EmitStatus → String
  | .generated => "generated"
  | .unchanged => "unchanged"
  | .stale => "stale"
  | .missing => "missing"

/-- Does the file hold the text of the builder now? -/
def EmitStatus.isUpToDate : EmitStatus → Bool
  | .generated | .unchanged => true
  | .stale | .missing => false

/-- The file of a builder. -/
def emitPath (root : Path) (b : Blueprint) : Running Path := do
  Running.checkOutput root
  return b.outputPath root

/-- The text of the file at a path, if a file stands there. -/
def existingText (path : Path) : Running (Option String) := do
  if ← Running.look (·.isFile path) then some <$> Running.readText path else return none

/-- Settles the file of a builder that holds a text, or that is not there. -/
def settle (path : Path) (check : Bool) (b : Blueprint) (existing : Option String) :
    Running EmitStatus := do
  if existing = some b.render then return .unchanged
  else if check then return if existing.isNone then .missing else .stale
  else
    Running.file (Filing.writeWhole path (Utf8.encode b.render))
    return .generated

/-- Writes a builder, or only checks its file. -/
def emit (root : Path) (check : Bool) (b : Blueprint) : Running (Path × EmitStatus) := do
  let path ← emitPath root b
  let existing ← existingText path
  return (path, ← settle path check b existing)

end FluentBuilder.Processing
