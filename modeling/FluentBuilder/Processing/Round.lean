import FluentBuilder.Processing.Emission
import FluentBuilder.Processing.Loading

/-!
# Rounds

A round works on every marked declaration of a source tree in order. Each of them has an outcome of
its own: a declaration that fails does not stop the round. Only faults that concern no single
declaration do.
-/

namespace FluentBuilder.Processing

open Source

/-! ### Outcomes -/

/-- How the work on a declaration ended. -/
inductive Status where
  | emitted (status : EmitStatus)
  | failed
  | invalid
  deriving DecidableEq, Repr

/-- The word for a status. -/
def Status.word : Status → String
  | .emitted status => status.word
  | .failed => "failed"
  | .invalid => "invalid"

/-- All status words in the order in which they are counted. -/
def Status.all : List Status :=
  [.emitted .generated, .emitted .unchanged, .emitted .stale, .emitted .missing, .failed, .invalid]

/-- Is everything as it should be? -/
def Status.isOk : Status → Bool
  | .emitted status => status.isUpToDate
  | _ => false

/-- The outcome of the work on a declaration. -/
structure Outcome where
  /-- The qualified name of the declaration. -/
  element : String
  /-- How the work ended. -/
  status : Status
  /-- The file of the builder. -/
  path : Option Path
  /-- The error that was reported. -/
  diagnostic : Option Diagnostic
  /-- The module of the builder. -/
  module : Option String

/-- An outcome without a builder. -/
def Outcome.without (element : String) (status : Status) (diagnostic : Diagnostic) : Outcome :=
  ⟨element, status, none, some diagnostic, none⟩

/-- Is everything as it should be? -/
def Outcome.isOk (o : Outcome) : Bool := o.status.isOk

/-- The result of a round: the outcomes in order of the marked declarations. -/
structure RoundResult where
  /-- The outcomes. -/
  outcomes : List Outcome

/-- Are all outcomes as they should be? -/
def RoundResult.isOk (r : RoundResult) : Bool := r.outcomes.all Outcome.isOk

/-- The number of outcomes with a status. -/
def RoundResult.count (r : RoundResult) (status : Status) : Nat :=
  (r.outcomes.filter fun o => o.status == status).length

/-! ### One declaration -/

/-- How a round writes. -/
structure Emitter where
  /-- The directory to write to. -/
  root : Path
  /-- Are files only checked? -/
  check : Bool

/-- What a round knows while it goes: the canonical references found, and the files that builders
were written to, with the declarations that they are for. -/
structure Progress where
  /-- The canonical references. -/
  refs : Table TypeRef
  /-- The files with their declarations. -/
  claimed : List (Path × String)

/-- The schema of a declaration. New references are noted in the log. -/
def describe (s : Surroundings) (d : Declaration) (refs : Table TypeRef) :
    Running (Except SchemaFault Schema × Table TypeRef) := do
  let (schema, found) := (ExceptT.run (Resolving.schema s d)).run refs
  (found.drop refs.length).forM fun (name, ref) =>
    Running.log .debug "resolver" ("Resolved " ++ name ++ " -> " ++ ref.name)
  return (schema, found)

/-- The note about the members of a class. -/
def membersNote (schema : Schema) : String :=
  "All members for " ++ schema.qualifiedName ++ ": " ++
    String.intercalate ", " (schema.fields.map fun f => f.name ++ ": " ++ f.type.render)

/-- Writes the builder of a class with a known schema. A file that was written to before in this
round is refused. -/
def writeBuilder (e : Emitter) (d : Declaration) (schema : Schema) (claimed : List (Path × String)) :
    Running (Except (Outcome × List (Path × String)) (Blueprint × List (Path × String))) := do
  Running.note (membersNote schema) (some d)
  let b ← Running.ofExcept ((Blueprint.ofSchema schema).mapError .blueprint)
  let path ← emitPath e.root b
  match (claimed.find? fun entry => entry.1 == path).map Prod.snd with
  | some owner =>
    let diagnostic ← Running.error ("Cannot generate builder for " ++ d.qualifiedName ++ ": " ++
      path.render ++ " is already generated for " ++ owner) (some d) none none
    return .error (.without d.qualifiedName .failed diagnostic, claimed)
  | none =>
    Running.note ("Writing " ++ b.moduleName) (some d)
    return .ok (b, claimed ++ [(path, d.qualifiedName)])

/-- The outcome of a builder whose file was written or checked. -/
def emittedOutcome (d : Declaration) (b : Blueprint) (path : Path) (status : EmitStatus) :
    Running Outcome := do
  let outcome (diagnostic : Option Diagnostic) : Outcome :=
    ⟨d.qualifiedName, .emitted status, some path, diagnostic, some b.moduleName⟩
  if status.isUpToDate then
    Running.log .info "processor" (status.word ++ ": " ++ path.render)
    return outcome none
  else
    let problem := if status = .stale then "out of date" else "missing"
    let diagnostic ← Running.error (path.render ++ " is " ++ problem ++ " (run generator)") (some d)
      none none
    return outcome (some diagnostic)

/-- The outcome of a class that has failed for a reason of its own; any other fault goes on. -/
def failedOutcome (d : Declaration) (fault : RunFault) : Running Outcome := do
  if fault.isLocal then
    let diagnostic ← Running.error ("Cannot generate builder for " ++ d.qualifiedName ++ ": " ++
      fault.message) (some d) none none
    return .without d.qualifiedName .failed diagnostic
  else throw fault

/-- Runs a part and keeps its fault as a value. -/
def attempt {α : Type} (part : Running α) : Running (Except RunFault α) :=
  ExceptT.mk do
    let result ← ExceptT.run part
    return .ok result

/-- The outcome of a class. -/
def processClass (s : Surroundings) (e : Emitter) (d : Declaration) (progress : Progress) :
    Running (Outcome × Progress) := do
  let (schema, refs) ← describe s d progress.refs
  match schema with
  | .error fault => return (← failedOutcome d (.schema fault), { progress with refs })
  | .ok schema =>
    match ← attempt (writeBuilder e d schema progress.claimed) with
    | .error fault => return (← failedOutcome d fault, { progress with refs })
    | .ok (.error (outcome, claimed)) => return (outcome, ⟨refs, claimed⟩)
    | .ok (.ok (b, claimed)) =>
      match ← attempt (emit e.root e.check b) with
      | .error fault => return (← failedOutcome d fault, ⟨refs, claimed⟩)
      | .ok (path, status) => return (← emittedOutcome d b path status, ⟨refs, claimed⟩)

/-- The name under which users know the marker. -/
def markerName : String := "buildergen.builder"

/-- The outcome of a marked declaration that is no plain class. -/
def invalidOutcome (d : Declaration) (kind : Kind) : Running Outcome := do
  let diagnostic ← Running.error ("The marker is invalid for the " ++ kind.word ++ " " ++ d.name ++
    ". Please put @" ++ markerName ++ " on a class") (some d) (some "InvalidPlacement") none
  return .without d.qualifiedName .invalid diagnostic

/-! ### All declarations -/

/-- The outcome of a marked declaration. -/
def processOne (s : Surroundings) (e : Emitter) (d : Declaration) (progress : Progress) :
    Running (Outcome × Progress) := do
  let kind := s.tree.kindOf d
  if kind = .plainClass then processClass s e d progress
  else return (← invalidOutcome d kind, progress)

/-- The outcomes of declarations, one after the other. -/
def processAll (s : Surroundings) (e : Emitter) (progress : Progress) :
    List Declaration → Running (List Outcome)
  | [] => return []
  | d :: rest => do
    let (outcome, progress) ← processOne s e d progress
    return outcome :: (← processAll s e progress rest)

/-- A round over a source tree; `isLast` says that it is the last one. -/
def processRound (e : Emitter) (tree : Tree) (isLast : Bool) : Running RoundResult := do
  if isLast then
    Running.note "This round will not be subject to a subsequent round of processing" none
  match tree.marked with
  | [] =>
    Running.note ("Not able to find @" ++ markerName ++ " in this round") none
    return ⟨[]⟩
  | elements => return ⟨← processAll (Surroundings.ofTree tree) e ⟨[], []⟩ elements⟩

/-! ### Whole runs -/

/-- A whole run: a round over the sources, and a last round over nothing. -/
def generate (config : Config) (check : Bool) : Running (List RoundResult) := do
  let root ← Running.outputRoot config.toOptions
  let (tree, faults) ← (do
    match ← attempt (loadTree config.sourceRoots true) with
    | .error (.read (.source fault)) => throw (.config (.noSource fault.message))
    | .error fault => throw fault
    | .ok loaded => return loaded : Running (Tree × List SourceFault))
  faults.forM fun fault => do
    let _ ← Running.error fault.message none none fault.location
  let e : Emitter := ⟨root, check⟩
  let first ← processRound e tree false
  let last ← processRound e Tree.empty true
  return [first, last]

end FluentBuilder.Processing
