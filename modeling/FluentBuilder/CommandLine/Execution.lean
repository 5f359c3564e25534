import FluentBuilder.CommandLine.Invocation
import FluentBuilder.Processing.Round
import FluentBuilder.Processing.Setup

/-!
# Runs from the command line

A run takes its configuration from the file that is named, or else from the usual one if it is there,
and lets the arguments replace parts of it. Files that are up to date are listed on the standard
output; diagnostics and the log go to the error output. Configurations that cannot be used end the run
with the exit 2, errors with the exit 1.
-/

namespace FluentBuilder.CommandLine

open Processing

/-- The configuration of a run. -/
def chosenConfig (i : Invocation) : Running Config := do
  let usual := Path.ofText defaultConfigFile
  let config ←
    match i.config.filter (!·.isEmpty) with
    | some name => loadConfig (Path.ofText name)
    | none => if ← Running.look (·.isFile usual) then loadConfig usual else pure Config.default
  return config.withOverrides i.roots i.out

/-- Does the log show a record at some verbosity? -/
def isShown (verbosity : Nat) (r : LogRecord) : Bool :=
  match r.level with
  | .info => 1 ≤ verbosity
  | .debug => 2 ≤ verbosity

/-- Lines as a text. -/
def textOfLines (lines : List String) : String :=
  String.join (lines.map (· ++ "\n"))

/-- The lines of the log that are shown. -/
def logLines (verbosity : Nat) (log : List LogRecord) : List String :=
  (log.filter (isShown verbosity)).map LogRecord.render

/-- The lines of the diagnostics that are shown: notes only if more is to be told. -/
def diagnosticLines (verbosity : Nat) (diagnostics : List Diagnostic) : List String :=
  (diagnostics.filter fun d => d.severity ≠ .note || 0 < verbosity).map Diagnostic.render

/-- The line of an outcome whose file is as it should be. -/
def outcomeLine? (o : Outcome) : Option String :=
  match o.path with
  | some path => if o.isOk then some (o.status.word ++ ": " ++ path.render) else none
  | none => none

/-- The report of a run that has gone through. -/
def reportOf (i : Invocation) (run : Run) (rounds : List RoundResult) : Report :=
  let outcomes := rounds.flatMap RoundResult.outcomes
  let hasFailed := run.diagnostics.any Diagnostic.isError || !outcomes.all Outcome.isOk
  ⟨if hasFailed then 1 else 0, textOfLines (outcomes.filterMap outcomeLine?),
    textOfLines (logLines i.verbosity run.log ++ diagnosticLines i.verbosity run.diagnostics)⟩

/-- The report of a run whose configuration cannot be used. -/
def refusedReport (i : Invocation) (run : Run) (fault : ConfigFault) : Report :=
  ⟨2, "", textOfLines (logLines i.verbosity run.log ++ ["error: " ++ fault.message])⟩

/-- Runs the command. -/
def execute (i : Invocation) : Running Report := do
  let result ← attempt do
    let config ← chosenConfig i
    generate config i.check
  let run ← get
  match result with
  | .ok rounds => return reportOf i run rounds
  | .error (.config fault) => return refusedReport i run fault
  | .error fault => throw fault

/-- Runs the program on its arguments. -/
def run (arguments : List String) : Running Report := do
  match Invocation.ofArguments arguments with
  | .ok invocation => execute invocation
  | .error report => return report

end FluentBuilder.CommandLine
