import FluentBuilder.BuilderText
import FluentBuilder.CommandLine.Switch

/-!
# What the command line asks for

The program has one command, `generate`, behind whose name stand its own switches and the roots to read
sources from. All roots stand together: once a switch has followed some of them, further ones are
refused.
-/

namespace FluentBuilder.CommandLine

/-! ### The two commands -/

/-- The switch that asks for help. -/
def helpSwitch : Switch := ⟨["-h", "--help"], false, .help⟩

/-- The program itself. -/
def program : Command where
  name := "buildergen"
  usage := "usage: buildergen [-h] [--version] \x7bgenerate\x7d ...\n"
  description :=
    "\nGenerate fluent builders for @builder classes\n" ++
    "\npositional arguments:\n" ++
    "  \x7bgenerate\x7d\n" ++
    "    generate  Generate builder modules for every marked class\n" ++
    "\noptions:\n" ++
    "  -h, --help  show this help message and exit\n" ++
    "  --version   show program's version number and exit\n"
  switches := [helpSwitch, ⟨["--version"], false, .version⟩]

/-- The command that generates builders. -/
def generateCommand : Command where
  name := "buildergen generate"
  usage :=
    "usage: buildergen generate [-h] [--out OUT] [--config CONFIG] [--check] [-v]\n" ++
    "                           [source_roots ...]\n"
  description :=
    "\npositional arguments:\n" ++
    "  source_roots     Source roots to scan (overrides config source_roots)\n" ++
    "\noptions:\n" ++
    "  -h, --help       show this help message and exit\n" ++
    "  --out OUT        Output root for generated builders (overrides config\n" ++
    "                   output_dir)\n" ++
    "  --config CONFIG  Config file (default: ./buildergen.yaml when present)\n" ++
    "  --check          Only check generated files are up to date\n" ++
    "  -v, --verbose    Increase log verbosity (-v, -vv)\n"
  switches := [
    helpSwitch,
    ⟨["--out"], true, .out⟩,
    ⟨["--config"], true, .config⟩,
    ⟨["--check"], false, .check⟩,
    ⟨["-v", "--verbose"], false, .verbose⟩]

/-- The report of a request that ends the run at once. -/
def Command.answer? (c : Command) (s : Setting) : Option Report :=
  match s.request with
  | .help => some ⟨0, c.usage ++ c.description, ""⟩
  | .version => some ⟨0, program.name ++ " " ++ Blueprint.version ++ "\n", ""⟩
  | _ => none

/-- What a switch asks for, unless that ends the run. -/
def Command.settings (c : Command) (found : Found) (rest : List Marked) :
    Except Report (List Setting × List Marked) := do
  let (settings, rest) ← c.readSwitch ((found.value.getD "").length + 1) found rest
  match settings.findSome? c.answer? with
  | some report => throw report
  | none => return (settings, rest)

/-! ### The arguments of `generate` -/

/-- What a run should do. -/
structure Invocation where
  /-- The roots to read sources from. -/
  roots : List String
  /-- The directory to write to. -/
  out : Option String
  /-- The configuration file. -/
  config : Option String
  /-- Are files only checked? -/
  check : Bool
  /-- How much is told. -/
  verbosity : Nat
  deriving DecidableEq, Repr

namespace Invocation

/-- The invocation without any arguments. -/
def empty : Invocation := ⟨[], none, none, false, 0⟩

/-- The invocation with one more setting. -/
def apply (i : Invocation) (s : Setting) : Invocation :=
  match s.request with
  | .out => { i with out := some s.value }
  | .config => { i with config := some s.value }
  | .check => { i with check := true }
  | .verbose => { i with verbosity := i.verbosity + 1 }
  | .help | .version => i

end Invocation

/-- Arguments that are partly read. -/
structure Progress where
  /-- What is asked for so far. -/
  invocation : Invocation
  /-- May roots still come? -/
  isOpen : Bool
  /-- The arguments that mean nothing. -/
  extras : List String

namespace Progress

/-- Arguments that are no switches: they are the roots, if these may still come. -/
def plain (p : Progress) (arguments : List Marked) : Progress :=
  let names := arguments.map Prod.fst
  if arguments.isEmpty then p
  else if p.isOpen then
    ⟨{ p.invocation with roots := names.erase "--" }, false, p.extras⟩
  else { p with extras := p.extras ++ names }

/-- Reads arguments; each switch takes at least one of them. -/
def read : (fuel : Nat) → Progress → List Marked → Except Report Progress
  | 0, p, _ => .ok p
  | fuel + 1, p, arguments =>
    let before := arguments.takeWhile fun a => !a.2.isSwitch
    let p := p.plain before
    match arguments.drop before.length with
    | [] => .ok p
    | (_, .switch found) :: rest => do
      let (settings, rest) ← generateCommand.settings found rest
      read fuel { p with invocation := settings.foldl Invocation.apply p.invocation } rest
    | (arg, _) :: rest => read fuel { p with extras := p.extras ++ [arg] } rest

end Progress

/-- What arguments behind the name of the command ask for, and those of them that mean nothing. -/
def readGenerate (arguments : List String) : Except Report (Invocation × List String) := do
  let marked ← generateCommand.marks arguments
  let p ← Progress.read (marked.length + 1) ⟨.empty, true, []⟩ marked
  return (p.invocation, p.extras)

/-! ### All arguments -/

/-- Reads the name of the command and what stands behind it. -/
def readCommand (extras : List String) : List String → Except Report Invocation
  | [] => .error (program.refusal "the following arguments are required: command")
  | name :: rest =>
    if name == "generate" then do
      let (invocation, more) ← readGenerate rest
      if extras.isEmpty && more.isEmpty then return invocation
      else throw (program.refusal ("unrecognized arguments: " ++
        String.intercalate " " (extras ++ more)))
    else .error (program.refusal ("argument command: invalid choice: " ++
      Quoted.text (CodePoints.ofText name) ++ " (choose from 'generate')"))

/-- Reads arguments up to the name of the command. -/
def readProgram : (fuel : Nat) → (extras : List String) → List Marked → Except Report Invocation
  | 0, extras, _ => readCommand extras []
  | fuel + 1, extras, arguments =>
    match arguments with
    | (_, .switch found) :: rest => do
      let (_, rest) ← program.settings found rest
      readProgram fuel extras rest
    | (arg, .unknown) :: rest => readProgram fuel (extras ++ [arg]) rest
    | [(_, .separator)] => readCommand extras []
    | arguments => readCommand extras (arguments.map Prod.fst)

/-- What the arguments of the program ask for. -/
def Invocation.ofArguments (arguments : List String) : Except Report Invocation := do
  let marked ← program.marks arguments
  readProgram (marked.length + 1) [] marked

end FluentBuilder.CommandLine
