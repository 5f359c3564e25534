import FluentBuilder.BuilderText
import FluentBuilder.Config
import FluentBuilder.Document.Fault
import FluentBuilder.Processing.Diagnostic
import FluentBuilder.Syntax.Lexer

/-!
# Runs

A run reads sources from a store and writes builders into it. While it goes it collects diagnostics
and keeps a log. A `RunFault` ends a run, or only the work on one declaration.
-/

namespace FluentBuilder.Processing

open Source

/-! ### Faults -/

/-- Why a run or a part of it fails. -/
inductive RunFault where
  /-- The configuration cannot be used. -/
  | config (fault : ConfigFault)
  /-- A path names the home of an unknown account. -/
  | unknownHome
  /-- A source cannot be read. -/
  | read (fault : ReadError)
  /-- A class has no schema. -/
  | schema (fault : SchemaFault)
  /-- A class has no builder. -/
  | blueprint (fault : BlueprintFault)
  /-- A file cannot be read or written. -/
  | store (fault : StoreFault)
  /-- A file that should be a text is none. -/
  | undecodable (fault : Utf8.Fault)
  /-- A value in a document means nothing. -/
  | document (fault : Document.DocumentFault)
  deriving Repr

/-- The wording for bytes that are no text. -/
def undecodableMessage (fault : Utf8.Fault) : String :=
  let place :=
    if fault.count ≤ 1 then
      "byte 0x" ++ String.ofList (Quoted.hex 2 fault.byte.toNat) ++ " in position " ++
        toString fault.position
    else
      "bytes in position " ++ toString fault.position ++ "-" ++
        toString (fault.position + fault.count - 1)
  "'utf-8' codec can't decode " ++ place ++ ": " ++ fault.reason.message

/-- The wording of a fault. -/
def RunFault.message : RunFault → String
  | .config fault => fault.message
  | .unknownHome => unknownHomeMessage
  | .read (.source fault) => fault.message
  | .read .nullCharacter => nullCharacterMessage
  | .schema fault => fault.message
  | .blueprint fault => fault.message
  | .store fault => fault.message
  | .undecodable fault => undecodableMessage fault
  | .document fault => fault.message

/-- Does the fault concern only the declaration that is worked on? Others end the run. -/
def RunFault.isLocal : RunFault → Bool
  | .schema (.noClass _) | .schema (.lineage _) => true
  | .blueprint _ => true
  | .store fault => fault.isOfSystem
  | .read (.source _) => true
  | _ => false

/-! ### The log -/

/-- How important a record of the log is. -/
inductive LogLevel where
  | debug | info
  deriving DecidableEq, Repr

/-- A record of the log. -/
structure LogRecord where
  /-- How important it is. -/
  level : LogLevel
  /-- Which part of the program it comes from. -/
  part : String
  /-- What it says. -/
  message : String
  deriving DecidableEq, Repr

/-- The line of a record. -/
def LogRecord.render (r : LogRecord) : String :=
  (match r.level with
    | .debug => "DEBUG "
    | .info => "INFO ") ++ "buildergen." ++ r.part ++ ": " ++ r.message

/-! ### Runs -/

/-- What a run has done so far. -/
structure Run where
  /-- The file system. -/
  store : Store
  /-- The diagnostics in order. -/
  diagnostics : List Diagnostic
  /-- The log in order. -/
  log : List LogRecord

/-- A part of a run. -/
abbrev Running := ExceptT RunFault (StateM Run)

namespace Running

/-- Adds a record to the log. -/
def log (level : LogLevel) (part message : String) : Running Unit :=
  modify fun run => { run with log := run.log ++ [⟨level, part, message⟩] }

/-- Adds a diagnostic. -/
def report (d : Diagnostic) : Running Diagnostic := do
  modify fun run => { run with diagnostics := run.diagnostics ++ [d] }
  log .debug "environment" ("diagnostic: " ++ d.render)
  return d

/-- Adds a note. -/
def note (message : String) (element : Option Declaration) : Running Unit := do
  let _ ← report (.make .note message element none none)

/-- Adds an error. -/
def error (message : String) (element : Option Declaration) (kind location : Option String) :
    Running Diagnostic :=
  report (.make .error message element kind location)

/-- A result that may be a fault. -/
def ofExcept {α : Type} (result : Except RunFault α) : Running α :=
  ExceptT.mk (pure result)

/-- A look at the file system. -/
def look {α : Type} (f : Store → Except StoreFault α) : Running α := do
  let run ← get
  ofExcept ((f run.store).mapError .store)

/-- A change of the file system. -/
def file {α : Type} (change : Filing α) : Running α := do
  let run ← get
  let (result, store) := (ExceptT.run change).run run.store
  set { run with store }
  ofExcept (result.mapError .store)

/-- The text that bytes write. Line ends become single line feeds. -/
def textOf (bytes : List UInt8) : Except Utf8.Fault String :=
  (Utf8.decode bytes).map fun text => String.ofList (Syntax.unifyLineEnds text.toList)

/-- The text of a file. -/
def readText (p : Path) : Running String := do
  let bytes ← look (·.bytes p)
  ofExcept ((textOf bytes).mapError .undecodable)

/-- Computes with the directory to write to, which has to be a directory if something stands there. -/
def checkOutput (root : Path) : Running Unit := do
  if (← look (·.occupied root)) && !(← look (·.isDirectory root)) then
    throw (.config (.blockedOutput root))

/-- The directory to write to that options name. -/
def outputRoot (options : Options) : Running Path := do
  let raw := Text.stripBlanks ((options.find? outputOption).getD []).toTextMarking
  if raw.isEmpty then throw (.config .noOutput)
  match Store.expandHome (← get).store.home (Path.ofText raw) with
  | none => throw .unknownHome
  | some path =>
    let root ← look (·.resolve path)
    checkOutput root
    return root

end Running
end FluentBuilder.Processing
