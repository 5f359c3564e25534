import FluentBuilder.CommandLine.Execution

/-!
# The program

The outermost layer: it takes a picture of the directories that a run concerns, runs the command line on
it, and puts the changes into effect. Which directories these are is found by choosing the
configuration on a first picture.
-/

namespace FluentBuilder.CommandLine

open Processing

/-- The text of a place. -/
def placeText (place : Place) : String := (Path.mk .absolute place).render

/-- Adds a place and the directories around it. -/
def addPlace (s : Store) (place : Place) (node : Node) : Store :=
  let around := (List.range place.length).map fun n => place.take n
  let s := around.foldl (fun s dir =>
    if dir.isEmpty || (s.node? dir).isSome then s else s.putNode dir .directory) s
  if place.isEmpty then s else s.putNode place node

/-- Adds a file. Only files of modules and those asked for are read. -/
def pictureFile (s : Store) (place : Place) (isWanted : Bool) : IO Store := do
  if isWanted || isModuleFile (place.getLastD "") then
    let bytes ← IO.FS.readBinFile (placeText place)
    return addPlace s place (.file bytes.toList)
  else return addPlace s place (.file [])

/-- Adds what stands at a place and below it, if anything does. -/
partial def picture (s : Store) (place : Place) (isWanted : Bool) : IO Store := do
  let path ← (IO.FS.realPath (placeText place)).toBaseIO
  let entries ← (do (← IO.ofExcept path).readDir : IO _).toBaseIO
  match path, entries with
  | .error _, _ => return s
  | .ok _, .error _ => pictureFile s place isWanted
  | .ok _, .ok entries =>
    entries.foldlM (fun s entry =>
      if isSkippedDirectory entry.fileName then pure s
      else picture s (place ++ [entry.fileName]) false) (addPlace s place .directory)

/-- Adds what stands at a path. -/
def picturePath (isWanted : Bool) (s : Store) (p : Path) : IO Store :=
  match s.resolve p with
  | .ok path => picture s path.parts isWanted
  | .error _ => return s

/-- The paths that the arguments name directly. -/
def namedPaths (i : Invocation) : List Path :=
  (i.config.getD defaultConfigFile :: i.roots).map Path.ofText

/-- The paths that a configuration names. -/
def configPaths (c : Config) (home : String) : List Path :=
  c.sourceRoots ++ (c.outputDir.toList.filterMap (Store.expandHome home))

/-- The picture of all that a run concerns. -/
def pictureOf (arguments : List String) (start : Store) : IO Store := do
  match Invocation.ofArguments arguments with
  | .error _ => return start
  | .ok i =>
    let first ← (namedPaths i).foldlM (picturePath true) start
    match ((ExceptT.run (chosenConfig i)).run ⟨first, [], []⟩).1 with
    | .ok config => (configPaths config start.home).foldlM (picturePath false) first
    | .error _ => return first

/-- Puts one change into effect. Files are replaced as a whole. -/
def applyChange (before : Store) (place : Place) (node : Node) : IO Unit := do
  if before.node? place = some node then return
  let path := placeText place
  match node with
  | .directory => IO.FS.createDirAll path
  | .file bytes =>
    let temporary := placeText (place.dropLast ++ ["." ++ place.getLastD "" ++ ".new.tmp"])
    IO.FS.writeBinFile temporary (ByteArray.mk bytes.toArray)
    IO.FS.rename temporary path

/-- Runs the program. -/
def runProgram (arguments : List String) : IO UInt32 := do
  let current := (Path.ofText (toString (← IO.currentDir))).parts
  let home := (← IO.getEnv "HOME").getD "/"
  let before ← pictureOf arguments (addPlace ⟨[], current, home⟩ current .directory)
  let (result, after) := (ExceptT.run (run arguments)).run ⟨before, [], []⟩
  after.store.nodes.forM fun (place, node) => applyChange before place node
  match result with
  | .ok report =>
    IO.print report.output
    IO.eprint report.errors
    return report.exit.toUInt32
  | .error fault =>
    IO.eprintln fault.message
    return 1

end FluentBuilder.CommandLine

/-- The command line. -/
def main (arguments : List String) : IO UInt32 :=
  FluentBuilder.CommandLine.runProgram arguments
