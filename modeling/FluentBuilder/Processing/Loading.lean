import FluentBuilder.Processing.Run

/-!
# Loading sources

The modules below some roots. All files whose names end in `.py` are modules, except those in hidden
directories and in caches. Files are read in ascending order of their paths below the root; where
several give one name to a module, the last of them is it.
-/

namespace FluentBuilder.Processing

open Source

/-- Are there no modules in a directory of this name? -/
def isSkippedDirectory (name : String) : Bool :=
  name.toList.head? == some '.' || name == "__pycache__"

/-- Is a file of this name a module? -/
def isModuleFile (name : String) : Bool :=
  ".py".toList.reverse.isPrefixOf name.toList.reverse

/-- The module files below a directory, by their names from there on. Every directory is longer than
the one around it, so that no more than the length of the longest place are entered. -/
def filesBelow (s : Store) : (fuel : Nat) → (place below : Place) → List Place
  | 0, _, _ => []
  | fuel + 1, place, below =>
    (s.children place).flatMap fun (name, node) =>
      match node with
      | .directory =>
        if isSkippedDirectory name then []
        else filesBelow s fuel (place ++ [name]) (below ++ [name])
      | .file _ => if isModuleFile name then [below ++ [name]] else []

/-- The number of directories that can be inside each other. -/
def storeDepth (s : Store) : Nat :=
  (s.nodes.map fun entry => entry.1.length).foldl max 0 + 1

/-- The module files below a root in order. -/
def sourceFiles (s : Store) (root : Path) : List Place :=
  sortedBy (fun (place : Place) => (Path.mk .relative place).render)
    (filesBelow s (storeDepth s) root.parts [])

/-- The name of the module in a file, and whether it is a package. -/
def moduleNameOf (below : Path) : String × Bool :=
  let parts := below.withoutSuffix.parts
  if parts.getLast? == some "__init__" then (Dotted.join parts.dropLast, true)
  else (Dotted.join parts, false)

/-- Reads the module in a file. -/
def readModule (s : Store) (name : String) (path : Path) (isPackage : Bool) :
    Except RunFault Module := do
  let bytes ← (s.bytes path).mapError .store
  match Running.textOf bytes with
  | .error fault => .error (.read (.source (.undecodable name path fault.reason)))
  | .ok text => (Module.ofText name path isPackage (some bytes) text).mapError .read

/-- Reads the modules in files below a root. Faults of the sources are collected, or else end the
reading. -/
def readModules (s : Store) (root : Path) (collect : Bool) :
    (modules : Table Module) → (faults : List SourceFault) → List Place →
      Except RunFault (Table Module × List SourceFault)
  | modules, faults, [] => .ok (modules, faults)
  | modules, faults, place :: rest =>
    let (name, isPackage) := moduleNameOf ⟨.relative, place⟩
    if name.isEmpty then readModules s root collect modules faults rest
    else match readModule s name ⟨root.root, root.parts ++ place⟩ isPackage with
      | .ok m => readModules s root collect (modules.put name m) faults rest
      | .error (.read (.source fault)) =>
        if collect then readModules s root collect modules (faults ++ [fault]) rest
        else .error (.read (.source fault))
      | .error fault => .error fault

/-- Reads the modules below roots, one root after the other. -/
def readRoots (s : Store) (collect : Bool) :
    (modules : Table Module) → (faults : List SourceFault) → List Path →
      Except RunFault (Table Module × List SourceFault)
  | modules, faults, [] => .ok (modules, faults)
  | modules, faults, path :: rest => do
    let root ← (s.resolve path).mapError .store
    if !(← (s.isDirectory root).mapError RunFault.store) then
      .error (.read (.source (.noDirectory root)))
    else
      let (modules, faults) ← readModules s root collect modules faults (sourceFiles s root)
      readRoots s collect modules faults rest

/-- The source tree below roots, with the faults of sources if they are collected. -/
def loadTree (roots : List Path) (collect : Bool) : Running (Tree × List SourceFault) := do
  let (modules, faults) ← Running.ofExcept (readRoots (← get).store collect [] [] roots)
  Running.log .debug "source" ("Loaded " ++ toString modules.length ++ " module(s) from " ++
    toString roots.length ++ " root(s)")
  return (Tree.ofModules modules, faults)

end FluentBuilder.Processing
