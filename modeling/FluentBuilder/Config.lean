import FluentBuilder.Document.Fault
import FluentBuilder.Document.Value
import FluentBuilder.Store
import FluentBuilder.Text.Blank

/-!
# Configuration

What a run is told to do: the roots to read sources from, the directory to write to, and options. A
configuration is read from a document value; arguments of the command line replace parts of it.
-/

namespace FluentBuilder

open Document

/-- The option that names the directory to write to. -/
def outputOption : String := "buildergen.generated"

/-- The file that a configuration is read from unless another one is named. -/
def defaultConfigFile : String := "buildergen.yaml"

/-- Why a configuration cannot be used. -/
inductive ConfigFault where
  /-- The value under a key is no path. -/
  | noPath (key : String)
  /-- The roots are no list of paths. -/
  | noRoots
  /-- The options are no mapping. -/
  | noOptions
  /-- The document is no mapping. -/
  | noMapping
  /-- There is no such file. -/
  | noFile (path : Path)
  /-- The file holds no document. -/
  | noDocument (path : Path)
  /-- No directory to write to is named. -/
  | noOutput
  /-- Something else stands where the directory to write to should be. -/
  | blockedOutput (root : Path)
  /-- A root to read from is no directory. -/
  | noSource (message : String)
  deriving DecidableEq, Repr

/-- The wording of a fault. -/
def ConfigFault.message : ConfigFault → String
  | .noPath key => "`" ++ key ++ "` must be a non-empty path string."
  | .noRoots => "`source_roots` must be a path or a non-empty list of paths."
  | .noOptions => "`options` must be an object/mapping when provided."
  | .noMapping => "Config file must be a mapping/object at the top level."
  | .noFile path => "Config file does not exist: " ++ path.render
  | .noDocument path => "Config file is not valid YAML: " ++ path.render
  | .noOutput =>
    "Unable to get target directory: option '" ++ outputOption ++ "' is not set"
  | .blockedOutput root => "Output root is not a directory: " ++ root.render
  | .noSource message => message

/-- Does the fault concern the directory to write to? -/
def ConfigFault.isOfOutput : ConfigFault → Bool
  | .noOutput | .blockedOutput _ => true
  | _ => false

/-- Why a document holds no configuration. -/
inductive SettingFault where
  /-- The configuration is wrong. -/
  | config (fault : ConfigFault)
  /-- A value in it cannot be written. -/
  | document (fault : DocumentFault)
  /-- The path names the home of an unknown account. -/
  | unknownHome
  deriving DecidableEq, Repr

/-- The wording for the home of an unknown account. -/
def unknownHomeMessage : String := "Could not determine home directory."

/-! ### Options -/

/-- Options: texts under names, in the order of their names. -/
abbrev Options := List (CodePoints × CodePoints)

namespace Options

/-- The text under a name. -/
def find? (options : Options) (name : String) : Option CodePoints :=
  (List.find? (fun entry => entry.1 == CodePoints.ofText name) options).map Prod.snd

/-- Puts a text under a name. -/
def put (options : Options) (name text : CodePoints) : Options :=
  match options with
  | [] => [(name, text)]
  | entry :: rest => if entry.1 = name then (name, text) :: rest else entry :: put rest name text

/-- Puts an item before the first one with a greater name. -/
def insertSorted {α : Type} (name : α → CodePoints) (x : α) : List α → List α
  | [] => [x]
  | y :: rest => if name x < name y then x :: y :: rest else y :: insertSorted name x rest

/-- Items in ascending order of their names; those of one name stay in order. -/
def sortedBy {α : Type} (name : α → CodePoints) (xs : List α) : List α :=
  xs.foldl (fun sorted x => insertSorted name x sorted) []

/-- The options in ascending order of their names. -/
def sorted (options : Options) : Options :=
  sortedBy Prod.fst options

/-- The options that entries write, in ascending order of their names. -/
def ofEntries (entries : List (Value × Value)) : Options :=
  (sortedBy (fun entry => entry.1.render) entries).foldl
    (fun options entry => put options entry.1.render entry.2.render) []

end Options

/-! ### Configurations -/

/-- A configuration. -/
structure Config where
  /-- The roots to read sources from. -/
  sourceRoots : List Path
  /-- The directory to write to. -/
  outputDir : Option Path
  /-- The options. -/
  options : Options
  deriving Repr

namespace Config

/-- The configuration for which nothing is said. -/
def default : Config := ⟨[Path.here], none, []⟩

/-- The options with the directory to write to among them. -/
def toOptions (c : Config) : Options :=
  match c.outputDir with
  | some dir => c.options.put (.ofText outputOption) (.ofText dir.render)
  | none => c.options

/-- The configuration with other roots and another directory, where they are given. -/
def withOverrides (c : Config) (roots : List String) (outputDir : Option String) : Config where
  sourceRoots := if roots.isEmpty then c.sourceRoots else roots.map Path.ofText
  outputDir :=
    match outputDir with
    | some dir => if dir.isEmpty then c.outputDir else some (Path.ofText dir)
    | none => c.outputDir
  options := c.options

/-! ### Reading a configuration -/

/-- The path that a value under a key names, as seen from a base. -/
def readPath (home : String) (base : Path) (key : String) : Value → Except SettingFault Path
  | .text codes =>
    let s := codes.toTextMarking
    if Text.isAllBlank s then .error (.config (.noPath key))
    else match Store.expandHome home (Path.ofText (Text.stripBlanks s)) with
      | some path => .ok (base ++ path)
      | none => .error .unknownHome
  | _ => .error (.config (.noPath key))

/-- The values of the roots. -/
def rootValues : Option Value → Except ConfigFault (List Value)
  | none => .ok [.text (.ofText ".")]
  | some .null => .ok [.text (.ofText ".")]
  | some (.text s) => .ok [.text s]
  | some (.list []) => .error .noRoots
  | some (.list values) => .ok values
  | some _ => .error .noRoots

/-- The options that a value holds, in ascending order of their names. -/
def readOptions : Value → Except SettingFault Options
  | .map entries =>
    if Value.entriesAreWritable entries then .ok (.ofEntries entries)
    else .error (.document .unwritableNumber)
  | v => if v.isNegligible then .ok [] else .error (.config .noOptions)

/-- The configuration that a document holds. -/
def ofDocument (home : String) (base : Path) (document : Value) : Except SettingFault Config := do
  let values ← (rootValues (document.entry? "source_roots")).mapError .config
  let sourceRoots ← values.mapM (readPath home base "source_roots")
  let outputDir ← match document.entry? "output_dir" with
    | none => pure none
    | some .null => pure none
    | some v => (readPath home base "output_dir" v).map some
  let options ← readOptions ((document.entry? "options").getD .null)
  return { sourceRoots, outputDir, options }

end Config
end FluentBuilder
