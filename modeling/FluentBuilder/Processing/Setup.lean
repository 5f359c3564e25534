import FluentBuilder.Document.Meaning
import FluentBuilder.Processing.Run

/-!
# Configuration files

A configuration file holds one document. Paths in it are seen from the directory of the file. A
document of nothing, or of an empty or nought value, is the same as an empty mapping.
-/

namespace FluentBuilder.Processing

open Document

/-- The configuration in a document, as seen from a directory. -/
def configOf (home : String) (base : Path) (document : Value) : Except RunFault Config :=
  let document := if document.isNegligible then .map [] else document
  match document with
  | .map _ =>
    (Config.ofDocument home base document).mapError fun
      | .config fault => .config fault
      | .document fault => .document fault
      | .unknownHome => .unknownHome
  | _ => .error (.config .noMapping)

/-- The configuration in a file. -/
def loadConfig (path : Path) : Running Config := do
  if !(← Running.look (·.occupied path)) then throw (.config (.noFile path))
  let text ← Running.readText path
  match Value.ofText text with
  | .error .malformed => throw (.config (.noDocument path))
  | .error fault => throw (.document fault)
  | .ok document =>
    let place ← Running.look (·.resolve path)
    Running.ofExcept (configOf (← get).store.home place.parent document)

end FluentBuilder.Processing
