import FluentBuilder.Source.Tree
import FluentBuilder.Syntax.Reader

/-!
# Reading modules

Modules are read from texts. A text that cannot be read is a `SourceFault`; a text with the character
of code zero is none and fails on its own (`ReadError`).
-/

namespace FluentBuilder.Source

open Syntax

/-- Why a source tree or a part of it cannot be read. -/
inductive SourceFault where
  /-- The text of a module is wrong. -/
  | unparsable (module : String) (path : Path) (fault : Fault)
  /-- The bytes of a module are no text. -/
  | undecodable (module : String) (path : Path) (reason : Utf8.Reason)
  /-- A root is no directory. -/
  | noDirectory (root : Path)
  deriving DecidableEq, Repr

/-- The wording of a fault. -/
def SourceFault.message : SourceFault → String
  | .unparsable module _ fault => "cannot parse module " ++ module ++ ": " ++ fault.cause.message
  | .undecodable module _ reason => "cannot decode module " ++ module ++ ": " ++ reason.message
  | .noDirectory root => "Source root is not a directory: " ++ root.render

/-- Where the fault is. -/
def SourceFault.location : SourceFault → Option String
  | .unparsable _ path fault =>
    some (path.render ++ ":" ++ toString fault.line ++ ":" ++ toString fault.column)
  | .undecodable _ path _ => some path.render
  | .noDirectory _ => none

/-- Why a module cannot be read. -/
inductive ReadError where
  /-- Its text or its bytes are wrong. -/
  | source (fault : SourceFault)
  /-- Its text holds the character of code zero. -/
  | nullCharacter
  deriving DecidableEq, Repr

/-- The wording for a text with the character of code zero. -/
def nullCharacterMessage : String := "source code string cannot contain null bytes"

/-- Reads a module from its text; `file` holds what the file at the path holds, if there is one. -/
def Module.ofText (name : String) (path : Path) (isPackage : Bool) (file : Option (List UInt8))
    (text : String) : Except ReadError Module :=
  match parseModule text file with
  | .ok body => .ok ⟨name, path, isPackage, body⟩
  | .error .nullCharacter => .error .nullCharacter
  | .error (.fault fault) => .error (.source (.unparsable name path fault))

/-- The file of a module: its segments are directories, the last one is a file or, of a package, a
directory with a file of its own. -/
def modulePath (name : String) (isPackage : Bool) : Path :=
  let segments := Dotted.segments name
  if isPackage then Path.here.appendTexts (segments ++ ["__init__.py"])
  else Path.here.appendTexts (segments.dropLast ++ [segments.getLastD "" ++ ".py"])

/-- Reads a tree from texts under the names of their modules; those named in `packages` are
packages. `files` gives the bytes of the files that there are. -/
def Tree.ofTexts (files : Path → Option (List UInt8)) (texts : Table String)
    (packages : List String) : Except ReadError Tree := do
  let modules ← texts.mapM fun (name, text) => do
    let isPackage := packages.contains name
    let path := modulePath name isPackage
    let m ← Module.ofText name path isPackage (files path) text
    return (name, m)
  return Tree.ofModules modules

end FluentBuilder.Source
