import FluentBuilder.Source.Declaration

/-!
# Diagnostics

What a run has to say about the sources: notes, warnings and errors, each with the place that it is
about. Diagnostics are only ever added to.
-/

namespace FluentBuilder.Processing

/-- How grave a diagnostic is. -/
inductive Severity where
  | note | warning | error
  deriving DecidableEq, Repr

/-- The word for a severity. -/
def Severity.word : Severity → String
  | .note => "note"
  | .warning => "warning"
  | .error => "error"

/-- The severity that a word names. -/
def Severity.ofWord? (word : String) : Option Severity :=
  [Severity.note, .warning, .error].find? fun severity => severity.word == word

/-- The wording for a word that names no severity. -/
def unknownSeverityMessage (word : String) : String :=
  "'" ++ word ++ "' is not a valid Severity"

/-- A diagnostic. -/
structure Diagnostic where
  /-- How grave it is. -/
  severity : Severity
  /-- What it says. -/
  message : String
  /-- The qualified name of the declaration that it is about. -/
  element : Option String
  /-- The place that it is about. -/
  location : Option String
  /-- What kind of diagnostic it is. -/
  kind : Option String
  deriving DecidableEq, Repr

namespace Diagnostic

/-- A diagnostic about a declaration; a location given explicitly replaces that of the declaration,
unless it is empty. -/
def make (severity : Severity) (message : String) (element : Option Source.Declaration)
    (kind location : Option String) : Diagnostic where
  severity := severity
  message := message
  element := element.map (·.qualifiedName)
  location :=
    match location.filter (!·.isEmpty) with
    | some place => some place
    | none =>
      match element with
      | some d => some d.location
      | none => none
  kind := kind

/-- The text of a diagnostic: the place, the severity and what it says. -/
def render (d : Diagnostic) : String :=
  let place := match d.location with
    | some place => if place.isEmpty then "" else place ++ ": "
    | none => ""
  place ++ d.severity.word ++ ": " ++ d.message

/-- Is it an error? -/
def isError (d : Diagnostic) : Bool := d.severity == .error

end Diagnostic
end FluentBuilder.Processing
