import FluentBuilder.BuilderText
import FluentBuilder.Library
import FluentBuilder.Syntax.Hint
import FluentBuilder.Syntax.Reader

/-!
# Importing a builder

Before a builder can be used its text is read, every type in it has to be one that an annotation can
hold, and the modules that it imports have to be there. Its target is there in any case: its module
and those that its module is in are modules that hold no others.
-/

namespace FluentBuilder

/-! ### Faults -/

/-- Why a builder cannot be imported. -/
inductive ImportFault where
  /-- Its text holds the character of code zero. -/
  | nullCharacter
  /-- Its text cannot be read. -/
  | unreadable (fault : Syntax.Fault)
  /-- A type on a line cannot be an annotation. -/
  | badHint (fault : Syntax.HintFault) (line : Nat)
  /-- The slot on a line has a name that nothing can be assigned to. -/
  | constantSlot (slot : String) (line : Nat)
  /-- A module is not there; `holder` is the module that it would be in, if that holds no others. -/
  | noModule (name : String) (holder : Option String)
  deriving DecidableEq, Repr

/-- The wording for a fault on a line of the text. -/
def onLine (message : String) (line : Nat) : String :=
  message ++ " (builder, line " ++ toString line ++ ")"

/-- The wording of a fault. -/
def ImportFault.message : ImportFault → String
  | .nullCharacter => "source code string cannot contain null bytes"
  | .unreadable fault => onLine fault.cause.message fault.line
  | .badHint fault line => onLine fault.message line
  | .constantSlot slot line => onLine ("cannot assign to " ++ slot) line
  | .noModule name holder =>
    "No module named '" ++ name ++ "'" ++
      match holder with
      | some holder => "; '" ++ holder ++ "' is not a package"
      | none => ""

/-! ### Modules -/

/-- The modules that a builder can import. -/
structure ImportableModules where
  /-- Is there a module of that name? -/
  has : String → Bool
  /-- Does it hold other modules? -/
  isPackage : String → Bool

/-- The modules that the tools of a builder are in. -/
def toolModules : List String := ["buildergen", "buildergen.marker", runtimeModule]

/-- The names of a module and of the modules that it is in, outermost first. -/
def enclosingNames (module : String) : List String :=
  let segments := Dotted.segments module
  (List.range segments.length).map fun i => Dotted.join (segments.take (i + 1))

/-- The modules that are there for a builder: the library, its tools and its target. -/
def ImportableModules.forTarget (library : Library) (module : String) : ImportableModules :=
  let own := enclosingNames module
  { has := fun name => own.contains name || toolModules.contains name || library.hasModule name
    isPackage := fun name =>
      !own.contains name && (name == "buildergen" || library.packages.contains name) }

/-- Finds a module: first the modules that it is in, outermost first. -/
def ImportableModules.find (modules : ImportableModules) (name : String) :
    Except ImportFault Unit :=
  go none (enclosingNames name)
where
  /-- Finds modules, each of which is in the one before. -/
  go (holder : Option String) : List String → Except ImportFault Unit
    | [] => .ok ()
    | name :: rest =>
      if modules.has name then go (some name) rest
      else .error (.noModule name (holder.filter fun h => !modules.isPackage h))

/-- Finds the modules of an import. -/
def ImportableModules.findFor (modules : ImportableModules) :
    Syntax.Statement → Except ImportFault Unit
  | .importModules names => names.forM fun a => modules.find a.name
  | .importFrom (some name) _ 0 => modules.find name
  | _ => .ok ()

/-! ### Types -/

/-- A type in the text of a builder. -/
structure WrittenHint where
  /-- The line on which it stands. -/
  line : Nat
  /-- Does it stand in the body of the class? -/
  inClass : Bool
  /-- The text. -/
  text : String

/-- The number of the line behind some text. -/
def lineBehind (before : List String) : Nat :=
  (Syntax.splitLines (Syntax.unifyLineEnds (String.join (before.map (· ++ "\n"))).toList)).length + 1

namespace Blueprint

/-- The line of the slot of a member that others stand before. -/
def slotPlace (b : Blueprint) (before : List Member) : Nat :=
  lineBehind (b.headLines ++ b.classLines ++ before.map slotLine)

/-- The line of the setter of a member that others stand before. -/
def setterPlace (b : Blueprint) (before : List Member) : Nat :=
  lineBehind (b.headLines ++ b.classLines ++ b.slotLines ++ before.flatMap b.setterLines) + 2

/-- Every member with those before it. -/
def membersInOrder (b : Blueprint) : List (List Member × Member) :=
  (List.range b.members.length).map b.members.take |>.zip b.members

/-- The types of the slots and of the setters, in order. -/
def hints (b : Blueprint) : List WrittenHint :=
  b.membersInOrder.map (fun (before, m) =>
    ⟨b.slotPlace before, false, m.type.render ++ " | Absent"⟩) ++
  b.membersInOrder.map fun (before, m) =>
    ⟨b.setterPlace before, true, m.setterType.render⟩

/-- Refuses a type that cannot be an annotation. -/
def checkWritten (hint : WrittenHint) : Except ImportFault Unit :=
  match Syntax.parseExpression hint.text with
  | .ok e => (e.checkHint hint.inClass).mapError fun fault => .badHint fault hint.line
  | .error _ => .ok ()

/-- The name that nothing can be assigned to. -/
def constantName : String := "__debug__"

/-- Imports a builder, or says why that fails. -/
def checkImport (library : Library) (b : Blueprint) : Except ImportFault Unit := do
  let body ← match Syntax.parseModule b.render none with
    | .ok body => pure body
    | .error .nullCharacter => throw .nullCharacter
    | .error (.fault fault) => throw (.unreadable fault)
  b.hints.forM checkWritten
  b.membersInOrder.forM fun (before, m) =>
    if m.attribute == constantName then throw (.constantSlot m.attribute (b.slotPlace before))
    else pure ()
  let modules := ImportableModules.forTarget library b.targetModule
  body.forM modules.findFor

end Blueprint
end FluentBuilder
