import FluentBuilder.Blueprint
import FluentBuilder.Text.Composition

/-!
# Sessions of a builder

A session holds one slot for every field. A setter puts a value into its slot; `build` gives the
values in the order of the fields, or names the first field that is absent. A setter or `build` used
without a session opens a new one, so that no two chains of setters share slots.

Inside the body of the builder a name that begins with two underscores and does not end with two gets
the name of the builder before it (`privateName`). This concerns slots, setters, and the segments of
the target's name.
-/

namespace FluentBuilder

/-! ### Slots -/

/-- What a slot holds. -/
inductive Slot (α : Type) where
  /-- Nothing. -/
  | absent
  /-- A value. -/
  | set (value : α)
  deriving DecidableEq, Repr

/-- A field that was needed and never set. -/
structure MissingField where
  /-- The field. -/
  field : String
  /-- What it was needed for. -/
  target : Option String
  deriving DecidableEq, Repr

/-- The wording for a missing field. -/
def MissingField.message (m : MissingField) : String :=
  let purpose := match m.target with
    | some target => if target.isEmpty then "" else " for " ++ target
    | none => ""
  "Required field '" ++ m.field ++ "' was not set" ++ purpose

/-- The value of a slot that has to hold one. -/
def require {α : Type} (slot : Slot α) (field : String) (target : Option String) :
    Except MissingField α :=
  match slot with
  | .set value => .ok value
  | .absent => .error ⟨field, target⟩

/-! ### Names inside the builder -/

/-- A name as it is inside the body of a class. -/
def privateName (cls name : String) : String :=
  let cs := name.toList
  let isPrivate := "__".toList.isPrefixOf cs && !("__".toList.isPrefixOf cs.reverse)
  let stem := cls.toList.dropWhile (· == '_')
  if isPrivate && !stem.isEmpty then "_" ++ String.ofList stem ++ name else name

/-- The slot of a member. -/
def Blueprint.slot (b : Blueprint) (m : Member) : String :=
  privateName b.name m.attribute

/-- The slot that the code of a member names; it is the member's slot where the name is in normal
form. -/
def Blueprint.codeSlot (b : Blueprint) (m : Member) : String :=
  privateName b.name (Text.normalForm m.attribute)

/-- The name of the setter of a member. -/
def Blueprint.method (b : Blueprint) (m : Member) : String :=
  privateName b.name (Text.normalForm m.name)

/-- The setters and `build`, each once, in order. -/
def Blueprint.methods (b : Blueprint) : List String :=
  (b.members.map b.method ++ ["build"]).eraseDups

/-- The names that the body of the builder binds. -/
def Blueprint.bodyNames (b : Blueprint) : List String :=
  ["__module__", "__doc__", "__slots__", "__init__"] ++ b.methods

/-! ### Faults -/

/-- Why a builder cannot do what it is asked to. -/
inductive SessionFault where
  /-- A slot has the name of something else in the builder. -/
  | conflict (slot : String)
  /-- The slot is one that every object has, and cannot be set. -/
  | unsettable (builder slot : String)
  /-- There is no slot of this name. -/
  | noSlot (builder slot : String)
  /-- The builder has no such method. -/
  | noMethod (builder method : String)
  /-- A session has no such method. -/
  | noSessionMethod (builder method : String)
  /-- A method is used neither on the builder nor on a session. -/
  | unbound (builder method : String)
  /-- A name of the target is not known. -/
  | unknownName (name : String)
  /-- What a part of the target's name denotes has no member of that name. -/
  | noMember (owner member : String)
  /-- A field is missing. -/
  | missing (field : MissingField)
  deriving DecidableEq, Repr

/-- The wording of a fault. -/
def SessionFault.message : SessionFault → String
  | .conflict slot => "'" ++ slot ++ "' in __slots__ conflicts with class variable"
  | .unsettable builder slot =>
    if slot == "__dict__" then "__dict__ must be set to a dictionary, not a 'Absent'"
    else "attribute '" ++ slot ++ "' of '" ++ builder ++ "' objects is not writable"
  | .noSlot builder slot => "'" ++ builder ++ "' object has no attribute '" ++ slot ++ "'"
  | .noMethod builder method =>
    "type object '" ++ builder ++ "' has no attribute '" ++ method ++ "'"
  | .noSessionMethod builder method =>
    "'" ++ builder ++ "' object has no attribute '" ++ method ++ "'"
  | .unbound builder method => builder ++ "." ++ method ++ " needs a builder class or instance"
  | .unknownName name => "name '" ++ name ++ "' is not defined"
  | .noMember owner member => owner ++ " has no attribute '" ++ member ++ "'"
  | .missing field => field.message

/-! ### Sessions -/

/-- A session: what the slots hold, by their names. -/
structure Session (α : Type) where
  /-- The slots. -/
  slots : Table (Slot α)

namespace Session

variable {α : Type}

/-- What a slot holds. -/
def get (s : Session α) (slot : String) : Slot α :=
  (s.slots.find? slot).getD .absent

/-- What the slots of the fields hold, in order. -/
def fields (b : Blueprint) (s : Session α) : List (String × Slot α) :=
  b.members.map fun m => (m.name, s.get (b.slot m))

/-- The slots that every object has. -/
def commonSlots : List String := ["__dict__", "__weakref__"]

/-- A new session, in which every slot is absent. -/
def start (b : Blueprint) : Except SessionFault (Session α) := do
  let slots := b.members.map b.slot
  b.members.forM fun m =>
    let slot := b.codeSlot m
    if commonSlots.contains slot then throw (.unsettable b.name slot)
    else if slots.contains slot then pure ()
    else throw (.noSlot b.name slot)
  return ⟨Table.ofEntries (slots.map fun slot => (slot, .absent))⟩

/-- The member with a setter of that name; of several the last one. -/
def member? (b : Blueprint) (method : String) : Option Member :=
  b.members.reverse.find? fun m => b.method m == method

/-- Uses a setter. -/
def set (b : Blueprint) (s : Session α) (m : Member) (value : Slot α) : Session α :=
  ⟨s.slots.put (b.codeSlot m) value⟩

/-! ### The target -/

/-- What the builder's module calls by a name that is not imported: the tools, and the builder. -/
def ownGlobals (b : Blueprint) : Table String :=
  [("ABSENT", "'Absent' object"), ("Absent", "type object 'Absent'"),
    ("fluent", "type object 'fluent'"), ("require", "'function' object"),
    (b.name, "type object '" ++ b.name ++ "'")]

/-- Looks up the segments of the target's name behind the first `known` ones. -/
def lookUpFrom (b : Blueprint) (modules : Nat) : (known segments : List String) →
    Except SessionFault Unit
  | _, [] => .ok ()
  | known, segment :: rest =>
    let name := privateName b.name segment
    if name = segment then lookUpFrom b modules (known ++ [segment]) rest
    else if known.length ≤ modules then
      .error (.noMember ("module '" ++ Dotted.join known ++ "'") name)
    else .error (.noMember ("type object '" ++ known.getLastD "" ++ "'") name)

/-- Looks up the target's name. -/
def lookUpTarget (b : Blueprint) : Except SessionFault Unit :=
  match Dotted.segments b.target with
  | [] => .ok ()
  | top :: rest =>
    let name := privateName b.name top
    match (ownGlobals b).find? name with
    | some owner => .error (.noMember owner (privateName b.name (rest.headD "")))
    | none =>
      if b.imports.any fun m => (Dotted.splitHead m).1 == name then
        lookUpFrom b (Dotted.segments b.targetModule).length [top] rest
      else .error (.unknownName name)

/-- The values of the fields in order, which the target is built from. -/
def build (b : Blueprint) (s : Session α) : Except SessionFault (List α) := do
  lookUpTarget b
  b.members.mapM fun m =>
    (require (s.get (b.codeSlot m)) m.name (some b.target)).mapError .missing

end Session

/-! ### Many sessions of one builder -/

/-- The sessions of a builder, in the order in which they were opened. -/
structure Workshop (α : Type) where
  /-- The builder. -/
  blueprint : Blueprint
  /-- Its sessions. -/
  sessions : List (Session α)

namespace Workshop

variable {α : Type}

/-- A builder without sessions. It can be made if no slot has the name of something in its body. -/
def ofBlueprint (b : Blueprint) : Except SessionFault (Workshop α) :=
  match (b.members.map b.slot).find? fun slot => b.bodyNames.contains slot with
  | some slot => .error (.conflict slot)
  | none => .ok ⟨b, []⟩

/-- Opens a session, which gets the next number. -/
def openSession (w : Workshop α) : Except SessionFault (Workshop α × Nat) := do
  let s ← Session.start w.blueprint
  return ({ w with sessions := w.sessions ++ [s] }, w.sessions.length)

/-- The session that a call works on: the one given, or a new one. -/
def sessionFor (w : Workshop α) (on : Option Nat) : Except SessionFault (Workshop α × Nat) :=
  match on with
  | some i => .ok (w, i)
  | none => w.openSession

/-- Uses a setter on a session, or on the builder. -/
def set (w : Workshop α) (on : Option Nat) (method : String) (value : Slot α) :
    Except SessionFault (Workshop α × Nat) :=
  match Session.member? w.blueprint method with
  | none =>
    .error (if on.isSome then .noSessionMethod w.blueprint.name method
      else .noMethod w.blueprint.name method)
  | some m => do
    let (w, i) ← w.sessionFor on
    return ({ w with sessions := w.sessions.modify i fun s => s.set w.blueprint m value }, i)

/-- Builds the target from a session, or from a new one. -/
def build (w : Workshop α) (on : Option Nat) : Except SessionFault (Workshop α × List α) := do
  let (w, i) ← w.sessionFor on
  match w.sessions[i]? with
  | some s => return (w, ← s.build w.blueprint)
  | none => return (w, [])

end Workshop
end FluentBuilder
