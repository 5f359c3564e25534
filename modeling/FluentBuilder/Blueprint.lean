import FluentBuilder.Naming
import FluentBuilder.Path
import FluentBuilder.Schema
import FluentBuilder.Text.Identifier

/-!
# Blueprints of builders

A blueprint says all there is to say about the builder of a class: its name and namespace, one member
for every field, the call that builds the target, and the modules that are imported. It refuses
fields whose names cannot be those of setters.
-/

namespace FluentBuilder

/-! ### Refused fields -/

/-- Why a class has no builder. -/
inductive BlueprintFault where
  /-- The name is no name of a method. -/
  | invalidName (owner field : String)
  /-- The builder needs the name for itself. -/
  | reservedName (owner field : String)
  /-- The name is private. -/
  | privateName (owner field : String)
  deriving DecidableEq, Repr

/-- The wording of a fault. -/
def BlueprintFault.message : BlueprintFault → String
  | .invalidName owner field =>
    owner ++ ": field '" ++ field ++ "' is not a valid setter name"
  | .reservedName owner field =>
    owner ++ ": field '" ++ field ++ "' is reserved by the generated builder"
  | .privateName owner field =>
    owner ++ ": private field '" ++ field ++ "' cannot have a public setter"

/-- The names that the body of a builder needs for itself. -/
def reservedFieldNames : List String := ["build", "fluent", "self"]

/-- Refuses a field whose name cannot be that of a setter. -/
def checkField (owner field : String) : Except BlueprintFault Unit :=
  if !Text.isIdentifier field || Text.isReservedWord field then .error (.invalidName owner field)
  else if reservedFieldNames.contains field then .error (.reservedName owner field)
  else if "__".toList.isPrefixOf field.toList then .error (.privateName owner field)
  else .ok ()

/-! ### Blueprints -/

/-- What a builder has for one field: a slot that keeps the value and a setter. -/
structure Member where
  /-- The name of the field and of its setter. -/
  name : String
  /-- The type of the field. -/
  type : TypeRef
  deriving Repr

/-- The slot of a member. -/
def Member.attribute (m : Member) : String := "_" ++ m.name

/-- The type that the setter of a member takes: without the absent value. -/
def Member.setterType (m : Member) : TypeRef := m.type.nonNull

/-- A blueprint of a builder. -/
structure Blueprint where
  /-- The name of the builder. -/
  name : String
  /-- The namespace of its module. -/
  namespaceName : String
  /-- The qualified name of the class that it builds. -/
  target : String
  /-- The module of that class. -/
  targetModule : String
  /-- The members in order of the fields. -/
  members : List Member
  /-- The modules that are imported, in ascending order. -/
  imports : List String
  deriving Repr

/-- The module that every builder takes its tools from. -/
def runtimeModule : String := "buildergen.runtime"

namespace Blueprint

/-- The blueprint of the builder of a class. -/
def ofSchema (schema : Schema) : Except BlueprintFault Blueprint := do
  schema.fields.forM fun f => checkField schema.qualifiedName f.name
  let modules := schema.module :: schema.fields.flatMap fun f => f.type.modules
  return {
    name := builderName schema.simpleName
    namespaceName := namespaceFor schema.enclosingScope
    target := schema.qualifiedName
    targetModule := schema.module
    members := schema.fields.map fun f => ⟨f.name, f.type⟩
    imports := sortedNames (modules.eraseDups.filter (· != runtimeModule)) }

/-- The dotted name of the module of the builder. -/
def moduleName (b : Blueprint) : String := Dotted.within b.namespaceName b.name

/-- The file of the builder under a root. -/
def outputPath (b : Blueprint) (root : Path) : Path :=
  (root.appendTexts (Dotted.segments b.moduleName)).withSuffix ".py"

end Blueprint
end FluentBuilder
