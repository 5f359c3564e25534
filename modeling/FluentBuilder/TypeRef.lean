import FluentBuilder.Table

/-!
# Type references

A type reference names a type by the module that defines it and its name there, with arguments where
it has some. A reference can also be a text that is written as it is. `TypeRef.render` is the text of
a reference, which can stand in any module that imports `TypeRef.modules`.
-/

namespace FluentBuilder

/-- A reference to a type. -/
structure TypeRef where
  /-- The module that defines it; a built-in module or none is not written. -/
  module : String
  /-- Its name in the module; a reference without a name is a list of its arguments. -/
  qualname : String
  /-- Its arguments. -/
  args : List TypeRef
  /-- Is it one of the primitive types? -/
  primitive : Bool
  /-- The text that is written in its place. -/
  literal : Option String
  deriving Repr, Inhabited

namespace TypeRef

/-- A type without arguments. -/
def named (module qualname : String) : TypeRef := ⟨module, qualname, [], false, none⟩

/-- A text that is written as it is. -/
def ofLiteral (text : String) : TypeRef := ⟨"", "", [], false, some text⟩

/-- The type of the absent value. -/
def none : TypeRef := named "builtins" "None"

/-- Is it the type of the absent value, as that is written without arguments? -/
def isNone (r : TypeRef) : Bool :=
  r.module == "builtins" && r.qualname == "None" && r.args.isEmpty && !r.primitive &&
    r.literal.isNone

/-- The name that is written for it. -/
def name (r : TypeRef) : String :=
  match r.literal with
  | some text => text
  | .none =>
    if r.module == "" || r.module == "builtins" then r.qualname else r.module ++ "." ++ r.qualname

/-- Is it a union of its arguments? -/
def isUnion (r : TypeRef) : Bool :=
  r.module == "typing" && r.qualname == "Union"

/-- The type without the absent value. -/
def nonNull (r : TypeRef) : TypeRef :=
  if r.module == "typing" && r.qualname == "Optional" && r.args.length = 1 then r.args.headD r
  else if !r.isUnion then r
  else
    let members := r.args.filter fun a => !a.isNone
    if members.isEmpty || members.length = r.args.length then r
    else match members with
      | [member] => member
      | _ => { named r.module r.qualname with args := members }

mutual

/-- The text of a reference. -/
def render : TypeRef → String
  | ⟨module, qualname, args, primitive, literal⟩ =>
    match literal with
    | some text => text
    | .none =>
      let self : TypeRef := ⟨module, qualname, [], primitive, .none⟩
      if qualname.isEmpty then "[" ++ String.intercalate ", " (renderAll args) ++ "]"
      else if args.isEmpty then self.name
      else if self.isUnion then String.intercalate " | " (renderAll args)
      else self.name ++ "[" ++ String.intercalate ", " (renderAll args) ++ "]"

/-- The texts of some references. -/
def renderAll : List TypeRef → List String
  | [] => []
  | r :: rest => r.render :: renderAll rest

end

mutual

/-- The modules that the text of a reference needs, with repetitions. -/
def modules : TypeRef → List String
  | ⟨module, qualname, args, primitive, literal⟩ =>
    let self : TypeRef := ⟨module, qualname, [], primitive, literal⟩
    let own :=
      if literal.isNone && module != "" && module != "builtins" && !(self.isUnion && !args.isEmpty)
      then [module] else []
    own ++ modulesOfAll args

/-- The modules that the texts of some references need. -/
def modulesOfAll : List TypeRef → List String
  | [] => []
  | r :: rest => r.modules ++ modulesOfAll rest

end

/-- The modules that the text of a reference needs, each once and in ascending order. -/
def imports (r : TypeRef) : List String :=
  sortedNames r.modules.eraseDups

end TypeRef
end FluentBuilder
