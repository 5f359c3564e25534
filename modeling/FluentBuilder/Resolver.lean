import FluentBuilder.Source.Reading
import FluentBuilder.Syntax.Printer
import FluentBuilder.Text.Blank
import FluentBuilder.Text.Case
import FluentBuilder.TypeRef

/-!
# Resolving annotations

An annotation becomes a type reference that means the same in every module. A name is qualified where
it stands; its canonical reference (`Surroundings.canonical`) depends on the qualified name alone. A
quoted annotation is read and resolved in its place; one that cannot be read stays a text.

Canonical references are kept in a table, so that every name is looked up once. The table holds
nothing but what `canonical` gives, in the order of the first look-ups.
-/

namespace FluentBuilder

open Syntax

/-- What a resolver knows. -/
structure Surroundings where
  /-- The source tree. -/
  tree : Source.Tree
  /-- The library that programs can use without the tree. -/
  library : Library
  /-- Reads a quoted annotation. -/
  parse : String → Except ParseError Expr

/-- The surroundings of a source tree with the standard library. -/
def Surroundings.ofTree (tree : Source.Tree) : Surroundings :=
  ⟨tree, Library.standard, parseExpression⟩

/-! ### Canonical references -/

/-- The names of the primitive types. -/
def primitiveNames : List String := ["bool", "int", "float", "complex", "str", "bytes"]

/-- Is there a segment that begins with an underscore? -/
def hasPrivateSegment (module : String) : Bool :=
  (Dotted.segments module).any fun segment => segment.toList.head? == some '_'

/-- The module and the name of a name that is not in the tree, by the custom that only the names of
types begin with a capital letter: the first such segment but the first one of all begins the name. -/
def guessedSplit (qualified : String) : String × String :=
  let segments := Dotted.segments qualified
  let isCapital (segment : String) : Bool := (segment.toList.head?.map Text.isUpper).getD false
  let lower := (segments.drop 1).takeWhile (!isCapital ·)
  let i := lower.length + 1
  if i < segments.length then (Dotted.join (segments.take i), Dotted.join (segments.drop i))
  else Dotted.splitLast qualified

/-- The reference to a name by the custom for names. -/
def guessedRef (qualified : String) : TypeRef :=
  let (module, qualname) := guessedSplit qualified
  .named module qualname

/-- The reference to what a name of the library denotes. A type in a private module, and what is no
type, is named as it was written. -/
def libraryRef (qualified : String) : Denotation → Option TypeRef
  | .value => some (guessedRef qualified)
  | .type module qualname =>
    if module.isEmpty || qualname.isEmpty || qualname.toList.contains '<' then none
    else
      let (module, qualname) :=
        if hasPrivateSegment module then guessedSplit qualified else (module, qualname)
      some { TypeRef.named module qualname with
        primitive := module == "builtins" && primitiveNames.contains qualname }

/-- The canonical reference to a qualified name. -/
def Surroundings.canonical (s : Surroundings) (qualified : String) : TypeRef :=
  let (module, qualname) := Dotted.splitLast qualified
  if module == "builtins" && primitiveNames.contains qualname then
    { TypeRef.named module qualname with primitive := true }
  else
    let found :=
      if s.library.owns qualified then (s.library.denotes qualified).bind (libraryRef qualified)
      else none
    match found with
    | some ref => ref
    | none =>
      match s.tree.splitQualified qualified with
      | some (module, qualname) => .named module qualname
      | none => if module.isEmpty then .named "" qualname else guessedRef qualified

/-! ### Resolving with a table -/

/-- Why an annotation cannot be resolved. -/
inductive ResolveFault where
  /-- A quoted annotation holds the character of code zero. -/
  | nullCharacter
  /-- A quoted annotation holds surrogates. -/
  | surrogates (run : SurrogateRun)
  /-- A part that stays as it is cannot be written. -/
  | unwritable (fault : RenderFault)
  /-- Quoted annotations stand in each other more deeply than they can. -/
  | tooDeep
  deriving DecidableEq, Repr

/-- The wording of a fault. -/
def ResolveFault.message : ResolveFault → String
  | .nullCharacter => Source.nullCharacterMessage
  | .surrogates run => run.message
  | .unwritable fault => fault.message
  | .tooDeep => "quoted annotations are nested too deeply"

/-- A computation that looks up names in a table of canonical references. -/
abbrev Resolving := ExceptT ResolveFault (StateM (Table TypeRef))

namespace Resolving

/-- The reference to a qualified name. -/
def name (s : Surroundings) (qualified : String) : Resolving TypeRef := do
  match (← get).find? qualified with
  | some ref => return ref
  | none =>
    let ref := s.canonical qualified
    modify (·.put qualified ref)
    return ref

/-- The text of an expression as a reference. -/
def written (e : Expr) : Resolving TypeRef :=
  match e.render with
  | .ok text => return .ofLiteral text
  | .error fault => throw (.unwritable fault)

/-- The texts of expressions as references. -/
def writtenAll : List Expr → Resolving (List TypeRef)
  | [] => return []
  | e :: rest => do
    let ref ← written e
    return ref :: (← writtenAll rest)

/-- The forms whose arguments are constants. -/
def literalForms : List String := ["typing.Literal", "typing_extensions.Literal"]

/-- The forms whose first argument only is a type. -/
def annotatedForms : List String := ["typing.Annotated", "typing_extensions.Annotated"]

/-- What a union with this member has in its place. -/
def unionMembers (ref : TypeRef) : List TypeRef :=
  if ref.isUnion && !ref.args.isEmpty then ref.args else [ref]

/-- A reference with arguments. -/
def withArguments (base : TypeRef) (args : List TypeRef) : TypeRef :=
  ⟨base.module, base.qualname, args, base.primitive, none⟩

mutual

/-- The reference of an annotation. `qualify` qualifies dotted names, `forward` resolves quoted
annotations. -/
def expr (s : Surroundings) (qualify : String → String) (forward : CodePoints → Resolving TypeRef) :
    Expr → Resolving TypeRef
  | .constant .none => return .none
  | .constant .ellipsis => return .ofLiteral "..."
  | .constant (.text value _) => forward value
  | .constant value =>
    match value.render with
    | .ok text => return .ofLiteral text
    | .error fault => throw (.unwritable fault)
  | .name id => name s (qualify id)
  | .attribute value member =>
    match (Expr.attribute value member).dottedName with
    | some dotted => name s (qualify dotted)
    | none => written (.attribute value member)
  | .subscript value index => do
    let base ← expr s qualify forward value
    match index with
    | .tuple items =>
      if literalForms.contains base.name then return withArguments base (← writtenAll items)
      else if annotatedForms.contains base.name then
        match items with
        | [] => return withArguments base []
        | first :: rest =>
          let first ← expr s qualify forward first
          return withArguments base (first :: (← writtenAll rest))
      else return withArguments base (← arguments s qualify forward items)
    | item =>
      if literalForms.contains base.name then return withArguments base [← written item]
      else if annotatedForms.contains base.name then
        return withArguments base [← expr s qualify forward item]
      else return withArguments base [← argument s qualify forward item]
  | .binary .bitOr left right => do
    let left ← expr s qualify forward left
    let right ← expr s qualify forward right
    return { TypeRef.named "typing" "Union" with args := unionMembers left ++ unionMembers right }
  | e => written e

/-- The reference of an argument: a list of types, or a type. -/
def argument (s : Surroundings) (qualify : String → String)
    (forward : CodePoints → Resolving TypeRef) : Expr → Resolving TypeRef
  | .list items => do
    return { TypeRef.named "" "" with args := ← types s qualify forward items }
  | e => expr s qualify forward e

/-- The references of arguments. -/
def arguments (s : Surroundings) (qualify : String → String)
    (forward : CodePoints → Resolving TypeRef) : List Expr → Resolving (List TypeRef)
  | [] => return []
  | e :: rest => do
    let ref ← argument s qualify forward e
    return ref :: (← arguments s qualify forward rest)

/-- The references of types. -/
def types (s : Surroundings) (qualify : String → String)
    (forward : CodePoints → Resolving TypeRef) : List Expr → Resolving (List TypeRef)
  | [] => return []
  | e :: rest => do
    let ref ← expr s qualify forward e
    return ref :: (← types s qualify forward rest)

end

/-- The code points without blanks at either end. -/
def stripped (value : CodePoints) : CodePoints :=
  Text.trimEnds (fun c => Text.isBlank (Char.ofNat c)) value

/-- The reference of a quoted annotation; `depth` bounds the quoted annotations inside each other. -/
def quoted (s : Surroundings) (qualify : String → String) :
    (depth : Nat) → CodePoints → Resolving TypeRef
  | 0, _ => throw .tooDeep
  | depth + 1, value =>
    match (stripped value).toText with
    | .error run => throw (.surrogates run)
    | .ok text =>
      match s.parse text with
      | .ok e => expr s qualify (quoted s qualify depth) e
      | .error .nullCharacter => throw .nullCharacter
      | .error (.fault _) => return .ofLiteral (Quoted.text value)

/-- The reference of an annotation, `qualify` qualifying the names in it. A quoted annotation inside
another one is shorter than that, so that its length bounds the depth. -/
def hintWith (s : Surroundings) (qualify : String → String) (e : Expr) : Resolving TypeRef :=
  expr s qualify (fun value => quoted s qualify (value.length + 1) value) e

/-- The reference of an annotation in the body of a class. -/
def hint (s : Surroundings) (e : Expr) (context : Source.Declaration) : Resolving TypeRef :=
  hintWith s (s.tree.qualify context.module context.innerScope) e

end Resolving
end FluentBuilder
