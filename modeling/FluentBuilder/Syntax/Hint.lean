import FluentBuilder.Syntax.Expr

/-!
# Annotations that cannot stand

An annotation is read like any expression, and some expressions that can be read cannot be the
annotation of something. `Expr.checkHint` goes through an annotation from left to right and refuses
the first part that has no meaning where it stands: it keeps the scope of every part, which an
anonymous function or a comprehension opens.
-/

namespace FluentBuilder.Syntax

/-! ### Refusals -/

/-- The kinds of comprehensions. -/
inductive ComprehensionKind where
  | list | set | dict | generator
  deriving DecidableEq, Repr

/-- What a comprehension is called. -/
def ComprehensionKind.word : ComprehensionKind → String
  | .list => "list comprehension"
  | .set => "set comprehension"
  | .dict => "dict comprehension"
  | .generator => "generator expression"

/-- The expressions that an annotation itself does not hold. -/
inductive HintTaboo where
  | named | yielded | awaited
  deriving DecidableEq, Repr

/-- What such an expression is called. -/
def HintTaboo.word : HintTaboo → String
  | .named => "named expression"
  | .yielded => "yield expression"
  | .awaited => "await expression"

/-- Why an annotation cannot stand. -/
inductive HintFault where
  /-- It holds an expression that no annotation holds. -/
  | taboo (what : HintTaboo)
  /-- A comprehension hands out values. -/
  | yieldInside (kind : ComprehensionKind)
  /-- Two parameters have one name. -/
  | repeatedParameter (name : String)
  /-- What a comprehension iterates gets a name in passing. -/
  | namedInSource
  /-- A comprehension in the body of a class gives a name in passing. -/
  | namedInClass
  /-- The name given in passing is a variable of the comprehension. -/
  | reboundVariable (name : String)
  deriving DecidableEq, Repr

/-- The wording of a refusal. -/
def HintFault.message : HintFault → String
  | .taboo what => "'" ++ what.word ++ "' can not be used within an annotation"
  | .yieldInside kind => "'yield' inside " ++ kind.word
  | .repeatedParameter name => "duplicate argument '" ++ name ++ "' in function definition"
  | .namedInSource => "assignment expression cannot be used in a comprehension iterable expression"
  | .namedInClass =>
    "assignment expression within a comprehension cannot be used in a class body"
  | .reboundVariable name =>
    "assignment expression cannot rebind comprehension iteration variable '" ++ name ++ "'"

/-! ### Scopes -/

/-- Where a part of an annotation stands. -/
inductive HintScope where
  /-- In the annotation itself, which is in the body of a class or in a function. -/
  | hint (inClass : Bool)
  /-- In an anonymous function. -/
  | function (around : HintScope)
  /-- In a comprehension with its variables so far. -/
  | comprehension (kind : ComprehensionKind) (bound : List String) (around : HintScope)
  /-- In what a comprehension iterates. -/
  | source (around : HintScope)
  deriving DecidableEq, Repr

namespace HintScope

/-- The innermost scope that has names of its own. -/
def block : HintScope → HintScope
  | source around => around.block
  | scope => scope

/-- Is it, at any depth, in what a comprehension iterates? -/
def inSource : HintScope → Bool
  | hint _ => false
  | function around | comprehension _ _ around => around.inSource
  | source _ => true

/-- Refuses what an annotation itself does not hold. -/
def forbid (scope : HintScope) (what : HintTaboo) : Except HintFault Unit :=
  match scope.block with
  | hint _ => .error (.taboo what)
  | _ => .ok ()

/-- Refuses a value handed out by a comprehension. -/
def forbidYield (scope : HintScope) : Except HintFault Unit :=
  match scope.block with
  | comprehension kind _ _ => .error (.yieldInside kind)
  | _ => .ok ()

/-- Looks for the scope that a name given in passing goes to: the first one outside of all
comprehensions. -/
def admitName (name : String) : HintScope → Except HintFault Unit
  | hint inClass => if inClass then .error .namedInClass else .ok ()
  | function _ => .ok ()
  | comprehension _ bound around =>
    if bound.contains name then .error (.reboundVariable name) else around.admitName name
  | source around => around.admitName name

/-- Refuses a name given in passing where it has no place. -/
def forbidNamed (scope : HintScope) (target : Expr) : Except HintFault Unit := do
  scope.forbid .named
  if scope.inSource then throw .namedInSource
  match scope, target with
  | comprehension .., .name name => scope.admitName name
  | _, _ => .ok ()

end HintScope

/-- Refuses a name that occurs twice. -/
def checkDistinct : List String → Except HintFault Unit
  | names => go [] names
where
  /-- Refuses a name that is among those seen or occurs twice. -/
  go (seen : List String) : List String → Except HintFault Unit
    | [] => .ok ()
    | name :: rest =>
      if seen.contains name then .error (.repeatedParameter name) else go (name :: seen) rest

/-- The names of parameters. -/
def Parameters.names {ε : Type} (p : Parameters ε) : List String :=
  p.positionalOnly.map Parameter.name ++ p.positional.map Parameter.name ++
    p.keywordOnly.map Parameter.name ++ p.rest.toList ++ p.keywordRest.toList

/-! ### Names that a target binds -/

mutual

/-- The names that are bound when something is assigned to an expression. -/
def Expr.boundNames : Expr → List String
  | .name id => [id]
  | .starred value => value.boundNames
  | .tuple items | .list items => boundNamesOf items
  | _ => []

/-- The names that several targets bind. -/
def boundNamesOf : List Expr → List String
  | [] => []
  | e :: rest => e.boundNames ++ boundNamesOf rest

end

/-! ### The check -/

mutual

/-- Checks a part of an annotation in its scope. -/
def Expr.checkIn (scope : HintScope) : Expr → Except HintFault Unit
  | .name _ | .constant _ => .ok ()
  | .joined pieces => checkPieces scope pieces
  | .attribute value _ => value.checkIn scope
  | .subscript value index => do
    value.checkIn scope
    index.checkIn scope
  | .slice lower upper step => do
    checkOption scope lower
    checkOption scope upper
    checkOption scope step
  | .starred value => value.checkIn scope
  | .tuple items | .list items | .set items => checkList scope items
  | .dict items => do
    checkKeys scope items
    checkValues scope items
  | .boolOp _ operands => checkList scope operands
  | .binary _ left right => do
    left.checkIn scope
    right.checkIn scope
  | .unary _ operand => operand.checkIn scope
  | .compare first rest => do
    first.checkIn scope
    checkComparisons scope rest
  | .call function arguments keywords => do
    function.checkIn scope
    checkList scope arguments
    checkKeywords scope keywords
  | .conditional test body otherwise => do
    test.checkIn scope
    body.checkIn scope
    otherwise.checkIn scope
  | .lambda parameters body => do
    checkDefaults scope parameters
    checkDistinct parameters.names
    body.checkIn (.function scope)
  | .named target value => do
    scope.forbidNamed target
    value.checkIn scope
  | .listOf element clauses => do
    let bound ← checkClauses scope .list none clauses
    element.checkIn (.comprehension .list bound scope)
  | .setOf element clauses => do
    let bound ← checkClauses scope .set none clauses
    element.checkIn (.comprehension .set bound scope)
  | .dictOf key value clauses => do
    let bound ← checkClauses scope .dict none clauses
    value.checkIn (.comprehension .dict bound scope)
    key.checkIn (.comprehension .dict bound scope)
  | .generator element clauses => do
    let bound ← checkClauses scope .generator none clauses
    element.checkIn (.comprehension .generator bound scope)
  | .await value => do
    scope.forbid .awaited
    value.checkIn scope
  | .yield value => do
    scope.forbid .yielded
    checkOption scope value
    scope.forbidYield
  | .yieldFrom value => do
    scope.forbid .yielded
    value.checkIn scope
    scope.forbidYield

/-- Checks expressions in order. -/
def checkList (scope : HintScope) : List Expr → Except HintFault Unit
  | [] => .ok ()
  | e :: rest => do
    e.checkIn scope
    checkList scope rest

/-- Checks an expression that may be missing. -/
def checkOption (scope : HintScope) : Option Expr → Except HintFault Unit
  | none => .ok ()
  | some e => e.checkIn scope

/-- Checks the keys of a dictionary. -/
def checkKeys (scope : HintScope) : List (DictItem Expr) → Except HintFault Unit
  | [] => .ok ()
  | .pair key _ :: rest => do
    key.checkIn scope
    checkKeys scope rest
  | .unpack _ :: rest => checkKeys scope rest

/-- Checks the values of a dictionary and the mappings that it unpacks. -/
def checkValues (scope : HintScope) : List (DictItem Expr) → Except HintFault Unit
  | [] => .ok ()
  | .pair _ value :: rest => do
    value.checkIn scope
    checkValues scope rest
  | .unpack value :: rest => do
    value.checkIn scope
    checkValues scope rest

/-- Checks the operands now the first one of a comparison. -/
def checkComparisons (scope : HintScope) : List (CompareOp × Expr) → Except HintFault Unit
  | [] => .ok ()
  | (_, e) :: rest => do
    e.checkIn scope
    checkComparisons scope rest

/-- Checks the values of named arguments. -/
def checkKeywords (scope : HintScope) : List (Keyword Expr) → Except HintFault Unit
  | [] => .ok ()
  | ⟨_, value⟩ :: rest => do
    value.checkIn scope
    checkKeywords scope rest

/-- Checks the clauses of a comprehension and gives its variables. What the first clause iterates
belongs to the scope around the comprehension; `bound` are those of the clauses before. -/
def checkClauses (around : HintScope) (kind : ComprehensionKind) (bound : Option (List String)) :
    List (Clause Expr) → Except HintFault (List String)
  | [] => .ok (bound.getD [])
  | ⟨_, target, source, conditions⟩ :: rest => do
    let known := bound.getD []
    let now := known ++ target.boundNames
    let inner := HintScope.comprehension kind now around
    if bound.isNone then source.checkIn (.source around)
    target.checkIn (.comprehension kind known around)
    if bound.isSome then source.checkIn (.source inner)
    checkList inner conditions
    checkClauses around kind (some now) rest

/-- Checks the defaults of parameters. -/
def checkDefaults (scope : HintScope) : Parameters Expr → Except HintFault Unit
  | ⟨positionalOnly, positional, _, keywordOnly, _⟩ => do
    checkParameters scope positionalOnly
    checkParameters scope positional
    checkParameters scope keywordOnly

/-- Checks the defaults of one kind of parameters. -/
def checkParameters (scope : HintScope) : List (Parameter Expr) → Except HintFault Unit
  | [] => .ok ()
  | ⟨_, fallback⟩ :: rest => do
    checkOption scope fallback
    checkParameters scope rest

/-- Checks the replacement fields of a text. -/
def checkPieces (scope : HintScope) : List (Piece Expr) → Except HintFault Unit
  | [] => .ok ()
  | piece :: rest => do
    checkPiece scope piece
    checkPieces scope rest

/-- Checks one piece of a text with replacement fields. -/
def checkPiece (scope : HintScope) : Piece Expr → Except HintFault Unit
  | .text _ => .ok ()
  | .field value _ format => do
    value.checkIn scope
    checkFormat scope format

/-- Checks the replacement fields of a format. -/
def checkFormat (scope : HintScope) : Option (List (Piece Expr)) → Except HintFault Unit
  | none => .ok ()
  | some pieces => checkPieces scope pieces

end

/-- Refuses an expression that cannot be an annotation in the body of a class or in a function. -/
def Expr.checkHint (inClass : Bool) (e : Expr) : Except HintFault Unit :=
  e.checkIn (.hint inClass)

end FluentBuilder.Syntax
