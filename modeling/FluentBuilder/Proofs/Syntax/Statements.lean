import FluentBuilder.Proofs.Syntax.Patterns

/-!
# Statements keep what is asked of them

What is asked of statements is gathered if it follows from what is asked of the names, the expressions and
the statements by which a statement declares something (`Gathered`). The functions of the grammar that read
statements keep such a demand. Only imports, annotated targets and definitions declare something, so that
nothing is asked of what the parsers of other statements read.

The rules refer to each other through `Rule.reader`, so that all of them keep the demand by induction on the
depth to which they are nested (`Keeps.reader`). It remains to look at quoted constants, from which all texts
come (`Keeps.wholeExpression`, `Keeps.wholeModule`).
-/

namespace FluentBuilder.Syntax

/-- A dotted name whose segments have a property. -/
def IsDotted (N : String → Prop) (name : String) : Prop :=
  ∃ segments : List String, segments ≠ [] ∧ (∀ s ∈ segments, N s) ∧ name = Dotted.join segments

/-- What is asked of statements holds of a statement if what is asked holds of the names, the expressions
and the statements by which it declares something. -/
structure Gathered (P : Demand) : Prop extends Inherited P where
  /-- It holds of imports of modules. -/
  importModules : ∀ {names : List Alias},
    (∀ a ∈ names, IsDotted P.name a.name ∧ ∀ r ∈ a.rename, P.name r) →
      P.statement (.importModules names)
  /-- It holds of imports of names. -/
  importFrom : ∀ {module : Option String} {names : List Alias} {level : Nat},
    (∀ a ∈ names, (a.name = "*" ∨ P.name a.name) ∧ ∀ r ∈ a.rename, P.name r) →
      P.statement (.importFrom module names level)
  /-- It holds of assignments. -/
  assign : ∀ {targets : List Expr}, P.statement (.assign targets)
  /-- It holds of an annotated target. -/
  annotated : ∀ {target hint : Expr} {value : Option Expr}, P.expr target → P.expr hint →
    P.statement (.annotated target hint value)
  /-- It holds of a class. -/
  classDef : ∀ {name : String} {bases decorators : List Expr} {body : List Statement} {position : Position},
    P.name name → (∀ s ∈ body, P.statement s) → P.statement (.classDef name bases decorators body position)
  /-- It holds of a function. -/
  functionDef : ∀ {name : String} {decorators : List Expr} {position : Position},
    P.name name → P.statement (.functionDef name decorators position)
  /-- It holds of any other statement. -/
  other : P.statement .other

namespace Grammar

open Grammar.Parser

variable {i : Input} {P : Demand} {α β : Type}

/-- The parser reads a statement of which holds what is asked of it. -/
abbrev Declares (i : Input) (P : Demand) (p : Parser Statement) : Prop := Keeps i P P.statement p

/-- The parser reads statements of which holds what is asked of them. -/
abbrev DeclaresAll (i : Input) (P : Demand) (p : Parser (List Statement)) : Prop :=
  Keeps i P (Category.Bears P .statements) p

namespace Keeps

variable {rules : Rules} (hP : Gathered P) (hn : i.Names P) (h : rules.Keep i P)
variable (hi : i.diagnosing = false)

/-! ### Assignments -/

include hP h in
/-- Expressions of which some may be unpacked. -/
theorem starExpressions : Reads i P (Grammar.starExpressions rules) :=
  itemOrTuple hP.toInherited (h .starExpression rfl)

include hP h in
/-- What is assigned. -/
theorem assignedValue : Reads i P (Grammar.assignedValue rules) :=
  orElse (yieldExpression hP.toInherited h) (starExpressions hP h)

/-- A sign of an assignment that changes a value. -/
theorem augmentedSign : Passes i P Grammar.augmentedSign := by
  refine after (choice fun p hp => ?_) fun _ => pure trivial
  obtain ⟨text, -, rfl⟩ := List.mem_map.mp hp
  exact sign text

include hP h in
/-- The value behind an annotation. -/
theorem annotatedValue : Passes i P (Grammar.annotatedValue rules) :=
  (optional (after (sign _) fun _ => assignedValue hP h)).any

include hP h in
/-- A target with its sign of assignment. -/
theorem targetAndSign : Reads i P (Grammar.targetAndSign rules) :=
  bind (starTargets hP.toInherited h) fun _ htarget => after (sign _) fun _ => pure htarget

include hP hn h hi in
/-- An assignment. -/
theorem assignment : Declares i P (Grammar.assignment rules) :=
  choice_cons
    (bind (nameExpr hP.toInherited hn) fun _ htarget => after (sign _) fun _ =>
      bind (h .expression rfl) fun _ hhint => after (annotatedValue hP h) fun _ =>
        pure (hP.annotated htarget hhint)) <|
  choice_cons
    (bind
      (orElse
        (after (sign _) fun _ => bind (h .singleTarget rfl) fun _ htarget => after (sign _) fun _ =>
          pure htarget)
        (partTarget hP.toInherited hn h)) fun _ htarget => after (sign _) fun _ =>
      bind (h .expression rfl) fun _ hhint => after (annotatedValue hP h) fun _ =>
        pure (hP.annotated htarget hhint)) <|
  choice_cons
    (after (many1 (targetAndSign hP h)).any fun _ => after (assignedValue hP h).any fun _ =>
      after (notAhead (sign _)) fun _ => pure hP.assign) <|
  choice_cons
    (commit (after (h .singleTarget rfl).any fun _ => augmentedSign)
      (fun _ _ => after (assignedValue hP h).any fun _ => pure hP.other) (diagnosis hi))
  choice_nil

/-! ### Imports -/

include hn in
/-- A dotted name. -/
theorem dottedIdentifier : Keeps i P (IsDotted P.name) Grammar.dottedIdentifier :=
  bind (bind (identifier hn) fun first hfirst =>
      bind (many (after (sign _) fun _ => identifier hn)) fun rest hrest =>
        pure (Q := fun names => names ≠ [] ∧ ∀ name ∈ names, P.name name)
          ⟨List.cons_ne_nil first rest, cons hfirst hrest⟩)
    fun names hnames => pure ⟨names, hnames.1, hnames.2, rfl⟩

include hn in
/-- A name that may be renamed. -/
theorem imported {N : String → Prop} {name : Parser String} (hname : Keeps i P N name) :
    Keeps i P (fun a => N a.name ∧ ∀ r ∈ a.rename, P.name r) (Grammar.imported name) :=
  bind hname fun _ hname => bind (optional (after (keyword _) fun _ => identifier hn)) fun _ hrename =>
    pure ⟨hname, hrename⟩

include hP hn in
/-- An import of modules. -/
theorem importModules : Declares i P Grammar.importModules :=
  after (keyword _) fun _ => bind (separated (imported hn (dottedIdentifier hn)) (sign _)) fun _ hnames =>
    pure (hP.importModules hnames)

/-- The points before a module. -/
theorem points : Passes i P Grammar.points :=
  orElse (after (sign _) fun _ => pure trivial) (after (sign _) fun _ => pure trivial)

include hn hi in
/-- The names that are imported from a module. -/
theorem importedNames :
    Keeps i P (fun names => ∀ a ∈ names, (a.name = "*" ∨ P.name a.name) ∧ ∀ r ∈ a.rename, P.name r)
      Grammar.importedNames :=
  have names : Keeps i P
      (fun names => ∀ a ∈ names, (a.name = "*" ∨ P.name a.name) ∧ ∀ r ∈ a.rename, P.name r)
      (Parser.separated (Grammar.imported Grammar.identifier) (Parser.sign ",")) :=
    separated (imported (N := fun name => name = "*" ∨ P.name name) hn
      ((identifier hn).mono fun _ => .inr)) (sign _)
  choice_cons
    (after (sign _) fun _ => bind names fun _ hnames => after (optional (sign _)).any fun _ =>
      after (sign _) fun _ => pure hnames) <|
  choice_cons (bind names fun _ hnames => after (notAhead (sign _)) fun _ => pure hnames) <|
  choice_cons
    (after (sign _) fun _ => pure (List.forall_mem_singleton.mpr ⟨.inl rfl, fun _ hr => by cases hr⟩)) <|
  choice_cons (diagnosis hi) choice_nil

include hP hn hi in
/-- An import of names. -/
theorem importFrom : Declares i P Grammar.importFrom :=
  orElse
    (after (keyword _) fun _ => after (many points).any fun _ => after (dottedIdentifier hn).any fun _ =>
      after (keyword _) fun _ => bind (importedNames hn hi) fun _ hnames => pure (hP.importFrom hnames))
    (after (keyword _) fun _ => after (many1 points).any fun _ => after (keyword _) fun _ =>
      bind (importedNames hn hi) fun _ hnames => pure (hP.importFrom hnames))

/-! ### Other simple statements -/

include h in
/-- A raised exception. -/
theorem raiseStatement : Passes i P (Grammar.raiseStatement rules) :=
  orElse
    (after (keyword _) fun _ => after (h .expression rfl).any fun _ =>
      after (optional (after (keyword _) fun _ => h .expression rfl)).any fun _ => pure trivial)
    (after (keyword _) fun _ => pure trivial)

include h hi in
/-- A deletion. -/
theorem deletion : Passes i P (Grammar.deletion rules) :=
  orElse
    (after (keyword _) fun _ => after (deletedTargets h).any fun _ => ahead (orElse (sign _) (ofKind _)))
    (diagnosis hi)

include h in
/-- An assertion. -/
theorem assertion : Passes i P (Grammar.assertion rules) :=
  after (keyword _) fun _ => after (h .expression rfl).any fun _ =>
    after (optional (after (sign _) fun _ => h .expression rfl)).any fun _ => pure trivial

/-- A word with names behind it. -/
theorem scopeStatement (word : String) : Passes i P (Grammar.scopeStatement word) :=
  after (keyword _) fun _ => after (separated anyIdentifier (sign _)).any fun _ => pure trivial

include hP hn h hi in
/-- A statement that ends with its line. -/
theorem simpleStatement : DeclaresAll i P (Grammar.simpleStatement rules) :=
  have without {p : Parser Unit} (hp : Passes i P p) : Declares i P (do
      p
      return .other) :=
    after hp fun _ => pure hP.other
  have headed (word : String) {p : Parser Statement} (hp : Declares i P p) : Declares i P (do
      Parser.ahead (Parser.keyword word)
      p) :=
    after (ahead (keyword word)) fun _ => hp
  bind
    (choice_cons (assignment hP hn h hi) <|
    choice_cons (after (starExpressions hP h).any fun _ => pure hP.other) <|
    choice_cons (headed _ (after (keyword _) fun _ => after (optional (starExpressions hP h)).any fun _ =>
      pure hP.other)) <|
    choice_cons (after (ahead (orElse (keyword _) (keyword _))) fun _ =>
      orElse (importModules hP hn) (importFrom hP hn hi)) <|
    choice_cons (headed _ (without (raiseStatement h))) <|
    choice_cons (without (after (keyword _) fun _ => pure trivial)) <|
    choice_cons (headed _ (without (deletion h hi))) <|
    choice_cons (headed _ (after (yieldExpression hP.toInherited h).any fun _ => pure hP.other)) <|
    choice_cons (headed _ (without (assertion h))) <|
    choice_cons (without (after (keyword _) fun _ => pure trivial)) <|
    choice_cons (without (after (keyword _) fun _ => pure trivial)) <|
    choice_cons (headed _ (without (scopeStatement _))) <|
    choice_cons (headed _ (without (scopeStatement _))) choice_nil)
    fun _ hstatement => pure (List.forall_mem_singleton.mpr hstatement)

include h in
/-- The simple statements of a line. -/
theorem simpleStatements : DeclaresAll i P (Grammar.simpleStatements rules) :=
  orElse
    (bind (h .simpleStatement rfl) fun _ hstatement => after (notAhead (sign _)) fun _ =>
      after (ofKind _) fun _ => pure hstatement)
    (bind (separated (h .simpleStatement rfl) (sign _)) fun _ hstatements =>
      after (optional (sign _)).any fun _ => after (ofKind _) fun _ => pure fun s hs => by
        obtain ⟨group, hgroup, hs⟩ := List.mem_flatten.mp hs
        exact hstatements group hgroup s hs)

/-! ### Compound statements -/

include h hi in
/-- The statements of a block. -/
theorem block : DeclaresAll i P (Grammar.block rules) :=
  choice_cons
    (after (ofKind _) fun _ => after (ofKind _) fun _ => bind (h .statements rfl) fun _ hbody =>
      after (ofKind _) fun _ => pure hbody) <|
  choice_cons (simpleStatements h) <| choice_cons (diagnosis hi) choice_nil

include h in
/-- A block behind a colon. -/
theorem colonBlock : Passes i P (Grammar.colonBlock rules) :=
  after (sign _) fun _ => after (h .block rfl).any fun _ => pure trivial

include h in
/-- A block behind a word. -/
theorem wordBlock (word : String) : Passes i P (do
    let _ ← Parser.keyword word
    let _ ← Parser.forced ":"
    let _ ← rules .block) :=
  after (keyword _) fun _ => after (forced _) fun _ => after (h .block rfl).any fun _ => pure trivial

include h hi in
/-- The block that is run otherwise. -/
theorem elseBlock : Passes i P (Grammar.elseBlock rules) :=
  choice_cons (diagnosis hi) <| choice_cons (wordBlock h _) choice_nil

include h hi in
/-- A word with a condition and a block. -/
theorem conditional (word : String) {next : Parser Unit} (hnext : Passes i P next) :
    Passes i P (Grammar.conditional rules word next) :=
  choice_cons (diagnosis hi) <|
  choice_cons
    (after (after (keyword _) fun _ => after (h .namedExpression rfl).any fun _ => pure trivial) fun _ =>
      after (colonBlock h) fun _ => hnext)
  choice_nil

include h hi in
/-- Further conditions: by induction on how many there are at most. -/
theorem otherConditions : Passes i P (Grammar.otherConditions rules) := by
  have hchain : ∀ fuel, Passes i P (Grammar.otherConditions.chain rules fuel) := by
    intro fuel
    induction fuel with
    | zero => exact miss
    | succ fuel ih =>
      exact conditional h hi "elif" (orElse ih
        (after (optional (elseBlock h hi)).any fun _ => pure trivial))
  exact fun place progress hbears => hchain _ place progress hbears

include h hi in
/-- A choice between blocks. -/
theorem ifStatement : Passes i P (Grammar.ifStatement rules) :=
  conditional h hi "if" (orElse (otherConditions h hi)
    (after (optional (elseBlock h hi)).any fun _ => pure trivial))

include h hi in
/-- A loop while a condition holds. -/
theorem whileStatement : Passes i P (Grammar.whileStatement rules) :=
  conditional h hi "while" (after (optional (elseBlock h hi)).any fun _ => pure trivial)

include hP h hi in
/-- A loop over values. -/
theorem forStatement : Passes i P (Grammar.forStatement rules) :=
  have rest : Passes i P (do
      let _ ← Grammar.starExpressions rules
      Grammar.colonBlock rules
      let _ ← Parser.optional (Grammar.elseBlock rules)) :=
    after (starExpressions hP h).any fun _ => after (colonBlock h) fun _ =>
      after (optional (elseBlock h hi)).any fun _ => pure trivial
  orElse (diagnosis hi) <|
    commit (iterationHead hP.toInherited h) (fun _ _ => rest) <|
    commit (after (keyword _) fun _ => iterationHead hP.toInherited h) (fun _ _ => rest) (diagnosis hi)

include h hi in
/-- A context with the target that it is given to. -/
theorem context : Passes i P (Grammar.context rules) :=
  choice_cons
    (after (h .expression rfl).any fun _ => after (keyword _) fun _ => after (h .starTarget rfl).any fun _ =>
      ahead (choice_cons (sign _) <| choice_cons (sign _) <| choice_cons (sign _) choice_nil)) <|
  choice_cons (diagnosis hi) <|
  choice_cons (after (h .expression rfl).any fun _ => pure trivial) choice_nil

include h hi in
/-- A statement inside contexts. -/
theorem withStatement : Passes i P (Grammar.withStatement rules) :=
  have inParentheses : Passes i P (do
      let _ ← Parser.keyword "with"
      let _ ← Parser.sign "("
      let _ ← Parser.separated (Grammar.context rules) (Parser.sign ",")
      let _ ← Parser.optional (Parser.sign ",")
      let _ ← Parser.sign ")"
      Grammar.colonBlock rules) :=
    after (keyword _) fun _ => after (sign _) fun _ => after (separated (context h hi) (sign _)).any fun _ =>
      after (optional (sign _)).any fun _ => after (sign _) fun _ => colonBlock h
  have plain : Passes i P (do
      let _ ← Parser.keyword "with"
      let _ ← Parser.separated (Grammar.context rules) (Parser.sign ",")
      Grammar.colonBlock rules) :=
    after (keyword _) fun _ => after (separated (context h hi) (sign _)).any fun _ => colonBlock h
  choice_cons (diagnosis hi) <| choice_cons inParentheses <| choice_cons plain <|
  choice_cons (after (keyword _) fun _ => inParentheses) <|
  choice_cons (after (keyword _) fun _ => plain) <| choice_cons (diagnosis hi) choice_nil

include h hi in
/-- The block that is run in any case. -/
theorem finallyBlock : Passes i P (Grammar.finallyBlock rules) :=
  choice_cons (diagnosis hi) <| choice_cons (wordBlock h _) choice_nil

include h in
/-- The exceptions of a handler. -/
theorem handled : Passes i P (Grammar.handled rules) :=
  after (h .expression rfl).any fun _ =>
    after (optional (after (keyword _) fun _ => anyIdentifier)).any fun _ => pure trivial

include h hi in
/-- A handler of exceptions. -/
theorem handler : Passes i P (Grammar.handler rules) :=
  choice_cons (diagnosis hi) <|
  choice_cons (after (keyword _) fun _ => after (handled h) fun _ => colonBlock h) <|
  choice_cons (after (keyword _) fun _ => colonBlock h) <| choice_cons (diagnosis hi) choice_nil

include h hi in
/-- A handler of groups of exceptions. -/
theorem groupHandler : Passes i P (Grammar.groupHandler rules) :=
  choice_cons (diagnosis hi) <|
  choice_cons (after (keyword _) fun _ => after (after (sign _) fun _ => handled h) fun _ => colonBlock h) <|
  choice_cons (diagnosis hi) choice_nil

include h hi in
/-- A statement with handlers. -/
theorem tryStatement : Passes i P (Grammar.tryStatement rules) :=
  have handlers {p : Parser Unit} (hp : Passes i P p) : Passes i P (do
      let _ ← Parser.many1 p) :=
    after (many1 hp).any fun _ => pure trivial
  have rest : Passes i P (do
      let _ ← Parser.optional (Grammar.elseBlock rules)
      let _ ← Parser.optional (Grammar.finallyBlock rules)) :=
    after (optional (elseBlock h hi)).any fun _ => after (optional (finallyBlock h hi)).any fun _ =>
      pure trivial
  choice_cons (diagnosis hi) <|
  choice_cons (after (wordBlock h _) fun _ => finallyBlock h hi) <|
  choice_cons (after (wordBlock h _) fun _ => after (handlers (handler h hi)) fun _ => rest) <|
  choice_cons (after (wordBlock h _) fun _ => after (handlers (groupHandler h hi)) fun _ => rest) choice_nil

include hP h in
/-- What is matched. -/
theorem subject : Passes i P (Grammar.subject rules) :=
  orElse
    (after (starNamedExpression hP.toInherited h).any fun _ => after (sign _) fun _ =>
      after (optional (starNamedExpressions hP.toInherited h)).any fun _ => pure trivial)
    (after (h .namedExpression rfl).any fun _ => pure trivial)

include h hi in
/-- A case. -/
theorem caseBlock : Passes i P (Grammar.caseBlock rules) :=
  have guarded : Passes i P (do
      Grammar.patterns rules
      let _ ← Parser.optional do
        let _ ← Parser.keyword "if"
        rules .namedExpression) :=
    after (patterns h) fun _ => after (optional (after (keyword _) fun _ => h .namedExpression rfl)).any fun _ =>
      pure trivial
  choice_cons (diagnosis hi) <|
  choice_cons (after (softKeyword _) fun _ => after guarded fun _ => colonBlock h) choice_nil

include hP h hi in
/-- A choice by patterns. -/
theorem matchStatement : Passes i P (Grammar.matchStatement rules) :=
  choice_cons
    (after (softKeyword _) fun _ => after (subject hP h) fun _ => after (sign _) fun _ =>
      after (ofKind _) fun _ => after (ofKind _) fun _ => after (many1 (caseBlock h hi)).any fun _ =>
        after (ofKind _) fun _ => pure trivial) <|
  choice_cons (diagnosis hi) choice_nil

/-! ### Definitions -/

include h in
/-- The decorators before a definition. -/
theorem decorators : Passes i P (Grammar.decorators rules) :=
  (many1 (after (sign _) fun _ => after (h .namedExpression rfl).any fun _ => after (ofKind _) fun _ =>
    pure (Q := fun _ => True) trivial)).any

include h in
/-- A definition with its decorators, or without. -/
theorem decorated {definition : List Expr → Parser Statement}
    (hdefinition : ∀ decorators, Declares i P (definition decorators)) :
    Declares i P (Grammar.decorated rules definition) :=
  orElse (after (decorators h) fun _ => hdefinition _) (hdefinition _)

include h in
/-- The parameters of named functions may have annotations. -/
theorem style_namedFunctionStyle : Style i P (namedFunctionStyle rules) where
  hint := after (optional (after (sign _) fun _ => h .expression rfl)).any fun _ => pure trivial
  restHint := after (sign _) fun _ => after (h .starExpression rfl).any fun _ => pure trivial

include hP hn h hi in
/-- A function. -/
theorem functionDef (decorators : List Expr) : Declares i P (Grammar.functionDef rules decorators) :=
  have rest (first : Token) : Declares i P (do
      let name ← Grammar.identifier
      let _ ← Parser.forced "("
      (do let _ ← Parser.optional ((namedFunctionStyle rules).parameters rules))
      let _ ← Parser.sign ")"
      (do
        let _ ← Parser.optional do
          let _ ← Parser.sign "->"
          rules .expression)
      let _ ← Parser.forced ":"
      let _ ← rules .block
      return .functionDef name decorators (positionOf first)) :=
    bind (identifier hn) fun _ hname => after (forced _) fun _ =>
      after (after (optional (parameters h hi (style_namedFunctionStyle h))).any fun _ => pure trivial) fun _ =>
        after (sign _) fun _ =>
          after (after (optional (after (sign _) fun _ => h .expression rfl)).any fun _ => pure trivial) fun _ =>
            after (forced _) fun _ => after (h .block rfl).any fun _ => pure (hP.functionDef hname)
  choice_cons (diagnosis hi) <|
  choice_cons (after (keyword _) fun first => rest first) <|
  choice_cons (after (keyword _) fun first => after (keyword _) fun _ => rest first) choice_nil

include h in
/-- The bases of a class. -/
theorem bases : Passes i P (Grammar.bases rules) :=
  after (optional (after (sign _) fun _ => after (optional (h .arguments rfl)).any fun _ =>
    after (sign _) fun _ => pure (Q := fun _ => True) trivial)).any fun _ => pure trivial

include hP hn h hi in
/-- A class. -/
theorem classDef (decorators : List Expr) : Declares i P (Grammar.classDef rules decorators) :=
  have named : Keeps i P (fun named => P.name named.1) (do
      let name ← Grammar.identifier
      let bases ← Grammar.bases rules
      return (name, bases)) :=
    bind (identifier hn) fun _ hname => after (bases h) fun _ => pure hname
  choice_cons (diagnosis hi) <|
  choice_cons
    (after (keyword _) fun _ => bind named fun _ hnamed => after (sign _) fun _ =>
      bind (h .block rfl) fun _ hbody => pure (hP.classDef hnamed hbody))
  choice_nil

/-! ### Statements -/

include hP hn h hi in
/-- A statement with blocks. -/
theorem compoundStatement : Declares i P (Grammar.compoundStatement rules) :=
  have headed {heads : List (Parser Token)} {p : Parser Statement}
      (hheads : Passes i P (Parser.choice heads)) (hp : Declares i P p) : Declares i P (do
        Parser.ahead (Parser.choice heads)
        p) :=
    after (ahead hheads) fun _ => hp
  have without {p : Parser Unit} (hp : Passes i P p) : Declares i P (do
      p
      return .other) :=
    after hp fun _ => pure hP.other
  choice_cons
    (headed (choice_cons (keyword _) <| choice_cons (sign _) <| choice_cons (keyword _) choice_nil)
      (decorated h (functionDef hP hn h hi))) <|
  choice_cons (headed (choice_cons (keyword _) choice_nil) (without (ifStatement h hi))) <|
  choice_cons
    (headed (choice_cons (keyword _) <| choice_cons (sign _) choice_nil)
      (decorated h (classDef hP hn h hi))) <|
  choice_cons
    (headed (choice_cons (keyword _) <| choice_cons (keyword _) choice_nil)
      (without (withStatement h hi))) <|
  choice_cons
    (headed (choice_cons (keyword _) <| choice_cons (keyword _) choice_nil)
      (without (forStatement hP h hi))) <|
  choice_cons (headed (choice_cons (keyword _) choice_nil) (without (tryStatement h hi))) <|
  choice_cons (headed (choice_cons (keyword _) choice_nil) (without (whileStatement h hi))) <|
  choice_cons (without (matchStatement hP h hi)) choice_nil

include hP hn h hi in
/-- One or more statements. -/
theorem statements : DeclaresAll i P (Grammar.statements rules) :=
  bind
    (many1 (orElse
      (bind (compoundStatement hP hn h hi) fun _ hstatement => pure (List.forall_mem_singleton.mpr hstatement))
      (simpleStatements h)))
    fun _ hgroups => pure fun s hs => by
      obtain ⟨group, hgroup, hs⟩ := List.mem_flatten.mp hs
      exact hgroups group hgroup s hs

/-! ### Rules -/

include hP hn h hi in
/-- A rule keeps the demand if the rules that it refers to keep it and it holds of quoted constants. -/
theorem body (hquoted : Reads i P Grammar.quotedTexts) {rule : Rule} (hsound : rule.isSound = true) :
    Keeps i P (rule.category.Bears P) (rule.body rules) := by
  have hI := hP.toInherited
  cases rule with
  | expression => exact expression hI h hi
  | starExpression => exact starExpression hI h
  | namedExpression => exact namedExpression hI h hi
  | disjunction => exact joinedBy hI .or "or" (h .conjunction rfl)
  | conjunction => exact joinedBy hI .and "and" (h .inversion rfl)
  | inversion => exact inversion hI h
  | bitOr => exact bitOr hI h
  | bitXor => exact arithmetic hI (by decide) (h .bitAnd rfl)
  | bitAnd => exact arithmetic hI (by decide) (h .shift rfl)
  | shift => exact arithmetic hI (by decide) (h .sum rfl)
  | sum => exact arithmetic hI (by decide) (h .term rfl)
  | term => exact arithmetic hI (by decide) (h .factor rfl)
  | factor => exact factor hI h
  | awaited => exact awaited hI h
  | primary => exact primary hI hn h hi
  | quotedTexts => exact hquoted
  | generator => exact generator hI h hi
  | arguments => exact arguments hI h hi
  | starTarget => exact starTarget hI h
  | starAtomTarget => exact starAtomTarget hI hn h
  | singleTarget => exact singleTarget hI hn h
  | targetPrimary => exact targetPrimary hI hn h (atom hI hn h hi)
  | deletedTarget => exact deletedTarget hI hn h
  | pattern => exact pattern h hi
  | closedPattern => exact closedPattern hI h hi
  | statements => exact statements hP hn h hi
  | simpleStatement => exact simpleStatement hP hn h hi
  | block => exact block h hi
  | plainExpression | faultyNamedExpression | annotationTarget => cases hsound

include hP hn hi in
/-- All rules keep the demand, if it holds of quoted constants: by induction on the depth to which rules are
nested. -/
theorem reader (hquoted : Reads i P Grammar.quotedTexts) (depth : Nat) :
    Rules.Keep i P (Rule.reader depth) := by
  induction depth with
  | zero => exact fun rule _ => miss
  | succ depth ih => exact fun rule hsound => memoised (body hP hn ih hi hquoted hsound)

include hP hn hi in
/-- **What is asked holds of a single expression if it holds of quoted constants.** -/
theorem wholeExpression (hquoted : Reads i P Grammar.quotedTexts) (depth : Nat) :
    Keeps i P P.expr (Grammar.wholeExpression (Rule.reader depth)) :=
  bind (itemOrTuple hP.toInherited (reader hP hn hi hquoted depth .expression rfl)) fun _ hvalue =>
    after (many (ofKind .newline)).any fun _ => after (ofKind .finish) fun _ => pure hvalue

include hP hn hi in
/-- **What is asked holds of the statements of a module if it holds of quoted constants.** -/
theorem wholeModule (hquoted : Reads i P Grammar.quotedTexts) (depth : Nat) :
    DeclaresAll i P (Grammar.wholeModule (Rule.reader depth)) := by
  refine bind (optional (reader hP hn hi hquoted depth .statements rfl)) fun statements hstatements =>
    after (ofKind .finish) fun _ => pure ?_
  cases statements with
  | none => exact fun s hs => absurd hs List.not_mem_nil
  | some body => exact hstatements body rfl

end Keeps
end Grammar
end FluentBuilder.Syntax
