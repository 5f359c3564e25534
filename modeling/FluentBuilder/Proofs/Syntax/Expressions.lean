import FluentBuilder.Proofs.Syntax.Keeping
import FluentBuilder.Syntax.Reader

/-!
# Expressions keep what is asked of them

Every function of the grammar of expressions keeps an inherited demand, if the rules that it refers to do
(`Rules.Keep`) and the names of the text fulfil it (`Input.Names`). There is one lemma for each function,
which follows the function step by step.

Rules that are tried only where mistakes are looked for are left out (`Rule.isSound`).
-/

namespace FluentBuilder.Syntax.Grammar

open Grammar.Parser

variable {i : Input} {P : Demand} {α : Type}

/-- Is it a rule that reading can come to where no mistakes are looked for? -/
def Rule.isSound : Rule → Bool
  | .plainExpression | .faultyNamedExpression | .annotationTarget => false
  | _ => true

/-- What the rules read is as is asked of it. -/
def Rules.Keep (i : Input) (P : Demand) (rules : Rules) : Prop :=
  ∀ rule : Rule, rule.isSound = true → Keeps i P (rule.category.Bears P) (rules rule)

/-- The names of the text are as is asked of names. -/
def Input.Names (i : Input) (P : Demand) : Prop :=
  ∀ t ∈ i.scan.tokens, t.kind = .name → P.name (nameOf t)

namespace Keeps

variable {rules : Rules} (hP : Inherited P) (hn : i.Names P) (h : rules.Keep i P)
variable (hi : i.diagnosing = false)

/-! ### Operators -/

include hP in
/-- Operands joined by a word. -/
theorem joinedBy (op : BoolOp) (word : String) {operand : Parser Located} (h : Reads i P operand) :
    Reads i P (Grammar.joinedBy op word operand) := by
  refine after here fun start => bind h fun first hfirst =>
    after (many (after (keyword word) fun _ => h)).any fun others => ?_
  split
  · exact pure hfirst
  · exact pure (hP.plain rfl)

/-- A comparison operator. -/
theorem compareOp : Passes i P Grammar.compareOp :=
  have bySign (text : String) (op : CompareOp) :
      Passes i P (do let _ ← Parser.sign text; return op) :=
    after (sign text) fun _ => pure trivial
  have byWord (text : String) (op : CompareOp) :
      Passes i P (do let _ ← Parser.keyword text; return op) :=
    after (keyword text) fun _ => pure trivial
  have byWords (first second : String) (op : CompareOp) :
      Passes i P (do let _ ← Parser.keyword first; let _ ← Parser.keyword second; return op) :=
    after (keyword first) fun _ => byWord second op
  choice_cons (bySign _ _) <| choice_cons (bySign _ _) <| choice_cons (bySign _ _) <|
  choice_cons (bySign _ _) <| choice_cons (bySign _ _) <| choice_cons (bySign _ _) <|
  choice_cons (byWords _ _ _) <| choice_cons (byWord _ _) <| choice_cons (byWords _ _ _) <|
  choice_cons (byWord _ _) choice_nil

include hP h in
/-- A chain of comparisons. -/
theorem comparison : Reads i P (Grammar.comparison rules) := by
  refine after here fun start => bind (h .bitOr rfl) fun first hfirst =>
    after (many (after compareOp fun op => after (h .bitOr rfl).any fun operand =>
      pure (Q := fun _ => True) trivial)).any fun rest => ?_
  split
  · exact pure hfirst
  · exact pure (hP.plain rfl)

include hP h in
/-- A condition or its negation. -/
theorem inversion : Reads i P (Grammar.inversion rules) :=
  orElse
    (after here fun _ => after (keyword _) fun _ => after (h .inversion rfl).any fun _ =>
      pure (hP.plain rfl))
    (comparison hP h)

/-- Operands joined by operators that associate to the left. -/
theorem leftAssociative {operators : List (String × BinaryOp)} {operand : Parser Located}
    (hjoin : ∀ text op left right, (text, op) ∈ operators → P.expr left → P.expr right →
      P.expr (.binary op left right))
    (h : Reads i P operand) : Reads i P (Grammar.leftAssociative operators operand) := by
  refine after here fun start => bind h fun first hfirst => extendWhile hfirst fun left hleft => ?_
  refine bind (Q := fun op => ∃ text, (text, op) ∈ operators) (choice fun p hp => ?_) fun op hop => ?_
  · obtain ⟨⟨text, op⟩, hmem, rfl⟩ := List.mem_map.mp hp
    exact after (sign text) fun _ => pure ⟨text, hmem⟩
  · obtain ⟨text, hmem⟩ := hop
    exact bind h fun right hright => pure (hjoin text op left.expr right.expr hmem hleft hright)

include hP h in
/-- Bits of either operand. -/
theorem bitOr : Reads i P (Grammar.bitOr rules) :=
  leftAssociative (by
    intro text op left right hmem hleft hright
    obtain ⟨rfl, rfl⟩ := Prod.mk.inj (List.mem_singleton.mp hmem)
    exact hP.either hleft hright) (h .bitXor rfl)

include hP in
/-- Operands joined by operators of arithmetic, which do not make alternatives. -/
theorem arithmetic {operators : List (String × BinaryOp)} {operand : Parser Located}
    (hnot : ∀ o ∈ operators, o.2 ≠ .bitOr) (h : Reads i P operand) :
    Reads i P (Grammar.leftAssociative operators operand) := by
  refine leftAssociative (fun text op left right hmem _ _ => hP.plain ?_) h
  have hop : op ≠ .bitOr := hnot (text, op) hmem
  cases op <;> first | rfl | exact absurd rfl hop

include hP h in
/-- A power. -/
theorem power : Reads i P (Grammar.power rules) := by
  refine after here fun start => bind (h .awaited rfl) fun base hbase =>
    after (optional (after (sign _) fun _ => after (h .factor rfl).any fun _ =>
      pure (Q := fun _ => True) trivial)).any fun exponent => ?_
  cases exponent with
  | some exponent => exact pure (hP.plain rfl)
  | none => exact pure hbase

include hP h in
/-- A power with signs before it. -/
theorem factor : Reads i P (Grammar.factor rules) :=
  have signed (text : String) (op : UnaryOp) : Reads i P (do
      let start ← Parser.here
      let _ ← Parser.sign text
      let operand : Located ← rules .factor
      return .whole (.unary op operand.expr) start) :=
    after here fun _ => after (sign text) fun _ => after (h .factor rfl).any fun _ =>
      pure (hP.plain rfl)
  choice_cons (signed _ _) <| choice_cons (signed _ _) <| choice_cons (signed _ _) <|
  choice_cons (power hP h) choice_nil

include hP h in
/-- An awaited value, or one that is not awaited. -/
theorem awaited : Reads i P (Grammar.awaited rules) :=
  orElse
    (after here fun _ => after (keyword _) fun _ => after (h .primary rfl).any fun _ =>
      pure (hP.plain rfl))
    (h .primary rfl)

/-! ### Sequences -/

/-- The expressions of what was read have the property. -/
theorem all_expr {items : List Located} (h : ∀ v ∈ items, Category.Bears P .expression v) :
    ∀ e ∈ items.map Located.expr, P.expr e :=
  List.forall_mem_map.mpr h

/-- Any name. -/
theorem anyIdentifier : Passes i P Grammar.identifier :=
  after (ofKind .name) fun _ => pure trivial

include hn in
/-- A name. -/
theorem identifier : Keeps i P P.name Grammar.identifier :=
  bind (tokenIf _) fun t ht => pure (hn t ht.1 (of_decide_eq_true ht.2))

/-- Any name as an expression. -/
theorem anyNameExpr : Passes i P Grammar.nameExpr :=
  after here fun _ => after anyIdentifier fun _ => pure trivial

include hP hn in
/-- A name as an expression. -/
theorem nameExpr : Reads i P Grammar.nameExpr :=
  after here fun _ => bind (identifier hn) fun _ hname => pure (hP.name hname)

include hP in
/-- One item, or a tuple of items. -/
theorem itemOrTuple {item : Parser Located} (h : Reads i P item) :
    Reads i P (Grammar.itemOrTuple item) := by
  refine after here fun start => bind h fun first hfirst =>
    bind (many (after (sign ",") fun _ => h)) fun rest hrest =>
      after (optional (sign ",")).any fun comma => ?_
  split
  · exact pure hfirst
  · exact pure (hP.tuple (all_expr (cons hfirst hrest)))

include hP in
/-- An unpacked operand. -/
theorem starred {operand : Parser Located} (h : Reads i P operand) :
    Reads i P (Grammar.starred operand) :=
  after here fun _ => after (sign _) fun _ => after h.any fun _ => pure (hP.plain rfl)

include hP h in
/-- An expression, or an unpacked sequence. -/
theorem starExpression : Reads i P (Grammar.starExpression rules) :=
  orElse (starred hP (h .bitOr rfl)) (h .expression rfl)

include hP h in
/-- An item of a display. -/
theorem starNamedExpression : Reads i P (Grammar.starNamedExpression rules) :=
  orElse (starred hP (h .bitOr rfl)) (h .namedExpression rfl)

include hP h in
/-- The items of a display. -/
theorem starNamedExpressions :
    Keeps i P (fun items => ∀ v ∈ items, Category.Bears P .expression v)
      (Grammar.starNamedExpressions rules) :=
  bind (separated (starNamedExpression hP h) (sign ",")) fun _ hitems =>
    after (optional (sign ",")).any fun _ => pure hitems

include hP h in
/-- A value that gets a name in passing. -/
theorem assignmentExpression : Reads i P (Grammar.assignmentExpression rules) :=
  after anyNameExpr fun _ => after (sign _) fun _ => after (h .expression rfl).any fun _ =>
    pure (hP.plain rfl)

include hP h in
/-- A value that may get a name in passing. -/
theorem plainNamedExpression : Reads i P (Grammar.plainNamedExpression rules) :=
  orElse (assignmentExpression hP h) <|
    bind (h .expression rfl) fun _ hvalue => after (notAhead (sign _)) fun _ => pure hvalue

include hP h in
/-- Values handed out by a generator. -/
theorem yieldExpression : Reads i P (Grammar.yieldExpression rules) :=
  orElse
    (after here fun _ => after (keyword _) fun _ => after (keyword _) fun _ =>
      after (h .expression rfl).any fun _ => pure (hP.plain rfl))
    (after here fun _ => after (keyword _) fun _ =>
      after (optional (itemOrTuple hP (h .starExpression rfl))).any fun _ => pure (hP.plain rfl))

/-! ### Targets -/

/-- A value goes on behind this place. -/
theorem continuation : Passes i P Grammar.continuation :=
  ahead (choice_cons (sign _) <| choice_cons (sign _) <| choice_cons (sign _) choice_nil)

include hP hn in
/-- The name of a member. -/
theorem memberStep {left : Located} (hleft : P.expr left.expr) (start : Nat) :
    Reads i P (Grammar.memberStep left start) :=
  after (sign _) fun _ => bind (identifier hn) fun _ hname => pure (hP.member hleft hname)

include hP h in
/-- A slice of positions. -/
theorem slice : Reads i P (Grammar.slice rules) :=
  orElse
    (after here fun _ => after (optional (h .expression rfl)).any fun _ => after (sign _) fun _ =>
      after (optional (h .expression rfl)).any fun _ =>
        after (optional (after (sign _) fun _ => optional (h .expression rfl))).any fun _ =>
          pure (hP.plain rfl))
    (h .namedExpression rfl)

include hP h in
/-- What stands between the brackets behind a value. -/
theorem slices : Reads i P (Grammar.slices rules) :=
  orElse
    (bind (slice hP h) fun _ hindex => after (notAhead (sign _)) fun _ => pure hindex)
    (after here fun _ =>
      bind (separated (orElse (slice hP h) (starred hP (h .expression rfl))) (sign _)) fun _ hitems =>
        after (optional (sign _)).any fun _ => pure (hP.tuple (all_expr hitems)))

include hP h in
/-- The item of a value. -/
theorem itemStep {left : Located} (hleft : P.expr left.expr) (start : Nat) :
    Reads i P (Grammar.itemStep rules left start) :=
  after (sign _) fun _ => bind (slices hP h) fun _ hindex => after (sign _) fun _ =>
    pure (hP.subscript hleft hindex)

include hP h in
/-- The arguments of a call. -/
theorem callStep (left : Located) (start : Nat) : Reads i P (Grammar.callStep rules left start) :=
  after (sign _) fun _ => after (optional (h .arguments rfl)).any fun _ => after (sign _) fun _ =>
    pure (hP.plain rfl)

include hP h in
/-- A call with a generator as its only argument. -/
theorem generatorStep (left : Located) (start : Nat) :
    Reads i P (Grammar.generatorStep rules left start) :=
  after (h .generator rfl).any fun _ => pure (hP.plain rfl)

include hP hn h in
/-- A value of which a member or an item is a target. -/
theorem targetPrimary {atom : Parser Located} (hatom : Reads i P atom) :
    Reads i P (Grammar.targetPrimary rules atom) :=
  after here fun start => bind hatom fun _ hfirst => after continuation fun _ =>
    extendWhile hfirst fun left hleft =>
      bind (choice_cons (memberStep hP hn hleft start) <| choice_cons (itemStep hP h hleft start) <|
        choice_cons (generatorStep hP h left start) <| choice_cons (callStep hP h left start) choice_nil)
        fun _ hnext => after continuation fun _ => pure hnext

include hP hn h in
/-- A member or an item of a value. -/
theorem partTarget : Reads i P (Grammar.partTarget rules) :=
  have lastStep {step : Located → Nat → Parser Located}
      (hstep : ∀ left start, P.expr left.expr → Reads i P (step left start)) : Reads i P (do
        let start ← Parser.here
        let left : Located ← rules .targetPrimary
        let target ← step left start
        Parser.notAhead Grammar.continuation
        return target) :=
    after here fun start => bind (h .targetPrimary rfl) fun left hleft =>
      bind (hstep left start (show P.expr left.expr from hleft)) fun _ htarget =>
        after (notAhead continuation) fun _ => pure htarget
  orElse (lastStep fun _ start hleft => memberStep hP hn hleft start)
    (lastStep fun _ start hleft => itemStep hP h hleft start)

include hP h in
/-- Targets with commas between them. -/
theorem starTargets : Reads i P (Grammar.starTargets rules) :=
  orElse
    (bind (h .starTarget rfl) fun _ htarget => after (notAhead (sign _)) fun _ => pure htarget)
    (after here fun _ => bind (separated (h .starTarget rfl) (sign _)) fun _ htargets =>
      after (optional (sign _)).any fun _ => pure (hP.tuple (all_expr htargets)))

include hP h in
/-- A target, or one that takes several values. -/
theorem starTarget : Reads i P (Grammar.starTarget rules) :=
  orElse
    (after here fun _ => after (sign _) fun _ => after (notAhead (sign _)) fun _ =>
      after (h .starTarget rfl).any fun _ => pure (hP.plain rfl))
    (h .starAtomTarget rfl)

/-- The values of what may be missing. -/
theorem all_getD {items : Option (List Located)}
    (h : ∀ found ∈ items, ∀ v ∈ found, Category.Bears P .expression v) :
    ∀ v ∈ items.getD [], Category.Bears P .expression v := by
  cases items with
  | none => exact fun v hv => absurd hv List.not_mem_nil
  | some found => exact h found rfl

include hP hn h in
/-- Targets inside brackets. -/
theorem enclosedTargets : Reads i P (Grammar.enclosedTargets rules) :=
  choice_cons (nameExpr hP hn) <|
  choice_cons
    (after (sign _) fun _ => bind (h .starAtomTarget rfl) fun _ htarget => after (sign _) fun _ =>
      pure htarget) <|
  choice_cons
    (after here fun _ => after (sign _) fun _ =>
      bind (optional <| bind (h .starTarget rfl) fun _ hfirst =>
        orElse
          (bind (many1 (after (sign _) fun _ => h .starTarget rfl)) fun _ hrest =>
            after (optional (sign _)).any fun _ =>
              pure (Q := fun found => ∀ v ∈ found, Category.Bears P .expression v) (cons hfirst hrest))
          (after (sign _) fun _ => pure fun _ hv => List.mem_singleton.mp hv ▸ hfirst))
        fun _ htargets => after (sign _) fun _ => pure (hP.tuple (all_expr (all_getD htargets)))) <|
  choice_cons
    (after here fun _ => after (sign _) fun _ =>
      bind (optional <| bind (separated (h .starTarget rfl) (sign _)) fun _ hfound =>
        after (optional (sign _)).any fun _ => pure hfound)
        fun _ htargets => after (sign _) fun _ => pure (hP.list (all_expr (all_getD htargets))))
  choice_nil

include hP hn h in
/-- A target that takes one value. -/
theorem starAtomTarget : Reads i P (Grammar.starAtomTarget rules) :=
  orElse (partTarget hP hn h) (enclosedTargets hP hn h)

/-! ### Comprehensions -/

include hP h in
/-- The beginning of an iteration. -/
theorem iterationHead : Reads i P (Grammar.iterationHead rules) :=
  after (keyword _) fun _ => bind (starTargets hP h) fun _ htarget => after (keyword _) fun _ =>
    pure htarget

include hP h hi in
/-- One clause of a comprehension. -/
theorem clause : Passes i P (Grammar.clause rules) :=
  have rest (isAsync : Bool) (target : Located) : Passes i P (do
      let source : Located ← rules .disjunction
      let conditions ← Parser.many do
        let _ ← Parser.keyword "if"
        let condition : Located ← rules .disjunction
        return condition.expr
      return (⟨isAsync, target.expr, source.expr, conditions⟩ : Clause Expr)) :=
    after (h .disjunction rfl).any fun _ =>
      after (many (after (keyword _) fun _ => after (h .disjunction rfl).any fun _ =>
        pure (Q := fun _ => True) trivial)).any fun _ => pure trivial
  commit (after (keyword _) fun _ => iterationHead hP h) (fun target _ => rest true target) <|
  commit (iterationHead hP h) (fun target _ => rest false target) <|
  diagnosis hi

include hP h hi in
/-- A comprehension in brackets. -/
theorem comprehension (opening closing : String) {element : Parser Located}
    {build : Expr → List (Clause Expr) → Expr} (helement : Reads i P element)
    (hbuild : ∀ e clauses, (build e clauses).isCarrier = false) :
    Reads i P (Grammar.comprehension rules opening closing element build) :=
  orElse
    (after here fun _ => after (sign _) fun _ => after helement.any fun _ =>
      after (many1 (clause hP h hi)).any fun _ => after (sign _) fun _ => pure (hP.plain (hbuild _ _)))
    (diagnosis hi)

include hP h hi in
/-- A generator. -/
theorem generator : Reads i P (Grammar.generator rules) :=
  comprehension hP h hi "(" ")" (plainNamedExpression hP h) fun _ _ => rfl

include h in
/-- A key with its value. -/
theorem keyAndValue : Passes i P (Grammar.keyAndValue rules) :=
  after (h .expression rfl).any fun _ => after (sign _) fun _ => after (h .expression rfl).any fun _ =>
    pure trivial

include hP h hi in
/-- A dictionary comprehension. -/
theorem dictComprehension : Reads i P (Grammar.dictComprehension rules) :=
  orElse
    (after here fun _ => after (sign _) fun _ => after (keyAndValue h) fun _ =>
      after (many1 (clause hP h hi)).any fun _ => after (sign _) fun _ => pure (hP.plain rfl))
    (diagnosis hi)

/-! ### Arguments -/

include h in
/-- A named argument. -/
theorem namedArgument : Passes i P (Grammar.namedArgument rules) :=
  after anyIdentifier fun _ => after (sign _) fun _ => after (h .expression rfl).any fun _ => pure trivial

include hP h hi in
/-- A named argument or an unpacked sequence. -/
theorem namedOrSequence : Passes i P (Grammar.namedOrSequence rules) :=
  choice_cons (diagnosis hi) <| choice_cons (namedArgument h) <|
  choice_cons (after (starred hP (h .expression rfl)).any fun _ => pure trivial) choice_nil

include h hi in
/-- A named argument or an unpacked mapping. -/
theorem namedOrMapping : Passes i P (Grammar.namedOrMapping rules) :=
  choice_cons (diagnosis hi) <| choice_cons (namedArgument h) <|
  choice_cons (after (sign _) fun _ => after (h .expression rfl).any fun _ => pure trivial) choice_nil

include hP h hi in
/-- Named arguments and what is unpacked among them. -/
theorem lateArguments : Passes i P (Grammar.lateArguments rules) :=
  have sequences : Passes i P (Parser.separated (Grammar.namedOrSequence rules) (Parser.sign ",")) :=
    (separated (namedOrSequence hP h hi) (sign _)).any
  have mappings : Passes i P (Parser.separated (Grammar.namedOrMapping rules) (Parser.sign ",")) :=
    (separated (namedOrMapping h hi) (sign _)).any
  choice_cons
    (after sequences fun _ => after (sign _) fun _ => after mappings fun _ => pure trivial) <|
  choice_cons sequences <| choice_cons mappings choice_nil

include hP h hi in
/-- Arguments with commas between them. -/
theorem argumentList : Passes i P (Grammar.argumentList rules) :=
  orElse
    (after (separated (choice_cons (starred hP (h .expression rfl)) <| choice_cons
        (bind (plainNamedExpression hP h) fun _ hvalue => after (notAhead (sign _)) fun _ =>
          pure hvalue) choice_nil) (sign _)).any fun _ =>
      after (optional (after (sign _) fun _ => lateArguments hP h hi)).any fun _ => pure trivial)
    (after (lateArguments hP h hi) fun _ => pure trivial)

include hP h hi in
/-- All arguments of a call. -/
theorem arguments : Passes i P (Grammar.arguments rules) :=
  orElse
    (after (argumentList hP h hi) fun _ => after (optional (sign _)).any fun _ =>
      after (ahead (sign _)) fun _ => pure trivial)
    (diagnosis hi)

/-! ### Atoms -/

include hP in
/-- A reserved word that stands for a constant. -/
theorem constantWord (word : String) {value : Constant} (h : (Expr.constant value).isCarrier = false) :
    Reads i P (Grammar.constantWord word value) :=
  after here fun _ => after (keyword word) fun _ => pure (hP.plain h)

/-- A number is no text. -/
theorem isCarrier_number {text : String} {value : Constant} (h : Literal.number text = .ok value) :
    (Expr.constant value).isCarrier = false := by
  unfold Literal.number at h
  dsimp only at h
  split at h <;> try (obtain rfl := Except.ok.inj h; rfl)
  split at h
  · obtain rfl := Except.ok.inj h; rfl
  · split at h
    · split at h
      · cases h
      · obtain rfl := Except.ok.inj h; rfl
    · obtain rfl := Except.ok.inj h; rfl

include hP in
/-- A number. -/
theorem numberConstant : Reads i P Grammar.numberConstant := by
  refine after here fun start => after (ofKind .number) fun t => ?_
  split
  · next value hvalue => exact pure (hP.plain (isCarrier_number hvalue))
  · exact faultAt _ _

include hP h in
/-- A tuple in parentheses. -/
theorem enclosedTuple : Reads i P (Grammar.enclosedTuple rules) :=
  after here fun _ => after (sign _) fun _ =>
    bind (optional <| bind (starNamedExpression hP h) fun _ hfirst => after (sign _) fun _ =>
      bind (optional (starNamedExpressions hP h)) fun _ hrest =>
        pure (Q := fun found => ∀ v ∈ found, Category.Bears P .expression v)
          (cons hfirst (all_getD hrest)))
      fun _ hitems => after (sign _) fun _ => pure (hP.tuple (all_expr (all_getD hitems)))

include hP h hi in
/-- An expression in parentheses. -/
theorem group : Reads i P (Grammar.group rules) :=
  orElse
    (after (sign _) fun _ => bind (orElse (yieldExpression hP h) (h .namedExpression rfl))
      fun _ hvalue => after (sign _) fun _ => pure hvalue)
    (diagnosis hi)

include hP h in
/-- A list. -/
theorem listDisplay : Reads i P (Grammar.listDisplay rules) :=
  after here fun _ => after (sign _) fun _ => bind (optional (starNamedExpressions hP h))
    fun _ hitems => after (sign _) fun _ => pure (hP.list (all_expr (all_getD hitems)))

include hP h in
/-- A set. -/
theorem setDisplay : Reads i P (Grammar.setDisplay rules) :=
  after here fun _ => after (sign _) fun _ => after (starNamedExpressions hP h).any fun _ =>
    after (sign _) fun _ => pure (hP.plain rfl)

include h in
/-- An item of a dictionary. -/
theorem dictItem : Passes i P (Grammar.dictItem rules) :=
  orElse (after (sign _) fun _ => after (h .bitOr rfl).any fun _ => pure trivial)
    (after (keyAndValue h) fun _ => pure trivial)

include h in
/-- Common mistakes in the items of a dictionary. -/
theorem diagnoseDictItems {Q : α → Prop} : Keeps i P Q (Grammar.diagnoseDictItems rules : Parser α) :=
  have unpackedValue : Keeps i P Q (do
      let _ ← rules .expression
      let _ ← Parser.sign ":"
      let start ← Parser.here
      let _ ← Parser.sign "*"
      let _ ← rules .bitOr
      Parser.faultAt .starredDictValue start : Parser α) :=
    after (h .expression rfl).any fun _ => after (sign _) fun _ => after here fun _ =>
      after (sign _) fun _ => after (h .bitOr rfl).any fun _ => faultAt _ _
  have missingValue : Keeps i P Q (do
      let _ ← rules .expression
      let start ← Parser.here
      let _ ← Parser.sign ":"
      Parser.ahead (Parser.choice [Parser.sign braceClose, Parser.sign ","])
      Parser.faultAt .missingDictValue start : Parser α) :=
    after (h .expression rfl).any fun _ => after here fun _ => after (sign _) fun _ =>
      after (ahead (choice_cons (sign _) <| choice_cons (sign _) choice_nil)) fun _ => faultAt _ _
  choice_cons
    (after (separated (dictItem h) (sign _)).any fun _ => after (sign _) fun _ =>
      choice_cons
        (after (h .expression rfl).any fun _ => after (notAhead (sign _)) fun _ => fun _ _ _ => trivial) <|
      choice_cons unpackedValue <| choice_cons missingValue choice_nil) <|
  choice_cons unpackedValue <| choice_cons missingValue choice_nil

include hP h in
/-- A dictionary. -/
theorem dictDisplay : Reads i P (Grammar.dictDisplay rules) :=
  orElse
    (after here fun _ => after (sign _) fun _ =>
      after (optional (after (separated (dictItem h) (sign _)).any fun _ =>
        after (optional (sign _)).any fun _ => pure (Q := fun _ => True) trivial)).any fun _ =>
          after (sign _) fun _ => pure (hP.plain rfl))
    (after (sign _) fun _ => diagnoseDictItems h)

include hP hn h hi in
/-- An expression without operators. -/
theorem atom : Reads i P (Grammar.atom rules) :=
  choice_cons (nameExpr hP hn) <|
  choice_cons (constantWord hP _ rfl) <|
  choice_cons (constantWord hP _ rfl) <|
  choice_cons (constantWord hP _ rfl) <|
  choice_cons (after (ahead (ofKind _)) fun _ => h .quotedTexts rfl) <|
  choice_cons (numberConstant hP) <|
  choice_cons (after (ahead (sign _)) fun _ => choice_cons (enclosedTuple hP h) <|
    choice_cons (group hP h hi) <| choice_cons (h .generator rfl) choice_nil) <|
  choice_cons (after (ahead (sign _)) fun _ => choice_cons (listDisplay hP h) <|
    choice_cons (comprehension hP h hi _ _ (h .namedExpression rfl) fun _ _ => rfl) choice_nil) <|
  choice_cons (after (ahead (sign _)) fun _ => choice_cons (dictDisplay hP h) <|
    choice_cons (setDisplay hP h) <| choice_cons (dictComprehension hP h hi) <|
    choice_cons (comprehension hP h hi _ _ (h .namedExpression rfl) fun _ _ => rfl) choice_nil) <|
  choice_cons (after here fun _ => after (sign _) fun _ => pure (hP.plain rfl)) choice_nil

include hP hn h hi in
/-- An atom, or a value reached from one. -/
theorem primary : Reads i P (Grammar.primary rules) :=
  after here fun start => bind (atom hP hn h hi) fun _ hfirst => extendWhile hfirst fun left hleft =>
    choice_cons (memberStep hP hn hleft start) <| choice_cons (generatorStep hP h left start) <|
    choice_cons (callStep hP h left start) <| choice_cons (itemStep hP h hleft start) choice_nil

/-! ### Parameters -/

/-- A style of parameters whose annotations keep what is asked. -/
structure Style (i : Input) (P : Demand) (style : ParameterStyle) : Prop where
  /-- The annotation of a parameter. -/
  hint : Passes i P style.hint
  /-- The annotation of the parameter that takes all further positions. -/
  restHint : Passes i P style.restHint

section Parameters

variable {style : ParameterStyle} (hstyle : Style i P style)

/-- The end of a parameter. -/
theorem parameterEnd (style : ParameterStyle) : Passes i P style.parameterEnd :=
  orElse (after (sign _) fun _ => pure trivial) (ahead (sign _))

include hstyle in
/-- A name with its annotation. -/
theorem parameter : Passes i P style.parameter :=
  after anyIdentifier fun _ => after hstyle.hint fun _ => pure trivial

include hstyle in
/-- A parameter without a default. -/
theorem withoutDefault : Passes i P style.withoutDefault :=
  after (parameter hstyle) fun _ => after (parameterEnd _) fun _ => pure trivial

include h hi in
/-- A default. -/
theorem fallback : Passes i P (ParameterStyle.fallback rules) :=
  orElse (after (sign _) fun _ => after (h .expression rfl).any fun _ => pure trivial) (diagnosis hi)

include h hi hstyle in
/-- A parameter with a default. -/
theorem withDefault : Passes i P (style.withDefault rules) :=
  after (parameter hstyle) fun _ => after (fallback h hi) fun _ => after (parameterEnd _) fun _ =>
    pure trivial

include h hi hstyle in
/-- A parameter that may have a default. -/
theorem maybeDefault : Passes i P (style.maybeDefault rules) :=
  after (parameter hstyle) fun _ => after (optional (fallback h hi)).any fun _ =>
    after (parameterEnd _) fun _ => pure trivial

/-- The slash behind parameters. -/
theorem slash (style : ParameterStyle) : Passes i P style.slash :=
  after (sign _) fun _ => parameterEnd style

include hstyle in
/-- Parameters before a slash, none of them with a default. -/
theorem slashWithoutDefault : Passes i P style.slashWithoutDefault :=
  after (many1 (withoutDefault hstyle)).any fun _ => after (slash _) fun _ => pure trivial

include h hi hstyle in
/-- Parameters before a slash, the last ones with a default. -/
theorem slashWithDefault : Passes i P (style.slashWithDefault rules) :=
  after (many (withoutDefault hstyle)).any fun _ => after (many1 (withDefault h hi hstyle)).any fun _ =>
    after (slash _) fun _ => pure trivial

include hi hstyle in
/-- The parameter that takes all further names. -/
theorem keywordRest : Passes i P style.keywordRest :=
  orElse (diagnosis hi) (after (sign _) fun _ => after (withoutDefault hstyle) fun _ => pure trivial)

include h hi hstyle in
/-- The parameters from a star on. -/
theorem fromStar : Passes i P (style.fromStar rules) :=
  have names {start : Option String} : Passes i P (do
      let names ← Parser.many (style.maybeDefault rules)
      let keywords ← Parser.optional style.keywordRest
      return (⟨[], [], start, names, keywords⟩ : Parameters Expr)) :=
    after (many (maybeDefault h hi hstyle)).any fun _ => after (optional (keywordRest hi hstyle)).any fun _ =>
      pure trivial
  choice_cons (diagnosis hi) <|
  choice_cons (after (sign _) fun _ => after (withoutDefault hstyle) fun _ => names) <|
  choice_cons (after (sign _) fun _ => after anyIdentifier fun _ => after hstyle.restHint fun _ =>
    after (parameterEnd _) fun _ => names) <|
  choice_cons (after (sign _) fun _ => after (sign _) fun _ =>
    after (many1 (maybeDefault h hi hstyle)).any fun _ => after (optional (keywordRest hi hstyle)).any fun _ =>
      pure trivial) <|
  choice_cons (after (keywordRest hi hstyle) fun _ => pure trivial) choice_nil

include h hi hstyle in
/-- All parameters of a function. -/
theorem parameters : Passes i P (style.parameters rules) :=
  have withStar (positionalOnly positional : List (Parameter Expr)) : Passes i P (do
      let more ← Parser.optional (style.fromStar rules)
      let more := more.getD ⟨[], [], none, [], none⟩
      return { more with positionalOnly, positional }) :=
    after (optional (fromStar h hi hstyle)).any fun _ => pure trivial
  choice_cons (diagnosis hi) <|
  choice_cons (after (slashWithoutDefault hstyle) fun _ => after (many (withoutDefault hstyle)).any fun _ =>
    after (many (withDefault h hi hstyle)).any fun _ => withStar _ _) <|
  choice_cons (after (slashWithDefault h hi hstyle) fun _ =>
    after (many (withDefault h hi hstyle)).any fun _ => withStar _ _) <|
  choice_cons (after (many1 (withoutDefault hstyle)).any fun _ =>
    after (many (withDefault h hi hstyle)).any fun _ => withStar _ _) <|
  choice_cons (after (many1 (withDefault h hi hstyle)).any fun _ => withStar _ _) <|
  choice_cons (fromStar h hi hstyle) choice_nil

end Parameters

/-- The parameters of anonymous functions have no annotations. -/
theorem style_anonymousFunctionStyle : Style i P anonymousFunctionStyle :=
  ⟨pure trivial, miss⟩

include hP h hi in
/-- An anonymous function. -/
theorem lambda : Reads i P (Grammar.lambda rules) :=
  after here fun _ => after (keyword _) fun _ =>
    after (optional (parameters h hi style_anonymousFunctionStyle)).any fun _ => after (sign _) fun _ =>
      after (h .expression rfl).any fun _ => pure (hP.plain rfl)

/-! ### Whole expressions -/

include hP h hi in
/-- An expression. -/
theorem expression : Reads i P (Grammar.expression rules) :=
  choice_cons (diagnosis hi) <| choice_cons (diagnosis hi) <| choice_cons
    (choice_cons
      (after here fun _ => after (h .disjunction rfl).any fun _ => after (keyword _) fun _ =>
        after (h .disjunction rfl).any fun _ => after (keyword _) fun _ =>
          after (h .expression rfl).any fun _ => pure (hP.plain rfl)) <|
      choice_cons (h .disjunction rfl) <| choice_cons (lambda hP h hi) choice_nil)
  choice_nil

include hP h hi in
/-- An expression that may get a name in passing. -/
theorem namedExpression : Reads i P (Grammar.namedExpression rules) :=
  choice_cons (assignmentExpression hP h) <| choice_cons (diagnosis hi) <|
  choice_cons (bind (h .expression rfl) fun _ hvalue => after (notAhead (sign _)) fun _ => pure hvalue)
  choice_nil

end Keeps
end FluentBuilder.Syntax.Grammar
