import FluentBuilder.Proofs.Syntax.Expressions

/-!
# Targets and patterns keep what is asked

The functions of the grammar that read the targets of statements keep a demand, as those for expressions do.
Patterns declare nothing, so that nothing is asked of what is read of them; but what is remembered while they
are read has to be as is asked.
-/

namespace FluentBuilder.Syntax.Grammar

open Grammar.Parser

variable {i : Input} {P : Demand} {α : Type} {Q : α → Prop}

namespace Keeps

variable {rules : Rules} (hP : Inherited P) (hn : i.Names P) (h : rules.Keep i P)
variable (hi : i.diagnosing = false)

/-! ### Targets -/

/-- An expression that stands where a target is needed. -/
theorem refuseTarget (use : TargetUse) (e : Located) : Keeps i P Q (Grammar.refuseTarget use e) := by
  unfold Grammar.refuseTarget
  split
  · exact faultAt _ _
  · exact miss

include hP hn h in
/-- A target that is no sequence. -/
theorem singleTarget : Reads i P (Grammar.singleTarget rules) :=
  choice_cons (partTarget hP hn h) <| choice_cons (nameExpr hP hn) <|
  choice_cons
    (after (sign _) fun _ => bind (h .singleTarget rfl) fun _ htarget => after (sign _) fun _ =>
      pure htarget)
  choice_nil

include h in
/-- Targets of a deletion. -/
theorem deletedTargets :
    Keeps i P (fun targets => ∀ v ∈ targets, Category.Bears P .expression v) (Grammar.deletedTargets rules) :=
  bind (separated (h .deletedTarget rfl) (sign _)) fun _ htargets =>
    after (optional (sign _)).any fun _ => pure htargets

include hP hn h in
/-- A target of a deletion. -/
theorem deletedTarget : Reads i P (Grammar.deletedTarget rules) :=
  have enclosed (opening closing : String) (build : List Expr → Expr)
      (hbuild : ∀ items : List Expr, (∀ e ∈ items, P.expr e) → P.expr (build items)) : Reads i P (do
        let start ← Parser.here
        let _ ← Parser.sign opening
        let targets ← Parser.optional (Grammar.deletedTargets rules)
        let _ ← Parser.sign closing
        let targets := targets.getD []
        return .mk (build (targets.map Located.expr)) start targets) :=
    after here fun _ => after (sign _) fun _ => bind (optional (deletedTargets h)) fun _ htargets =>
      after (sign _) fun _ => pure (hbuild _ (all_expr (all_getD htargets)))
  choice_cons (partTarget hP hn h) <| choice_cons (nameExpr hP hn) <|
  choice_cons
    (after (sign _) fun _ => bind (h .deletedTarget rfl) fun _ htarget => after (sign _) fun _ =>
      pure htarget) <|
  choice_cons (enclosed _ _ _ fun _ => hP.tuple) <| choice_cons (enclosed _ _ _ fun _ => hP.list)
  choice_nil

/-! ### Patterns -/

/-- Names with points between them. -/
theorem dottedValue : Passes i P Grammar.dottedValue :=
  after anyIdentifier fun _ => after (many (after (sign _) fun _ => anyIdentifier)).any fun _ => pure trivial

/-- A name with at least one point. -/
theorem memberValue : Passes i P Grammar.memberValue :=
  after anyIdentifier fun _ => after (many1 (after (sign _) fun _ => anyIdentifier)).any fun _ => pure trivial

/-- What would make a value more than a name. -/
theorem valueGoesOn : Passes i P Grammar.valueGoesOn :=
  after (choice_cons (sign _) <| choice_cons (sign _) <| choice_cons (sign _) choice_nil) fun _ => pure trivial

/-- A name that takes a value. -/
theorem captureName : Passes i P Grammar.captureName :=
  after (notAhead (softKeyword _)) fun _ => after anyIdentifier fun _ => notAhead valueGoesOn

/-- The name that takes any value. -/
theorem wildcard : Passes i P Grammar.wildcard :=
  after (softKeyword _) fun _ => pure trivial

include hP in
/-- A number with a sign or without. -/
theorem signedNumber : Passes i P Grammar.signedNumber :=
  orElse (after (numberConstant hP).any fun _ => pure trivial)
    (after (sign _) fun _ => after (numberConstant hP).any fun _ => pure trivial)

include hP in
/-- A number that has to be imaginary or has to be none. -/
theorem numberOfKind (imaginary : Bool) : Passes i P (Grammar.numberOfKind imaginary) := by
  refine after (numberConstant hP).any fun number => ?_
  split
  · split
    · exact pure trivial
    · exact faultAt _ _
  · split
    · exact faultAt _ _
    · exact pure trivial

include hP in
/-- A complex number. -/
theorem complexNumber : Passes i P Grammar.complexNumber :=
  after (orElse (numberOfKind hP false) (after (sign _) fun _ => numberOfKind hP false)) fun _ =>
    after (choice_cons (sign _) <| choice_cons (sign _) choice_nil) fun _ => numberOfKind hP true

include hP h in
/-- A constant. -/
theorem constantPattern : Passes i P (Grammar.constantPattern rules) :=
  choice_cons
    (after (signedNumber hP) fun _ =>
      notAhead (Q := fun _ => True) (choice_cons (sign _) <| choice_cons (sign _) choice_nil)) <|
  choice_cons (complexNumber hP) <|
  choice_cons (after (h .quotedTexts rfl).any fun _ => pure trivial) <|
  choice_cons
    (after (choice_cons (keyword _) <| choice_cons (keyword _) <| choice_cons (keyword _) choice_nil)
      fun _ => pure trivial)
  choice_nil

/-- A pattern that takes several values. -/
theorem starPattern : Passes i P Grammar.starPattern :=
  after (sign _) fun _ => orElse captureName wildcard

include h in
/-- A pattern of a sequence. -/
theorem itemPattern : Passes i P (Grammar.itemPattern rules) :=
  orElse starPattern (h .pattern rfl)

include h in
/-- Patterns with commas between them. -/
theorem itemPatterns : Passes i P (Grammar.itemPatterns rules) :=
  after (separated (itemPattern h) (sign _)).any fun _ => after (optional (sign _)).any fun _ => pure trivial

include h in
/-- A sequence without brackets. -/
theorem openSequence : Passes i P (Grammar.openSequence rules) :=
  after (itemPattern h) fun _ => after (sign _) fun _ => after (optional (itemPatterns h)).any fun _ =>
    pure trivial

include hP h in
/-- An item of a mapping. -/
theorem mappingItem : Passes i P (Grammar.mappingItem rules) :=
  after (orElse (constantPattern hP h) memberValue) fun _ => after (sign _) fun _ => h .pattern rfl

/-- The name that takes the rest of a mapping. -/
theorem mappingRest : Passes i P Grammar.mappingRest :=
  after (sign _) fun _ => captureName

include hP h in
/-- A mapping. -/
theorem mappingPattern : Passes i P (Grammar.mappingPattern rules) :=
  have items : Passes i P (do
      let _ ← Parser.separated (Grammar.mappingItem rules) (Parser.sign ",")) :=
    after (separated (mappingItem hP h) (sign _)).any fun _ => pure trivial
  have close : Passes i P (do
      let _ ← Parser.optional (Parser.sign ",")
      let _ ← Parser.sign braceClose) :=
    after (optional (sign _)).any fun _ => after (sign _) fun _ => pure trivial
  choice_cons (after (sign _) fun _ => after (sign _) fun _ => pure trivial) <|
  choice_cons (after (sign _) fun _ => after mappingRest fun _ => close) <|
  choice_cons (after (sign _) fun _ => after items fun _ => after (sign _) fun _ =>
    after mappingRest fun _ => close) <|
  choice_cons (after (sign _) fun _ => after items fun _ => close) choice_nil

include h in
/-- Patterns of a class without names. -/
theorem classItems : Passes i P (Grammar.classItems rules) :=
  after (separated (h .pattern rfl) (sign _)).any fun _ => pure trivial

include h in
/-- Patterns of a class with names. -/
theorem classNamedItems : Passes i P (Grammar.classNamedItems rules) :=
  after (separated (after anyIdentifier fun _ => after (sign _) fun _ => h .pattern rfl) (sign _)).any
    fun _ => pure trivial

include h hi in
/-- A class. -/
theorem classPattern : Passes i P (Grammar.classPattern rules) :=
  have close : Passes i P (do
      let _ ← Parser.optional (Parser.sign ",")
      let _ ← Parser.sign ")") :=
    after (optional (sign _)).any fun _ => after (sign _) fun _ => pure trivial
  have opening : Passes i P (do
      Grammar.dottedValue
      let _ ← Parser.sign "(") :=
    after dottedValue fun _ => after (sign _) fun _ => pure trivial
  choice_cons (after opening fun _ => after (sign _) fun _ => pure trivial) <|
  choice_cons (after opening fun _ => after (classItems h) fun _ => close) <|
  choice_cons (after opening fun _ => after (classNamedItems h) fun _ => close) <|
  choice_cons (after opening fun _ => after (classItems h) fun _ => after (sign _) fun _ =>
    after (classNamedItems h) fun _ => close) <|
  choice_cons (diagnosis hi) choice_nil

include hP h hi in
/-- A pattern without alternatives. -/
theorem closedPattern : Passes i P (Grammar.closedPattern rules) :=
  choice_cons (constantPattern hP h) <| choice_cons captureName <| choice_cons wildcard <|
  choice_cons (after memberValue fun _ => notAhead valueGoesOn) <|
  choice_cons (after (sign _) fun _ => after (h .pattern rfl) fun _ => after (sign _) fun _ =>
    pure trivial) <|
  choice_cons (after (sign _) fun _ => after (optional (itemPatterns h)).any fun _ =>
    after (sign _) fun _ => pure trivial) <|
  choice_cons (after (sign _) fun _ => after (optional (openSequence h)).any fun _ =>
    after (sign _) fun _ => pure trivial) <|
  choice_cons (mappingPattern hP h) <| choice_cons (classPattern h hi) choice_nil

include h in
/-- Alternative patterns. -/
theorem alternatives : Passes i P (Grammar.alternatives rules) :=
  after (separated (h .closedPattern rfl) (sign _)).any fun _ => pure trivial

include h hi in
/-- A pattern, perhaps with a name for the value that it matches. -/
theorem pattern : Passes i P (Grammar.pattern rules) :=
  choice_cons (after (alternatives h) fun _ => after (keyword _) fun _ => captureName) <|
  choice_cons (diagnosis hi) <| choice_cons (alternatives h) choice_nil

include h in
/-- The patterns of a case. -/
theorem patterns : Passes i P (Grammar.patterns rules) :=
  orElse (openSequence h) (h .pattern rfl)

end Keeps
end FluentBuilder.Syntax.Grammar
