import FluentBuilder.Syntax.Grammar.Sequence

/-!
# Targets

What can be assigned to, iterated into, deleted and annotated. A text that puts anything else at such
a place is at fault, and the fault is reported at the first part that is no target
(`Located.invalidTarget`).
-/

namespace FluentBuilder.Syntax.Grammar

open Grammar.Parser

/-! ### Expressions that are no targets -/

/-- What a kind of expression is called in a message. -/
def exprKindName : Expr → String
  | .name _ => "name"
  | .constant .none => "None"
  | .constant .ellipsis => "ellipsis"
  | .constant (.bool true) => "True"
  | .constant (.bool false) => "False"
  | .constant _ => "literal"
  | .joined _ => "f-string expression"
  | .attribute .. => "attribute"
  | .subscript .. => "subscript"
  | .slice .. => "slice"
  | .starred _ => "starred"
  | .tuple _ => "tuple"
  | .list _ => "list"
  | .set _ => "set display"
  | .dict _ => "dict literal"
  | .boolOp .. | .binary .. | .unary .. => "expression"
  | .compare .. => "comparison"
  | .call .. => "function call"
  | .conditional .. => "conditional expression"
  | .lambda .. => "lambda"
  | .named .. => "named expression"
  | .listOf .. => "list comprehension"
  | .setOf .. => "set comprehension"
  | .dictOf .. => "dict comprehension"
  | .generator .. => "generator expression"
  | .await _ => "await expression"
  | .yield _ | .yieldFrom _ => "yield expression"

/-- What is done with a target. -/
inductive TargetUse where
  | assigned | iterated | deleted
  deriving DecidableEq, Repr

mutual

/-- The first part of an expression that cannot be a target. -/
def Located.invalidTarget (use : TargetUse) : Located → Option Located
  | .mk e start parts =>
    match e with
    | .list _ | .tuple _ => firstInvalid use parts
    | .starred _ =>
      if use = .deleted then some (.mk e start parts) else firstInvalid use parts
    | .compare _ rest =>
      if use = .iterated then
        if (rest.head?.map Prod.fst) = some .isIn then firstInvalid use parts else none
      else some (.mk e start parts)
    | .name _ | .subscript .. | .attribute .. => none
    | _ => some (.mk e start parts)

/-- The first part of some expressions that cannot be a target. -/
def firstInvalid (use : TargetUse) : List Located → Option Located
  | [] => none
  | e :: rest =>
    match e.invalidTarget use with
    | some part => some part
    | none => firstInvalid use rest

end

/-- The fault of an expression that stands where a target is needed; misses where it can stand. -/
def refuseTarget {α : Type} (use : TargetUse) (e : Located) : Parser α :=
  match e.invalidTarget use with
  | some part =>
    let what := exprKindName part.expr
    faultAt (if use = .deleted then .cannotDelete what else .cannotAssign what) part.start
  | none => miss

/-! ### Members and items -/

/-- A value goes on behind this place. -/
def continuation : Parser Unit :=
  ahead (choice [sign "(", sign "[", sign "."])

/-- The name of a member. -/
def memberStep (left : Located) (start : Nat) : Parser Located := do
  let _ ← sign "."
  let name ← identifier
  return .whole (.attribute left.expr name) start

/-- A slice of positions. -/
def slice (rules : Rules) : Parser Located :=
  (do
    let start ← here
    let lower ← optional (rules .expression)
    let _ ← sign ":"
    let upper ← optional (rules .expression)
    let step ← optional do
      let _ ← sign ":"
      optional (rules .expression)
    return .whole (.slice (lower.map Located.expr) (upper.map Located.expr)
      (step.join.map Located.expr)) start) <|>
  rules .namedExpression

/-- What stands between the brackets behind a value. -/
def slices (rules : Rules) : Parser Located :=
  (do
    let index ← slice rules
    notAhead (sign ",")
    return index) <|>
  (do
    let start ← here
    let items ← separated (slice rules <|> starred (rules .expression)) (sign ",")
    let _ ← optional (sign ",")
    return .mk (.tuple (items.map Located.expr)) start items)

/-- The item of a value. -/
def itemStep (rules : Rules) (left : Located) (start : Nat) : Parser Located := do
  let _ ← sign "["
  let index ← slices rules
  let _ ← sign "]"
  return .whole (.subscript left.expr index.expr) start

/-- The arguments of a call. -/
def callStep (rules : Rules) (left : Located) (start : Nat) : Parser Located := do
  let _ ← sign "("
  let arguments ← optional (rules .arguments)
  let _ ← sign ")"
  let arguments : Arguments := arguments.getD ⟨[], []⟩
  return .whole (.call left.expr (arguments.positional.map Located.expr) arguments.keywords) start

/-- A call with a generator as its only argument. -/
def generatorStep (rules : Rules) (left : Located) (start : Nat) : Parser Located := do
  let argument : Located ← rules .generator
  return .whole (.call left.expr [argument.expr] []) start

/-- A value of which a member or an item is a target: all but the last step of it. -/
def targetPrimary (rules : Rules) (atom : Parser Located) : Parser Located := do
  let start ← here
  let first ← atom
  continuation
  extendWhile (fun left => do
    let next ← choice [memberStep left start, itemStep rules left start, generatorStep rules left start,
      callStep rules left start]
    continuation
    return next) first

/-- A member or an item of a value. -/
def partTarget (rules : Rules) : Parser Located :=
  let lastStep (step : Located → Nat → Parser Located) : Parser Located := do
    let start ← here
    let left : Located ← rules .targetPrimary
    let target ← step left start
    notAhead continuation
    return target
  lastStep memberStep <|> lastStep (itemStep rules)

/-! ### Targets of assignments -/

/-- Targets with commas between them. A single one may stand without a comma. -/
def starTargets (rules : Rules) : Parser Located :=
  (do
    let target ← rules .starTarget
    notAhead (sign ",")
    return target) <|>
  (do
    let start ← here
    let targets ← separated (rules .starTarget) (sign ",")
    let _ ← optional (sign ",")
    return .mk (.tuple (targets.map Located.expr)) start targets)

/-- A target, or one that takes several values. -/
def starTarget (rules : Rules) : Parser Located :=
  (do
    let start ← here
    let _ ← sign "*"
    notAhead (sign "*")
    let target : Located ← rules .starTarget
    return .mk (.starred target.expr) start [target]) <|>
  rules .starAtomTarget

/-- Targets inside brackets. -/
def enclosedTargets (rules : Rules) : Parser Located :=
  choice [
    nameExpr,
    do
      let _ ← sign "("
      let target ← rules .starAtomTarget
      let _ ← sign ")"
      return target,
    do
      let start ← here
      let _ ← sign "("
      let targets ← optional do
        let first ← rules .starTarget
        (do
          let rest ← many1 do
            let _ ← sign ","
            rules .starTarget
          let _ ← optional (sign ",")
          return first :: rest) <|>
        (do
          let _ ← sign ","
          return [first])
      let _ ← sign ")"
      let targets : List Located := targets.getD []
      return .mk (.tuple (targets.map Located.expr)) start targets,
    do
      let start ← here
      let _ ← sign "["
      let targets ← optional do
        let targets ← separated (rules .starTarget) (sign ",")
        let _ ← optional (sign ",")
        return targets
      let _ ← sign "]"
      let targets : List Located := targets.getD []
      return .mk (.list (targets.map Located.expr)) start targets]

/-- A target that takes one value. -/
def starAtomTarget (rules : Rules) : Parser Located :=
  partTarget rules <|> enclosedTargets rules

/-- A target that is no sequence. -/
def singleTarget (rules : Rules) : Parser Located :=
  choice [
    partTarget rules,
    nameExpr,
    do
      let _ ← sign "("
      let target ← rules .singleTarget
      let _ ← sign ")"
      return target]

/-! ### Targets of deletions -/

/-- Targets of a deletion. -/
def deletedTargets (rules : Rules) : Parser (List Located) := do
  let targets ← separated (rules .deletedTarget) (sign ",")
  let _ ← optional (sign ",")
  return targets

/-- A target of a deletion. -/
def deletedTarget (rules : Rules) : Parser Located :=
  let enclosed (opening closing : String) (build : List Expr → Expr) : Parser Located := do
    let start ← here
    let _ ← sign opening
    let targets ← optional (deletedTargets rules)
    let _ ← sign closing
    let targets := targets.getD []
    return .mk (build (targets.map Located.expr)) start targets
  choice [
    partTarget rules,
    nameExpr,
    do
      let _ ← sign "("
      let target ← rules .deletedTarget
      let _ ← sign ")"
      return target,
    enclosed "(" ")" .tuple,
    enclosed "[" "]" .list]

end FluentBuilder.Syntax.Grammar
