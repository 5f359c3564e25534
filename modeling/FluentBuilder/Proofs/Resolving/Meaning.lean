import FluentBuilder.Proofs.Outcome
import FluentBuilder.Proofs.Resolving.Memo

/-!
# What an annotation is resolved to

An annotation by itself is resolved to one reference, or it has one fault, whatever references are known
already (`outcome`, `Memoised.exec_eq`). Here is what that is, one equation for each form of annotation: a
dotted name gives its canonical reference, a union the members of both sides, and an annotation with
arguments gives its base with the references of the arguments, which are one for each item
(`outcome_subscript`).

The equations hold for every way to treat quoted annotations that does not depend on the table. The base
is resolved first and decides how the arguments are read, so that the arguments are a part of their own
(`argumentRefs`).
-/

namespace FluentBuilder

open Syntax Stateful

/-- A plain name names itself. -/
theorem dottedName_name (id : String) : (Expr.name id).dottedName = some id := by
  show some (String.ofList id.toList) = some id
  rw [String.ofList_toList]

namespace Resolving

variable {s : Surroundings} {table : Table TypeRef} {ε α β : Type}

/-! ### What parts come to -/

section

variable {part : ExceptT ε (StateM (Table TypeRef)) α}
variable {next : α → ExceptT ε (StateM (Table TypeRef)) β}

/-- What a part comes to by itself. -/
def outcome (part : ExceptT ε (StateM (Table TypeRef)) α) : Except ε α := (exec part []).1

/-- A memoised part yields what it comes to by itself. -/
theorem Memoised.yields (h : Memoised s part) : Yields s part (outcome part) := by
  obtain ⟨result, hresult⟩ := h
  obtain ⟨hself, -⟩ := hresult [] (sound_nil s)
  rw [outcome, hself]
  exact hresult

/-- A memoised part comes to the same from every table of canonical references. -/
theorem Memoised.exec_eq (h : Memoised s part) (hsound : Sound s table) :
    (exec part table).1 = outcome part :=
  (h.yields table hsound).1

/-- A result is what it is. -/
@[simp] theorem outcome_pure (a : α) :
    outcome (pure a : ExceptT ε (StateM (Table TypeRef)) α) = .ok a := rfl

/-- A fault is what it is. -/
@[simp] theorem outcome_throw (e : ε) :
    outcome (throw e : ExceptT ε (StateM (Table TypeRef)) α) = .error e := rfl

/-- One memoised part after another. -/
theorem outcome_bind (hpart : Memoised s part) (hnext : ∀ a, Memoised s (next a)) :
    outcome (part >>= next) = (outcome part).bind fun a => outcome (next a) := by
  obtain ⟨hfirst, hsound⟩ := hpart.yields [] (sound_nil s)
  rw [outcome, exec_bind]
  rcases hexec : exec part [] with ⟨fault | a, later⟩
  · rw [hexec] at hfirst
    rw [← hfirst]
    rfl
  · rw [hexec] at hfirst hsound
    rw [← hfirst]
    exact (hnext a).exec_eq hsound

/-- A memoised part with its result put to use. -/
theorem outcome_bind_pure (hpart : Memoised s part) (f : α → β) :
    outcome (part >>= fun a => pure (f a)) = (outcome part).map f := by
  rw [outcome_bind hpart fun a => memoised_of_const fun table => exec_pure (f a) table]
  cases outcome part with
  | error fault => rfl
  | ok a => rfl

end

/-- A name comes to its canonical reference. -/
@[simp] theorem outcome_name (s : Surroundings) (qualified : String) :
    outcome (name s qualified) = .ok (s.canonical qualified) :=
  (exec_name (sound_nil s) qualified).1

/-- What is written leaves the table alone. -/
theorem memoised_written (s : Surroundings) (e : Expr) : Memoised s (written e) :=
  (closed_memoised s).written e

/-! ### What annotations come to -/

/-- The items that stand as arguments: those of a tuple, or one. -/
def indexItems : Expr → List Expr
  | .tuple items => items
  | e => [e]

/-- The references of the arguments of an annotated type: that of the first one, and texts. -/
def annotatedRefs (s : Surroundings) (qualify : String → String)
    (forward : CodePoints → Resolving TypeRef) : List Expr → Resolving (List TypeRef)
  | [] => return []
  | first :: rest => do
    let ref ← expr s qualify forward first
    return ref :: (← writtenAll rest)

/-- The references of the arguments of a base. -/
def argumentRefs (s : Surroundings) (qualify : String → String)
    (forward : CodePoints → Resolving TypeRef) (base : TypeRef) (items : List Expr) :
    Resolving (List TypeRef) :=
  if literalForms.contains base.name then writtenAll items
  else if annotatedForms.contains base.name then annotatedRefs s qualify forward items
  else arguments s qualify forward items

section

variable {qualify : String → String} {forward : CodePoints → Resolving TypeRef} {base : TypeRef}
variable {e value index left right : Expr} {items : List Expr}

/-- An annotation with arguments is its base with the references of its arguments. -/
theorem expr_subscript (value index : Expr) :
    expr s qualify forward (.subscript value index) = (do
      let base ← expr s qualify forward value
      return withArguments base (← argumentRefs s qualify forward base (indexItems index))) := by
  rw [expr]
  refine bind_congr fun base => ?_
  rw [argumentRefs]
  cases index with
  | tuple items =>
    simp only [indexItems]
    split
    · rfl
    · split
      · cases items with
        | nil => simp [annotatedRefs]
        | cons first rest => simp [annotatedRefs]
      · rfl
  | _ =>
    simp only [indexItems]
    split
    · simp [writtenAll]
    · split
      · simp [annotatedRefs, writtenAll]
      · simp [arguments]

/-- Annotations are memoised if the quoted ones in them are. -/
theorem memoised_expr (hforward : ∀ value, Memoised s (forward value)) (e : Expr) :
    Memoised s (expr s qualify forward e) := by
  have hexpr := @Closed.expr s s _ qualify forward forward (closed_memoised s) hforward
  exact hexpr e

/-- Arguments are memoised. -/
theorem memoised_argument (hforward : ∀ value, Memoised s (forward value)) (e : Expr) :
    Memoised s (argument s qualify forward e) := by
  have hargument := @Closed.argument s s _ qualify forward forward (closed_memoised s) hforward
  exact hargument e

/-- Lists of arguments are memoised. -/
theorem memoised_arguments (hforward : ∀ value, Memoised s (forward value)) (items : List Expr) :
    Memoised s (arguments s qualify forward items) := by
  have harguments := @Closed.arguments s s _ qualify forward forward (closed_memoised s) hforward
  exact harguments items

/-- Lists of types are memoised. -/
theorem memoised_types (hforward : ∀ value, Memoised s (forward value)) (items : List Expr) :
    Memoised s (types s qualify forward items) := by
  have htypes := @Closed.types s s _ qualify forward forward (closed_memoised s) hforward
  exact htypes items

/-- The references of the arguments of a base are memoised. -/
theorem memoised_argumentRefs (hforward : ∀ value, Memoised s (forward value)) (base : TypeRef)
    (items : List Expr) : Memoised s (argumentRefs s qualify forward base items) := by
  have hclosed := closed_memoised s
  rw [argumentRefs]
  split
  · exact hclosed.writtenAll items
  · split
    · cases items with
      | nil => exact hclosed.pure []
      | cons first rest =>
        rw [annotatedRefs]
        exact (memoised_expr hforward first).bind fun _ => (hclosed.writtenAll rest).bind fun _ =>
          hclosed.pure _
    · exact memoised_arguments hforward items

/-- An annotation with arguments. -/
theorem outcome_subscript (hforward : ∀ value, Memoised s (forward value)) (value index : Expr) :
    outcome (expr s qualify forward (.subscript value index)) =
      (outcome (expr s qualify forward value)).bind fun base =>
        (outcome (argumentRefs s qualify forward base (indexItems index))).map
          (withArguments base) := by
  have hrest : ∀ base : TypeRef, Memoised s (do
      return withArguments base (← argumentRefs s qualify forward base (indexItems index))) :=
    fun base => (memoised_argumentRefs hforward base _).bind fun _ => (closed_memoised s).pure _
  rw [expr_subscript, outcome_bind (memoised_expr hforward value) hrest]
  refine congrArg _ (funext fun base => ?_)
  exact outcome_bind_pure (memoised_argumentRefs hforward base _) _

/-- A union has the members of both sides. -/
theorem outcome_either (hforward : ∀ value, Memoised s (forward value)) (left right : Expr) :
    outcome (expr s qualify forward (.binary .bitOr left right)) =
      (outcome (expr s qualify forward left)).bind fun l =>
        (outcome (expr s qualify forward right)).map fun r =>
          { TypeRef.named "typing" "Union" with args := unionMembers l ++ unionMembers r } := by
  rw [expr, outcome_bind (memoised_expr hforward left) fun _ =>
    (memoised_expr hforward right).bind fun _ => (closed_memoised s).pure _]
  refine congrArg _ (funext fun l => ?_)
  exact outcome_bind_pure (memoised_expr hforward right) _

/-- A dotted name gives its canonical reference. -/
theorem outcome_dottedName {dotted : String} (h : e.dottedName = some dotted) :
    outcome (expr s qualify forward e) = .ok (s.canonical (qualify dotted)) := by
  cases e with
  | name id =>
    obtain rfl := Option.some.inj ((dottedName_name id).symm.trans h)
    rw [expr, outcome_name]
  | «attribute» value member =>
    rw [expr]
    split
    · next found hfound =>
      obtain rfl := Option.some.inj (hfound.symm.trans h)
      exact outcome_name s _
    · next hnone => cases hnone.symm.trans h
  | _ => cases h

/-- The arguments of a base that is no special form come one by one. -/
theorem outcome_arguments (hforward : ∀ value, Memoised s (forward value)) (items : List Expr) :
    outcome (arguments s qualify forward items) =
      items.mapM fun e => outcome (argument s qualify forward e) := by
  induction items with
  | nil => rw [arguments]; rfl
  | cons e rest ih =>
    have hothers : Memoised s (arguments s qualify forward rest) := memoised_arguments hforward rest
    rw [arguments, Outcome.mapM_cons, ← ih, outcome_bind (memoised_argument hforward e) fun _ =>
      hothers.bind fun _ => (closed_memoised s).pure _]
    refine congrArg _ (funext fun ref => ?_)
    exact outcome_bind_pure hothers _

end

/-- Quoted annotations are memoised. -/
theorem memoised_quoted (s : Surroundings) (qualify : String → String) (depth : Nat)
    (value : CodePoints) : Memoised s (quoted s qualify depth value) :=
  (closed_memoised s).quoted depth value

end Resolving
end FluentBuilder
