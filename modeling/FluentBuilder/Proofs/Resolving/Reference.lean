import FluentBuilder.Proofs.Resolving.Forward

/-!
# The reference of an annotation

`reference` is what an annotation is resolved to by itself, with the quoted annotations in it read as
deeply as they go. For each form of annotation there is one equation; that of an annotation with
arguments takes them one by one (`argumentReferences`), as its base says. What is none of these forms
keeps its text (`keptText`).
-/

namespace FluentBuilder

open Syntax Stateful

namespace Resolving

variable {s : Surroundings} {qualify : String → String} {e value index left right : Expr}

/-- What an annotation is resolved to, or why it cannot be resolved. -/
def reference (s : Surroundings) (qualify : String → String) (e : Expr) :
    Except ResolveFault TypeRef :=
  outcome (hintWith s qualify e)

/-- **The reference of an annotation does not depend on what is known already.** -/
theorem exec_hint {table : Table TypeRef} (h : Sound s table) (e : Expr) (d : Source.Declaration) :
    (exec (hint s e d) table).1 = reference s (s.tree.qualify d.module d.innerScope) e :=
  (memoised_hint s e d).exec_eq h

/-- Quoted annotations are memoised, whatever their length. -/
theorem memoised_forward (s : Surroundings) (qualify : String → String) (v : CodePoints) :
    Memoised s (quoted s qualify (v.length + 1) v) :=
  memoised_quoted s qualify _ v

/-! ### Names, texts and what is kept -/

/-- The absent value. -/
theorem reference_none : reference s qualify (.constant .none) = .ok .none := by
  rw [reference, hintWith, expr, outcome_pure]

/-- The three points. -/
theorem reference_ellipsis : reference s qualify (.constant .ellipsis) = .ok (.ofLiteral "...") := by
  rw [reference, hintWith, expr, outcome_pure]

/-- A dotted name. -/
theorem reference_dottedName {dotted : String} (h : e.dottedName = some dotted) :
    reference s qualify e = .ok (s.canonical (qualify dotted)) :=
  outcome_dottedName h

/-- A quoted annotation. -/
theorem reference_text (v : CodePoints) (marked : Bool) :
    reference s qualify (.constant (.text v marked)) = outcome (quoted s qualify (v.length + 1) v) := by
  rw [reference, hintWith, expr]

/-- A quoted annotation that can be read. -/
theorem reference_of_reads (hs : s.Shortens) {v : CodePoints} (h : s.Reads v e) (marked : Bool) :
    reference s qualify (.constant (.text v marked)) = reference s qualify e := by
  rw [reference, hintWith_of_reads hs h, reference]

/-- The text of an annotation that is none of the forms that are resolved, if it is none of them. -/
def keptText (e : Expr) : Option (Except RenderFault String) :=
  match e with
  | .constant .none | .constant .ellipsis | .constant (.text ..) => none
  | .constant value => some value.render
  | .name _ | .subscript .. | .binary .bitOr .. => none
  | .attribute value member =>
    if (Expr.attribute value member).dottedName.isSome then none
    else some (Expr.attribute value member).render
  | e => some e.render

/-- The reference that is a text, which may have a fault. -/
def literalReference (text : Except RenderFault String) : Except ResolveFault TypeRef :=
  (text.map TypeRef.ofLiteral).mapError .unwritable

/-- An expression that stands as it is written. -/
theorem outcome_written (e : Expr) : outcome (written e) = literalReference e.render := by
  rw [written]
  cases e.render with
  | ok text => rfl
  | error fault => rfl

/-- An annotation that keeps its text. -/
theorem reference_of_keptText {text : Except RenderFault String} (h : keptText e = some text) :
    reference s qualify e = literalReference text := by
  rw [reference, hintWith]
  cases e with
  | name id => cases h
  | subscript value index => cases h
  | constant value =>
    cases value with
    | none | ellipsis | text => cases h
    | _ =>
      obtain rfl := Option.some.inj h
      rw [expr]
      · split <;> rename_i hrender <;> rw [hrender] <;> rfl
      all_goals simp
  | «attribute» value member =>
    rw [keptText] at h
    split at h
    · cases h
    · next hdotted =>
      obtain rfl := Option.some.inj h
      rw [expr]
      cases hname : (Expr.attribute value member).dottedName with
      | none => exact outcome_written _
      | some dotted => exact absurd (by rw [hname]; rfl) hdotted
  | binary op left right =>
    cases op with
    | bitOr => cases h
    | _ =>
      obtain rfl := Option.some.inj h
      rw [expr]
      · exact outcome_written _
      all_goals simp
  | _ =>
    obtain rfl := Option.some.inj h
    rw [expr]
    · exact outcome_written _
    all_goals simp

/-! ### Arguments -/

/-- The texts of expressions are those of each of them. -/
theorem outcome_writtenAll (s : Surroundings) (items : List Expr) :
    outcome (writtenAll items) = items.mapM fun e => literalReference e.render := by
  have hclosed := closed_memoised s
  induction items with
  | nil => rw [writtenAll]; rfl
  | cons e rest ih =>
    rw [writtenAll, Outcome.mapM_cons, ← ih, ← outcome_written, outcome_bind (memoised_written s e)
      fun _ => (hclosed.writtenAll rest).bind fun _ => hclosed.pure _]
    refine congrArg _ (funext fun ref => ?_)
    exact outcome_bind_pure (hclosed.writtenAll rest) _

/-- The references of types are those of each of them. -/
theorem outcome_types (items : List Expr) :
    outcome (types s qualify (fun v => quoted s qualify (v.length + 1) v) items) =
      items.mapM (reference s qualify) := by
  have hclosed := closed_memoised s
  have hforward := memoised_forward s qualify
  induction items with
  | nil => rw [types]; rfl
  | cons e rest ih =>
    have hothers : Memoised s (types s qualify (fun v => quoted s qualify (v.length + 1) v) rest) :=
      memoised_types hforward rest
    rw [types, Outcome.mapM_cons, ← ih, outcome_bind (memoised_expr hforward e) fun _ =>
      hothers.bind fun _ => hclosed.pure _]
    refine congrArg _ (funext fun ref => ?_)
    exact outcome_bind_pure hothers _

/-- The reference of an argument. -/
def argumentReference (s : Surroundings) (qualify : String → String) (e : Expr) :
    Except ResolveFault TypeRef :=
  outcome (argument s qualify (fun v => quoted s qualify (v.length + 1) v) e)

/-- A list of types is a reference without a name. -/
theorem argumentReference_list (items : List Expr) :
    argumentReference s qualify (.list items) = (items.mapM (reference s qualify)).map fun refs =>
      { TypeRef.named "" "" with args := refs } := by
  rw [argumentReference, argument, outcome_bind_pure
    (memoised_types (memoised_forward s qualify) items), outcome_types]

/-- Is it a list? -/
def isList : Expr → Bool
  | .list _ => true
  | _ => false

/-- Any other argument is a type. -/
theorem argumentReference_of_not_list (h : isList e = false) :
    argumentReference s qualify e = reference s qualify e := by
  rw [argumentReference, argument]
  · rfl
  · rintro items rfl
    cases h

/-- The references of the arguments of an annotated type. -/
def annotatedReferences (s : Surroundings) (qualify : String → String) :
    List Expr → Except ResolveFault (List TypeRef)
  | [] => .ok []
  | first :: rest => (reference s qualify first).bind fun ref =>
    (rest.mapM fun e => literalReference e.render).map (ref :: ·)

/-- The references of the arguments of a base: texts, or a type and texts, or types and lists of
types. -/
def argumentReferences (s : Surroundings) (qualify : String → String) (base : TypeRef)
    (items : List Expr) : Except ResolveFault (List TypeRef) :=
  if literalForms.contains base.name then items.mapM fun e => literalReference e.render
  else if annotatedForms.contains base.name then annotatedReferences s qualify items
  else items.mapM (argumentReference s qualify)

/-- **An annotation with arguments** is its base with the references of its arguments. -/
theorem reference_subscript (value index : Expr) :
    reference s qualify (.subscript value index) = (reference s qualify value).bind fun base =>
      (argumentReferences s qualify base (indexItems index)).map (withArguments base) := by
  have hclosed := closed_memoised s
  have hforward := memoised_forward s qualify
  rw [reference, hintWith, outcome_subscript hforward]
  refine congrArg _ (funext fun base => congrArg _ ?_)
  rw [argumentRefs, argumentReferences]
  split
  · exact outcome_writtenAll s _
  split
  · cases indexItems index with
    | nil => rw [annotatedRefs]; rfl
    | cons first rest =>
      rw [annotatedRefs, annotatedReferences, ← outcome_writtenAll s,
        outcome_bind (memoised_expr hforward first) fun _ => (hclosed.writtenAll rest).bind fun _ =>
          hclosed.pure _]
      refine congrArg _ (funext fun ref => ?_)
      exact outcome_bind_pure (hclosed.writtenAll rest) _
  · exact outcome_arguments hforward _

/-- **A union** has the members of both sides. -/
theorem reference_either (left right : Expr) :
    reference s qualify (.binary .bitOr left right) = (reference s qualify left).bind fun l =>
      (reference s qualify right).map fun r =>
        { TypeRef.named "typing" "Union" with args := unionMembers l ++ unionMembers r } :=
  outcome_either (memoised_forward s qualify) left right

/-! ### Induction over annotations -/

/-- The items of an index are smaller than what it is the index of. -/
theorem sizeOf_lt_of_mem_indexItems {value index e : Expr} (h : e ∈ indexItems index) :
    sizeOf e < sizeOf (Expr.subscript value index) := by
  have hindex : sizeOf e ≤ sizeOf index := by
    cases index with
    | tuple items =>
      rw [indexItems] at h
      have hitem := List.sizeOf_lt_of_mem h
      simp only [Expr.tuple.sizeOf_spec]
      omega
    | _ => rw [List.mem_singleton.mp h]
  simp only [Expr.subscript.sizeOf_spec]
  omega

/-- Every annotation is of one of seven forms; two of them have annotations as parts. -/
theorem annotation_induction {motive : Expr → Prop} (none : motive (.constant .none))
    (ellipsis : motive (.constant .ellipsis)) (text : ∀ v marked, motive (.constant (.text v marked)))
    (dotted : ∀ e dotted, e.dottedName = some dotted → motive e)
    (kept : ∀ e text, keptText e = some text → motive e)
    (subscript : ∀ value index, motive value → (∀ e ∈ indexItems index, motive e) →
      (∀ items, .list items ∈ indexItems index → ∀ e ∈ items, motive e) →
      motive (.subscript value index))
    (either : ∀ left right, motive left → motive right → motive (.binary .bitOr left right))
    (e : Expr) : motive e := by
  induction hn : sizeOf e using Nat.strong_induction_on generalizing e with
  | _ n ih =>
  subst hn
  cases e with
  | name id => exact dotted _ _ (dottedName_name id)
  | constant value =>
    cases value with
    | none => exact none
    | ellipsis => exact ellipsis
    | text v marked => exact text v marked
    | _ => exact kept _ _ rfl
  | «attribute» value member =>
    cases hname : (Expr.attribute value member).dottedName with
    | none => exact kept _ _ (by rw [keptText, hname]; rfl)
    | some name => exact dotted _ name hname
  | subscript value index =>
    refine subscript value index (ih _ (by simp only [Expr.subscript.sizeOf_spec]; omega) _ rfl)
      (fun e he => ih _ (sizeOf_lt_of_mem_indexItems he) _ rfl) fun items hitems e he => ?_
    have hlist : sizeOf (Expr.list items) < sizeOf (Expr.subscript value index) :=
      sizeOf_lt_of_mem_indexItems hitems
    have hitem := List.sizeOf_lt_of_mem he
    simp only [Expr.list.sizeOf_spec] at hlist
    exact ih _ (by omega) _ rfl
  | binary op left right =>
    cases op with
    | bitOr =>
      have hleft : sizeOf left < sizeOf (Expr.binary .bitOr left right) := by
        simp only [Expr.binary.sizeOf_spec]
        omega
      have hright : sizeOf right < sizeOf (Expr.binary .bitOr left right) := by
        simp only [Expr.binary.sizeOf_spec]
        omega
      exact either left right (ih _ hleft _ rfl) (ih _ hright _ rfl)
    | _ => exact kept _ _ rfl
  | _ => exact kept _ _ rfl

/-- What an item of an index holds, is held by what it is the index of. -/
theorem holds_of_mem_indexItems {value index e : Expr} {v : CodePoints} (he : e ∈ indexItems index)
    (h : e.Holds v) : (Expr.subscript value index).Holds v := by
  cases index with
  | tuple items => exact .index (.tuple he h)
  | _ =>
    obtain rfl := List.mem_singleton.mp he
    exact .index h

/-- **Induction over annotations with all that is read from the texts in them.** -/
theorem reference_induction (hs : s.Shortens) {motive : Expr → Prop} (none : motive (.constant .none))
    (ellipsis : motive (.constant .ellipsis))
    (text : ∀ v marked, (∀ e, s.Reads v e → motive e) → motive (.constant (.text v marked)))
    (dotted : ∀ e dotted, e.dottedName = some dotted → motive e)
    (kept : ∀ e text, keptText e = some text → motive e)
    (subscript : ∀ value index, motive value → (∀ e ∈ indexItems index, motive e) →
      (∀ items, .list items ∈ indexItems index → ∀ e ∈ items, motive e) →
      motive (.subscript value index))
    (either : ∀ left right, motive left → motive right → motive (.binary .bitOr left right))
    (e : Expr) : motive e := by
  refine reading_induction hs (fun e => ?_) e
  induction e using annotation_induction with
  | none => exact fun _ => none
  | ellipsis => exact fun _ => ellipsis
  | text v marked => exact fun h => text v marked fun e' => h v e' (.text marked)
  | dotted e name hname => exact fun _ => dotted e name hname
  | kept e written hwritten => exact fun _ => kept e written hwritten
  | subscript value index hvalue hitems hlists =>
    intro h
    refine subscript value index (hvalue fun v e' hv => h v e' hv.value)
      (fun e he => hitems e he fun v e' hv => h v e' (holds_of_mem_indexItems he hv))
      fun items hlist e he => hlists items hlist e he fun v e' hv =>
        h v e' (holds_of_mem_indexItems hlist (.list he hv))
  | either left right hleft hright =>
    intro h
    exact either left right (hleft fun v e' hv => h v e' hv.left)
      (hright fun v e' hv => h v e' hv.right)

end Resolving
end FluentBuilder
