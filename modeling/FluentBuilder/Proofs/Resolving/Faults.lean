import Mathlib
import FluentBuilder.Proofs.Resolving.Reference

/-!
# Annotations that cannot be resolved

An annotation is resolved to a reference unless a part of it that is looked at is faulty (`Faulty`):
unless a quoted annotation holds a surrogate or the character of code zero, or a part that keeps its text
cannot be written. Everything else is resolved in one way or other, also what is no type, what names
nothing and what is quoted and cannot be read; and however deeply annotations are quoted in each other,
they are read to the end (`hint_returns_iff`).

**The route.** The fault that an annotation has is that of a part (`faulty_of_reference`, by induction
over the annotation with all that is read from the texts in it), and a faulty part leaves no reference to
the whole (`exists_of_faulty`, by induction over the place of the part).

A fault is not kept from the caller: `hint_of_hollow` has a class of one field with a quoted annotation
that can be written in every program.
-/

namespace FluentBuilder

open Syntax Stateful

namespace Resolving

variable {s : Surroundings} {qualify : String → String} {e : Expr} {fault : ResolveFault}

/-- A part of an annotation that is looked at has a fault: a quoted annotation holds surrogates or the
character of code zero, or what keeps its text cannot be written. What is looked at of arguments depends
on their base. -/
inductive Faulty (s : Surroundings) (qualify : String → String) : Expr → ResolveFault → Prop where
  /-- A quoted annotation holds surrogates. -/
  | surrogates {v : CodePoints} {marked : Bool} {run : SurrogateRun} :
      (stripped v).toText = .error run → Faulty s qualify (.constant (.text v marked)) (.surrogates run)
  /-- A quoted annotation holds the character of code zero. -/
  | null {v : CodePoints} {marked : Bool} {text : String} :
      (stripped v).toText = .ok text → s.parse text = .error .nullCharacter →
        Faulty s qualify (.constant (.text v marked)) .nullCharacter
  /-- A quoted annotation is read as a faulty one. -/
  | reads {v : CodePoints} {marked : Bool} {e : Expr} {fault : ResolveFault} :
      s.Reads v e → Faulty s qualify e fault → Faulty s qualify (.constant (.text v marked)) fault
  /-- What keeps its text cannot be written. -/
  | kept {e : Expr} {fault : RenderFault} :
      keptText e = some (.error fault) → Faulty s qualify e (.unwritable fault)
  /-- A base is faulty. -/
  | base {value index : Expr} {fault : ResolveFault} :
      Faulty s qualify value fault → Faulty s qualify (.subscript value index) fault
  /-- A literal argument cannot be written. -/
  | literal {value index e : Expr} {base : TypeRef} {fault : RenderFault} :
      reference s qualify value = .ok base → literalForms.contains base.name = true →
        e ∈ indexItems index → e.render = .error fault →
          Faulty s qualify (.subscript value index) (.unwritable fault)
  /-- An annotated type is faulty. -/
  | annotated {value index first : Expr} {rest : List Expr} {base : TypeRef} {fault : ResolveFault} :
      reference s qualify value = .ok base → literalForms.contains base.name = false →
        annotatedForms.contains base.name = true → indexItems index = first :: rest →
          Faulty s qualify first fault → Faulty s qualify (.subscript value index) fault
  /-- What is said about an annotated type cannot be written. -/
  | metadata {value index first e : Expr} {rest : List Expr} {base : TypeRef} {fault : RenderFault} :
      reference s qualify value = .ok base → literalForms.contains base.name = false →
        annotatedForms.contains base.name = true → indexItems index = first :: rest → e ∈ rest →
          e.render = .error fault → Faulty s qualify (.subscript value index) (.unwritable fault)
  /-- An argument is faulty. -/
  | argument {value index e : Expr} {base : TypeRef} {fault : ResolveFault} :
      reference s qualify value = .ok base → literalForms.contains base.name = false →
        annotatedForms.contains base.name = false → e ∈ indexItems index → isList e = false →
          Faulty s qualify e fault → Faulty s qualify (.subscript value index) fault
  /-- A type in a list of types is faulty. -/
  | item {value index e : Expr} {items : List Expr} {base : TypeRef} {fault : ResolveFault} :
      reference s qualify value = .ok base → literalForms.contains base.name = false →
        annotatedForms.contains base.name = false → .list items ∈ indexItems index → e ∈ items →
          Faulty s qualify e fault → Faulty s qualify (.subscript value index) fault
  /-- The left side of a union is faulty. -/
  | left {left right : Expr} {fault : ResolveFault} :
      Faulty s qualify left fault → Faulty s qualify (.binary .bitOr left right) fault
  /-- The right side of a union is faulty. -/
  | right {left right : Expr} {fault : ResolveFault} :
      Faulty s qualify right fault → Faulty s qualify (.binary .bitOr left right) fault

/-- A quoted annotation that can be read has the faults of what it is read as. -/
theorem faulty_text_iff {v : CodePoints} {marked : Bool} (h : s.Reads v e) :
    Faulty s qualify (.constant (.text v marked)) fault ↔ Faulty s qualify e fault := by
  refine ⟨fun hfault => ?_, .reads h⟩
  rcases hfault with hrun | ⟨htext, hnull⟩ | ⟨hreads, hfault⟩ | hkept
  · obtain ⟨text, htext, -⟩ := h
    cases htext.symm.trans hrun
  · obtain ⟨text, htext', he⟩ := h
    obtain rfl := Except.ok.inj (htext'.symm.trans htext)
    cases he.symm.trans hnull
  · exact h.unique hreads ▸ hfault
  · cases hkept

/-- The fault of a text. -/
theorem literalReference_eq_error {text : Except RenderFault String}
    (h : literalReference text = .error fault) :
    ∃ reason, text = .error reason ∧ fault = .unwritable reason := by
  cases text with
  | ok text => cases h
  | error reason => exact ⟨reason, rfl, (Except.error.inj h).symm⟩

/-- The fault of one of several texts. -/
theorem exists_of_writtenAll {items : List Expr}
    (h : (items.mapM fun e => literalReference e.render) = .error fault) :
    ∃ e ∈ items, ∃ reason, e.render = .error reason ∧ fault = .unwritable reason := by
  obtain ⟨e, he, hfault⟩ := Outcome.exists_of_mapM_eq_error h
  exact ⟨e, he, literalReference_eq_error hfault⟩

/-- The fault of arguments is that of one of them. -/
theorem faulty_of_arguments {value index : Expr} {base : TypeRef}
    (hbase : reference s qualify value = .ok base)
    (hitems : ∀ e ∈ indexItems index, ∀ fault, reference s qualify e = .error fault →
      Faulty s qualify e fault)
    (hlists : ∀ items, .list items ∈ indexItems index → ∀ e ∈ items, ∀ fault,
      reference s qualify e = .error fault → Faulty s qualify e fault)
    (h : argumentReferences s qualify base (indexItems index) = .error fault) :
    Faulty s qualify (.subscript value index) fault := by
  rw [argumentReferences] at h
  split at h
  · next hliteral =>
    obtain ⟨e, he, reason, hreason, rfl⟩ := exists_of_writtenAll h
    exact .literal hbase hliteral he hreason
  next hliteral =>
  rw [Bool.not_eq_true] at hliteral
  split at h
  · next hannotated =>
    cases hindex : indexItems index with
    | nil =>
      rw [hindex] at h
      cases h
    | cons first rest =>
      rw [hindex, annotatedReferences] at h
      cases hfirst : reference s qualify first with
      | error reason =>
        rw [hfirst] at h
        obtain rfl := Except.error.inj h
        exact .annotated hbase hliteral hannotated hindex
          (hitems first (hindex ▸ List.mem_cons_self) _ hfirst)
      | ok ref =>
        cases hrest : rest.mapM fun e => literalReference e.render with
        | error reason =>
          rw [hfirst, hrest] at h
          obtain rfl := Except.error.inj h
          obtain ⟨e, he, reason, hreason, rfl⟩ := exists_of_writtenAll hrest
          exact .metadata hbase hliteral hannotated hindex he hreason
        | ok refs =>
          rw [hfirst, hrest] at h
          cases h
  next hannotated =>
  rw [Bool.not_eq_true] at hannotated
  obtain ⟨e, he, hfault⟩ := Outcome.exists_of_mapM_eq_error h
  cases hlist : isList e with
  | false =>
    rw [argumentReference_of_not_list hlist] at hfault
    exact .argument hbase hliteral hannotated he hlist (hitems e he _ hfault)
  | true =>
    obtain ⟨items, rfl⟩ : ∃ items, e = .list items := by
      cases e with
      | list items => exact ⟨items, rfl⟩
      | _ => cases hlist
    rw [argumentReference_list] at hfault
    cases hmap : items.mapM (reference s qualify) with
    | error reason =>
      rw [hmap] at hfault
      obtain rfl := Except.error.inj hfault
      obtain ⟨item, hitem, hreason⟩ := Outcome.exists_of_mapM_eq_error hmap
      exact .item hbase hliteral hannotated he hitem (hlists items he item hitem _ hreason)
    | ok refs =>
      rw [hmap] at hfault
      cases hfault

/-- Several texts have a fault as soon as one of them has one. -/
theorem exists_of_writtenAll_of_mem {items : List Expr} {reason : RenderFault} (he : e ∈ items)
    (h : e.render = .error reason) :
    ∃ fault, (items.mapM fun e => literalReference e.render) = .error fault :=
  Outcome.exists_of_mem_of_error (e := .unwritable reason) he (by rw [h]; rfl)

/-- **The fault of an annotation is that of one of its parts that are looked at.** -/
theorem faulty_of_reference (hs : s.Shortens) (e : Expr) :
    ∀ fault, reference s qualify e = .error fault → Faulty s qualify e fault := by
  induction e using reference_induction hs with
  | none =>
    intro fault h
    rw [reference_none] at h
    cases h
  | ellipsis =>
    intro fault h
    rw [reference_ellipsis] at h
    cases h
  | text v marked ih =>
    intro fault h
    rcases readings s v with ⟨run, hrun⟩ | ⟨e, he⟩ | ⟨text, htext, hnull | ⟨reason, hreason⟩⟩
    · rw [reference_text, quoted_of_surrogates hrun, outcome_throw] at h
      obtain rfl := Except.error.inj h
      exact .surrogates hrun
    · rw [reference_of_reads hs he] at h
      exact .reads he (ih e he fault h)
    · rw [reference_text, quoted_of_null htext hnull, outcome_throw] at h
      obtain rfl := Except.error.inj h
      exact .null htext hnull
    · rw [reference_text, quoted_of_fault htext hreason, outcome_pure] at h
      cases h
  | dotted e name hname =>
    intro fault h
    rw [reference_dottedName hname] at h
    cases h
  | kept e text htext =>
    intro fault h
    rw [reference_of_keptText htext] at h
    obtain ⟨reason, rfl, rfl⟩ := literalReference_eq_error h
    exact .kept htext
  | subscript value index hvalue hitems hlists =>
    intro fault h
    rw [reference_subscript] at h
    cases hbase : reference s qualify value with
    | error reason =>
      rw [hbase] at h
      obtain rfl := Except.error.inj h
      exact .base (hvalue _ hbase)
    | ok base =>
      cases hargs : argumentReferences s qualify base (indexItems index) with
      | error reason =>
        rw [hbase] at h
        simp only [Except.bind, hargs] at h
        obtain rfl := Except.error.inj h
        exact faulty_of_arguments hbase hitems hlists hargs
      | ok refs =>
        rw [hbase] at h
        simp only [Except.bind, hargs] at h
        cases h
  | either left right hleft hright =>
    intro fault h
    rw [reference_either] at h
    cases hl : reference s qualify left with
    | error reason =>
      rw [hl] at h
      obtain rfl := Except.error.inj h
      exact .left (hleft _ hl)
    | ok l =>
      cases hr : reference s qualify right with
      | error reason =>
        rw [hl, hr] at h
        obtain rfl := Except.error.inj h
        exact .right (hright _ hr)
      | ok r =>
        rw [hl, hr] at h
        cases h

/-- An annotation with arguments has a fault if these have one. -/
theorem exists_of_arguments {value index : Expr} {base : TypeRef} {reason : ResolveFault}
    (hbase : reference s qualify value = .ok base)
    (h : argumentReferences s qualify base (indexItems index) = .error reason) :
    ∃ fault, reference s qualify (.subscript value index) = .error fault :=
  ⟨reason, by rw [reference_subscript, hbase]; simp only [Except.bind, h]; rfl⟩

/-- An argument that is no list has a fault if it has one as a type. -/
theorem exists_of_argument {value index : Expr} {base : TypeRef} {reason : ResolveFault}
    (hbase : reference s qualify value = .ok base) (hliteral : literalForms.contains base.name = false)
    (hannotated : annotatedForms.contains base.name = false) (he : e ∈ indexItems index)
    (h : argumentReference s qualify e = .error reason) :
    ∃ fault, reference s qualify (.subscript value index) = .error fault := by
  obtain ⟨fault, hfault⟩ := Outcome.exists_of_mem_of_error he h
  have hargs : argumentReferences s qualify base (indexItems index) = .error fault := by
    rw [argumentReferences, hliteral, hannotated]
    exact hfault
  exact exists_of_arguments hbase hargs

/-- **A part that is looked at and has a fault keeps the annotation from being resolved.** -/
theorem exists_of_faulty (hs : s.Shortens) (h : Faulty s qualify e fault) :
    ∃ reason, reference s qualify e = .error reason := by
  induction h with
  | surrogates hrun => exact ⟨_, by rw [reference_text, quoted_of_surrogates hrun, outcome_throw]⟩
  | null htext hnull => exact ⟨_, by rw [reference_text, quoted_of_null htext hnull, outcome_throw]⟩
  | reads he _ ih =>
    obtain ⟨reason, hreason⟩ := ih
    exact ⟨reason, by rw [reference_of_reads hs he, hreason]⟩
  | kept hkept => exact ⟨_, by rw [reference_of_keptText hkept]; rfl⟩
  | base _ ih =>
    obtain ⟨reason, hreason⟩ := ih
    exact ⟨reason, by rw [reference_subscript, hreason]; rfl⟩
  | @literal value index e base fault hbase hliteral he hreason =>
    obtain ⟨reason, hargs⟩ := exists_of_writtenAll_of_mem he hreason
    exact exists_of_arguments hbase ((if_pos hliteral).trans hargs)
  | @annotated value index first rest base fault hbase hliteral hannotated hindex _ ih =>
    obtain ⟨reason, hreason⟩ := ih
    have hargs : argumentReferences s qualify base (indexItems index) = .error reason := by
      rw [argumentReferences, hliteral, hannotated, hindex]
      simp only [annotatedReferences, hreason]
      rfl
    exact exists_of_arguments hbase hargs
  | @metadata value index first e rest base fault hbase hliteral hannotated hindex he hreason =>
    obtain ⟨reason, hrest⟩ := exists_of_writtenAll_of_mem he hreason
    obtain ⟨fault, hargs⟩ : ∃ fault, annotatedReferences s qualify (first :: rest) = .error fault := by
      rw [annotatedReferences, hrest]
      cases reference s qualify first with
      | error fault => exact ⟨fault, rfl⟩
      | ok ref => exact ⟨reason, rfl⟩
    rw [← hindex] at hargs
    have hargs : argumentReferences s qualify base (indexItems index) = .error fault := by
      rw [argumentReferences, hliteral, hannotated]
      exact hargs
    exact exists_of_arguments hbase hargs
  | argument hbase hliteral hannotated he hlist _ ih =>
    obtain ⟨reason, hreason⟩ := ih
    exact exists_of_argument hbase hliteral hannotated he
      ((argumentReference_of_not_list hlist).trans hreason)
  | item hbase hliteral hannotated hlist he _ ih =>
    obtain ⟨reason, hreason⟩ := ih
    obtain ⟨fault, hfault⟩ := Outcome.exists_of_mem_of_error he hreason
    exact exists_of_argument hbase hliteral hannotated hlist
      (by rw [argumentReference_list, hfault]; rfl)
  | left _ ih =>
    obtain ⟨reason, hreason⟩ := ih
    exact ⟨reason, by rw [reference_either, hreason]; rfl⟩
  | @right left right fault _ ih =>
    obtain ⟨reason, hreason⟩ := ih
    rw [reference_either, hreason]
    cases reference s qualify left with
    | error fault => exact ⟨fault, rfl⟩
    | ok ref => exact ⟨reason, rfl⟩

end Resolving

open Resolving Source

/-! ### When annotations are resolved -/

/-- **When an annotation is resolved.** An annotation in a class is resolved to a reference, whatever
references are known already, unless a part of it that is looked at is faulty; if it is not resolved, the
fault is that of such a part. -/
theorem hint_returns_iff (tree : Tree) (d : Declaration) (e : Expr) {table : Table TypeRef}
    (h : Sound (.ofTree tree) table) :
    ((∃ ref, (exec (hint (.ofTree tree) e d) table).1 = .ok ref) ↔
        ∀ fault, ¬ Faulty (.ofTree tree) (tree.qualify d.module d.innerScope) e fault) ∧
      ∀ fault, (exec (hint (.ofTree tree) e d) table).1 = .error fault →
        Faulty (.ofTree tree) (tree.qualify d.module d.innerScope) e fault := by
  rw [exec_hint h]
  have hfaulty : ∀ fault, reference (.ofTree tree) (tree.qualify d.module d.innerScope) e = .error fault →
      Faulty (.ofTree tree) (tree.qualify d.module d.innerScope) e fault :=
    faulty_of_reference (shortens_ofTree tree) e
  refine ⟨⟨?_, fun hnone => ?_⟩, hfaulty⟩
  · rintro ⟨ref, href⟩ fault hfault
    obtain ⟨reason, hreason⟩ := exists_of_faulty (shortens_ofTree tree) hfault
    cases href.symm.trans hreason
  · cases href : reference (.ofTree tree) (tree.qualify d.module d.innerScope) e with
    | ok ref => exact ⟨ref, href⟩
    | error fault => exact absurd (hfaulty fault href) (hnone fault)

/-- A union whose second member is quoted. -/
def halfQuoted : Expr := .binary .bitOr (.constant .none) (.constant (.text [78, 111, 110, 101] false))

/-- A class with a field whose annotation is a quoted character of code zero. -/
def hollowText : String := "class Car:\n    size: \"in\\x00t\"\n"

/-- The annotation of the field. -/
def hollowHint : Expr := .constant (.text [105, 110, 0, 116] false)

/-- The module of the class. -/
def hollowModule : Module :=
  ⟨"m", Path.ofText "m.py", false,
    [.classDef "Car" [] [] [.annotated (.name "size") hollowHint none] ⟨1, 0⟩]⟩

/-- The class. -/
def hollowCar : Declaration :=
  ⟨hollowModule, [], "Car", [], ⟨1, 0⟩, .classDef []
    [.annotated (.name "size") hollowHint none]⟩

/-- Nothing is faulty in the union. -/
theorem hint_of_halfQuoted :
    ∃ ref, (exec (hint (.ofTree ⟨[("m", hollowModule)]⟩) halfQuoted hollowCar) []).1 = .ok ref := by
  refine (hint_returns_iff ⟨[("m", hollowModule)]⟩ hollowCar halfQuoted (sound_nil _)).1.mpr
    fun fault hfault => ?_
  have hnone : ¬ Faulty (.ofTree ⟨[("m", hollowModule)]⟩)
      (Tree.qualify ⟨[("m", hollowModule)]⟩ hollowCar.module hollowCar.innerScope) (.constant .none)
      fault := by
    rintro (_ | _)
    rename_i hkept
    cases hkept
  rcases hfault with _ | _ | _ | hkept | _ | _ | _ | _ | _ | _ | hleft | hright
  · cases hkept
  · exact hnone hleft
  exact hnone ((faulty_text_iff (reads_quotedNone _)).mp hright)

/-- The text that is quoted in the annotation. -/
theorem stripped_hollow : (stripped [105, 110, 0, 116]).toText = .ok "in\x00t" := by cbv

/-- The text that is quoted in the annotation cannot be read. -/
theorem parse_hollow : parseExpression "in\x00t" = .error .nullCharacter := by cbv

/-- **A fault reaches the caller**: the annotation of the only field of a class, in a tree that is read
from a text, is not resolved. -/
theorem hint_of_hollow :
    Tree.ofTexts (fun _ => none) [("m", hollowText)] [] = .ok ⟨[("m", hollowModule)]⟩ ∧
      hollowCar ∈ Tree.declarations ⟨[("m", hollowModule)]⟩ ∧
      Statement.annotated (.name "size") hollowHint none ∈ hollowCar.body ∧
      ∀ ref, (exec (hint (.ofTree ⟨[("m", hollowModule)]⟩) hollowHint hollowCar) []).1 ≠ .ok ref := by
  refine ⟨by cbv, List.mem_cons_self, List.mem_cons_self, fun ref href => ?_⟩
  rw [exec_hint (sound_nil _), hollowHint, reference_text,
    quoted_of_null stripped_hollow parse_hollow, outcome_throw] at href
  cases href

end FluentBuilder
