import Mathlib
import FluentBuilder.Proofs.Resolving.Reference
import FluentBuilder.Proofs.Source.Rehinted

/-!
# Quoting annotations

To put an annotation in quotes changes nothing: the class has the same fields, and these have the same
types. Neither does it to put a part of an annotation in quotes (`Requoted`): a side of a union, an argument
of a type, or a type in a list of types, at any depth and in quoted annotations too (`ownFields_of_quotes`).
It does where an annotation keeps its text, as the arguments of a call do (`hint_of_requotedCall`).

**The route.** A quoted annotation that can be read is unquoted, and resolved, like what it is read as;
a part in quotes keeps the reference of every form of annotation around it, by induction over the place of
the part. Trees that differ in annotations only are compared by `Tree.Rehinted`.
-/

namespace FluentBuilder

open Syntax Source Stateful

/-! ### Whole annotations -/

/-- An annotation is put in quotes, or it stays what it is. -/
inductive Surroundings.Quotes (s : Surroundings) : Expr → Expr → Prop where
  /-- It stays. -/
  | same (e : Expr) : Quotes s e e
  /-- It is put in quotes, with blanks at the ends of the text or without. -/
  | quoted {v : CodePoints} {e : Expr} (marked : Bool) :
      s.Reads v e → (∀ w marked, e ≠ .constant (.text w marked)) →
        Quotes s e (.constant (.text v marked))

section

variable {s s' : Surroundings} {d d' : Declaration} {e e' : Expr} {v : CodePoints}

/-- What is in quotes is what it is read as. -/
theorem unquote_of_reads (h : s.Reads v e) (marked : Bool) :
    unquote s (.constant (.text v marked)) = .ok (some e) := by
  obtain ⟨text, htext, he⟩ := h
  simp only [unquote, htext, he]

/-- What is no text is not in quotes. -/
theorem unquote_of_ne_text (h : ∀ w marked, e ≠ .constant (.text w marked)) :
    unquote s e = .ok (some e) := by
  rw [unquote]
  exact h

/-- Quotes around an annotation are taken away. -/
theorem unquote_of_quotes (h : s.Quotes e e') : unquote s e' = unquote s e := by
  cases h with
  | same => rfl
  | quoted marked hreads htext => rw [unquote_of_reads hreads, unquote_of_ne_text htext]

/-- Marks of variables of the class itself can be quoted. -/
theorem isClassVar_of_quotes (h : s.Quotes e e') : isClassVar s d e' = isClassVar s d e := by
  rw [isClassVar, isClassVar, unquote_of_quotes h]

/-- So can the mark for fields that are given by name. -/
theorem isKeywordMark_of_quotes (h : s.Quotes e e') : isKeywordMark s d e' = isKeywordMark s d e := by
  rw [isKeywordMark, isKeywordMark, qualifiedIn, qualifiedIn, unquote_of_quotes h]

/-- A quoted annotation has the same reference. -/
theorem reference_of_quotes (hs : s.Shortens) (h : s.Quotes e e') (qualify : String → String) :
    Resolving.reference s qualify e' = Resolving.reference s qualify e := by
  cases h with
  | same => rfl
  | quoted marked hreads => exact Resolving.reference_of_reads hs hreads marked

/-- A statement contributes a field of the same name with quotes around the annotation. -/
theorem agree_ownField {statement statement' : Statement} (h : statement.Rehinted s.Quotes statement') :
    Outcome.Agree (Option.Rel fun field field' => field'.1 = field.1 ∧ s.Quotes field.2 field'.2)
      (ownField s d statement) (ownField s d statement') := by
  have hsame (statement : Statement) :
      Outcome.Agree (Option.Rel fun field field' => field'.1 = field.1 ∧ s.Quotes field.2 field'.2)
        (ownField s d statement) (ownField s d statement) := by
    cases ownField s d statement with
    | error fault => exact .error fault
    | ok own =>
      cases own with
      | none => exact .ok .none
      | some field => exact .ok (.some ⟨rfl, .same field.2⟩)
  cases h with
  | same => exact hsame statement
  | classDef => exact .ok .none
  | functionDef => exact .ok .none
  | @annotated target hint hint' value hquotes =>
    cases target with
    | name id =>
      have hvariable := isClassVar_of_quotes (d := d) hquotes
      have hkeyword := isKeywordMark_of_quotes (d := d) hquotes
      rw [ownField, ownField, hvariable, hkeyword]
      cases isClassVar s d hint with
      | error fault => exact .error fault
      | ok isVariable =>
      cases isVariable with
      | true => exact .ok .none
      | false =>
      cases isKeywordMark s d hint with
      | error fault => exact .error fault
      | ok isMark =>
      cases isMark with
      | true => exact .ok .none
      | false =>
      cases isExcluded s d value with
      | error fault => exact .error fault
      | ok isOut =>
      cases isOut with
      | true => exact .ok .none
      | false => exact .ok (.some ⟨rfl, hquotes⟩)
    | _ => exact .ok .none

/-- References are the same where names have the same canonical references. -/
theorem reference_congr (hparse : s'.parse = s.parse)
    (hcanonical : ∀ name, s'.canonical name = s.canonical name) (qualify : String → String) (e : Expr) :
    Resolving.reference s' qualify e = Resolving.reference s qualify e := by
  have hclosed : Resolving.Closed s s' fun {α : Type} (part part' : Resolving α) => part' = part :=
    { parse_eq := hparse
      pure := fun _ => rfl
      throw := fun _ => rfl
      bind := fun hpart hnext => by rw [hpart, funext hnext]
      name := fun qualified => by rw [Resolving.name, Resolving.name, hcanonical] }
  rw [Resolving.reference, Resolving.reference, hclosed.hintWith qualify e]

end

/-! ### Parts of annotations -/

namespace Resolving

variable {s : Surroundings} {qualify : String → String} {e e' : Expr}

/-- A part of an annotation is put in quotes: all of it, a side of a union, an argument of a type, a type
in a list of types, or a part of one of these or of what is in quotes. Literal arguments and what is said
about an annotated type stay as they are. -/
inductive Requoted (s : Surroundings) (qualify : String → String) : Expr → Expr → Prop where
  /-- All of it is put in quotes. -/
  | quoted {v : CodePoints} {e : Expr} (marked : Bool) :
      s.Reads v e → Requoted s qualify e (.constant (.text v marked))
  /-- A part of what is in quotes is. -/
  | within {v v' : CodePoints} {e e' : Expr} (marked marked' : Bool) :
      s.Reads v e → s.Reads v' e' → Requoted s qualify e e' →
        Requoted s qualify (.constant (.text v marked)) (.constant (.text v' marked'))
  /-- A part of the base is. -/
  | base {value value' : Expr} (index : Expr) :
      Requoted s qualify value value' →
        Requoted s qualify (.subscript value index) (.subscript value' index)
  /-- An argument that is no list is, or a part of it. -/
  | argument {value index index' e e' : Expr} {before after : List Expr} :
      (∀ base, reference s qualify value = .ok base →
        literalForms.contains base.name = false ∧ annotatedForms.contains base.name = false) →
      isList e = false → indexItems index = before ++ e :: after →
      indexItems index' = before ++ e' :: after → Requoted s qualify e e' →
        Requoted s qualify (.subscript value index) (.subscript value index')
  /-- A type in a list of types is, or a part of it. -/
  | item {value index index' e e' : Expr} {before after front back : List Expr} :
      (∀ base, reference s qualify value = .ok base →
        literalForms.contains base.name = false ∧ annotatedForms.contains base.name = false) →
      indexItems index = before ++ .list (front ++ e :: back) :: after →
      indexItems index' = before ++ .list (front ++ e' :: back) :: after → Requoted s qualify e e' →
        Requoted s qualify (.subscript value index) (.subscript value index')
  /-- An annotated type is, or a part of it. -/
  | annotated {value index index' e e' : Expr} {rest : List Expr} :
      (∀ base, reference s qualify value = .ok base →
        literalForms.contains base.name = false ∧ annotatedForms.contains base.name = true) →
      indexItems index = e :: rest → indexItems index' = e' :: rest → Requoted s qualify e e' →
        Requoted s qualify (.subscript value index) (.subscript value index')
  /-- The left side of a union is, or a part of it. -/
  | left {left left' : Expr} (right : Expr) :
      Requoted s qualify left left' →
        Requoted s qualify (.binary .bitOr left right) (.binary .bitOr left' right)
  /-- The right side of a union is, or a part of it. -/
  | right (left : Expr) {right right' : Expr} :
      Requoted s qualify right right' →
        Requoted s qualify (.binary .bitOr left right) (.binary .bitOr left right')

/-- With a part in quotes it is no list. -/
theorem isList_of_requoted (h : Requoted s qualify e e') : isList e' = false := by
  cases h <;> rfl

/-- An annotation with arguments depends on what these are for its base. -/
theorem reference_subscript_congr {value index index' : Expr}
    (h : ∀ base, reference s qualify value = .ok base →
      argumentReferences s qualify base (indexItems index') =
        argumentReferences s qualify base (indexItems index)) :
    reference s qualify (.subscript value index') = reference s qualify (.subscript value index) := by
  rw [reference_subscript, reference_subscript]
  cases hbase : reference s qualify value with
  | error fault => rfl
  | ok base =>
    have hargs := h base hbase
    simp only [Except.bind, hargs]

/-- A loop is the same with another item that comes to the same. -/
theorem mapM_replace {ε α β : Type} {f : α → Except ε β} {x x' : α} (h : f x' = f x)
    (before after : List α) : (before ++ x' :: after).mapM f = (before ++ x :: after).mapM f := by
  induction before with
  | nil => rw [List.nil_append, List.nil_append, Outcome.mapM_cons, Outcome.mapM_cons, h]
  | cons y before ih => rw [List.cons_append, List.cons_append, Outcome.mapM_cons, Outcome.mapM_cons, ih]

/-- The references of types do not change with another argument of the same reference. -/
theorem argumentReferences_replace {base : TypeRef} (hliteral : literalForms.contains base.name = false)
    (hannotated : annotatedForms.contains base.name = false)
    (h : argumentReference s qualify e' = argumentReference s qualify e) (before after : List Expr) :
    argumentReferences s qualify base (before ++ e' :: after) =
      argumentReferences s qualify base (before ++ e :: after) := by
  rw [argumentReferences, argumentReferences, hliteral, hannotated]
  exact mapM_replace h before after

/-- **An annotation with a part in quotes has the same reference.** -/
theorem reference_of_requoted (hs : s.Shortens) (h : Requoted s qualify e e') :
    reference s qualify e' = reference s qualify e := by
  induction h with
  | quoted marked hreads => exact reference_of_reads hs hreads marked
  | within marked marked' hreads hreads' _ ih =>
    rw [reference_of_reads hs hreads, reference_of_reads hs hreads', ih]
  | base index _ ih => rw [reference_subscript, reference_subscript, ih]
  | @argument value index index' e e' before after hbase hlist hindex hindex' hpart ih =>
    refine reference_subscript_congr fun base href => ?_
    obtain ⟨hliteral, hannotated⟩ := hbase base href
    rw [hindex, hindex']
    refine argumentReferences_replace hliteral hannotated ?_ before after
    rw [argumentReference_of_not_list hlist, argumentReference_of_not_list (isList_of_requoted hpart), ih]
  | @item value index index' e e' before after front back hbase hindex hindex' _ ih =>
    refine reference_subscript_congr fun base href => ?_
    obtain ⟨hliteral, hannotated⟩ := hbase base href
    rw [hindex, hindex']
    refine argumentReferences_replace hliteral hannotated ?_ before after
    rw [argumentReference_list, argumentReference_list, mapM_replace ih]
  | @annotated value index index' e e' rest hbase hindex hindex' _ ih =>
    refine reference_subscript_congr fun base href => ?_
    obtain ⟨hliteral, hannotated⟩ := hbase base href
    rw [hindex, hindex', argumentReferences, argumentReferences, hliteral, hannotated]
    show annotatedReferences s qualify (e' :: rest) = annotatedReferences s qualify (e :: rest)
    rw [annotatedReferences, annotatedReferences, ih]
  | left right _ ih => rw [reference_either, reference_either, ih]
  | right left _ ih => rw [reference_either, reference_either, ih]

end Resolving

open Resolving

/-! ### Trees with quoted annotations -/

section

variable {tree tree' : Tree} {d d' : Declaration} {e e' : Expr} {table table' : Table TypeRef}

/-- An annotation has the same reference in a tree with other annotations. -/
theorem reference_rehinted {R : Expr → Expr → Prop} (h : Tree.Rehinted R tree tree')
    (hd : Declaration.Rehinted R d d') (e : Expr) :
    reference (.ofTree tree') (tree'.qualify d'.module d'.innerScope) e =
      reference (.ofTree tree) (tree.qualify d.module d.innerScope) e := by
  have hparse : (Surroundings.ofTree tree').parse = (Surroundings.ofTree tree).parse := rfl
  rw [h.qualify_innerScope_eq hd]
  exact reference_congr hparse (canonical_rehinted h) _ e

/-- An annotation in a class of one tree has the reference of an annotation in a class of another one,
whatever references are known already in either. -/
def SameType (tree tree' : Tree) (d d' : Declaration) (e e' : Expr) : Prop :=
  ∀ table table', Sound (.ofTree tree) table → Sound (.ofTree tree') table' →
    (exec (hint (.ofTree tree') e' d') table').1 = (exec (hint (.ofTree tree) e d) table).1

/-- Annotations whose references are the same in one tree have the same references in trees with other
annotations. -/
theorem sameType_of_reference {R : Expr → Expr → Prop} (h : Tree.Rehinted R tree tree')
    (hd : Declaration.Rehinted R d d')
    (he : reference (.ofTree tree) (tree.qualify d.module d.innerScope) e' =
      reference (.ofTree tree) (tree.qualify d.module d.innerScope) e) : SameType tree tree' d d' e e' := by
  intro table table' htable htable'
  rw [exec_hint htable, exec_hint htable']
  exact (reference_rehinted h hd e').trans he

/-- The own fields of a class have the same names with quotes around annotations. -/
theorem agree_ownFields (h : Tree.Rehinted (Surroundings.ofTree tree).Quotes tree tree')
    (hd : Declaration.Rehinted (Surroundings.ofTree tree).Quotes d d') :
    Outcome.Agree (List.Forall₂ fun field field' =>
        field'.1 = field.1 ∧ (Surroundings.ofTree tree).Quotes field.2 field'.2)
      (ownFields (.ofTree tree) d) (ownFields (.ofTree tree') d') := by
  have hfield : ownField (.ofTree tree') d' = ownField (.ofTree tree) d :=
    ownField_congr rfl (h.qualify_innerScope_eq hd)
  have hfields := Outcome.Agree.mapM hd.body fun _ _ => agree_ownField (d := d)
  rw [ownFields, ownFields, hd.isClass_eq, hd.qualifiedName_eq, hfield]
  split
  · exact (hfields.map fun own own' hown => List.rel_filterMap (fun _ _ h => h) hown).mapError _
  · exact .error _

end

/-- **Quotes change nothing.** In a tree in which annotations are put in quotes, every class has own fields
of the same names and types, or the same fault. And where a part of an annotation is put in quotes,
whatever becomes of the other annotations, it has the same type. -/
theorem ownFields_of_quotes :
    (∀ tree tree' : Tree, Tree.Rehinted (Surroundings.ofTree tree).Quotes tree tree' →
      List.Forall₂ (fun d d' => d'.qualifiedName = d.qualifiedName ∧
          Outcome.Agree (List.Forall₂ fun field field' =>
              field'.1 = field.1 ∧ SameType tree tree' d d' field.2 field'.2)
            (ownFields (.ofTree tree) d) (ownFields (.ofTree tree') d'))
        tree.declarations tree'.declarations) ∧
      ∀ (R : Expr → Expr → Prop) (tree tree' : Tree), Tree.Rehinted R tree tree' →
        List.Forall₂ (fun d d' => ∀ e e',
            Requoted (.ofTree tree) (tree.qualify d.module d.innerScope) e e' →
              SameType tree tree' d d' e e')
          tree.declarations tree'.declarations := by
  refine ⟨fun tree tree' h => ?_, fun R tree tree' h => ?_⟩
  · refine h.declarations.imp fun d d' hd => ⟨hd.qualifiedName_eq, ?_⟩
    refine (agree_ownFields h hd).mono fun own own' hown => hown.imp fun field field' hfield => ?_
    obtain ⟨hname, hquotes⟩ := hfield
    exact ⟨hname, sameType_of_reference h hd
      (reference_of_quotes (shortens_ofTree tree) hquotes _)⟩
  · refine h.declarations.imp fun d d' hd e e' he => ?_
    exact sameType_of_reference h hd (reference_of_requoted (shortens_ofTree tree) he)

/-- A class with one field. -/
def ticketBody (hint : Expr) : List Statement := [.annotated (.name "size") hint none]

/-- The module of the class. -/
def ticketModule (hint : Expr) : Module :=
  ⟨"m", Path.ofText "m.py", false, [.classDef "Car" [] [] (ticketBody hint) ⟨1, 0⟩]⟩

/-- The tree of the module. -/
def ticketTree (hint : Expr) : Tree := ⟨[("m", ticketModule hint)]⟩

/-- The class. -/
def ticketCar (hint : Expr) : Declaration :=
  ⟨ticketModule hint, [], "Car", [], ⟨1, 0⟩, .classDef [] (ticketBody hint)⟩

/-- The absent value in quotes. -/
def quotedNone : Expr := .constant (.text [78, 111, 110, 101] false)

/-- The tree with another annotation. -/
theorem rehinted_ticketTree {R : Expr → Expr → Prop} {hint hint' : Expr} (h : R hint hint') :
    Tree.Rehinted R (ticketTree hint) (ticketTree hint') :=
  .cons ⟨rfl, rfl, rfl, .cons (.classDef (.cons (.annotated h) .nil)) .nil⟩ .nil

/-- The class has the same field with its annotation in quotes, and a union of which one side is put in
quotes has the same type. -/
theorem ownFields_of_ticket :
    Outcome.Agree (List.Forall₂ fun field field' => field'.1 = field.1 ∧
        SameType (ticketTree (.constant .none)) (ticketTree quotedNone) (ticketCar (.constant .none))
          (ticketCar quotedNone) field.2 field'.2)
      (ownFields (.ofTree (ticketTree (.constant .none))) (ticketCar (.constant .none)))
      (ownFields (.ofTree (ticketTree quotedNone)) (ticketCar quotedNone)) ∧
    SameType (ticketTree (.binary .bitOr (.constant .none) (.constant .none)))
      (ticketTree (.binary .bitOr (.constant .none) quotedNone))
      (ticketCar (.binary .bitOr (.constant .none) (.constant .none)))
      (ticketCar (.binary .bitOr (.constant .none) quotedNone))
      (.binary .bitOr (.constant .none) (.constant .none)) (.binary .bitOr (.constant .none) quotedNone) := by
  have hnone (w : CodePoints) (marked : Bool) : Expr.constant .none ≠ .constant (.text w marked) := by
    simp
  have hquotes := rehinted_ticketTree
    (Surroundings.Quotes.quoted false (reads_quotedNone (ticketTree (.constant .none))) hnone)
  obtain ⟨hfields, hparts⟩ := ownFields_of_quotes
  refine ⟨(List.forall₂_cons.mp (hfields _ _ hquotes)).1.2, ?_⟩
  have hhints : Tree.Rehinted (fun _ _ => True)
      (ticketTree (.binary .bitOr (.constant .none) (.constant .none)))
      (ticketTree (.binary .bitOr (.constant .none) quotedNone)) := rehinted_ticketTree trivial
  exact (List.forall₂_cons.mp (hparts _ _ _ hhints)).1 _ _ (.right _ (.quoted false (reads_quotedNone _)))

/-- A class with a field whose annotation is a call, and the same with a part in quotes. -/
def hornText : String := "class Car:\n    a: f(A | B)\n    b: f(A | \"B\")\n"

/-- A call with a union in it. -/
def hornHint : Expr := .call (.name "f") [.binary .bitOr (.name "A") (.name "B")] []

/-- The call with a side of the union in quotes. -/
def quotedHornHint : Expr :=
  .call (.name "f") [.binary .bitOr (.name "A") (.constant (.text [66] false))] []

/-- The fields of the class. -/
def hornBody : List Statement :=
  [.annotated (.name "a") hornHint none, .annotated (.name "b") quotedHornHint none]

/-- The module of the class. -/
def hornModule : Module :=
  ⟨"m", Path.ofText "m.py", false, [.classDef "Car" [] [] hornBody ⟨1, 0⟩]⟩

/-- The class. -/
def hornCar : Declaration := ⟨hornModule, [], "Car", [], ⟨1, 0⟩, .classDef [] hornBody⟩

set_option maxRecDepth 4000 in
/-- The text is read as the module. -/
theorem ofTexts_horn :
    Tree.ofTexts (fun _ => none) [("m", hornText)] [] = .ok ⟨[("m", hornModule)]⟩ := by
  cbv

/-- **A part of a call cannot be quoted**: the arguments of a call keep their text. -/
theorem hint_of_requotedCall :
    Tree.ofTexts (fun _ => none) [("m", hornText)] [] = .ok ⟨[("m", hornModule)]⟩ ∧
      hornCar ∈ Tree.declarations ⟨[("m", hornModule)]⟩ ∧
      (Surroundings.ofTree ⟨[("m", hornModule)]⟩).Reads [66] (.name "B") ∧
      (exec (hint (.ofTree ⟨[("m", hornModule)]⟩) hornHint hornCar) []).1 =
        .ok (.ofLiteral "f(A | B)") ∧
      (exec (hint (.ofTree ⟨[("m", hornModule)]⟩) quotedHornHint hornCar) []).1 =
        .ok (.ofLiteral "f(A | 'B')") := by
  have htext : (stripped [66]).toText = .ok "B" := by cbv
  have hparse : parseExpression "B" = .ok (.name "B") := by cbv
  have hplain : hornHint.render = .ok "f(A | B)" := by cbv
  have hquoted : quotedHornHint.render = .ok "f(A | 'B')" := by cbv
  have hkept : keptText hornHint = some hornHint.render := rfl
  have hkept' : keptText quotedHornHint = some quotedHornHint.render := rfl
  refine ⟨ofTexts_horn, List.mem_cons_self, reads_ofTree htext hparse, ?_, ?_⟩
  · rw [exec_hint (sound_nil _), reference_of_keptText hkept, hplain]
    rfl
  · rw [exec_hint (sound_nil _), reference_of_keptText hkept', hquoted]
    rfl

end FluentBuilder
