import FluentBuilder.Proofs.Resolving.Canonical
import FluentBuilder.Proofs.Resolving.NonNull
import FluentBuilder.Proofs.Resolving.Restated
import FluentBuilder.Proofs.Syntax.Completeness

/-!
# References are read back

The text of the reference of an annotation is an expression again: that of the annotation, with the names that
references write (`restated`). For annotations made of names, unions, items and lists this is
`parse_render_hint`.

**The route.** A text of lexemes that spell an expression is read as this expression. So it is enough that the
text of the reference is spelled by the lexemes of the restated annotation (`ReadsBack`), which goes by
induction over the annotation (`Composed.readsBack`): a union has the lexemes of its members with bars between
them (`readsBack_either`), a name with items those of the name and the items in brackets
(`readsBack_subscript`). A reference without arguments is that of a name, so that nothing is left of an index
without items (`parse_render_hint_ne_kept`).
-/

namespace FluentBuilder

open Syntax Stateful

namespace TypeRef

/-- The texts of references are those of each of them. -/
theorem renderAll_eq_map_render (rs : List TypeRef) : renderAll rs = rs.map render := by
  induction rs with
  | nil => rfl
  | cons r rest ih => rw [renderAll, ih, List.map_cons]

/-- A list of types is written in brackets. -/
theorem render_list (args : List TypeRef) :
    ({ named "" "" with args := args } : TypeRef).render =
      "[" ++ String.intercalate ", " (args.map render) ++ "]" := by
  rw [← renderAll_eq_map_render, named, render]
  rfl

variable {r base : TypeRef} {args : List TypeRef}

/-- A union is written with bars. -/
theorem render_union (hliteral : r.literal = .none) (hunion : r.isUnion = true) (hargs : r.args ≠ []) :
    r.render = String.intercalate " | " (r.args.map render) := by
  obtain ⟨module, qualname, args, primitive, literal⟩ := r
  obtain rfl : literal = .none := hliteral
  have hname : qualname.isEmpty = false := by
    obtain ⟨-, hqualname⟩ := Bool.and_eq_true_iff.mp hunion
    obtain rfl : qualname = "Union" := eq_of_beq hqualname
    decide
  have hself : isUnion ⟨module, qualname, [], primitive, .none⟩ = true := hunion
  have hne : args.isEmpty = false := by simpa using hargs
  rw [← renderAll_eq_map_render, render]
  simp [hname, hself, hne]

/-- A name without arguments is written as it is. -/
theorem render_withArguments_nil (hliteral : base.literal = .none) (hname : base.qualname ≠ "") :
    (Resolving.withArguments base []).render = base.name := by
  obtain ⟨module, qualname, args, primitive, literal⟩ := base
  obtain rfl : literal = .none := hliteral
  have hempty : qualname.isEmpty = false := by simpa using hname
  rw [Resolving.withArguments, render]
  simp [hempty, name]

/-- A name with arguments is written before them. -/
theorem render_withArguments (hliteral : base.literal = .none) (hname : base.qualname ≠ "")
    (hunion : base.isUnion = false) (hargs : args ≠ []) :
    (Resolving.withArguments base args).render =
      base.name ++ ("[" ++ String.intercalate ", " (args.map render) ++ "]") := by
  obtain ⟨module, qualname, args', primitive, literal⟩ := base
  obtain rfl : literal = .none := hliteral
  have hempty : qualname.isEmpty = false := by simpa using hname
  have hself : isUnion ⟨module, qualname, [], primitive, .none⟩ = false := hunion
  have hne : args.isEmpty = false := by simpa using hargs
  rw [← renderAll_eq_map_render, Resolving.withArguments, render]
  simp [hempty, hself, hne, name, String.append_assoc]

/-- **The text of a type is that of its members in a union, with bars.** -/
theorem intercalate_unionMembers (h : r.isUnion = true → r.literal = .none) :
    String.intercalate " | " ((Resolving.unionMembers r).map render) = r.render := by
  rw [Resolving.unionMembers]
  split
  · next hmembers =>
    obtain ⟨hunion, hargs⟩ := Bool.and_eq_true_iff.mp hmembers
    exact (render_union (h hunion) hunion (by simpa using hargs)).symm
  · rw [List.map_singleton, String.intercalate_singleton]

/-- There is always a member. -/
theorem unionMembers_ne_nil (r : TypeRef) : Resolving.unionMembers r ≠ [] := by
  rw [Resolving.unionMembers]
  split
  · next hmembers =>
    obtain ⟨-, hargs⟩ := Bool.and_eq_true_iff.mp hmembers
    simpa using hargs
  · exact List.cons_ne_nil r []

end TypeRef

namespace Resolving

variable {s : Surroundings} {qualify : String → String} {n : Nat} {role : Role} {e : Expr}

/-- The reference to a dotted name, where `qualify` qualifies it. -/
def referTo (s : Surroundings) (qualify : String → String) (dotted : String) : TypeRef :=
  s.canonical (qualify dotted)

/-- It has no arguments and is no text. -/
theorem referTo_plain (s : Surroundings) (qualify : String → String) (dotted : String) :
    (referTo s qualify dotted).args = [] ∧ (referTo s qualify dotted).literal = none :=
  s.canonical_plain (qualify dotted)

/-- No arguments make no difference to a reference without any. -/
theorem withArguments_nil {base : TypeRef} (hargs : base.args = []) (hliteral : base.literal = none) :
    withArguments base [] = base := by
  obtain ⟨module, qualname, args, primitive, literal⟩ := base
  obtain rfl : args = [] := hargs
  obtain rfl : literal = none := hliteral
  rfl

/-- A reference with a legible name has a name. -/
theorem Legible.qualname_ne {r : TypeRef} (h : Legible r) (hliteral : r.literal = none) :
    r.qualname ≠ "" := by
  have hempty : ¬ IsName "" := fun hname => absurd hname.identifier (by decide)
  intro hqualname
  refine hempty (h "" ?_)
  rw [TypeRef.name, hliteral, hqualname]
  dsimp only
  split
  · decide
  · have hpoint : r.module ++ "." ++ "" = r.module ++ ("." ++ "") := String.append_assoc
    rw [Dotted.segments_append]
    exact List.mem_append_right _ (by decide)

/-- What an annotation is resolved to is written as it is restated. -/
def ReadsBack (s : Surroundings) (qualify : String → String) (n : Nat) (e : Expr) : Prop :=
  ∃ r ls, argumentReference s qualify e = .ok r ∧
    Spells n .union (restated (referTo s qualify) indexWritten e) ls ∧ r.render = textOf ls ∧
    (r.isUnion = true → r.literal = none)

/-- Several annotations are written one by one. -/
theorem exists_references {items : List Expr} (h : ∀ e ∈ items, ReadsBack s qualify n e) :
    ∃ refs lss, items.mapM (argumentReference s qualify) = .ok refs ∧
      List.Forall₂ (Spells n .union) (items.map (restated (referTo s qualify) indexWritten)) lss ∧
      refs.map TypeRef.render = lss.map textOf := by
  induction items with
  | nil => exact ⟨[], [], rfl, .nil, rfl⟩
  | cons e rest ih =>
    obtain ⟨he, hrest⟩ := List.forall_mem_cons.mp h
    obtain ⟨r, ls, href, hspells, htext, -⟩ := he
    obtain ⟨refs, lss, hrefs, hspellss, htexts⟩ := ih hrest
    refine ⟨r :: refs, ls :: lss, ?_, .cons hspells hspellss, ?_⟩
    · rw [Outcome.mapM_cons, href, hrefs]
      rfl
    · rw [List.map_cons, List.map_cons, htext, htexts]

/-- A dotted name is written as that of its reference. -/
theorem readsBack_dotted {dotted : String} (hname : e.dottedName = some dotted)
    (hlegible : Legible (referTo s qualify dotted)) : ReadsBack s qualify n e := by
  obtain ⟨hargs, hliteral⟩ := referTo_plain s qualify dotted
  obtain ⟨ls, hspells, htext⟩ := exists_spells_ofDotted n hlegible
  have hlist : isList e = false := by
    cases e with
    | list items => cases hname
    | _ => rfl
  refine ⟨referTo s qualify dotted, ls, ?_, ?_, ?_, fun _ => hliteral⟩
  · rw [argumentReference_of_not_list hlist, reference_dottedName hname, referTo]
  · rw [restated_dottedName hname]
    exact .single hspells
  · rw [htext, ← TypeRef.render_withArguments_nil hliteral (hlegible.qualname_ne hliteral),
      withArguments_nil hargs hliteral]

/-- Nothing is written of an index without items, one item is written by itself, and more items as they
are. -/
theorem exists_spells_indexWritten (tupled : Bool) {value : Expr} {items : List Expr} {ls : List Lexeme}
    {lss : List (List Lexeme)} (hvalue : Spells (n + 1) .value value ls)
    (hitems : List.Forall₂ (Spells n .union) items lss) (hne : items ≠ []) :
    ∃ ls', Spells (n + 1) .value (indexWritten tupled value items) ls' ∧
      textOf ls' = textOf ls ++ ("[" ++ String.intercalate ", " (lss.map textOf) ++ "]") := by
  cases hitems with
  | nil => exact absurd rfl hne
  | @cons first ls₁ rest lss hfirst hrest =>
    cases rest with
    | nil =>
      obtain rfl := List.forall₂_nil_left_iff.mp hrest
      refine ⟨_, hvalue.item hfirst, ?_⟩
      rw [textOf_append, textOf_bracketed, List.map_singleton, String.intercalate_singleton]
    | cons second rest =>
      obtain ⟨ls', hspells, htext⟩ := exists_spells_items (.cons hfirst hrest) hne
      refine ⟨_, hvalue.tuple (by simp) hspells, ?_⟩
      rw [textOf_append, textOf_bracketed, htext]

/-- **A name with items** is written as what it is restated as, whichever reference it has. -/
theorem exists_spells_withItems (tupled : Bool) {base : TypeRef} {refs : List TypeRef} {items : List Expr}
    {lss : List (List Lexeme)} (hlegible : Legible base) (hliteral : base.literal = none)
    (hitems : List.Forall₂ (Spells n .union) items lss)
    (htexts : refs.map TypeRef.render = lss.map textOf) :
    ∃ ls, Spells (n + 1) .union
        (withItems (indexWritten tupled) base.isUnion (.ofDotted base.name) items) ls ∧
      (withArguments base refs).render = textOf ls := by
  have hname := hlegible.qualname_ne hliteral
  obtain ⟨ls, hbase, hbaseText⟩ := exists_spells_ofDotted (n + 1) hlegible
  have hlength : refs.length = items.length := by
    have hlengths := congrArg List.length htexts
    rw [List.length_map, List.length_map] at hlengths
    rw [hlengths, hitems.length_eq]
  cases hitems with
  | nil =>
    obtain rfl := List.eq_nil_of_length_eq_zero hlength
    exact ⟨ls, .single hbase, by rw [TypeRef.render_withArguments_nil hliteral hname, hbaseText]⟩
  | @cons first ls₁ rest lss hfirst hrest =>
    have hne : refs ≠ [] := List.ne_nil_of_length_pos (by rw [hlength]; exact Nat.succ_pos _)
    cases hunion : base.isUnion with
    | true =>
      obtain ⟨ls', hspells, htext⟩ := exists_spells_foldl_union hrest hfirst
      refine ⟨ls', hspells.succ, ?_⟩
      have hrefs : (withArguments base refs).isUnion = true := hunion
      rw [TypeRef.render_union rfl hrefs hne, htext, withArguments, htexts, List.map_cons]
    | false =>
      obtain ⟨ls', hspells, htext⟩ :=
        exists_spells_indexWritten tupled hbase (.cons hfirst hrest) (List.cons_ne_nil first rest)
      refine ⟨ls', .single hspells, ?_⟩
      rw [TypeRef.render_withArguments hliteral hname hunion hne, htexts, htext, hbaseText]

/-- A dotted name with items is written as it is restated. -/
theorem readsBack_subscript {value index : Expr} {dotted : String} (hname : value.dottedName = some dotted)
    (hlegible : Legible (referTo s qualify dotted)) (hliteral : (referTo s qualify dotted).name ∉ literalForms)
    (hannotated : (referTo s qualify dotted).name ∉ annotatedForms)
    (hitems : ∀ e ∈ indexItems index, ReadsBack s qualify n e) :
    ReadsBack s qualify (n + 1) (.subscript value index) := by
  obtain ⟨refs, lss, hrefs, hspells, htexts⟩ := exists_references hitems
  obtain ⟨-, hplain⟩ := referTo_plain s qualify dotted
  have href : argumentReference s qualify (.subscript value index) =
      .ok (withArguments (referTo s qualify dotted) refs) := by
    have hvalue : reference s qualify value = .ok (referTo s qualify dotted) := reference_dottedName hname
    rw [argumentReference_of_not_list rfl, reference_subscript, hvalue, Except.bind, argumentReferences,
      if_neg (by simpa using hliteral), if_neg (by simpa using hannotated), hrefs, Except.map]
  have hunion : namesUnion (referTo s qualify) value = (referTo s qualify dotted).isUnion := by
    rw [namesUnion, hname, Option.any_some]
  obtain ⟨ls, hwritten, htext⟩ :=
    exists_spells_withItems (isTuple index) hlegible hplain hspells htexts
  refine ⟨_, ls, href, ?_, htext, fun _ => rfl⟩
  rw [restated_subscript, hunion, restated_dottedName hname]
  exact hwritten

/-- A union is written as it is restated. -/
theorem readsBack_either {left right : Expr} (hleft : isList left = false) (hright : isList right = false)
    (hl : ReadsBack s qualify n left) (hr : ReadsBack s qualify n right) :
    ReadsBack s qualify n (.binary .bitOr left right) := by
  obtain ⟨l, ls, hlref, hlspells, hltext, hlunion⟩ := hl
  obtain ⟨r, ls', hrref, hrspells, hrtext, hrunion⟩ := hr
  rw [argumentReference_of_not_list hleft] at hlref
  rw [argumentReference_of_not_list hright] at hrref
  refine ⟨{ TypeRef.named "typing" "Union" with args := unionMembers l ++ unionMembers r }, ls ++ .bar :: ls',
    ?_, ?_, ?_, fun _ => rfl⟩
  · rw [argumentReference_of_not_list rfl, reference_either, hlref, hrref]
    rfl
  · rw [restated]
    exact hlspells.union hrspells
  · have hmembers : unionMembers l ++ unionMembers r ≠ [] := fun h =>
      l.unionMembers_ne_nil (List.append_eq_nil_iff.mp h).1
    rw [TypeRef.render_union rfl rfl hmembers]
    dsimp only
    rw [List.map_append, String.intercalate_append_of_ne_nil (by simpa using l.unionMembers_ne_nil)
      (by simpa using r.unionMembers_ne_nil), TypeRef.intercalate_unionMembers hlunion,
      TypeRef.intercalate_unionMembers hrunion, hltext, hrtext, textOf_bar]

/-- A list of types is written as it is restated. -/
theorem readsBack_list {items : List Expr} (hnot : ∀ e ∈ items, isList e = false)
    (hitems : ∀ e ∈ items, ReadsBack s qualify n e) : ReadsBack s qualify (n + 1) (.list items) := by
  obtain ⟨refs, lss, hrefs, hspells, htexts⟩ := exists_references hitems
  have htypes : items.mapM (reference s qualify) = .ok refs := by
    rw [← hrefs]
    exact Outcome.mapM_congr fun e he => (argumentReference_of_not_list (hnot e he)).symm
  suffices hwritten : ∃ ls, Spells (n + 1) .value
      (restated (referTo s qualify) indexWritten (.list items)) ls ∧
      "[" ++ String.intercalate ", " (refs.map TypeRef.render) ++ "]" = textOf ls by
    obtain ⟨ls, hspells', htext'⟩ := hwritten
    refine ⟨{ TypeRef.named "" "" with args := refs }, ls, ?_, .single hspells', ?_, fun _ => rfl⟩
    · rw [argumentReference_list, htypes]
      rfl
    · rw [TypeRef.render_list, htext']
  rw [restated, restatedAll_eq_map, htexts]
  by_cases hne : items.map (restated (referTo s qualify) indexWritten) = []
  · rw [hne] at hspells ⊢
    obtain rfl := List.forall₂_nil_left_iff.mp hspells
    exact ⟨_, .empty, by rfl⟩
  · obtain ⟨ls, hlist, htext⟩ := exists_spells_items hspells hne
    exact ⟨_, .list hlist, by rw [textOf_bracketed, htext]⟩

/-- **Annotations made of names, unions, items and lists are written as they are restated.** -/
theorem Composed.readsBack (h : Composed (referTo s qualify) n role e) : ReadsBack s qualify n e := by
  induction h with
  | none =>
    refine ⟨.none, _, ?_, .single .none, by decide, fun _ => rfl⟩
    rw [argumentReference_of_not_list rfl, reference_none]
  | ellipsis =>
    refine ⟨.ofLiteral "...", _, ?_, .single .points, by decide, nofun⟩
    rw [argumentReference_of_not_list rfl, reference_ellipsis]
  | dotted hname hlegible => exact readsBack_dotted hname hlegible
  | subscript hname hlegible hliteral hannotated hitems ih =>
    exact readsBack_subscript hname hlegible hliteral hannotated ih
  | either hleft hright ihleft ihright =>
    exact readsBack_either hleft.isList_eq_false hright.isList_eq_false ihleft ihright
  | list hitems ih => exact readsBack_list (fun e he => (hitems e he).isList_eq_false) ih
  | single h ih => exact ih

/-- The reference to a dotted name in the body of a class. -/
def referIn (s : Surroundings) (d : Source.Declaration) : String → TypeRef :=
  referTo s (s.tree.qualify d.module d.innerScope)

/-- The text of the reference of such an annotation is read as what the annotation is restated as. -/
theorem Composed.exists_hint {d : Source.Declaration} (h : Composed (referIn s d) 200 .type e)
    {table : Table TypeRef} (htable : Sound s table) :
    ∃ r, (exec (hint s e d) table).1 = .ok r ∧
      parseExpression r.render = .ok (restated (referIn s d) indexWritten e) := by
  obtain ⟨r, ls, href, hspells, htext, -⟩ := h.readsBack
  refine ⟨r, ?_, ?_⟩
  · rw [exec_hint htable, ← href, argumentReference_of_not_list h.isList_eq_false]
  · rw [htext]
    exact parseExpression_textOf hspells

/-- **Resolving and writing an annotation keeps its structure, but for indices that are not written.** Let an
annotation in the body of a class be made of dotted names, `None`, three points, unions, and dotted names with
types and lists of types as items, with brackets nested no deeper than they can be read. The text of its
reference is read as the annotation with the names that references write, unions in it being written with bars
and without unions in them. Its items are those of the annotation iff no index without items and no tuple of
one item stands in it; nothing is written of these. -/
theorem parse_render_hint {s : Surroundings} {d : Source.Declaration} {e : Expr}
    (h : Composed (referIn s d) 200 .type e) {table : Table TypeRef} (htable : Sound s table) :
    ∃ r, (exec (hint s e d) table).1 = .ok r ∧
      parseExpression r.render = .ok (restated (referIn s d) indexWritten e) ∧
      (parseExpression r.render = .ok (restated (referIn s d) indexKept e) ↔ ¬ Thin (referIn s d) e) := by
  obtain ⟨r, href, hparse⟩ := h.exists_hint htable
  refine ⟨r, href, hparse, ?_⟩
  rw [hparse, Except.ok.injEq]
  rcases h.told with ⟨heq, hthick⟩ | ⟨hlt, hthin⟩
  · exact iff_of_true heq hthick
  · have hne : restated (referIn s d) indexWritten e ≠ restated (referIn s d) indexKept e := by
      intro heq
      rw [heq] at hlt
      exact Nat.lt_irrefl _ hlt
    exact iff_of_false hne (not_not.mpr hthin)

/-! ### Annotations in a class -/

/-- The names in the innermost class stand for what one expects. -/
theorem referIn_valve :
    referIn (.ofTree carsTree) valve "Car" = .named "shop.cars" "Car" ∧
      referIn (.ofTree carsTree) valve "Car.Engine" = .named "shop.cars" "Car.Engine" := by
  have hcar : carsTree.qualify valve.module valve.innerScope "Car" = "shop.cars.Car" := by decide +kernel
  have hengine : carsTree.qualify valve.module valve.innerScope "Car.Engine" = "shop.cars.Car.Engine" := by
    decide +kernel
  have hsplit : carsTree.splitQualified "shop.cars.Car" = some ("shop.cars", "Car") := by decide +kernel
  have hsplit' : carsTree.splitQualified "shop.cars.Car.Engine" = some ("shop.cars", "Car.Engine") := by
    decide +kernel
  have hcanonical {name : String} {parts : String × String} (hhead : (Dotted.splitHead name).1 = "shop")
      (hparts : (Surroundings.ofTree carsTree).tree.splitQualified name = some parts) :
      (Surroundings.ofTree carsTree).canonical name = .named parts.1 parts.2 := by
    rw [canonical_of_not_owns (not_owns_of_head_shop hhead), hparts]
  exact ⟨(congrArg _ hcar).trans (hcanonical (by decide) hsplit),
    (congrArg _ hengine).trans (hcanonical (by decide) hsplit')⟩

/-- The names of these references are legible. -/
theorem legible_valve : Legible (.named "shop.cars" "Car") ∧ Legible (.named "shop.cars" "Car.Engine") := by
  have hname : ∀ w ∈ ["shop", "cars", "Car", "Engine"], IsName w := by
    have hall : ∀ w ∈ ["shop", "cars", "Car", "Engine"], Text.isIdentifier w = true ∧
        Text.isReservedWord w = false ∧ Text.normalForm w = w := by decide +kernel
    exact fun w hw => ⟨(hall w hw).1, (hall w hw).2.1, (hall w hw).2.2⟩
  have hsegments : ∀ w ∈ Dotted.segments "shop.cars.Car.Engine", w ∈ ["shop", "cars", "Car", "Engine"] := by
    decide +kernel
  have hfirst : ∀ w ∈ Dotted.segments "shop.cars.Car", w ∈ ["shop", "cars", "Car", "Engine"] := by
    decide +kernel
  exact ⟨fun w hw => hname w (hfirst w hw), fun w hw => hname w (hsegments w hw)⟩

/-- The expressions that are read for a class of the tree and for the class in it. -/
theorem ofDotted_valve :
    Expr.ofDotted (TypeRef.named "shop.cars" "Car").name =
        .attribute (.attribute (.name "shop") "cars") "Car" ∧
      Expr.ofDotted (TypeRef.named "shop.cars" "Car.Engine").name =
        .attribute (.attribute (.attribute (.name "shop") "cars") "Car") "Engine" := by
  have hcar : Dotted.segments (TypeRef.named "shop.cars" "Car").name = ["shop", "cars", "Car"] := by
    decide +kernel
  have hengine : Dotted.segments (TypeRef.named "shop.cars" "Car.Engine").name =
      ["shop", "cars", "Car", "Engine"] := by decide +kernel
  exact ⟨congrArg Expr.ofSegments hcar, congrArg Expr.ofSegments hengine⟩

/-- `Car[None, [Car.Engine, ...]] | (None | Car)`. -/
def spareParts : Expr :=
  .binary .bitOr
    (.subscript (.name "Car")
      (.tuple [.constant .none, .list [.attribute (.name "Car") "Engine", .constant .ellipsis]]))
    (.binary .bitOr (.constant .none) (.name "Car"))

/-- The class with items. -/
theorem composed_subscript_car {n : Nat} {index : Expr}
    (hitems : ∀ e ∈ indexItems index, Composed (referIn (.ofTree carsTree) valve) n .argument e) :
    Composed (referIn (.ofTree carsTree) valve) (n + 1) .type (.subscript (.name "Car") index) := by
  have hcar := referIn_valve.1
  refine .subscript (dottedName_name "Car") ?_ ?_ ?_ hitems
  · rw [hcar]
    exact legible_valve.1
  · rw [hcar]
    decide
  · rw [hcar]
    decide

/-- It is made of names, unions, items and lists. -/
theorem composed_spareParts : Composed (referIn (.ofTree carsTree) valve) 200 .type spareParts := by
  obtain ⟨hcar, hengine⟩ := referIn_valve
  obtain ⟨hlegible, hlegible'⟩ := legible_valve
  rw [← hcar] at hlegible
  rw [← hengine] at hlegible'
  refine .either (composed_subscript_car ?_) (.either .none (.dotted (dottedName_name "Car") hlegible))
  refine List.forall_mem_cons.mpr ⟨.single .none, List.forall_mem_singleton.mpr (.list ?_)⟩
  exact List.forall_mem_cons.mpr ⟨.dotted rfl hlegible', List.forall_mem_singleton.mpr .ellipsis⟩

/-- All its indices are written. -/
theorem not_thin_spareParts (refer : String → TypeRef) : ¬ Thin refer spareParts := by
  have hconstant (c : Constant) : ¬ Thin refer (.constant c) := nofun
  have hname (id : String) : ¬ Thin refer (.name id) := nofun
  have hmember (value : Expr) (member : String) : ¬ Thin refer (.attribute value member) := nofun
  simp [spareParts, thin_either_iff, thin_subscript_iff, thin_list_iff, indexItems, hconstant, hname, hmember]

/-- This annotation is read back with the names of the classes and without the union in it. -/
theorem parse_render_hint_spareParts :
    Composed (referIn (.ofTree carsTree) valve) 200 .type spareParts ∧ Sound (.ofTree carsTree) [] ∧
    ∃ r, (exec (hint (.ofTree carsTree) spareParts valve) []).1 = .ok r ∧
      parseExpression r.render = .ok
        (let car : Expr := .attribute (.attribute (.name "shop") "cars") "Car"
        .binary .bitOr (.binary .bitOr
          (.subscript car (.tuple [.constant .none, .list [.attribute car "Engine", .constant .ellipsis]]))
          (.constant .none)) car) := by
  obtain ⟨hcar, hengine⟩ := referIn_valve
  obtain ⟨hcarExpr, hengineExpr⟩ := ofDotted_valve
  obtain ⟨r, href, -, hkept⟩ := parse_render_hint composed_spareParts (sound_nil _)
  refine ⟨composed_spareParts, sound_nil _, r, href, (hkept.mpr (not_thin_spareParts _)).trans ?_⟩
  have hunion : namesUnion (referIn (.ofTree carsTree) valve) (.name "Car") = false := by
    rw [namesUnion, dottedName_name, Option.any_some, hcar]
    decide
  have hmember : (Expr.attribute (.name "Car") "Engine").dottedName = some "Car.Engine" := rfl
  simp only [spareParts, restated, restatedAll, hunion, hmember, hcar, hengine, hcarExpr, hengineExpr,
    withItems, indexKept, Bool.false_eq_true, if_false, Expr.union]

/-- **An index without items is not written.** `Car[()]` is read back as the name of the class. -/
theorem parse_render_hint_ne_kept :
    ∃ r, (exec (hint (.ofTree carsTree) (.subscript (.name "Car") (.tuple [])) valve) []).1 = .ok r ∧
      parseExpression r.render = .ok (.attribute (.attribute (.name "shop") "cars") "Car") ∧
      restated (referIn (.ofTree carsTree) valve) indexKept (.subscript (.name "Car") (.tuple [])) =
        .subscript (.attribute (.attribute (.name "shop") "cars") "Car") (.tuple []) ∧
      parseExpression r.render ≠
        .ok (restated (referIn (.ofTree carsTree) valve) indexKept (.subscript (.name "Car") (.tuple []))) := by
  obtain ⟨hcar, -⟩ := referIn_valve
  obtain ⟨hcarExpr, -⟩ := ofDotted_valve
  have hcomposed : Composed (referIn (.ofTree carsTree) valve) 200 .type (.subscript (.name "Car") (.tuple [])) :=
    composed_subscript_car fun e he => absurd he List.not_mem_nil
  obtain ⟨r, href, hparse⟩ := hcomposed.exists_hint (sound_nil _)
  have hrestated (indexed : Bool → Expr → List Expr → Expr) :
      restated (referIn (.ofTree carsTree) valve) indexed (.subscript (.name "Car") (.tuple [])) =
        indexed true (.attribute (.attribute (.name "shop") "cars") "Car") [] := by
    rw [restated_subscript, restated_dottedName (dottedName_name "Car"), hcar, hcarExpr]
    rfl
  rw [hrestated] at hparse
  refine ⟨r, href, hparse, hrestated _, ?_⟩
  rw [hparse, hrestated, indexWritten, indexKept]
  · intro h
    cases h
  · intro item h
    cases h

end Resolving
end FluentBuilder
