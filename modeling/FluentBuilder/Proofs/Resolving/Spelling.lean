import FluentBuilder.Proofs.Resolving.Canonical
import FluentBuilder.Proofs.Resolving.Frame
import FluentBuilder.Proofs.Schema.Membership
import FluentBuilder.Proofs.Source.Relative
import FluentBuilder.Proofs.Source.Spelling

/-!
# Names that are looked up

In a tree that is read no name that is looked up for a field ends with a point
(`Surroundings.spelled_ofTree`), so that every reference to it has a name.

**The route.** What stands in an annotation is a dotted name of segments (`Expr.Spelled.isDotted`). As it is
seen from a class, it ends as it is written or as an import says, and neither is with a point
(`lastSegment_qualify`). An annotation that is quoted is read, too, so that the same goes for it.
-/

namespace FluentBuilder

open Dotted Stateful Syntax Source

/-! ### Dotted names of segments -/

/-- A name without empty segments does not end with a point. -/
theorem Dotted.Filled.lastSegment_ne_empty {name : String} (h : Filled name) : lastSegment name ≠ "" := by
  obtain ⟨first, rest, hsegments⟩ := exists_segments_eq_cons name
  have hne : segments name ≠ [] := hsegments ▸ List.cons_ne_nil first rest
  rw [lastSegment, splitLast, List.getLastD_eq_getLast?, List.getLast?_eq_some_getLast hne, Option.getD_some]
  exact h _ (List.getLast_mem hne)

/-- There is no point in a segment. -/
theorem Text.IsSegment.not_mem_point {name : String} (h : IsSegment name) : '.' ∉ name.toList :=
  fun hmem => h.2 '.' hmem (by decide)

/-- A segment does not end with a point. -/
theorem Text.IsSegment.lastSegment_ne_empty {name : String} (h : IsSegment name) : lastSegment name ≠ "" := by
  rw [lastSegment_of_not_mem h.not_mem_point]
  exact h.1

namespace Syntax

variable {e : Expr} {name : String}

/-- A dotted name of segments has no empty ones. -/
theorem IsDotted.filled (h : IsDotted Text.IsSegment name) : Filled name := by
  obtain ⟨parts, hne, hparts, rfl⟩ := h
  intro segment hsegment
  rw [segments_join hne fun part hpart => (hparts part hpart).not_mem_point] at hsegment
  exact (hparts segment hsegment).1

/-- The dotted name that an expression is has segments. -/
theorem Expr.Spelled.isDotted (h : e.Spelled) (hname : e.dottedName = some name) :
    IsDotted Text.IsSegment name := by
  obtain ⟨parts, hparts, rfl⟩ := Option.map_eq_some_iff.mp hname
  suffices hall : parts ≠ [] ∧ ∀ part ∈ parts, Text.IsSegment part from
    ⟨parts.reverse, List.reverse_ne_nil_iff.mpr hall.1, fun part hpart =>
      hall.2 part (List.mem_reverse.mp hpart), rfl⟩
  clear hname
  induction h generalizing parts with
  | name hid =>
    obtain rfl := Option.some.inj hparts
    exact ⟨List.cons_ne_nil _ _, List.forall_mem_singleton.mpr hid⟩
  | member hvalue hmember ih =>
    obtain ⟨front, hfront, rfl⟩ := Option.map_eq_some_iff.mp hparts
    exact ⟨List.cons_ne_nil _ _, List.forall_mem_cons.mpr ⟨hmember, (ih front hfront).2⟩⟩
  | @plain e hplain =>
    unfold Expr.dottedSegments at hparts
    split at hparts
    · cases hplain
    · cases hplain
    · cases hparts
  | text | subscript | tuple | list | either => cases hparts

end Syntax

/-! ### Names as they are seen from a class -/

namespace Source

variable {m : Module} {head name target : String}

/-- In a tree that is read the names of declarations are single segments that are not empty. -/
theorem Tree.Spelled.simple_name {tree : Tree} (h : tree.Spelled) :
    ∀ d ∈ tree.declarations, d.name ≠ "" ∧ '.' ∉ d.name.toList := fun _ hd =>
  have hname := (h.declaration hd).name
  ⟨hname.1, hname.not_mem_point⟩

/-- No import of a module that is read stands for a name that ends with a point. -/
theorem lastSegment_of_find?_imports (hbody : ∀ s ∈ m.body, s.Spelled)
    (h : m.imports.find? name = some target) : lastSegment target ≠ "" := by
  obtain ⟨s, hs, himport⟩ := Module.exists_of_find?_imports h
  cases hbody s hs with
  | @importModules names hnames =>
    obtain ⟨a, ha, heq⟩ := List.mem_map.mp himport
    have hfilled := (hnames a ha).1.filled
    cases hrename : a.rename with
    | some rename =>
      rw [hrename] at heq
      rw [← (Prod.mk.inj heq).2]
      exact hfilled.lastSegment_ne_empty
    | none =>
      rw [hrename] at heq
      obtain ⟨top, rest, hsegments⟩ := exists_segments_eq_cons a.name
      have htop : top ∈ segments a.name := hsegments ▸ List.mem_cons_self
      rw [← (Prod.mk.inj heq).2, splitHead_fst hsegments,
        lastSegment_of_not_mem (not_mem_of_mem_segments htop)]
      exact hfilled top htop
  | @importFrom module names level hnames =>
    obtain ⟨a, ha, hstar, -, rfl⟩ := Module.mem_importsOf_importFrom.mp himport
    have hsegment := (hnames a ha).1.resolve_left hstar
    have hlast : lastSegment a.name ≠ "" := hsegment.lastSegment_ne_empty
    rw [within]
    split
    · exact hlast
    · rwa [lastSegment_append]
  | _ => cases himport

/-- No single segment stands for a name that ends with a point. -/
theorem lastSegment_qualifyHead (tree : Tree) (scope : List String) (hbody : ∀ s ∈ m.body, s.Spelled)
    (hhead : lastSegment head ≠ "") : lastSegment (tree.qualifyHead m scope head) ≠ "" := by
  unfold Tree.qualifyHead
  dsimp only
  split
  · rwa [lastSegment_append]
  split
  · rwa [lastSegment_append]
  split
  · next himport => exact lastSegment_of_find?_imports hbody himport
  split
  · rwa [show "builtins." ++ head = "builtins" ++ "." ++ head from rfl, lastSegment_append]
  · rwa [lastSegment_append]

/-- **No dotted name stands for one that ends with a point**, as it is seen from a class that is read. -/
theorem lastSegment_qualify (tree : Tree) (scope : List String) (hbody : ∀ s ∈ m.body, s.Spelled)
    (hname : Filled name) : lastSegment (tree.qualify m scope name) ≠ "" := by
  obtain ⟨head, rest, hsegments⟩ := exists_segments_eq_cons name
  have hall : ∀ segment ∈ head :: rest, segment ≠ "" ∧ '.' ∉ segment.toList := fun segment hsegment =>
    have hmem : segment ∈ segments name := hsegments ▸ hsegment
    ⟨hname segment hmem, not_mem_of_mem_segments hmem⟩
  obtain ⟨⟨hne, hpoint⟩, hrest⟩ := List.forall_mem_cons.mp hall
  rw [Tree.qualify, splitHead, hsegments]
  dsimp only
  split
  · exact lastSegment_qualifyHead tree scope hbody (by rwa [lastSegment_of_not_mem hpoint])
  · next hjoin =>
    have hnil : rest ≠ [] := by
      rintro rfl
      exact hjoin rfl
    have hfilled : Filled (join rest) := by
      rw [Filled, segments_join hnil fun part hpart => (hrest part hpart).2]
      exact fun part hpart => (hrest part hpart).1
    rw [lastSegment_append]
    exact hfilled.lastSegment_ne_empty

end Source

/-! ### Annotations -/

namespace Resolving

variable {s : Surroundings} {qualify : String → String} {forward : CodePoints → Resolving TypeRef}
variable {α β : Type} {table : Table TypeRef}

/-- No name in the table ends with a point. -/
def Ended (table : Table TypeRef) : Prop := ∀ name ∈ table.names, lastSegment name ≠ ""

/-- A part looks up no name that ends with a point. -/
abbrev Ends (part : Resolving α) : Prop := Keeps (fun table table' => Ended table → Ended table') part

/-- Every dotted name without empty segments stands for a name that does not end with a point. -/
def Qualifies (qualify : String → String) : Prop :=
  ∀ name, Filled name → lastSegment (qualify name) ≠ ""

namespace Ends

/-- What leaves the table alone. -/
theorem of_const {part : Resolving α} (h : ∀ table, (exec part table).2 = table) : Ends part :=
  Keeps.of_eq (fun _ => id) h

/-- A result. -/
theorem pure (a : α) : Ends (Pure.pure a : Resolving α) :=
  of_const fun table => by rw [exec_pure]

/-- A fault. -/
theorem throw (fault : ResolveFault) : Ends (throw fault : Resolving α) :=
  of_const fun table => by rw [exec_throw]

/-- One part after another. -/
theorem bind {part : Resolving α} {next : α → Resolving β} (hpart : Ends part) (hnext : ∀ a, Ends (next a)) :
    Ends (part >>= next) :=
  Keeps.bind (fun _ _ _ h h' htable => h' (h htable)) hpart hnext

/-- Looking up a name. -/
theorem name (s : Surroundings) {qualified : String} (h : lastSegment qualified ≠ "") :
    Ends (Resolving.name s qualified) := by
  intro table htable
  cases hfound : table.find? qualified with
  | some ref => rwa [exec_name_of_find?_eq_some hfound]
  | none =>
    rw [exec_name_of_find?_eq_none hfound, Ended, Table.names_put]
    split
    · exact htable
    · exact List.forall_mem_append.mpr ⟨htable, List.forall_mem_singleton.mpr h⟩

/-- A text. -/
theorem written (e : Expr) : Ends (Resolving.written e) := by
  unfold Resolving.written
  split
  · exact pure _
  · exact throw _

/-- Texts. -/
theorem writtenAll (es : List Expr) : Ends (Resolving.writtenAll es) := by
  induction es with
  | nil => exact pure _
  | cons e rest ih => exact (written e).bind fun _ => ih.bind fun _ => pure _

mutual

/-- Annotations, if the quoted ones in them do. -/
theorem expr (hqualify : Qualifies qualify) (hforward : ∀ value, Ends (forward value)) (e : Expr)
    (h : e.Spelled) : Ends (Resolving.expr s qualify forward e) := by
  unfold Resolving.expr
  split
  · exact pure _
  · exact pure _
  · exact hforward _
  · split
    · exact pure _
    · exact throw _
  · exact name s (hqualify _ (h.isDotted (dottedName_name _)).filled)
  · split
    · next hname => exact name s (hqualify _ (h.isDotted hname).filled)
    · exact written _
  · next value index =>
    obtain ⟨hvalue, hindex⟩ : value.Spelled ∧ index.Spelled := by
      cases h with
      | plain hplain => cases hplain
      | subscript hvalue hindex => exact ⟨hvalue, hindex⟩
    refine (expr hqualify hforward value hvalue).bind fun base => ?_
    split
    · next items =>
      have hitems : ∀ e ∈ items, e.Spelled := by
        cases hindex with
        | plain hplain => cases hplain
        | tuple hitems => exact hitems
      split
      · exact (writtenAll items).bind fun _ => pure _
      · split
        · cases items with
          | nil => exact pure _
          | cons first rest =>
            exact (expr hqualify hforward first (hitems first List.mem_cons_self)).bind fun _ =>
              (writtenAll rest).bind fun _ => pure _
        · exact (arguments hqualify hforward items hitems).bind fun _ => pure _
    · split
      · exact (written index).bind fun _ => pure _
      · split
        · exact (expr hqualify hforward index hindex).bind fun _ => pure _
        · exact (argument hqualify hforward index hindex).bind fun _ => pure _
  · next left right =>
    obtain ⟨hleft, hright⟩ : left.Spelled ∧ right.Spelled := by
      cases h with
      | plain hplain => cases hplain
      | either hleft hright => exact ⟨hleft, hright⟩
    exact (expr hqualify hforward left hleft).bind fun _ =>
      (expr hqualify hforward right hright).bind fun _ => pure _
  · exact written _

/-- Arguments. -/
theorem argument (hqualify : Qualifies qualify) (hforward : ∀ value, Ends (forward value)) (e : Expr)
    (h : e.Spelled) : Ends (Resolving.argument s qualify forward e) := by
  unfold Resolving.argument
  split
  · next items =>
    have hitems : ∀ e ∈ items, e.Spelled := by
      cases h with
      | plain hplain => cases hplain
      | list hitems => exact hitems
    exact (types hqualify hforward items hitems).bind fun _ => pure _
  · exact expr hqualify hforward e h

/-- Lists of arguments. -/
theorem arguments (hqualify : Qualifies qualify) (hforward : ∀ value, Ends (forward value)) :
    (es : List Expr) → (∀ e ∈ es, e.Spelled) → Ends (Resolving.arguments s qualify forward es)
  | [], _ => by
    rw [Resolving.arguments]
    exact pure _
  | e :: rest, h => by
    obtain ⟨he, hrest⟩ := List.forall_mem_cons.mp h
    rw [Resolving.arguments]
    exact (argument hqualify hforward e he).bind fun _ =>
      (arguments hqualify hforward rest hrest).bind fun _ => pure _

/-- Lists of types. -/
theorem types (hqualify : Qualifies qualify) (hforward : ∀ value, Ends (forward value)) :
    (es : List Expr) → (∀ e ∈ es, e.Spelled) → Ends (Resolving.types s qualify forward es)
  | [], _ => by
    rw [Resolving.types]
    exact pure _
  | e :: rest, h => by
    obtain ⟨he, hrest⟩ := List.forall_mem_cons.mp h
    rw [Resolving.types]
    exact (expr hqualify hforward e he).bind fun _ =>
      (types hqualify hforward rest hrest).bind fun _ => pure _

end

/-- Quoted annotations, if they are read as expressions with such names. -/
theorem quoted (hqualify : Qualifies qualify) (hparse : ∀ text e, s.parse text = .ok e → e.Spelled)
    (depth : Nat) (value : CodePoints) : Ends (Resolving.quoted s qualify depth value) := by
  induction depth generalizing value with
  | zero => exact throw _
  | succ depth ih =>
    rw [Resolving.quoted]
    split
    · exact throw _
    · next text _ =>
      split
      · next e he => exact expr hqualify ih e (hparse text e he)
      · exact throw _
      · exact pure _

end Ends
end Resolving

/-! ### Fields -/

/-- No name that is looked up for a field of a class of the tree ends with a point. -/
def Surroundings.Spelled (s : Surroundings) : Prop :=
  ∀ c ∈ s.tree.declarations, ∀ own, ownFields s c = .ok own → ∀ field ∈ own,
    ∀ name ∈ Resolving.lookedUp s field.2 c, lastSegment name ≠ ""

/-- An own field is an annotated target. -/
theorem exists_annotated_of_ownField {s : Surroundings} {d : Declaration} {statement : Statement}
    {field : String × Expr} (h : ownField s d statement = .ok (some field)) :
    ∃ value, statement = .annotated (.name field.1) field.2 value := by
  unfold ownField at h
  split at h
  · next id hint value =>
    -- Each of the three questions can only exclude the field.
    obtain ⟨isVariable, -, h⟩ := Outcome.bind_eq_ok_iff.mp h
    cases isVariable with
    | true => cases h
    | false =>
      obtain ⟨isMark, -, h⟩ := Outcome.bind_eq_ok_iff.mp h
      cases isMark with
      | true => cases h
      | false =>
        obtain ⟨isOut, -, h⟩ := Outcome.bind_eq_ok_iff.mp h
        cases isOut with
        | true => cases h
        | false =>
          obtain rfl := Option.some.inj (Except.ok.inj h)
          exact ⟨value, rfl⟩
  · cases h

/-- **In a tree that is read no name that is looked up for a field ends with a point.** -/
theorem Surroundings.spelled_ofTree {tree : Tree} (h : tree.Spelled) : (Surroundings.ofTree tree).Spelled := by
  intro c hc own hown field hfield
  obtain ⟨found, hloop, rfl⟩ := ownFields_eq_ok hown
  obtain ⟨_, hcontributed, rfl⟩ := List.mem_filterMap.mp hfield
  obtain ⟨statement, hstatement, hfound⟩ :=
    Outcome.exists_of_mem_right (Outcome.mapM_eq_ok_iff.mp hloop) hcontributed
  obtain ⟨value, rfl⟩ := exists_annotated_of_ownField hfound
  have hhint : field.2.Spelled := by
    cases (h.declaration hc).body _ hstatement with
    | annotated _ hhint => exact hhint
  have hqualify : Resolving.Qualifies (tree.qualify c.module c.innerScope) :=
    fun name hname => lastSegment_qualify tree c.innerScope (h.module_body hc) hname
  have hparse : ∀ text e, (Surroundings.ofTree tree).parse text = .ok e → e.Spelled :=
    fun _ _ he => spelled_of_parseExpression he
  exact Resolving.Ends.expr hqualify (fun value => Resolving.Ends.quoted hqualify hparse _ value)
    field.2 hhint [] fun name hname => absurd hname List.not_mem_nil

end FluentBuilder
