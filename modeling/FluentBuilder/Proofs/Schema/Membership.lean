import FluentBuilder.Proofs.Schema.Walk

/-!
# Which names are fields

A name may be annotated in several classes of a line, and several times in one body. Each of these
annotations is one of a field or not: a variable of the class is none, and neither is what its value
keeps from the constructor (`AnnotatedName.IsField`). In `dataclasses` the newest annotation of a name
decides. Here a name is a field as soon as one of its annotations is (`walk_eq_filter`), because an
annotation that is none of a field contributes nothing, and so does not take back what was contributed
before it. The two rules agree on a name iff its newest annotation is one of a field or no annotation
of it is (`mem_fields_iff_last_iff`).

Classes with marks that only say how the fields behind them are given are left out of this.
-/

namespace FluentBuilder

open Syntax Source Stateful

variable {s : Surroundings} {c d : Declaration} {schema : Schema} {table : Table TypeRef}

/-! ### Annotations -/

/-- An annotation of a name in the body of a class. -/
structure AnnotatedName where
  /-- The class. -/
  owner : Declaration
  /-- The name. -/
  name : String
  /-- What it is annotated with. -/
  hint : Expr
  /-- The value that it gets. -/
  value : Option Expr

namespace AnnotatedName

/-- The annotation is one of a field: it marks no variable of the class, and its value does not keep it
from the constructor. -/
def IsField (s : Surroundings) (a : AnnotatedName) : Prop :=
  isClassVar s a.owner a.hint = .ok false ∧ isExcluded s a.owner a.value = .ok false

/-- Whether an annotation is one of a field can be computed. -/
instance decidableIsField (s : Surroundings) (a : AnnotatedName) : Decidable (a.IsField s) :=
  inferInstanceAs (Decidable (_ ∧ _))

/-- What an annotation contributes if it is one of a field. -/
def contribution (a : AnnotatedName) : Contribution := ⟨a.owner, a.name, a.hint⟩

end AnnotatedName

/-- The annotation that a statement in the body of a class is. -/
def annotatedName? (c : Declaration) : Statement → Option AnnotatedName
  | .annotated (.name id) hint value => some ⟨c, id, hint, value⟩
  | _ => none

/-- The annotation belongs to the class. -/
theorem owner_of_annotatedName {statement : Statement} {a : AnnotatedName}
    (h : annotatedName? c statement = some a) : a.owner = c := by
  unfold annotatedName? at h
  split at h
  · rw [← Option.some.inj h]
  · cases h

/-- The annotations in the body of a class, in order. -/
def annotatedNames (c : Declaration) : List AnnotatedName :=
  c.body.filterMap (annotatedName? c)

/-- The annotations in the classes of a line: those of the farthest class come first. -/
def annotatedWalk (line : List Declaration) : List AnnotatedName :=
  line.reverse.flatMap annotatedNames

/-- The newest annotation of a name in the classes of a line. -/
def newest? (line : List Declaration) (name : String) : Option AnnotatedName :=
  ((annotatedWalk line).filter (·.name == name)).getLast?

/-- No annotation says how the fields behind it are given. -/
def NoKeywordMark (s : Surroundings) (as : List AnnotatedName) : Prop :=
  ∀ a ∈ as, isKeywordMark s a.owner a.hint ≠ .ok true

/-- Whether annotations are without such marks can be computed. -/
instance decidableNoKeywordMark (s : Surroundings) (as : List AnnotatedName) :
    Decidable (NoKeywordMark s as) :=
  inferInstanceAs (Decidable (∀ a ∈ as, isKeywordMark s a.owner a.hint ≠ .ok true))

/-! ### What annotations contribute -/

/-- What a statement contributes is its annotation, if that is one of a field. -/
theorem ownField_eq_ok {statement : Statement} {own : Option (String × Expr)}
    (h : ownField s c statement = .ok own)
    (hmark : ∀ a, annotatedName? c statement = some a → isKeywordMark s a.owner a.hint ≠ .ok true) :
    own = ((annotatedName? c statement).filter (·.IsField s)).map fun a => (a.name, a.hint) := by
  unfold ownField at h
  split at h
  · next id hint value =>
    rw [annotatedName?, Option.filter_some]
    obtain ⟨isVariable, hvariable, h⟩ := Outcome.bind_eq_ok_iff.mp h
    cases isVariable with
    | true =>
      rw [if_neg (by simp [AnnotatedName.IsField, hvariable])]
      exact (Except.ok.inj h).symm
    | false =>
      obtain ⟨isMark, hkeyword, h⟩ := Outcome.bind_eq_ok_iff.mp h
      cases isMark with
      | true => exact absurd hkeyword (hmark _ rfl)
      | false =>
        obtain ⟨isOut, hexcluded, h⟩ := Outcome.bind_eq_ok_iff.mp h
        cases isOut with
        | true =>
          rw [if_neg (by simp [AnnotatedName.IsField, hexcluded])]
          exact (Except.ok.inj h).symm
        | false =>
          rw [if_pos (by simp [AnnotatedName.IsField, hvariable, hexcluded])]
          exact (Except.ok.inj h).symm
  · next hother =>
    have hnone : annotatedName? c statement = none := by
      unfold annotatedName?
      split
      · next id hint value => exact absurd rfl (hother id hint value)
      · rfl
    rw [hnone]
    exact (Except.ok.inj h).symm

/-- What a class that can be read contributes is what its statements do. -/
theorem ownFields_eq_ok {own : List (String × Expr)} (h : ownFields s c = .ok own) :
    ∃ found, c.body.mapM (ownField s c) = .ok found ∧ own = found.filterMap id := by
  rw [ownFields] at h
  split at h
  · rw [Outcome.mapError_eq_ok_iff] at h
    cases hloop : c.body.mapM (ownField s c) with
    | error fault =>
      rw [hloop] at h
      cases h
    | ok found =>
      rw [hloop] at h
      exact ⟨found, rfl, (Except.ok.inj h).symm⟩
  · cases h

/-- What a class contributes are its annotations that are ones of fields. -/
theorem contributions_eq_filter (hread : ∃ own, ownFields s c = .ok own)
    (hmark : NoKeywordMark s (annotatedNames c)) :
    contributions s c = ((annotatedNames c).filter (·.IsField s)).map AnnotatedName.contribution := by
  obtain ⟨own, hown⟩ := hread
  obtain ⟨found, hloop, rfl⟩ := ownFields_eq_ok hown
  have hstep : ∀ statement ∈ c.body, ownField s c statement =
      .ok (((annotatedName? c statement).filter (·.IsField s)).map fun a => (a.name, a.hint)) := by
    intro statement hstatement
    obtain ⟨field, -, hfield⟩ := Outcome.exists_of_mem_left (Outcome.mapM_eq_ok_iff.mp hloop) hstatement
    rw [hfield, ownField_eq_ok hfield fun a ha =>
      hmark a (List.mem_filterMap.mpr ⟨statement, hstatement, ha⟩)]
  have hfound := Outcome.mapM_eq_ok_iff.mpr
    (List.forall₂_map_right_iff.mpr (List.forall₂_same.mpr hstep))
  obtain rfl := Except.ok.inj (hloop.symm.trans hfound)
  rw [contributions_of_ok hown, annotatedNames, List.filter_filterMap, List.map_filterMap,
    List.filterMap_map, List.map_filterMap]
  refine List.filterMap_congr fun statement _ => ?_
  rw [Function.comp_apply, id, Option.map_map]
  cases hnamed : annotatedName? c statement with
  | none => rfl
  | some a =>
    rw [Option.filter_some]
    split
    · rw [Option.map_some, Option.map_some, AnnotatedName.contribution, owner_of_annotatedName hnamed]
      rfl
    · rfl

/-- **What is contributed on the walk are the annotations that are ones of fields**, whatever other
annotations of the same names there are. -/
theorem walk_eq_filter {line : List Declaration} (hread : ∀ c ∈ line, ∃ own, ownFields s c = .ok own)
    (hmark : NoKeywordMark s (annotatedWalk line)) :
    walk s line = ((annotatedWalk line).filter (·.IsField s)).map AnnotatedName.contribution := by
  rw [walk, annotatedWalk, List.filter_flatMap, List.map_flatMap]
  refine List.flatMap_congr fun c hc => ?_
  refine contributions_eq_filter (hread c (List.mem_reverse.mp hc)) fun a ha => ?_
  exact hmark a (List.mem_flatMap.mpr ⟨c, hc, ha⟩)

/-! ### The newest annotation -/

/-- A name is a field iff one of its annotations is one of a field. -/
theorem mem_fields_iff_exists (hsound : Resolving.Sound s table)
    (h : (exec (Resolving.schema s d) table).1 = .ok schema) {names : List String}
    (hline : lineage s.tree d = .ok names)
    (hmark : NoKeywordMark s (annotatedWalk (lineDeclarations s.tree d names))) (name : String) :
    name ∈ schema.fields.map (·.name) ↔
      ∃ a ∈ annotatedWalk (lineDeclarations s.tree d names), a.name = name ∧ a.IsField s := by
  obtain ⟨-, names', found, hline', hreadable, hgiven, rfl⟩ :=
    (Resolving.schema_eq_ok_iff hsound).mp h
  obtain rfl := Except.ok.inj (hline.symm.trans hline')
  rw [mem_names_fieldTable hgiven, walk_eq_filter hreadable hmark, List.map_map]
  simp only [List.mem_map, List.mem_filter, decide_eq_true_eq, Function.comp_apply,
    AnnotatedName.contribution]
  constructor
  · rintro ⟨a, ⟨ha, hfield⟩, hname⟩
    exact ⟨a, ha, hname, hfield⟩
  · rintro ⟨a, ha, hname, hfield⟩
    exact ⟨a, ⟨ha, hfield⟩, hname⟩

/-- **When the newest annotation decides.** In the schema of a class without keyword marks, a name is a
field iff one of its annotations is one of a field. That it is a field iff its last annotation on the
walk is one of a field holds iff that annotation is, or none of them is. -/
theorem mem_fields_iff_last_iff (hsound : Resolving.Sound s table)
    (h : (exec (Resolving.schema s d) table).1 = .ok schema) {names : List String}
    (hline : lineage s.tree d = .ok names)
    (hmark : NoKeywordMark s (annotatedWalk (lineDeclarations s.tree d names))) {name : String}
    {last : AnnotatedName}
    (hlast : newest? (lineDeclarations s.tree d names) name = some last) :
    (name ∈ schema.fields.map (·.name) ↔
      ∃ a ∈ annotatedWalk (lineDeclarations s.tree d names), a.name = name ∧ a.IsField s) ∧
    ((name ∈ schema.fields.map (·.name) ↔ last.IsField s) ↔
      last.IsField s ∨
        ∀ a ∈ annotatedWalk (lineDeclarations s.tree d names), a.name = name → ¬ a.IsField s) := by
  have hfield := mem_fields_iff_exists hsound h hline hmark name
  have hmem := List.mem_filter.mp (List.mem_of_getLast? hlast)
  refine ⟨hfield, ?_⟩
  rw [hfield]
  constructor
  · intro hagree
    by_cases hnewest : last.IsField s
    · exact .inl hnewest
    · exact .inr fun a ha hname ha' => hnewest (hagree.mp ⟨a, ha, hname, ha'⟩)
  · rintro (hnewest | hnone)
    · exact ⟨fun _ => hnewest, fun _ => ⟨last, hmem.1, by simpa using hmem.2, hnewest⟩⟩
    · constructor
      · rintro ⟨a, ha, hname, ha'⟩
        exact absurd ha' (hnone a ha hname)
      · intro hnewest
        exact absurd hnewest (hnone last hmem.1 (by simpa using hmem.2))

/-- The newest annotation of `id` decides in a class that annotates it anew: it is one of a field, and
`id` is a field. -/
theorem newest_of_twoEngines :
    ∃ d schema last, twoEngines.findClass? "b.Child" = some d ∧
      (exec (Resolving.schema (.ofTree twoEngines) d) []).1 = .ok schema ∧
      newest? (lineDeclarations twoEngines d ["b.Child", "a.Base"]) "id" = some last ∧
      last.IsField (.ofTree twoEngines) ∧
      ("id" ∈ schema.fields.map (·.name) ↔ last.IsField (.ofTree twoEngines)) := by
  have hfound : (twoEngines.findClass? "b.Child").isSome = true := by decide
  have hchecked : (twoEngines.findClass? "b.Child").map (fun d =>
      let line := lineDeclarations twoEngines d ["b.Child", "a.Base"]
      (lineage twoEngines d, Resolving.isPlainLine (.ofTree twoEngines) line,
        decide (NoKeywordMark (.ofTree twoEngines) (annotatedWalk line)),
        (newest? line "id").map fun last => decide (last.IsField (.ofTree twoEngines)))) =
      some (.ok ["b.Child", "a.Base"], true, true, some true) := by decide
  obtain ⟨d, hd⟩ := Option.isSome_iff_exists.mp hfound
  rw [hd, Option.map_some, Option.some.injEq] at hchecked
  simp only [Prod.mk.injEq, decide_eq_true_eq, Option.map_eq_some_iff] at hchecked
  obtain ⟨hnames, hplain, hmark, last, hlast, hfield⟩ := hchecked
  have hsound := Resolving.sound_nil (.ofTree twoEngines)
  have hschema := Resolving.schema_of_plain hsound hnames hplain
  obtain ⟨-, hagree⟩ := mem_fields_iff_last_iff hsound hschema hnames hmark hlast
  exact ⟨d, _, last, hd, hschema, hlast, hfield, hagree.mpr (.inl hfield)⟩

/-- A class that makes a variable of its own of the field that its base has. -/
def hiddenSize : Tree :=
  ⟨[("m", ⟨"m", Path.ofText "m.py", false,
    [.importFrom (some "typing") [⟨"ClassVar", none⟩] 0,
      .classDef "Size" [] [] [.other] ⟨2, 0⟩,
      .classDef "Base" [] [] [.annotated (.name "size") (.name "Size") none] ⟨4, 0⟩,
      .classDef "Child" [.name "Base"] []
        [.annotated (.name "size") (.subscript (.name "ClassVar") (.name "Size"))
          (some (.constant .none))] ⟨6, 0⟩]⟩)]⟩

/-- **The newest annotation does not decide**: `size` stays a field of a class that makes a variable of
it. -/
theorem not_newest_of_hiddenSize :
    ∃ d schema names last, hiddenSize.findClass? "m.Child" = some d ∧
      (exec (Resolving.schema (.ofTree hiddenSize) d) []).1 = .ok schema ∧
      lineage hiddenSize d = .ok names ∧
      NoKeywordMark (.ofTree hiddenSize) (annotatedWalk (lineDeclarations hiddenSize d names)) ∧
      newest? (lineDeclarations hiddenSize d names) "size" = some last ∧
      ¬ ("size" ∈ schema.fields.map (·.name) ↔ last.IsField (.ofTree hiddenSize)) := by
  have hfound : (hiddenSize.findClass? "m.Child").isSome = true := by decide
  have hchecked : (hiddenSize.findClass? "m.Child").map (fun d =>
      let line := lineDeclarations hiddenSize d ["m.Child", "m.Base"]
      (lineage hiddenSize d, Resolving.isPlainLine (.ofTree hiddenSize) line,
        decide (NoKeywordMark (.ofTree hiddenSize) (annotatedWalk line)),
        (annotatedWalk line).any (fun a => a.name == "size" && a.IsField (.ofTree hiddenSize)),
        (newest? line "size").map fun last => decide (last.IsField (.ofTree hiddenSize)))) =
      some (.ok ["m.Child", "m.Base"], true, true, true, some false) := by decide
  obtain ⟨d, hd⟩ := Option.isSome_iff_exists.mp hfound
  rw [hd, Option.map_some, Option.some.injEq] at hchecked
  simp only [Prod.mk.injEq, decide_eq_true_eq, decide_eq_false_iff_not, Option.map_eq_some_iff,
    List.any_eq_true, Bool.and_eq_true, beq_iff_eq] at hchecked
  obtain ⟨hnames, hplain, hmark, hearlier, last, hlast, hnone⟩ := hchecked
  have hsound := Resolving.sound_nil (.ofTree hiddenSize)
  have hschema := Resolving.schema_of_plain hsound hnames hplain
  have hmember := (mem_fields_iff_exists hsound hschema hnames hmark "size").mpr hearlier
  exact ⟨d, _, _, last, hd, hschema, hnames, hmark, hlast, fun hagree => hnone (hagree.mp hmember)⟩

end FluentBuilder
