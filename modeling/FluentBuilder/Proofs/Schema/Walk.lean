import FluentBuilder.Proofs.Outcome
import FluentBuilder.Proofs.Resolving.Meaning

/-!
# The fields of a schema in the order of the walk

The classes of a line of descent are walked from the far end of the line, and the body of each of them
from above. Every annotation on this way that is one of a field is a `Contribution`. The fields of a
schema are what the contributions leave behind (`fields_of_schema`): a name is a field if a class
contributes it, it stands where it was contributed first, and its type and its class are those of its
last contribution. The last contribution is resolved where it stands, so that the class that the schema
is of has no part in it.

**The route.** Resolving and putting are one computation over the table of references. It is taken apart
class by class (`putFields_eq_ok_iff`, `putClasses_eq_ok_iff`): what is put are fields that answer to the
contributions one by one (`Contribution.Gives`). All about their order is then known of tables of
entries.
-/

namespace FluentBuilder

open Syntax Source Stateful

variable {s : Surroundings} {d : Declaration} {schema : Schema} {table : Table TypeRef}

/-! ### Contributions -/

/-- What a class gives to a schema: a name, and its annotation in the body of the class. -/
structure Contribution where
  /-- The class. -/
  owner : Declaration
  /-- The name. -/
  name : String
  /-- The annotation. -/
  hint : Expr

/-- What the body of a class gives, in order. -/
def contributions (s : Surroundings) (c : Declaration) : List Contribution :=
  match ownFields s c with
  | .ok own => own.map fun field => ⟨c, field.1, field.2⟩
  | .error _ => []

/-- What the classes of a line give: those of the farthest class come first. -/
def walk (s : Surroundings) (line : List Declaration) : List Contribution :=
  line.reverse.flatMap (contributions s)

namespace Contribution

/-- The type of a contribution: what its annotation is resolved to in the module and in the scope of
the class that gives it, whatever references are known already. -/
def HasType (s : Surroundings) (k : Contribution) (type : TypeRef) : Prop :=
  ∀ table, Resolving.Sound s table →
    (exec (Resolving.hintWith s (s.tree.qualify k.owner.module k.owner.innerScope) k.hint) table).1 =
      .ok type

/-- The field that a contribution gives. -/
structure Gives (s : Surroundings) (k : Contribution) (f : Field) : Prop where
  /-- It has the name of the contribution. -/
  name_eq : f.name = k.name
  /-- It is declared in the class that contributes it. -/
  declaredIn_eq : f.declaredIn = k.owner.qualifiedName
  /-- It has the type of the contribution. -/
  hasType : k.HasType s f.type

end Contribution

/-- The contributions of a class whose body can be read. -/
theorem contributions_of_ok {c : Declaration} {own : List (String × Expr)}
    (h : ownFields s c = .ok own) :
    contributions s c = own.map fun field => ⟨c, field.1, field.2⟩ := by
  rw [contributions, h]

/-- A class that is alone in its line gives what its body gives. -/
theorem walk_singleton (s : Surroundings) (c : Declaration) : walk s [c] = contributions s c :=
  List.append_nil _

/-- A name comes on the walk if a class of the line has an own field of that name. -/
theorem mem_map_name_walk_iff {line : List Declaration}
    (hreadable : ∀ c ∈ line, ∃ own, ownFields s c = .ok own) {name : String} :
    name ∈ (walk s line).map (·.name) ↔
      ∃ c ∈ line, ∃ own, ownFields s c = .ok own ∧ name ∈ own.map Prod.fst := by
  rw [List.mem_map, walk]
  constructor
  · rintro ⟨k, hk, rfl⟩
    obtain ⟨c, hc, hk⟩ := List.mem_flatMap.mp hk
    rw [List.mem_reverse] at hc
    obtain ⟨own, hown⟩ := hreadable c hc
    rw [contributions_of_ok hown] at hk
    obtain ⟨field, hfield, rfl⟩ := List.mem_map.mp hk
    exact ⟨c, hc, own, hown, List.mem_map_of_mem hfield⟩
  · rintro ⟨c, hc, own, hown, hname⟩
    obtain ⟨field, hfield, rfl⟩ := List.mem_map.mp hname
    refine ⟨⟨c, field.1, field.2⟩, List.mem_flatMap.mpr ⟨c, List.mem_reverse.mpr hc, ?_⟩, rfl⟩
    rw [contributions_of_ok hown]
    exact List.mem_map_of_mem hfield

/-! ### Annotations that are plain names -/

/-- A plain name in the body of a class stands for what it is qualified to. -/
theorem qualifiedIn_name (s : Surroundings) (d : Declaration) (id : String) :
    qualifiedIn s d (.name id) = .ok (some (s.tree.qualify d.module d.innerScope id)) := by
  have hread : qualifiedIn s d (.name id) =
      .ok ((Expr.name id).dottedName.map (s.tree.qualify d.module d.innerScope)) := rfl
  rw [hread, dottedName_name, Option.map_some]

/-- A name that is not imported is qualified by what it is in, whichever that is. -/
theorem exists_qualify_eq_append (tree : Tree) {m : Module} (scope : List String) {name : String}
    (hsegments : Dotted.segments name = [name]) (himport : m.imports.find? name = none) :
    ∃ owner, tree.qualify m scope name = owner ++ "." ++ name := by
  have hhead : tree.qualify m scope name = tree.qualifyHead m scope name := by
    rw [Tree.qualify, Dotted.splitHead, hsegments]
    rfl
  rw [hhead, Tree.qualifyHead, himport]
  split
  · exact ⟨_, rfl⟩
  · split
    · exact ⟨_, rfl⟩
    · simp only
      split
      · exact ⟨"builtins", rfl⟩
      · exact ⟨_, rfl⟩

/-- An annotation with a name that is not imported is one of a field, unless the name ends one of those
that say something else. -/
theorem ownField_of_find?_imports {type : String} (id : String)
    (hsegments : Dotted.segments type = [type]) (himport : d.module.imports.find? type = none)
    (hother : ∀ form ∈ "dataclasses.KW_ONLY" :: classVarForms,
      ¬('.' :: type.toList) <:+ form.toList) :
    ownField s d (.annotated (.name id) (.name type) none) = .ok (some (id, .name type)) := by
  obtain ⟨owner, howner⟩ := exists_qualify_eq_append s.tree d.innerScope hsegments himport
  have hform : ∀ form ∈ "dataclasses.KW_ONLY" :: classVarForms,
      s.tree.qualify d.module d.innerScope type ≠ form := by
    rintro form hmem rfl
    refine hother _ hmem ⟨owner.toList, ?_⟩
    rw [howner]
    simp
  obtain ⟨hmark, hvariable⟩ := List.forall_mem_cons.mp hform
  have hnotVariable : classVarForms.contains (s.tree.qualify d.module d.innerScope type) = false := by
    rw [List.contains_eq_mem, decide_eq_false fun hmem => hvariable _ hmem rfl]
  have hread : unquote s (.name type) = .ok (some (.name type)) := rfl
  simp only [ownField, isClassVar, isKeywordMark, isExcluded, Tree.baseHead, hread, qualifiedIn_name,
    bind, Except.bind, pure, Except.pure, Option.any_some, hnotVariable, beq_false_of_ne hmark,
    Bool.false_eq_true, if_false]

/-- A class whose body is made of such annotations contributes all of them. -/
theorem ownFields_of_find?_imports {fields : List (String × String)} (hclass : d.isClass = true)
    (hbody : d.body = fields.map fun field => .annotated (.name field.1) (.name field.2) none)
    (hplain : ∀ field ∈ fields, Dotted.segments field.2 = [field.2] ∧
      d.module.imports.find? field.2 = none ∧
      ∀ form ∈ "dataclasses.KW_ONLY" :: classVarForms, ¬('.' :: field.2.toList) <:+ form.toList) :
    ownFields s d = .ok (fields.map fun field => (field.1, .name field.2)) := by
  have hown : List.Forall₂ (fun statement own => ownField s d statement = .ok own)
      (fields.map fun field => .annotated (.name field.1) (.name field.2) none)
      (fields.map fun field => some (field.1, .name field.2)) := by
    rw [List.forall₂_map_left_iff, List.forall₂_map_right_iff, List.forall₂_same]
    intro field hfield
    obtain ⟨hsegments, himport, hother⟩ := hplain field hfield
    exact ownField_of_find?_imports field.1 hsegments himport hother
  have hkept : (fields.map fun field => some (field.1, Expr.name field.2)).filterMap id =
      fields.map fun field => (field.1, Expr.name field.2) := by
    rw [List.filterMap_map, ← List.filterMap_eq_map]
    rfl
  rw [ownFields, if_pos hclass, hbody, Outcome.mapM_eq_ok_iff.mpr hown]
  exact congrArg Except.ok hkept

/-- Fields under their names. -/
def fieldTable (found : List Field) : Table Field :=
  Table.ofEntries (found.map fun f => (f.name, f))

/-! ### Putting what is contributed -/

namespace Resolving

/-- A type is found from one table of canonical references iff it is the type of the contribution. -/
theorem hint_eq_ok_iff (hsound : Sound s table) (name : String) {hint : Expr} {type : TypeRef} :
    (exec (Resolving.hint s hint d) table).1 = .ok type ↔
      Contribution.HasType s ⟨d, name, hint⟩ type := by
  obtain ⟨result, hresult⟩ := memoised_hint s hint d
  obtain ⟨hfirst, -⟩ := hresult table hsound
  constructor
  · intro h other hother
    obtain ⟨hsame, -⟩ := hresult other hother
    exact hsame.trans (hfirst.symm.trans h)
  · intro h
    exact h table hsound

/-- The fields of a class are put in order. -/
theorem putFields_eq_ok_iff {own : List (String × Expr)} {fields result : Table Field}
    (hsound : Sound s table) :
    (exec (putFields s d fields own) table).1 = .ok result ↔
      ∃ found, List.Forall₂ (Contribution.Gives s)
          (own.map fun field => ⟨d, field.1, field.2⟩) found ∧
        result = found.foldl (fun fields f => fields.put f.name f) fields := by
  induction own generalizing fields table with
  | nil =>
    rw [putFields, exec_pure]
    simp [eq_comm]
  | cons field rest ih =>
    obtain ⟨name, hint⟩ := field
    have hkept : Sound s (exec (Resolving.hint s hint d) table).2 := by
      obtain ⟨result, hresult⟩ := memoised_hint s hint d
      exact (hresult table hsound).2
    rw [putFields, exec_bind_fst_ok_iff]
    simp only [exec_adapt, Outcome.mapError_eq_ok_iff, hint_eq_ok_iff hsound name, ih hkept,
      List.map_cons]
    constructor
    · rintro ⟨type, htype, found, hfound, hresult⟩
      exact ⟨⟨name, type, d.qualifiedName⟩ :: found, .cons ⟨rfl, rfl, htype⟩ hfound, hresult⟩
    · rintro ⟨found, hfound, hresult⟩
      obtain ⟨f, others, hgives, hothers, rfl⟩ := List.forall₂_cons_left_iff.mp hfound
      refine ⟨f.type, hgives.hasType, others, hothers, ?_⟩
      obtain ⟨hname, hclass, -⟩ := hgives
      -- The field that is put is the one that the contribution gives.
      have hfield : (⟨name, f.type, d.qualifiedName⟩ : Field) = f := by
        cases f
        cases hname
        cases hclass
        rfl
      have hput : name = f.name := hname.symm
      rw [hresult, List.foldl_cons, hfield, hput]

/-- The fields of classes are put class by class. -/
theorem putClasses_eq_ok_iff {classes : List Declaration} {fields result : Table Field}
    (hsound : Sound s table) :
    (exec (putClasses s fields classes) table).1 = .ok result ↔
      (∀ c ∈ classes, ∃ own, ownFields s c = .ok own) ∧
        ∃ found, List.Forall₂ (Contribution.Gives s) (classes.flatMap (contributions s)) found ∧
          result = found.foldl (fun fields f => fields.put f.name f) fields := by
  induction classes generalizing fields table with
  | nil =>
    rw [putClasses, exec_pure]
    simp [eq_comm]
  | cons c rest ih =>
    have hkept : ∀ own fields, Sound s (exec (putFields s c fields own) table).2 := by
      intro own fields
      obtain ⟨_, hmemo⟩ := memoised_putFields s c fields own
      exact (hmemo table hsound).2
    rw [putClasses, exec_bind_fst_ok_iff, List.flatMap_cons]
    constructor
    · rintro ⟨own, hown, hputs⟩
      have hread : ownFields s c = .ok own := hown
      obtain ⟨between, hfirst, hrest⟩ := exec_bind_fst_ok_iff.mp hputs
      obtain ⟨front, hfront, rfl⟩ := (putFields_eq_ok_iff hsound).mp hfirst
      obtain ⟨hreadable, back, hback, rfl⟩ := (ih (hkept own fields)).mp hrest
      refine ⟨List.forall_mem_cons.mpr ⟨⟨own, hread⟩, hreadable⟩, front ++ back, ?_, ?_⟩
      · rw [contributions_of_ok hread]
        exact List.rel_append hfront hback
      · rw [List.foldl_append]
    · rintro ⟨hreadable, found, hfound, rfl⟩
      obtain ⟨⟨own, hread⟩, hothers⟩ := List.forall_mem_cons.mp hreadable
      rw [contributions_of_ok hread] at hfound
      obtain ⟨front, back, hfront, hback, rfl⟩ := Outcome.append_left_iff.mp hfound
      refine ⟨own, hread, exec_bind_fst_ok_iff.mpr ⟨_, (putFields_eq_ok_iff hsound).mpr
        ⟨front, hfront, rfl⟩, (ih (hkept own fields)).mpr ⟨hothers, back, hback, ?_⟩⟩⟩
      rw [List.foldl_append]

/-- **A schema is made of the contributions on the walk along the line of its class.** -/
theorem schema_eq_ok_iff (hsound : Sound s table) :
    (exec (Resolving.schema s d) table).1 = .ok schema ↔
      d.isClass = true ∧ ∃ names found, lineage s.tree d = .ok names ∧
        (∀ c ∈ lineDeclarations s.tree d names, ∃ own, ownFields s c = .ok own) ∧
        List.Forall₂ (Contribution.Gives s) (walk s (lineDeclarations s.tree d names)) found ∧
        schema = ⟨d.module.name, d.qualname, d.module.package, (fieldTable found).map Prod.snd⟩ := by
  have hline : ∀ names, (exec (ofExcept ((lineage s.tree d).mapError .lineage)) table).1 = .ok names ↔
      lineage s.tree d = .ok names := fun names => Outcome.mapError_eq_ok_iff
  have hfields : ∀ found : List Field,
      found.foldl (fun (fields : Table Field) f => fields.put f.name f) [] = fieldTable found := by
    intro found
    rw [fieldTable, Table.ofEntries, List.foldl_map]
  rw [Resolving.schema]
  cases hclass : d.isClass with
  | false =>
    rw [Bool.not_false, if_pos rfl, exec_bind_fst_ok_iff]
    constructor
    · rintro ⟨_, hthrown, -⟩
      cases hthrown
    · rintro ⟨hfalse, -⟩
      cases hfalse
  | true =>
    rw [Bool.not_true, if_neg Bool.false_ne_true, exec_bind_fst_ok_iff]
    constructor
    · rintro ⟨names, hnames, hrest⟩
      obtain ⟨fields, hput, hreturn⟩ := exec_bind_fst_ok_iff.mp hrest
      obtain ⟨hreadable, found, hfound, rfl⟩ := (putClasses_eq_ok_iff hsound).mp hput
      refine ⟨rfl, names, found, (hline names).mp hnames, ?_, hfound, ?_⟩
      · exact fun c hc => hreadable c (List.mem_reverse.mpr hc)
      · rw [← hfields]
        exact (Except.ok.inj hreturn).symm
    · rintro ⟨-, names, found, hnames, hreadable, hfound, rfl⟩
      refine ⟨names, (hline names).mpr hnames, exec_bind_fst_ok_iff.mpr
        ⟨_, (putClasses_eq_ok_iff hsound).mpr ⟨?_, found, hfound, rfl⟩, ?_⟩⟩
      · exact fun c hc => hreadable c (List.mem_reverse.mp hc)
      · rw [hfields]
        rfl

/-- The type of a plain name is the canonical reference of what it stands for. -/
theorem hasType_name (s : Surroundings) (c : Declaration) (name id : String) :
    Contribution.HasType s ⟨c, name, .name id⟩
      (s.canonical (s.tree.qualify c.module c.innerScope id)) := by
  intro table hsound
  rw [Resolving.hintWith, Resolving.expr]
  exact (exec_name hsound _).1

/-- The type of a contribution whose annotation is a plain name. -/
def plainType (s : Surroundings) (k : Contribution) : TypeRef :=
  match k.hint with
  | .name id => s.canonical (s.tree.qualify k.owner.module k.owner.innerScope id)
  | _ => .none

/-- The field that a contribution whose annotation is a plain name gives. -/
def plainField (s : Surroundings) (k : Contribution) : Field :=
  ⟨k.name, plainType s k, k.owner.qualifiedName⟩

/-- Can the classes of a line be read, with plain names for all their annotations? -/
def isPlainLine (s : Surroundings) (line : List Declaration) : Bool :=
  line.all (fun c => (ownFields s c).toOption.isSome) &&
    (walk s line).all fun k => (Module.plainName k.hint).isSome

/-- A class with plain names for all its annotations is a plain line by itself. -/
theorem isPlainLine_singleton {own : List (String × Expr)} (hown : ownFields s d = .ok own)
    (hhints : ∀ field ∈ own, (Module.plainName field.2).isSome = true) : isPlainLine s [d] = true := by
  rw [isPlainLine, List.all_cons, hown, walk_singleton, contributions_of_ok hown, List.all_map]
  simpa [Except.toOption] using fun name hint hmem => hhints (name, hint) hmem

/-- A contribution with a plain name gives the field that is computed. -/
theorem gives_plainField {k : Contribution} (h : (Module.plainName k.hint).isSome = true) :
    k.Gives s (plainField s k) := by
  have htype : k.HasType s (plainType s k) := by
    obtain ⟨c, name, hint⟩ := k
    cases hint with
    | name id =>
      rw [plainType]
      exact hasType_name s c name id
    | _ => cases h
  exact ⟨rfl, rfl, htype⟩

/-- A class has a schema if it has a line that is plain. -/
theorem schema_of_plain {names : List String} (hsound : Sound s table)
    (hline : lineage s.tree d = .ok names)
    (hplain : isPlainLine s (lineDeclarations s.tree d names) = true) :
    (exec (Resolving.schema s d) table).1 = .ok ⟨d.module.name, d.qualname, d.module.package,
      (fieldTable ((walk s (lineDeclarations s.tree d names)).map (plainField s))).map Prod.snd⟩ := by
  rw [isPlainLine, Bool.and_eq_true, List.all_eq_true, List.all_eq_true] at hplain
  obtain ⟨hread, hhints⟩ := hplain
  have hreadable : ∀ c ∈ lineDeclarations s.tree d names, ∃ own, ownFields s c = .ok own := by
    intro c hc
    have hsome := hread c hc
    cases hown : ownFields s c with
    | ok own => exact ⟨own, rfl⟩
    | error fault =>
      rw [hown] at hsome
      cases hsome
  have hclass : d.isClass = true := by
    obtain ⟨own, hown⟩ := hreadable d List.mem_cons_self
    rw [ownFields] at hown
    split at hown
    · assumption
    · cases hown
  have hgives : ∀ k ∈ walk s (lineDeclarations s.tree d names), k.Gives s (plainField s k) :=
    fun k hk => gives_plainField (hhints k hk)
  have hgiven := List.forall₂_map_right_iff.mpr (List.forall₂_same.mpr hgives)
  exact (schema_eq_ok_iff hsound).mpr ⟨hclass, names, _, hline, hreadable, hgiven, rfl⟩

end Resolving

/-! ### The fields -/

section fields

variable {found : List Field} {given : List Contribution}

/-- The table of some fields holds them under their names. -/
theorem names_fieldTable (found : List Field) :
    ((fieldTable found).map Prod.snd).map (·.name) = (fieldTable found).names := by
  rw [List.map_map, Table.names]
  refine List.map_congr_left fun entry hentry => ?_
  obtain ⟨f, -, rfl⟩ := List.mem_map.mp (Table.mem_of_mem_ofEntries hentry)
  rfl

/-- The fields that contributions give have their names. -/
theorem map_name_of_gives (h : List.Forall₂ (Contribution.Gives s) given found) :
    found.map (·.name) = given.map (·.name) := by
  induction h with
  | nil => rfl
  | cons hgives _ ih => rw [List.map_cons, List.map_cons, ih, hgives.name_eq]

/-- The table has a field for every name that is contributed. -/
theorem mem_names_fieldTable (h : List.Forall₂ (Contribution.Gives s) given found) {name : String} :
    name ∈ ((fieldTable found).map Prod.snd).map (·.name) ↔ name ∈ given.map (·.name) := by
  rw [names_fieldTable, fieldTable, Table.mem_names_ofEntries, ← map_name_of_gives h, List.map_map]
  rfl

/-- A field of the table is given by the last contribution of its name. -/
theorem exists_last_of_mem (h : List.Forall₂ (Contribution.Gives s) given found) {f : Field}
    (hf : f ∈ (fieldTable found).map Prod.snd) :
    ∃ last, (given.filter (·.name == f.name)).getLast? = some last ∧ last.Gives s f := by
  obtain ⟨entry, hentry, rfl⟩ := List.mem_map.mp hf
  obtain ⟨g, -, rfl⟩ := List.mem_map.mp (Table.mem_of_mem_ofEntries hentry)
  have hkept : (found.filter (·.name == g.name)).getLast? = some g := by
    have hfound := Table.find?_of_mem (Table.nodup_names_ofEntries _) hentry
    rw [Table.find?_ofEntries, List.filter_map, List.getLast?_map, Option.map_map] at hfound
    simpa [Function.comp_def] using hfound
  have hfiltered : List.Forall₂ (Contribution.Gives s)
      (given.filter (·.name == g.name)) (found.filter (·.name == g.name)) := by
    refine List.rel_filter (fun {k f} hgives => ?_) h
    simp only [hgives.name_eq]
  exact Outcome.exists_of_getLast?_right hfiltered hkept

end fields

/-- The names of the fields of a schema are those that the classes of the line contribute. -/
theorem mem_names_schema_iff (hsound : Resolving.Sound s table)
    (h : (exec (Resolving.schema s d) table).1 = .ok schema) :
    ∃ names, lineage s.tree d = .ok names ∧
      ∀ name, name ∈ schema.fields.map (·.name) ↔
        ∃ c ∈ lineDeclarations s.tree d names, ∃ own, ownFields s c = .ok own ∧
          name ∈ own.map Prod.fst := by
  obtain ⟨-, names, found, hline, hreadable, hgiven, hschema⟩ :=
    (Resolving.schema_eq_ok_iff hsound).mp h
  refine ⟨names, hline, fun name => ?_⟩
  rw [hschema]
  exact (mem_names_fieldTable hgiven).trans (mem_map_name_walk_iff hreadable)

/-- **The fields of a schema**, of any declaration and from any table of canonical references. The
classes of the line of descent can all be read, and on the walk over them

* no two fields have one name;
* a name is a field iff a class of the line contributes it;
* fields stand in the order of the first contributions of their names;
* the class and the type of a field are those of the last contribution of its name: the annotation is
  resolved in the module and in the scope of the class that contributes it. -/
theorem fields_of_schema (hsound : Resolving.Sound s table)
    (h : (exec (Resolving.schema s d) table).1 = .ok schema) :
    ∃ names, lineage s.tree d = .ok names ∧
      (∀ c ∈ lineDeclarations s.tree d names, ∃ own, ownFields s c = .ok own) ∧
      (schema.fields.map (·.name)).Nodup ∧
      (∀ name, name ∈ schema.fields.map (·.name) ↔
        ∃ c ∈ lineDeclarations s.tree d names, ∃ own, ownFields s c = .ok own ∧
          name ∈ own.map Prod.fst) ∧
      (schema.fields.map (·.name)).Pairwise (fun a b =>
        ((walk s (lineDeclarations s.tree d names)).map (·.name)).idxOf a <
          ((walk s (lineDeclarations s.tree d names)).map (·.name)).idxOf b) ∧
      ∀ f ∈ schema.fields, ∃ last,
        ((walk s (lineDeclarations s.tree d names)).filter (·.name == f.name)).getLast? = some last ∧
        f.declaredIn = last.owner.qualifiedName ∧ last.HasType s f.type := by
  obtain ⟨-, names, found, hline, hreadable, hgiven, hschema⟩ :=
    (Resolving.schema_eq_ok_iff hsound).mp h
  have hfields : schema.fields = (fieldTable found).map Prod.snd := by rw [hschema]
  have hnames : schema.fields.map (·.name) =
      (Table.ofEntries (found.map fun f => (f.name, f))).names := by
    rw [hfields]
    exact names_fieldTable found
  have hentries : (found.map fun f => (f.name, f)).map Prod.fst =
      (walk s (lineDeclarations s.tree d names)).map (·.name) := by
    rw [← map_name_of_gives hgiven, List.map_map]
    rfl
  refine ⟨names, hline, hreadable, ?_, fun name => ?_, ?_, fun f hf => ?_⟩
  · rw [hnames]
    exact Table.nodup_names_ofEntries _
  · rw [hfields, mem_names_fieldTable hgiven, mem_map_name_walk_iff hreadable]
  · rw [hnames, ← hentries]
    exact Table.names_ofEntries_ordered _
  · rw [hfields] at hf
    obtain ⟨last, hlast, hgives⟩ := exists_last_of_mem hgiven hf
    exact ⟨last, hlast, hgives.declaredIn_eq, hgives.hasType⟩

/-- The surroundings of a tree that uses no library. -/
def Surroundings.withoutLibrary (tree : Tree) : Surroundings :=
  ⟨tree, ⟨[], [], [], [], fun _ => none⟩, parseExpression⟩

/-- A class with a base in another module. Both modules have classes of the same names. -/
def twoEngines : Tree :=
  let cls (name : String) (bases : List Expr) (body : List Statement) : Statement :=
    .classDef name bases [] body ⟨1, 0⟩
  let field (name type : String) : Statement := .annotated (.name name) (.name type) none
  ⟨[("a", ⟨"a", Path.ofText "a.py", false,
      [cls "Engine" [] [], cls "Key" [] [],
        cls "Base" [] [field "id" "Key", field "part" "Engine"]]⟩),
    ("b", ⟨"b", Path.ofText "b.py", false,
      [.importFrom (some "a") [⟨"Base", none⟩] 0, cls "Engine" [] [], cls "Key" [] [],
        cls "Child" [.name "Base"] [field "extra" "Engine", field "id" "Key"]]⟩)]⟩

/-- The fields of a class with a base in another module: a field that both annotate has the place of
the one and the type of the other, and `Engine` is the class of the module that annotates. -/
theorem fields_of_twoEngines :
    ∃ d schema, twoEngines.findClass? "b.Child" = some d ∧
      (exec (Resolving.schema (.withoutLibrary twoEngines) d) []).1 = .ok schema ∧
      schema.fields.map (fun f => (f.name, f.type.name, f.declaredIn)) =
        [("id", "b.Key", "b.Child"), ("part", "a.Engine", "a.Base"),
          ("extra", "b.Engine", "b.Child")] ∧
      (schema.fields.map (·.name)).Nodup := by
  have hfound : (twoEngines.findClass? "b.Child").isSome = true := by decide
  have hline : (twoEngines.findClass? "b.Child").map (lineage twoEngines) =
      some (.ok ["b.Child", "a.Base"]) := by decide
  have hplain : (twoEngines.findClass? "b.Child").map (fun d =>
      Resolving.isPlainLine (.withoutLibrary twoEngines)
        (lineDeclarations twoEngines d ["b.Child", "a.Base"])) = some true := by decide
  have hfields : (twoEngines.findClass? "b.Child").map (fun d =>
      (fieldTable ((walk (.withoutLibrary twoEngines)
        (lineDeclarations twoEngines d ["b.Child", "a.Base"])).map
          (Resolving.plainField (.withoutLibrary twoEngines)))).map fun entry =>
            (entry.2.name, entry.2.type.name, entry.2.declaredIn)) =
      some [("id", "b.Key", "b.Child"), ("part", "a.Engine", "a.Base"),
        ("extra", "b.Engine", "b.Child")] := by decide
  obtain ⟨d, hd⟩ := Option.isSome_iff_exists.mp hfound
  rw [hd, Option.map_some, Option.some.injEq] at hline hplain hfields
  have hschema := Resolving.schema_of_plain (Resolving.sound_nil (.withoutLibrary twoEngines))
    hline hplain
  obtain ⟨-, -, -, hnodup, -⟩ := fields_of_schema (Resolving.sound_nil _) hschema
  refine ⟨d, _, hd, hschema, ?_, hnodup⟩
  rw [List.map_map]
  exact hfields

end FluentBuilder
