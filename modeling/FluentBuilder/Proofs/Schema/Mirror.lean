import FluentBuilder.Proofs.Lineage.Descent
import FluentBuilder.Proofs.Resolving.Memo
import FluentBuilder.Proofs.Source.Kind

/-!
# Trees that mirror each other

Declarations of two trees are alike where they have the same names, bases and own fields, where the classes
found for their bases are alike again, and where their annotations are resolved alike (`Mirrors`). Nothing
else is asked of the trees. Alike declarations have the same kind (`Mirrors.kindOf_eq`), the same line of
descent (`Mirrors.lineage_eq`) and the same schema, or the same fault (`Mirrors.schemaOf_eq`).

**The route.** Kinds and lines are computed in a number of steps that depends on the whole tree. For both
any larger number does as well (`kindOf_eq_of_le`, `lineage_eq_of_le`), so that the two trees are compared
step by step with as many steps as suffice in both of them.
-/

namespace FluentBuilder

open Syntax Source Stateful Lineage

variable {s s' : Surroundings} {d d' : Declaration} {α β ε : Type}

/-! ### Parts that come to the same -/

namespace Resolving

/-- Two parts yield the same result, each in surroundings of its own. -/
def Matches (s s' : Surroundings) (part part' : ExceptT ε (StateM (Table TypeRef)) α) : Prop :=
  ∃ result, Yields s part result ∧ Yields s' part' result

/-- Memoised parts that come to the same from the empty table match. -/
theorem Memoised.matches {part part' : ExceptT ε (StateM (Table TypeRef)) α} (h : Memoised s part)
    (h' : Memoised s' part') (hsame : (exec part' []).1 = (exec part []).1) : Matches s s' part part' := by
  obtain ⟨result, hresult⟩ := h
  obtain ⟨result', hresult'⟩ := h'
  obtain rfl : result' = result := by
    rw [← (hresult [] (sound_nil s)).1, ← (hresult' [] (sound_nil s')).1, hsame]
  exact ⟨result', hresult, hresult'⟩

/-- A part that yields a result comes to it. -/
theorem Yields.exec_nil {part : ExceptT ε (StateM (Table TypeRef)) α} {result : Except ε α}
    (h : Yields s part result) : (exec part []).1 = result :=
  (h [] (sound_nil s)).1

/-- A result that is the same matches. -/
theorem matches_ofExcept {result result' : Except SchemaFault α} (h : result' = result) :
    Matches s s' (ofExcept result) (ofExcept result') :=
  ⟨result, yields_of_const fun table => exec_mk_pure result table,
    h ▸ yields_of_const fun table => exec_mk_pure result' table⟩

/-- One part after another matches. -/
theorem Matches.bind {part part' : ExceptT ε (StateM (Table TypeRef)) α}
    {next next' : α → ExceptT ε (StateM (Table TypeRef)) β} (hpart : Matches s s' part part')
    (hnext : ∀ a, (exec part []).1 = .ok a → Matches s s' (next a) (next' a)) :
    Matches s s' (part >>= next) (part' >>= next') := by
  obtain ⟨fault | a, hyields, hyields'⟩ := hpart
  · exact ⟨.error fault, hyields.bind_error, hyields'.bind_error⟩
  · obtain ⟨result, hresult, hresult'⟩ := hnext a hyields.exec_nil
    exact ⟨result, hyields.bind_ok hresult, hyields'.bind_ok hresult'⟩

end Resolving

/-! ### What fields and references depend on -/

/-- The reference to a qualified name depends on the library, and on how the name is taken apart. -/
theorem canonical_congr (hlibrary : s'.library = s.library) {name : String}
    (hsplit : s'.tree.splitQualified name = s.tree.splitQualified name) :
    s'.canonical name = s.canonical name := by
  rw [Surroundings.canonical, Surroundings.canonical, hlibrary, hsplit]

section fields

variable (hparse : s'.parse = s.parse)
variable (hqualify : s'.tree.qualify d'.module d'.innerScope = s.tree.qualify d.module d.innerScope)

include hparse in
/-- Quoted expressions are read alike. -/
theorem unquote_congr : unquote s' = unquote s := by
  funext e
  rw [unquote.eq_def, unquote.eq_def, hparse]

include hparse hqualify

/-- Expressions have the same qualified names. -/
theorem qualifiedIn_congr : qualifiedIn s' d' = qualifiedIn s d := by
  funext e
  rw [qualifiedIn, qualifiedIn, unquote_congr hparse, hqualify]

/-- Statements contribute the same fields. -/
theorem ownField_congr : ownField s' d' = ownField s d := by
  funext statement
  have hqualified := qualifiedIn_congr hparse hqualify
  have hvariable : isClassVar s' d' = isClassVar s d := by
    funext e
    rw [isClassVar, isClassVar, unquote_congr hparse, hqualified]
  have hkeyword : isKeywordMark s' d' = isKeywordMark s d := by
    funext e
    rw [isKeywordMark, isKeywordMark, hqualified]
  have hexcluded : isExcluded s' d' = isExcluded s d := by
    funext e
    rw [isExcluded.eq_def, isExcluded.eq_def, hqualified]
  rw [ownField.eq_def, ownField.eq_def, hvariable, hkeyword, hexcluded]

end fields

/-! ### Trees side by side -/

/-- The classes that two trees have under a name are alike, or neither tree has one. -/
def FoundAlike (s s' : Surroundings) (R : Declaration → Declaration → Prop) (name : String) : Prop :=
  (∃ c c', s.tree.findClass? name = some c ∧ s'.tree.findClass? name = some c' ∧ R c c') ∨
    s.tree.findClass? name = none ∧ s'.tree.findClass? name = none

/-- Declarations that are alike in two trees. -/
structure Mirrors (s s' : Surroundings) (R : Declaration → Declaration → Prop) : Prop where
  /-- They are declarations of the trees. -/
  mem : ∀ {d d'}, R d d' → d ∈ s.tree.declarations ∧ d' ∈ s'.tree.declarations
  /-- Both are classes, or none is. -/
  isClass_eq : ∀ {d d'}, R d d' → d'.isClass = d.isClass
  /-- They are in modules of the same name. -/
  module_eq : ∀ {d d'}, R d d' → d'.module.name = d.module.name
  /-- The modules are in the same package. -/
  package_eq : ∀ {d d'}, R d d' → d'.module.package = d.module.package
  /-- They have the same name there. -/
  qualname_eq : ∀ {d d'}, R d d' → d'.qualname = d.qualname
  /-- They have the same bases. -/
  baseClasses_eq : ∀ {d d'}, R d d' → s'.tree.baseClasses d' = s.tree.baseClasses d
  /-- The classes found for the bases are alike. -/
  foundAlike : ∀ {d d'}, R d d' → ∀ name ∈ s.tree.baseClasses d, FoundAlike s s' R name
  /-- They have the same own fields. -/
  ownFields_eq : ∀ {d d'}, R d d' → ownFields s' d' = ownFields s d
  /-- The annotations of these are resolved alike. -/
  hint_eq : ∀ {d d'}, R d d' → ∀ own, ownFields s d = .ok own → ∀ field ∈ own,
    (exec (Resolving.hint s' field.2 d') []).1 = (exec (Resolving.hint s field.2 d) []).1

/-- The depth of a tree suffices for the line of every declaration, and any larger one does. -/
theorem lineage_eq_of_le {tree : Tree} (hd : d ∈ tree.declarations) {depth : Nat}
    (hdepth : lineageDepth tree ≤ depth) :
    line tree.parentsOf depth [] d.qualifiedName (tree.parents d) = lineage tree d := by
  obtain ⟨extra, rfl⟩ := Nat.exists_eq_add_of_le hdepth
  cases hclass : d.isClass with
  | true =>
    refine line_eq_of_depth (parentsOf_subset_classNames tree) List.nodup_nil (List.nil_subset _)
      (List.mem_map_of_mem (List.mem_filter.mpr ⟨hd, hclass⟩)) (fun base hbase => ?_)
      (classNames_length_lt tree) extra
    obtain ⟨c, hc⟩ := exists_findClass_of_mem_parents hbase
    exact mem_classNames_of_findClass hc
  | false =>
    have hnone : tree.parents d = [] := by
      rw [Tree.parents, Tree.baseClasses_of_not_isClass hclass]
      rfl
    rw [lineage, hnone, lineageDepth, Nat.add_right_comm, line_succ, line_succ]
    rfl

namespace Mirrors

variable {R : Declaration → Declaration → Prop} {names : List String}

/-- Alike declarations have the same qualified name. -/
theorem qualifiedName_eq (h : Mirrors s s' R) (hd : R d d') : d'.qualifiedName = d.qualifiedName := by
  rw [Declaration.qualifiedName, Declaration.qualifiedName, h.module_eq hd, h.qualname_eq hd]

/-- Classes found under the same names are alike, one by one. -/
theorem forall₂_filterMap
    (hnames : ∀ name ∈ names, FoundAlike s s' R name) :
    List.Forall₂ R (names.filterMap s.tree.findClass?) (names.filterMap s'.tree.findClass?) := by
  induction names with
  | nil => exact .nil
  | cons name rest ih =>
    obtain ⟨hname, hrest⟩ := List.forall_mem_cons.mp hnames
    rw [List.filterMap_cons, List.filterMap_cons]
    rcases hname with ⟨c, c', hc, hc', halike⟩ | ⟨hnone, hnone'⟩
    · rw [hc, hc']
      exact .cons halike (ih hrest)
    · rw [hnone, hnone']
      exact ih hrest

/-! ### Kinds -/

/-- The search for a special kind goes the same way. -/
theorem specialKind_eq (h : Mirrors s s' R) (fuel : Nat) {seen : List String}
    {pending pending' : List Declaration} (hpending : List.Forall₂ R pending pending') :
    s'.tree.specialKind fuel seen pending' = s.tree.specialKind fuel seen pending := by
  induction fuel generalizing seen pending pending' with
  | zero => rfl
  | succ fuel ih =>
    cases hpending with
    | nil => rfl
    | cons hd hrest =>
      have hparents := forall₂_filterMap (h.foundAlike hd)
      simp only [Tree.specialKind, h.qualifiedName_eq hd, h.baseClasses_eq hd, ih hrest,
        ih (List.rel_append (List.rel_reverse hparents) hrest)]

/-- **Alike declarations have the same kind.** -/
theorem kindOf_eq (h : Mirrors s s' R) (hd : R d d') : s'.tree.kindOf d' = s.tree.kindOf d := by
  rw [Tree.kindOf_eq_of_le (Nat.le_max_right (s.tree.kindFuel d) (s'.tree.kindFuel d')),
    Tree.kindOf_eq_of_le (Nat.le_max_left (s.tree.kindFuel d) (s'.tree.kindFuel d')), h.isClass_eq hd,
    h.specialKind_eq _ (.cons hd .nil)]

/-! ### Lines of descent -/

/-- Alike declarations have the same bases in the tree. -/
theorem parents_eq (h : Mirrors s s' R) (hd : R d d') : s'.tree.parents d' = s.tree.parents d := by
  rw [Tree.parents, Tree.parents, h.baseClasses_eq hd]
  refine List.filter_congr fun name hname => ?_
  rcases h.foundAlike hd name hname with ⟨c, c', hc, hc', -⟩ | ⟨hnone, hnone'⟩
  · rw [hc, hc']
    rfl
  · rw [hnone, hnone']

/-- The classes found for the bases in the tree are alike. -/
theorem foundAlike_of_mem_parents (h : Mirrors s s' R) (hd : R d d') :
    ∀ base ∈ s.tree.parents d, FoundAlike s s' R base :=
  fun base hbase => h.foundAlike hd base (List.mem_of_mem_filter hbase)

/-- Alike classes lead to alike classes. -/
theorem foundAlike_of_mem_parentsOf (h : Mirrors s s' R) {name : String} (hname : FoundAlike s s' R name) :
    ∀ base ∈ s.tree.parentsOf name, FoundAlike s s' R base := by
  rw [Tree.parentsOf]
  rcases hname with ⟨c, c', hc, -, halike⟩ | ⟨hnone, -⟩
  · rw [hc]
    exact h.foundAlike_of_mem_parents halike
  · rw [hnone]
    exact fun base hbase => absurd hbase List.not_mem_nil

/-- Alike classes have the same bases in the tree, by name. -/
theorem parentsOf_eq (h : Mirrors s s' R) {name : String} (hname : FoundAlike s s' R name) :
    s'.tree.parentsOf name = s.tree.parentsOf name := by
  rw [Tree.parentsOf, Tree.parentsOf]
  rcases hname with ⟨c, c', hc, hc', halike⟩ | ⟨hnone, hnone'⟩
  · rw [hc, hc']
    exact h.parents_eq halike
  · rw [hnone, hnone']

/-- **Alike declarations have the same line of descent**, or none for the same reason. -/
theorem lineage_eq (h : Mirrors s s' R) (hd : R d d') : lineage s'.tree d' = lineage s.tree d := by
  obtain ⟨hmem, hmem'⟩ := h.mem hd
  rw [← lineage_eq_of_le hmem' (Nat.le_max_right (lineageDepth s.tree) _),
    ← lineage_eq_of_le hmem (Nat.le_max_left _ (lineageDepth s'.tree)), h.qualifiedName_eq hd,
    h.parents_eq hd]
  exact line_congr (fun name => h.foundAlike_of_mem_parentsOf) (h.foundAlike_of_mem_parents hd)
    fun name => h.parentsOf_eq

/-- The declarations of the line are alike, one by one. -/
theorem lineDeclarations_rel (h : Mirrors s s' R) (hd : R d d') (hline : lineage s.tree d = .ok names) :
    List.Forall₂ R (lineDeclarations s.tree d names) (lineDeclarations s'.tree d' names) := by
  refine .cons hd (forall₂_filterMap ?_)
  exact forall_mem_tail_line (fun name => h.foundAlike_of_mem_parentsOf) (h.foundAlike_of_mem_parents hd)
    hline

/-! ### Schemas -/

open Resolving

/-- Alike fields of alike classes are put alike. -/
theorem matches_putFields (h : Mirrors s s' R) (hd : R d d') {own : List (String × Expr)}
    (hown : ∀ field ∈ own,
      (exec (hint s' field.2 d') []).1 = (exec (hint s field.2 d) []).1) (fields : Table Field) :
    Matches s s' (putFields s d fields own) (putFields s' d' fields own) := by
  induction own generalizing fields with
  | nil => exact ⟨.ok fields, yields_of_const fun _ => rfl, yields_of_const fun _ => rfl⟩
  | cons field rest ih =>
    obtain ⟨hfirst, hrest⟩ := List.forall_mem_cons.mp hown
    rw [putFields, putFields, h.qualifiedName_eq hd]
    refine Matches.bind ?_ fun type _ => ih hrest _
    refine ((memoised_hint s field.2 d).adapt _).matches ((memoised_hint s' field.2 d').adapt _) ?_
    rw [exec_adapt, exec_adapt, hfirst]

/-- The fields of alike classes are put alike. -/
theorem matches_putClasses (h : Mirrors s s' R) {classes classes' : List Declaration}
    (hclasses : List.Forall₂ R classes classes') (fields : Table Field) :
    Matches s s' (putClasses s fields classes) (putClasses s' fields classes') := by
  induction hclasses generalizing fields with
  | nil => exact ⟨.ok fields, yields_of_const fun _ => rfl, yields_of_const fun _ => rfl⟩
  | cons hd _ ih =>
    rw [putClasses, putClasses]
    refine Matches.bind (matches_ofExcept (h.ownFields_eq hd)) fun own hown => ?_
    exact Matches.bind (h.matches_putFields hd (h.hint_eq hd own hown) fields) fun _ _ => ih _

/-- **Alike declarations have the same schema**, or none for the same reason. -/
theorem schemaOf_eq (h : Mirrors s s' R) (hd : R d d') : schemaOf s' d' = schemaOf s d := by
  have hrest : Matches s s'
      (do
        let names ← Resolving.ofExcept ((lineage s.tree d).mapError .lineage)
        let fields ← putClasses s [] (lineDeclarations s.tree d names).reverse
        return (⟨d.module.name, d.qualname, d.module.package, fields.map Prod.snd⟩ : Schema))
      (do
        let names ← Resolving.ofExcept ((lineage s'.tree d').mapError .lineage)
        let fields ← putClasses s' [] (lineDeclarations s'.tree d' names).reverse
        return (⟨d'.module.name, d'.qualname, d'.module.package, fields.map Prod.snd⟩ : Schema)) := by
    rw [h.lineage_eq hd]
    refine Matches.bind (matches_ofExcept rfl) fun names hnames => ?_
    have hline : lineage s.tree d = .ok names := Outcome.mapError_eq_ok_iff.mp hnames
    refine Matches.bind (h.matches_putClasses (List.rel_reverse (h.lineDeclarations_rel hd hline)) [])
      fun fields _ => ?_
    rw [h.module_eq hd, h.qualname_eq hd, h.package_eq hd]
    exact ⟨_, yields_of_const fun _ => rfl, yields_of_const fun _ => rfl⟩
  have hschema : Matches s s' (schema s d) (schema s' d') := by
    rw [schema, schema, h.isClass_eq hd, h.qualifiedName_eq hd]
    split
    · exact ⟨_, yields_of_const fun _ => rfl, yields_of_const fun _ => rfl⟩
    · exact hrest
  obtain ⟨result, hyields, hyields'⟩ := hschema
  rw [schemaOf, schemaOf, hyields.exec_nil, hyields'.exec_nil]

end Mirrors

end FluentBuilder
