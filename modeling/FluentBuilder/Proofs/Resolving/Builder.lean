import FluentBuilder.Proofs.Blueprint
import FluentBuilder.Proofs.Resolving.Memo

/-!
# The builder of a declaration

A declaration has a builder if it has a schema and the schema is accepted (`builderOf?`). Both depend on
the declaration and the source tree alone. The name of the file is made of the qualified name of the
class, and what is not in the one is not in the other (`below_of_builderOf?`, `hasNull_of_builderOf?`).
Of a class without bases and annotations the tree does not matter at all (`schemaOf_of_isBare`).
-/

namespace FluentBuilder

open Stateful

variable {s s' : Surroundings} {d : Source.Declaration} {schema : Schema} {b b' : Blueprint}

/-- The builder of a declaration, by itself, if it has one. -/
def builderOf? (s : Surroundings) (d : Source.Declaration) : Option Blueprint :=
  match schemaOf s d with
  | .ok schema => (Blueprint.ofSchema schema).toOption
  | .error _ => none

/-- A class with a schema that is accepted has a builder. -/
theorem builderOf?_of_ofSchema (hschema : schemaOf s d = .ok schema)
    (hb : Blueprint.ofSchema schema = .ok b) : builderOf? s d = some b := by
  rw [builderOf?, hschema]
  simp only [hb]
  rfl

/-- A builder is that of a schema which is accepted. -/
theorem exists_of_builderOf? (h : builderOf? s d = some b) :
    ∃ schema, schemaOf s d = .ok schema ∧ Blueprint.ofSchema schema = .ok b := by
  unfold builderOf? at h
  split at h
  · next schema hschema =>
    rcases hb : Blueprint.ofSchema schema with fault | b'
    · rw [hb] at h
      cases h
    · rw [hb] at h
      obtain rfl := Option.some.inj h
      exact ⟨schema, hschema, hb⟩
  · cases h

/-- **The module of a builder is named for the declaration alone**, whatever else is in the tree. -/
theorem moduleName_of_builderOf? (hb : builderOf? s d = some b) (hb' : builderOf? s' d = some b') :
    b'.moduleName = b.moduleName := by
  have hnamed : ∀ {s : Surroundings} {b : Blueprint}, builderOf? s d = some b →
      b.moduleName = Dotted.within (namespaceFor (Dotted.join ([d.module.package,
        Dotted.parent d.qualname].filter fun part => !part.isEmpty)))
          (builderName (Dotted.lastSegment d.qualname)) := by
    intro s b hb
    obtain ⟨schema, hschema, haccepted⟩ := exists_of_builderOf? hb
    obtain ⟨-, hname, hnamespace, -⟩ := Schema.ofSchema_eq_ok haccepted
    obtain ⟨-, -, hqualname, hpackage⟩ := schema_of_schemaOf hschema
    rw [Blueprint.moduleName, hname, hnamespace, Schema.enclosingScope, Schema.simpleName, hqualname,
      hpackage]
  rw [hnamed hb, hnamed hb']

/-- So is its file. -/
theorem outputPath_of_builderOf? (hb : builderOf? s d = some b) (hb' : builderOf? s' d = some b')
    (root : Path) : b'.outputPath root = b.outputPath root := by
  rw [Blueprint.outputPath, Blueprint.outputPath, moduleName_of_builderOf? hb hb']

/-- A character that is not in the qualified name of a class is in no part of its name. -/
theorem without_of_schemaOf {c : Char} (hc : c ≠ '.') (hname : c ∉ d.qualifiedName.toList)
    (hschema : schemaOf s d = .ok schema) : schema.Without c := by
  obtain ⟨-, -, hqualname, hpackage⟩ := schema_of_schemaOf hschema
  rw [Source.Declaration.qualifiedName, String.toList_append, String.toList_append, List.mem_append,
    List.mem_append, not_or, not_or] at hname
  obtain ⟨⟨hmodule, -⟩, hown⟩ := hname
  refine ⟨?_, ?_⟩
  · rw [hpackage, Source.Module.package]
    split
    · exact hmodule
    · exact fun hmem => hmodule (Dotted.mem_of_mem_parent hc hmem)
  · rw [hqualname]
    exact hown

/-- The file of a builder stands below the root, if the qualified name of the class has no slash. -/
theorem below_of_builderOf? (hslash : '/' ∉ d.qualifiedName.toList) (hb : builderOf? s d = some b)
    (root : Path) : Path.Below root (b.outputPath root) := by
  obtain ⟨schema, hschema, hb⟩ := exists_of_builderOf? hb
  exact (without_of_schemaOf (by decide) hslash hschema).below_outputPath hb root

/-- The path of a builder has no character of code zero, if the root and the qualified name of the
class have none. -/
theorem hasNull_of_builderOf? (hslash : '/' ∉ d.qualifiedName.toList)
    (hnull : '\x00' ∉ d.qualifiedName.toList) (hb : builderOf? s d = some b) {root : Path}
    (hroot : Store.hasNull root = false) :
    Store.hasNull (b.outputPath root) = false := by
  obtain ⟨schema, hschema, hb⟩ := exists_of_builderOf? hb
  exact (without_of_schemaOf (by decide) hslash hschema).hasNull_outputPath
    (without_of_schemaOf (by decide) hnull hschema) hb hroot

/-- The file of the builder of a class at the top of a module that is in no package stands in the root. -/
theorem outputPath_of_topLevel (hb : builderOf? s d = some b) (hscope : d.scope = [])
    (hpackage : d.module.package = "") (hpoint : '.' ∉ d.name.toList) (hslash : '/' ∉ d.name.toList)
    (root : Path) : b.outputPath root = ⟨root.root, root.parts ++ [builderName d.name ++ ".py"]⟩ := by
  obtain ⟨schema, hschema, hbuilt⟩ := exists_of_builderOf? hb
  obtain ⟨-, -, hqualname, hown⟩ := schema_of_schemaOf hschema
  obtain ⟨-, hname, hnamespace, -⟩ := Schema.ofSchema_eq_ok hbuilt
  have hqual : d.qualname = d.name := by
    rw [Source.Declaration.qualname, hscope, List.nil_append, Dotted.join_singleton]
  have hmodule : b.moduleName = builderName d.name := by
    rw [Blueprint.moduleName, hname, hnamespace, Schema.enclosingScope, Schema.simpleName, hqualname, hown,
      hqual, hpackage, Dotted.parent_of_not_mem hpoint, Dotted.lastSegment_of_not_mem hpoint]
    rfl
  have hpoint' := not_mem_builderName hpoint
  have hslash' : '/' ∉ (builderName d.name).toList := fun hmem =>
    hslash (mem_of_mem_builderName foreign_slash.separator foreign_slash.not_mem_suffix hmem)
  have hkept : Path.keeps (builderName d.name) = true := by
    obtain ⟨first, rest, -, hchars⟩ := exists_toList_builderName d.name
    have hne : builderName d.name ≠ "" := by
      intro heq
      have hnil := congrArg String.toList heq
      simp [hchars] at hnil
    have hne' : builderName d.name ≠ "." := by
      intro heq
      exact hpoint' (by rw [heq]; decide)
    simp [Path.keeps, hne, hne']
  rw [Blueprint.outputPath, hmodule, Dotted.segments_of_not_mem hpoint',
    Path.appendTexts_of_not_mem root (by simpa using hslash'), List.filter_singleton, hkept, cond_true,
    Path.withSuffix_of_not_mem _ _ hpoint']

/-! ### Classes by themselves -/

/-- Is a statement an annotation? -/
def Source.isAnnotation : Syntax.Statement → Bool
  | .annotated _ _ _ => true
  | _ => false

/-- Is a declaration a class without bases and annotations? -/
def Source.Declaration.isBare (d : Source.Declaration) : Bool :=
  d.isClass && d.baseExprs.isEmpty && d.body.all fun statement => !Source.isAnnotation statement

/-- A class without bases is a plain class in every tree. -/
theorem kindOf_of_isBare (h : d.isBare = true) (tree : Source.Tree) : tree.kindOf d = .plainClass := by
  simp only [Source.Declaration.isBare, Bool.and_eq_true] at h
  obtain ⟨⟨hclass, hbases⟩, -⟩ := h
  have hnone : tree.baseClasses d = [] := by
    rw [Source.Tree.baseClasses, List.isEmpty_iff.mp hbases]
    rfl
  rw [Source.Tree.kindOf, if_pos hclass, Source.Tree.specialKind, if_neg (by simp)]
  simp only [hnone, List.findSome?_nil, List.filterMap_nil, List.reverse_nil, List.nil_append]
  cases tree.kindFuel d <;> rfl

/-- A class without bases and annotations has no fields, in every tree. -/
theorem schemaOf_of_isBare (h : d.isBare = true) (s : Surroundings) :
    schemaOf s d = .ok ⟨d.module.name, d.qualname, d.module.package, []⟩ := by
  simp only [Source.Declaration.isBare, Bool.and_eq_true, List.all_eq_true] at h
  obtain ⟨⟨hclass, hbases⟩, hbody⟩ := h
  have hparents : s.tree.parents d = [] := by
    rw [Source.Tree.parents, Source.Tree.baseClasses, List.isEmpty_iff.mp hbases]
    rfl
  have hlineage : lineage s.tree d = .ok [d.qualifiedName] := by
    rw [lineage, hparents]
    rfl
  have hfields : ownFields s d = .ok [] := by
    have hnone : d.body.mapM (ownField s d) = .ok (d.body.map fun _ => none) := by
      refine Outcome.mapM_eq_ok_iff.mpr (List.forall₂_map_right_iff.mpr (List.forall₂_same.mpr ?_))
      intro statement hstatement
      have hother := hbody statement hstatement
      cases statement with
      | annotated => cases hother
      | _ => rfl
    rw [ownFields, if_pos hclass, hnone]
    simp [Except.map, Outcome.mapError_ok]
  have hlines : exec (Resolving.ofExcept ((lineage s.tree d).mapError .lineage)) ([] : Table TypeRef) =
      (.ok [d.qualifiedName], []) := by
    rw [hlineage]
    rfl
  have hput : exec (Resolving.putClasses s [] (lineDeclarations s.tree d [d.qualifiedName]).reverse)
      ([] : Table TypeRef) = (.ok [], []) := by
    have hown : exec (Resolving.ofExcept (ownFields s d)) ([] : Table TypeRef) = (.ok [], []) := by
      rw [hfields]
      rfl
    exact exec_bind_of_ok hown
  rw [schemaOf, Resolving.schema, hclass]
  simp only [Bool.not_true, Bool.false_eq_true, if_false]
  rw [exec_bind_of_ok hlines, exec_bind_of_ok hput]
  rfl

/-- So it has a builder. -/
theorem exists_builderOf?_of_isBare (h : d.isBare = true) (s : Surroundings) :
    ∃ b, builderOf? s d = some b :=
  ⟨_, builderOf?_of_ofSchema (schemaOf_of_isBare h s) rfl⟩

end FluentBuilder
