import FluentBuilder.Proofs.Source.Marked
import FluentBuilder.Proofs.Source.Reading
import FluentBuilder.Proofs.Syntax.Spelling
import FluentBuilder.Proofs.Text.Dotted

/-!
# Names in trees that are read

In a tree that is read the modules stand under their names, and the names by which they declare something are
segments of dotted names (`Tree.Spelled`, `Tree.spelled_ofTexts`). So the names of declarations and of the
classes around them are segments (`Tree.Spelled.declaration`), and their qualified names have no separators
but points and those in the name of the module (`Declaration.Spelled.not_mem_qualifiedName`).
-/

namespace FluentBuilder.Source

variable {m : Module} {d : Declaration} {tree : Tree}

/-! ### Declarations -/

/-- The names of a declaration are segments, and so are the names by which its body declares something. -/
structure Declaration.Spelled (d : Declaration) : Prop where
  /-- The names of the classes around it. -/
  scope : ∀ segment ∈ d.scope, Text.IsSegment segment
  /-- Its own name. -/
  name : Text.IsSegment d.name
  /-- Its body. -/
  body : ∀ s ∈ d.body, s.Spelled

mutual

/-- What a statement declares. -/
theorem spelled_of_mem_declarationsOf : (statement : Syntax.Statement) → {scope : List String} →
    statement.Spelled → (∀ segment ∈ scope, Text.IsSegment segment) →
      d ∈ declarationsOf m scope statement → d.Spelled
  | .classDef name bases decorators body position, scope, hspelled, hscope, h => by
    obtain ⟨hname, hbody⟩ : Text.IsSegment name ∧ ∀ s ∈ body, s.Spelled := by
      cases hspelled with
      | classDef hname hbody => exact ⟨hname, hbody⟩
    rw [declarationsOf] at h
    rcases List.mem_cons.mp h with rfl | h
    · exact ⟨hscope, hname, hbody⟩
    · exact spelled_of_mem_declarationsIn body hbody
        (List.forall_mem_append.mpr ⟨hscope, List.forall_mem_singleton.mpr hname⟩) h
  | .functionDef name decorators position, scope, hspelled, hscope, h => by
    rw [declarationsOf] at h
    rw [List.mem_singleton.mp h]
    cases hspelled with
    | functionDef hname => exact ⟨hscope, hname, fun s hs => absurd hs List.not_mem_nil⟩
  | .importModules _, _, _, _, h => by cases h
  | .importFrom _ _ _, _, _, _, h => by cases h
  | .assign _, _, _, _, h => by cases h
  | .annotated _ _ _, _, _, _, h => by cases h
  | .other, _, _, _, h => by cases h

/-- What statements declare. -/
theorem spelled_of_mem_declarationsIn : (statements : List Syntax.Statement) → {scope : List String} →
    (∀ s ∈ statements, s.Spelled) → (∀ segment ∈ scope, Text.IsSegment segment) →
      d ∈ declarationsIn m scope statements → d.Spelled
  | [], _, _, _, h => by cases h
  | statement :: rest, scope, hspelled, hscope, h => by
    obtain ⟨hfirst, hrest⟩ := List.forall_mem_cons.mp hspelled
    rw [declarationsIn] at h
    rcases List.mem_append.mp h with h | h
    · exact spelled_of_mem_declarationsOf statement hfirst hscope h
    · exact spelled_of_mem_declarationsIn rest hrest hscope h

end

namespace Declaration.Spelled

/-- The name in a module has no separators but points. -/
theorem not_mem_qualname (h : d.Spelled) {c : Char} (hc : Text.IsSeparator c) (hpoint : c ≠ '.') :
    c ∉ d.qualname.toList := by
  intro hmem
  have hsegments : ∀ segment ∈ d.scope ++ [d.name], Text.IsSegment segment :=
    List.forall_mem_append.mpr ⟨h.scope, List.forall_mem_singleton.mpr h.name⟩
  rcases Dotted.mem_of_mem_join hmem with heq | ⟨segment, hsegment, hc'⟩
  · exact hpoint heq
  · exact (hsegments segment hsegment).2 c hc' hc

/-- A qualified name has no separators but points and those in the name of the module. -/
theorem not_mem_qualifiedName (h : d.Spelled) {c : Char} (hc : Text.IsSeparator c) (hpoint : c ≠ '.')
    (hmodule : c ∉ d.module.name.toList) : c ∉ d.qualifiedName.toList := by
  rw [qualifiedName, String.toList_append, String.toList_append, List.mem_append, List.mem_append]
  rintro ((hmem | hmem) | hmem)
  · exact hmodule hmem
  · exact hpoint (List.mem_singleton.mp hmem)
  · exact h.not_mem_qualname hc hpoint hmem

end Declaration.Spelled

/-! ### Trees -/

/-- A tree as it is read: its modules stand under their names, and the names by which they declare something
are segments. -/
structure Tree.Spelled (tree : Tree) : Prop where
  /-- The modules stand under their names. -/
  named : ∀ entry ∈ tree.modules, entry.2.name = entry.1
  /-- The names by which they declare something are segments. -/
  body : ∀ entry ∈ tree.modules, ∀ s ∈ entry.2.body, s.Spelled

/-- **The names of declarations in a tree that is read are segments.** -/
theorem Tree.Spelled.declaration (h : tree.Spelled) (hd : d ∈ tree.declarations) : d.Spelled := by
  obtain ⟨entry, hentry, hd⟩ := List.mem_flatMap.mp hd
  exact spelled_of_mem_declarationsIn _ (h.body entry hentry) (fun _ hmem => absurd hmem List.not_mem_nil) hd

/-- The module of a declaration declares something by segments only. -/
theorem Tree.Spelled.module_body (h : tree.Spelled) (hd : d ∈ tree.declarations) :
    ∀ s ∈ d.module.body, s.Spelled := by
  obtain ⟨entry, hentry, hd⟩ := List.mem_flatMap.mp hd
  rw [module_of_mem_declarationsIn _ hd]
  exact h.body entry hentry

/-- A module that is read from a text has its name, and declares something by segments. -/
theorem spelled_of_ofText {name text : String} {path : Path} {isPackage : Bool}
    {file : Option (List UInt8)} (h : Module.ofText name path isPackage file text = .ok m) :
    m.name = name ∧ ∀ s ∈ m.body, s.Spelled := by
  obtain ⟨body, hbody, rfl⟩ := Module.ofText_eq_ok_iff.mp h
  exact ⟨rfl, Syntax.spelled_of_parseModule hbody⟩

/-- A tree of modules that are read. -/
theorem Tree.spelled_ofModules {modules : Table Module}
    (h : ∀ entry ∈ modules, entry.2.name = entry.1 ∧ ∀ s ∈ entry.2.body, s.Spelled) :
    (Tree.ofModules modules).Spelled where
  named entry hentry := (h entry (mem_sortedBy.mp hentry)).1
  body entry hentry := (h entry (mem_sortedBy.mp hentry)).2

/-- **A tree that is read from texts has its modules under their names, and declares something by segments
only.** -/
theorem Tree.spelled_ofTexts {files : Path → Option (List UInt8)} {texts : Table String}
    {packages : List String} (h : Tree.ofTexts files texts packages = .ok tree) : tree.Spelled := by
  obtain ⟨modules, hmodules, heq⟩ := Outcome.bind_eq_ok_iff.mp h
  obtain rfl := Except.ok.inj heq
  refine spelled_ofModules fun entry hentry => ?_
  obtain ⟨text, -, hread⟩ := Outcome.exists_of_mem_right (Outcome.mapM_eq_ok_iff.mp hmodules) hentry
  obtain ⟨m, hm, heq⟩ := Outcome.bind_eq_ok_iff.mp hread
  obtain rfl := Except.ok.inj heq
  exact spelled_of_ofText hm

end FluentBuilder.Source
