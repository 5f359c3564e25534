import FluentBuilder.Proofs.Processing.Reloading
import FluentBuilder.Proofs.Source.Spelling

/-!
# Names in trees that are loaded

A tree that is loaded from files is as it is read: its modules stand under their names, and declare something
by segments only (`Loaded.spelled`). The name of a module is made of the names on the way to its file. So
where the names in a store are those that files can have, the qualified names of declarations have neither
slashes nor the character of code zero (`Loaded.plain`), and lead to no other directories than their own.
-/

namespace FluentBuilder

open Source Store

/-- The characters of a path without its suffix are characters of the path. -/
theorem Path.mem_of_mem_withoutSuffix {p : Path} {part : String} {c : Char}
    (hpart : part ∈ p.withoutSuffix.parts) (hc : c ∈ part.toList) : ∃ name ∈ p.parts, c ∈ name.toList := by
  rw [withoutSuffix, withSuffix] at hpart
  split at hpart
  · exact ⟨part, hpart, hc⟩
  next last hlast =>
  rcases List.mem_append.mp hpart with hfront | hstem
  · exact ⟨part, List.dropLast_subset _ hfront, hc⟩
  · rw [List.mem_singleton.mp hstem, String.append_empty, String.toList_ofList] at hc
    refine ⟨last, List.mem_of_getLast? hlast, ?_⟩
    split at hc
    · exact List.mem_of_mem_take hc
    · exact hc

namespace Processing

variable {s : Store} {root : Path} {file : Place} {sources : List Path} {tree : Tree}

/-- The characters in the name of a module are points and those of the names on the way to its file. -/
theorem mem_of_mem_moduleNameAt {c : Char} (h : c ∈ (moduleNameAt file).toList) :
    c = '.' ∨ ∃ name ∈ file, c ∈ name.toList := by
  have hparts (parts : List String) (hparts : parts ⊆ (Path.mk .relative file).withoutSuffix.parts)
      (hmem : c ∈ (Dotted.join parts).toList) : c = '.' ∨ ∃ name ∈ file, c ∈ name.toList :=
    (Dotted.mem_of_mem_join hmem).imp_right fun ⟨part, hpart, hc⟩ =>
      Path.mem_of_mem_withoutSuffix (hparts hpart) hc
  rw [moduleNameAt, moduleNameOf] at h
  split at h
  · exact hparts _ (List.dropLast_subset _) h
  · exact hparts _ (List.Subset.refl _) h

/-- The modules of a tree that is loaded are in files below its roots. -/
theorem Loaded.exists_file (h : Loaded s sources tree) {entry : String × Module}
    (hentry : entry ∈ tree.modules) :
    ∃ root, ∃ file ∈ sourceFiles s root, moduleNameAt file = entry.1 ∧
      readModuleAt s root file = .ok entry.2 := by
  obtain ⟨roots, -, rfl⟩ := loaded_iff.mp h
  obtain ⟨root, -, hmem⟩ := List.mem_flatMap.mp (Table.mem_of_mem_ofEntries (mem_sortedBy.mp hentry))
  obtain ⟨file, hfile, hmodule⟩ := List.mem_filterMap.mp hmem
  obtain ⟨hname, -, hread⟩ := moduleAt_eq_some hmodule
  exact ⟨root, file, hfile, hname, hread⟩

/-- What is read from a file is spelled. -/
theorem spelled_of_readModuleAt {m : Module} (h : readModuleAt s root file = .ok m) :
    ∀ statement ∈ m.body, statement.Spelled := by
  rw [readModuleAt, readModule] at h
  obtain ⟨bytes, -, h⟩ := Outcome.bind_eq_ok_iff.mp h
  split at h
  · cases h
  · exact (spelled_of_ofText (Outcome.mapError_eq_ok_iff.mp h)).2

/-- **A tree that is loaded has its modules under their names, and declares something by segments only.** -/
theorem Loaded.spelled (h : Loaded s sources tree) : tree.Spelled where
  named entry hentry := by
    obtain ⟨root, file, -, hname, hread⟩ := h.exists_file hentry
    exact (name_of_readModuleAt hread).trans hname
  body entry hentry := by
    obtain ⟨root, file, -, -, hread⟩ := h.exists_file hentry
    exact spelled_of_readModuleAt hread

/-- The characters in the name of a module of a tree that is loaded are points and those in the names of
files. -/
theorem Loaded.mem_name (hsound : s.Sound) (h : Loaded s sources tree) {entry : String × Module}
    (hentry : entry ∈ tree.modules) {c : Char} (hc : c ∈ entry.2.name.toList) :
    c = '.' ∨ ∃ place, s.node? place ≠ none ∧ ∃ name ∈ place, c ∈ name.toList := by
  obtain ⟨root, file, hfile, hname, hread⟩ := h.exists_file hentry
  obtain ⟨-, bytes, hbytes⟩ := (mem_sourceFiles_iff hsound).mp hfile
  rw [name_of_readModuleAt hread] at hc
  refine (mem_of_mem_moduleNameAt hc).imp_right fun ⟨name, hname, hc⟩ => ?_
  refine ⟨root.parts ++ file, ?_, name, List.mem_append_right _ hname, hc⟩
  rw [fileAt_eq_some_iff.mp hbytes]
  exact Option.some_ne_none _

/-- **The qualified names of what is marked in a tree that is loaded** have neither slashes nor the
character of code zero. -/
theorem Loaded.plain (hsound : s.Sound) (hproper : s.Proper) (h : Loaded s sources tree) :
    ∀ d ∈ tree.marked, '/' ∉ d.qualifiedName.toList ∧ '\x00' ∉ d.qualifiedName.toList := by
  intro d hd
  have hdeclared : d ∈ tree.declarations := List.mem_of_mem_filter hd
  have hspelled := h.spelled.declaration hdeclared
  obtain ⟨entry, hentry, hmem⟩ := List.mem_flatMap.mp hdeclared
  have hmodule : d.module = entry.2 := module_of_mem_declarationsIn _ hmem
  have hfree {c : Char} (hpoint : c ≠ '.')
      (hproper : ∀ place, s.node? place ≠ none → ∀ name ∈ place, c ∉ name.toList) :
      c ∉ d.module.name.toList := by
    intro hc
    rw [hmodule] at hc
    rcases h.mem_name hsound hentry hc with rfl | ⟨place, hplace, name, hname, hc⟩
    · exact hpoint rfl
    · exact hproper place hplace name hname hc
  have hnames (place : Place) (hplace : s.node? place ≠ none) (name : String) (hname : name ∈ place) :
      '/' ∉ name.toList ∧ '\x00' ∉ name.toList ∧ name ≠ ".." := by
    obtain ⟨node, hnode⟩ := Option.ne_none_iff_exists'.mp hplace
    exact hproper.names hnode name hname
  exact ⟨hspelled.not_mem_qualifiedName (by decide) (by decide)
      (hfree (by decide) fun place hplace name hname => (hnames place hplace name hname).1),
    hspelled.not_mem_qualifiedName (by decide) (by decide)
      (hfree (by decide) fun place hplace name hname => (hnames place hplace name hname).2.1)⟩

end Processing
end FluentBuilder
