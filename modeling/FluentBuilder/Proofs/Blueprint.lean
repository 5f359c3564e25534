import FluentBuilder.Blueprint
import FluentBuilder.Proofs.Outcome
import FluentBuilder.Proofs.Path
import FluentBuilder.Proofs.Table
import FluentBuilder.Proofs.Text.Case
import Mathlib.Data.List.Basic

/-!
# Blueprints of accepted classes

A class that is accepted has the blueprint that its schema says (`ofSchema_eq_ok`). Where its names are
dotted names, without slashes, the file of its builder stands below the root that builders are written
to (`below_outputPath`): the file is named for the builder, whose name is not empty and has no point in
it, so that adding the suffix changes this name and not the root.
-/

namespace FluentBuilder

namespace Schema

variable {schema : Schema} {b : Blueprint}

/-- A class that is accepted has no field that is refused, and its blueprint. -/
theorem ofSchema_eq_ok (h : Blueprint.ofSchema schema = .ok b) :
    (∀ f ∈ schema.fields, checkField schema.qualifiedName f.name = .ok ()) ∧
      b.name = builderName schema.simpleName ∧
      b.namespaceName = namespaceFor schema.enclosingScope ∧
      b.target = schema.qualifiedName ∧ b.targetModule = schema.module ∧
      b.members = schema.fields.map (fun f => ⟨f.name, f.type⟩) ∧
      b.imports = sortedNames (((schema.module :: schema.fields.flatMap fun f =>
        f.type.modules).eraseDups).filter (· != runtimeModule)) := by
  obtain ⟨⟨⟩, hchecked, hb⟩ := Outcome.bind_eq_ok_iff.mp h
  obtain rfl := Except.ok.inj hb
  exact ⟨Outcome.forM_eq_ok_iff.mp hchecked, rfl, rfl, rfl, rfl, rfl, rfl⟩

/-- The module of the class is imported, unless it is that of the tools. -/
theorem module_mem_imports (h : Blueprint.ofSchema schema = .ok b)
    (hmodule : schema.module ≠ runtimeModule) : schema.module ∈ b.imports := by
  obtain ⟨-, -, -, -, -, -, himports⟩ := ofSchema_eq_ok h
  rw [himports, sortedNames, mem_sortedBy, List.mem_filter, List.mem_eraseDups]
  exact ⟨List.mem_cons_self, bne_iff_ne.mpr hmodule⟩

end Schema

/-! ### Names of builders -/

/-- The characters of the name of a builder: the first one of the class is a capital one, and the
suffix follows. -/
theorem exists_toList_builderName (className : String) :
    ∃ c rest, className.toList ++ builderSuffix.toList = c :: rest ++ ['r'] ∧
      (builderName className).toList =
        (if Text.isLower c then Text.upper c else [c]) ++ rest ++ ['r'] := by
  have hsuffix : builderSuffix.toList = ['B', 'u', 'i', 'l', 'd', 'e'] ++ ['r'] := rfl
  obtain ⟨c, rest, hchars⟩ : ∃ c rest,
      className.toList ++ builderSuffix.toList = c :: rest ++ ['r'] := by
    rw [hsuffix, ← List.append_assoc]
    cases className.toList with
    | nil => exact ⟨'B', ['u', 'i', 'l', 'd', 'e'], rfl⟩
    | cons c cs => exact ⟨c, cs ++ ['B', 'u', 'i', 'l', 'd', 'e'], rfl⟩
  refine ⟨c, rest, hchars, ?_⟩
  rw [builderName, String.toList_append, hchars, List.cons_append]
  simp only [String.toList_ofList]
  split <;> simp

/-- A separator in the name of a builder is one in the name of its class or in the suffix. -/
theorem mem_of_mem_builderName {c : Char} (hc : Text.IsSeparator c)
    (hsuffix : c ∉ builderSuffix.toList) {className : String}
    (h : c ∈ (builderName className).toList) : c ∈ className.toList := by
  obtain ⟨first, rest, hchars, hname⟩ := exists_toList_builderName className
  have hboth : c ∈ className.toList ++ builderSuffix.toList := by
    rw [hname, List.append_assoc, List.mem_append] at h
    rw [hchars, List.cons_append, List.mem_cons]
    rcases h with hfirst | hrest
    · left
      split at hfirst
      · exact Text.eq_of_mem_upper hc hfirst
      · exact List.mem_singleton.mp hfirst
    · exact .inr hrest
  rcases List.mem_append.mp hboth with hclass | hmem
  · exact hclass
  · exact absurd hmem hsuffix

/-- The name of a builder has no point in it if that of the class has none. -/
theorem not_mem_builderName {className : String} (h : '.' ∉ className.toList) :
    '.' ∉ (builderName className).toList := fun hmem =>
  h (mem_of_mem_builderName (by decide) (by decide) hmem)

/-- A character that names do not get on the way to the module of a builder: changing case does not
make it, and it is neither the point nor in the suffix. -/
structure Foreign (c : Char) : Prop where
  /-- Changing case does not make it. -/
  separator : Text.IsSeparator c
  /-- It is not the point. -/
  ne_point : c ≠ '.'
  /-- It is not in the suffix. -/
  not_mem_suffix : c ∉ builderSuffix.toList

/-- The slash is such a character. -/
theorem foreign_slash : Foreign '/' :=
  ⟨by decide, by decide, by decide⟩

/-- The character of code zero is such a character. -/
theorem foreign_null : Foreign '\x00' :=
  ⟨by decide, by decide, by decide⟩

/-! ### The file of a builder -/

namespace Schema

variable {schema : Schema} {b : Blueprint} {c : Char}

/-- No part of the name of a class has a character in it. -/
structure Without (schema : Schema) (c : Char) : Prop where
  /-- Neither has the package. -/
  package : c ∉ schema.package.toList
  /-- Nor the name in the module. -/
  qualname : c ∉ schema.qualname.toList

/-- The module of a builder has no foreign character in its name if the class has none. -/
theorem Without.not_mem_moduleName (hwithout : schema.Without c) (hc : Foreign c)
    (h : Blueprint.ofSchema schema = .ok b) : c ∉ b.moduleName.toList := by
  obtain ⟨-, hname, hnamespace, -, -, -, -⟩ := ofSchema_eq_ok h
  have hbuilder : c ∉ b.name.toList := by
    rw [hname]
    exact fun hmem => hwithout.qualname (Dotted.mem_of_mem_lastSegment
      (mem_of_mem_builderName hc.separator hc.not_mem_suffix hmem))
  have houter : c ∉ b.namespaceName.toList := by
    rw [hnamespace]
    intro hmem
    have hscope := Text.mem_of_mem_lowerText hc.separator hmem
    rcases Dotted.mem_of_mem_join hscope with hpoint | ⟨part, hpart, hmem⟩
    · exact hc.ne_point hpoint
    · rw [List.mem_filter, List.mem_cons, List.mem_singleton] at hpart
      rcases hpart.1 with rfl | rfl
      · exact hwithout.package hmem
      · exact hwithout.qualname (Dotted.mem_of_mem_parent hc.ne_point hmem)
  rw [Blueprint.moduleName, Dotted.within]
  split
  · exact hbuilder
  · rw [String.toList_append, String.toList_append, List.mem_append, List.mem_append]
    rintro ((hmem | hmem) | hmem)
    · exact houter hmem
    · exact hc.ne_point (by simpa using hmem)
    · exact hbuilder hmem

/-- The last segment of the module of a builder is not empty. -/
theorem exists_getLast?_moduleName (h : Blueprint.ofSchema schema = .ok b) :
    ∃ last, (Dotted.segments b.moduleName).getLast? = some last ∧ last ≠ "" := by
  obtain ⟨-, hname, -, -, -, -, -⟩ := ofSchema_eq_ok h
  obtain ⟨c, rest, -, hchars⟩ := exists_toList_builderName schema.simpleName
  rw [← hname] at hchars
  obtain ⟨front, hmodule⟩ : ∃ front, b.moduleName.toList = front ++ ['r'] := by
    rw [Blueprint.moduleName, Dotted.within]
    split
    · exact ⟨_, hchars⟩
    · rw [String.toList_append, hchars, ← List.append_assoc]
      exact ⟨_, rfl⟩
  exact Dotted.exists_getLast?_segments hmodule (by decide)

/-- The file of a builder is found by the segments of its module, of which the last one gets a suffix,
if the class has no slash in its name. -/
theorem Without.exists_outputPath (hslash : schema.Without '/')
    (h : Blueprint.ofSchema schema = .ok b) (root : Path) :
    ∃ front last, (∀ segment ∈ front ++ [last], segment ∈ Dotted.segments b.moduleName) ∧
      b.outputPath root = ⟨root.root, root.parts ++ (front ++ [last ++ ".py"])⟩ := by
  have hnone := hslash.not_mem_moduleName foreign_slash h
  obtain ⟨last, hlast, hne⟩ := exists_getLast?_moduleName h
  obtain ⟨front, hsegments⟩ : ∃ front, Dotted.segments b.moduleName = front ++ [last] :=
    ⟨_, (List.dropLast_append_getLast? last hlast).symm⟩
  have hpoint : '.' ∉ last.toList :=
    Dotted.not_mem_of_mem_segments (hsegments ▸ List.mem_append_right _ List.mem_cons_self)
  have hkept : Path.keeps last = true := by
    have hne' : last ≠ "." := by
      rintro rfl
      exact hpoint (by decide)
    simp [Path.keeps, hne, hne']
  refine ⟨front.filter Path.keeps, last, fun segment hsegment => ?_, ?_⟩
  · rw [hsegments]
    rcases List.mem_append.mp hsegment with hfront | hlast
    · exact List.mem_append_left _ (List.mem_filter.mp hfront).1
    · exact List.mem_append_right _ hlast
  · rw [Blueprint.outputPath, Path.appendTexts_of_not_mem root fun segment hsegment hmem =>
      hnone (Dotted.mem_of_mem_segments hsegment hmem), hsegments, List.filter_append,
      List.filter_singleton, hkept, cond_true, ← List.append_assoc,
      Path.withSuffix_of_not_mem _ _ hpoint, List.append_assoc]

/-- **The file of a builder stands below the root**, if the class has no slash in its name. -/
theorem Without.below_outputPath (hslash : schema.Without '/')
    (h : Blueprint.ofSchema schema = .ok b) (root : Path) : Path.Below root (b.outputPath root) := by
  obtain ⟨front, last, hsegments, hpath⟩ := hslash.exists_outputPath h root
  refine ⟨_, hpath, by simp, fun hup => ?_⟩
  -- Only the way up consists of points.
  rcases List.mem_append.mp hup with hfront | hfile
  · have hpoint := Dotted.not_mem_of_mem_segments (hsegments ".." (List.mem_append_left _ hfront))
    exact hpoint (by decide)
  · have hchars := congrArg (fun name => name.toList.getLast?) (List.mem_singleton.mp hfile)
    simp [String.toList_append] at hchars

/-- The file of a builder has the character of code zero in its path only if the root or the name of
the class has it. -/
theorem Without.hasNull_outputPath (hslash : schema.Without '/') (hnull : schema.Without '\x00')
    (h : Blueprint.ofSchema schema = .ok b) {root : Path} (hroot : Store.hasNull root = false) :
    Store.hasNull (b.outputPath root) = false := by
  obtain ⟨front, last, hsegments, hpath⟩ := hslash.exists_outputPath h root
  have hsegment : ∀ segment ∈ front ++ [last], '\x00' ∉ segment.toList := fun segment hmem hzero =>
    hnull.not_mem_moduleName foreign_null h (Dotted.mem_of_mem_segments (hsegments segment hmem) hzero)
  obtain ⟨hfront, hlast⟩ := List.forall_mem_append.mp hsegment
  have hfile := hlast last List.mem_cons_self
  rw [Store.hasNull, List.any_eq_false] at hroot ⊢
  rw [hpath]
  intro part hpart hcontains
  have hzero := List.contains_iff_mem.mp hcontains
  rcases List.mem_append.mp hpart with hpart | hpart
  · exact hroot part hpart hcontains
  rcases List.mem_append.mp hpart with hpart | hpart
  · exact hfront part hpart hzero
  · rw [List.mem_singleton.mp hpart] at hzero
    simp [String.toList_append, hfile] at hzero

end Schema
end FluentBuilder
