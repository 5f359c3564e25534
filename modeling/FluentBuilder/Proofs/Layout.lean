import FluentBuilder.Processing.Loading
import FluentBuilder.Proofs.Blueprint
import FluentBuilder.Proofs.Resolving.Imports

/-!
# Files and names of modules

A builder is written to the file that its module is loaded from: the name of the module is read off the
file again, whatever the root is (`moduleNameIn_outputPath`). In the same way the file of a module, or of a
package, has its name (`moduleNameIn_modulePath`). So different modules have different files, and no file
stands where another one needs a directory (`layout_round_trip`).

**The route.** All of this holds of dotted names whose segments can be names of files (`Dotted.Placeable`):
the file of such a name is its segments, the last one with the suffix of modules. The names of builders are
of this kind, because changing case neither empties a segment nor adds or takes away a point
(`filled_lowerText`).
-/

namespace FluentBuilder

/-! ### Segments in lower case -/

namespace Text

/-- A row that was written has images. -/
theorem MapRow.target_ofText_ne_nil (cs : List Char) : (MapRow.ofText cs).target ≠ [] := by
  have hsplit : ∀ separator cs, splitAt separator cs ≠ [] := fun separator cs => by
    rw [Path.splitAt_eq_pieces]
    exact Dotted.pieces_ne_nil separator cs
  rw [MapRow.ofText]
  split
  · exact fun h => hsplit _ _ (List.map_eq_nil_iff.mp h)
  · exact List.cons_ne_nil 0 []

/-- A table that was written maps no character to nothing. -/
theorem MapTable.apply_ofLines_ne_nil (lines : List String) (c : Char) :
    (MapTable.ofLines lines).apply c ≠ [] := by
  rw [MapTable.apply]
  split
  · next images hfound =>
    simp only [MapTable.find?, bind, Option.bind_eq_some_iff] at hfound
    obtain ⟨i, -, row, hrow, htarget⟩ := hfound
    obtain ⟨cs, -, rfl⟩ : ∃ cs ∈ wordsOfLines lines, MapRow.ofText cs = row := by
      have hmem := Array.mem_of_getElem? hrow
      rwa [MapTable.ofLines, List.mem_toArray, List.mem_map] at hmem
    have hne := MapRow.target_ofText_ne_nil cs
    rw [Ne, List.map_eq_nil_iff]
    rintro rfl
    split at htarget
    · cases htarget
    · exact hne (Option.some.inj htarget)
  · exact List.cons_ne_nil c []

/-- Lower case leaves something of every character. -/
theorem lower_ne_nil (c : Char) : lower c ≠ [] := by
  rw [lower]
  split
  · exact List.cons_ne_nil _ []
  · exact MapTable.apply_ofLines_ne_nil _ c

end Text

namespace Dotted

/-- What stands before the first separator goes into the first piece. -/
theorem pieces_append_of_not_mem {separator : Char} {front cs piece : List Char} {rest : List (List Char)}
    (hfront : separator ∉ front) (h : pieces separator cs = piece :: rest) :
    pieces separator (front ++ cs) = (front ++ piece) :: rest := by
  induction front with
  | nil => exact h
  | cons c front ih =>
    rw [List.mem_cons, not_or] at hfront
    rw [List.cons_append, pieces, if_neg (Ne.symm hfront.1), ih hfront.2, List.cons_append]

end Dotted

namespace Text

open Dotted

/-- Lower case keeps the places of points, and empties no piece between them. -/
theorem pieces_lowerFrom (before cs : List Char) :
    List.Forall₂ (fun piece piece' => piece ≠ [] → piece' ≠ [])
      (pieces '.' cs) (pieces '.' (lowerFrom before cs)) := by
  induction cs generalizing before with
  | nil => exact .cons id .nil
  | cons c rest ih =>
    have hrest := ih (c :: before)
    rw [lowerFrom]
    by_cases hpoint : c = '.'
    · subst hpoint
      have himage : lower '.' = ['.'] := by decide
      have hsigma : ('.'.toNat == 0x3A3) = false := by decide
      rw [hsigma, himage, pieces, if_pos rfl]
      simpa [pieces] using hrest
    · obtain ⟨piece, others, hpieces⟩ := List.exists_cons_of_ne_nil (pieces_ne_nil '.' rest)
      obtain ⟨piece', others', hpieces'⟩ :=
        List.exists_cons_of_ne_nil (pieces_ne_nil '.' (lowerFrom (c :: before) rest))
      rw [hpieces, hpieces'] at hrest
      -- The image has no point in it, so that it goes into the first piece.
      generalize himage : (if c.toNat == 0x3A3 then
        if casedAhead before && !casedAhead rest then [Char.ofNat 0x3C2] else [Char.ofNat 0x3C3]
        else lower c) = image
      have hnone : '.' ∉ image := by
        rw [← himage]
        split
        · split <;> decide
        · exact fun hmem => hpoint (eq_of_mem_lower (by decide) hmem).symm
      have hne : image ≠ [] := by
        rw [← himage]
        split
        · split <;> exact List.cons_ne_nil _ []
        · exact lower_ne_nil c
      rw [pieces_append_of_not_mem hnone hpieces', pieces, if_neg hpoint, hpieces]
      cases hrest with
      | cons _ hothers => exact .cons (fun _ h => hne (List.append_eq_nil_iff.mp h).1) hothers

/-- **Lower case empties no segment.** -/
theorem filled_lowerText {name : String} (h : Filled name) : Filled (lowerText name) := by
  intro segment hsegment
  rw [segments, lowerText, String.toList_ofList] at hsegment
  obtain ⟨piece', hpiece', rfl⟩ := List.mem_map.mp hsegment
  obtain ⟨piece, hpiece, hne⟩ := Outcome.exists_of_mem_right (pieces_lowerFrom [] name.toList) hpiece'
  have hfull := h (String.ofList piece) (List.mem_map_of_mem hpiece)
  rw [Ne, ← String.toList_inj, String.toList_ofList] at hfull ⊢
  exact hne hfull

end Text

/-! ### Names that can be placed -/

namespace Dotted

variable {name outer inner : String}

/-- A dotted name whose segments can be names of files: none is empty, and none has a slash in it. -/
def Placeable (name : String) : Prop := ∀ segment ∈ segments name, segment ≠ "" ∧ '/' ∉ segment.toList

instance (name : String) : Decidable (Placeable name) :=
  inferInstanceAs (Decidable (∀ segment ∈ segments name, _))

/-- No segment is empty, and no character is a slash. -/
theorem placeable_iff : Placeable name ↔ Filled name ∧ '/' ∉ name.toList := by
  constructor
  · refine fun h => ⟨fun segment hsegment => (h segment hsegment).1, fun hslash => ?_⟩
    rw [← join_segments name] at hslash
    rcases mem_of_mem_join hslash with hpoint | ⟨segment, hsegment, hmem⟩
    · cases hpoint
    · exact (h segment hsegment).2 hmem
  · exact fun ⟨hfilled, hslash⟩ segment hsegment =>
      ⟨hfilled segment hsegment, fun hmem => hslash (mem_of_mem_segments hsegment hmem)⟩

/-- The first segments of a name are followed by the last one. -/
theorem segments_eq_concat (name : String) :
    ∃ front, segments name = front ++ [lastSegment name] := by
  obtain ⟨first, rest, hsegments⟩ := exists_segments_eq_cons name
  have hne : segments name ≠ [] := hsegments ▸ List.cons_ne_nil first rest
  refine ⟨(segments name).dropLast, ?_⟩
  have hlast : lastSegment name = (segments name).getLast hne := by
    rw [lastSegment, splitLast, List.getLastD_eq_getLast?, List.getLast?_eq_some_getLast hne,
      Option.getD_some]
  rw [hlast, List.dropLast_concat_getLast]

/-- What comes before the last point of a name without empty segments has none, if anything does. -/
theorem Filled.parent (h : Filled name) : Dotted.parent name = "" ∨ Filled (Dotted.parent name) := by
  by_cases hempty : Dotted.parent name = ""
  · exact .inl hempty
  · obtain ⟨rest, hname⟩ := encloses_parent hempty
    rw [hname] at h
    exact .inr (filled_append_iff.mp h).1

/-- A name of one segment that is not empty. -/
theorem filled_of_not_mem (hne : name ≠ "") (h : '.' ∉ name.toList) : Filled name := by
  intro segment hsegment
  rw [segments_of_not_mem h, List.mem_singleton] at hsegment
  rwa [hsegment]

/-- Names without empty segments make up such a name. -/
theorem filled_within (houter : outer = "" ∨ Filled outer) (hinner : Filled inner) :
    Filled (within outer inner) := by
  rw [within]
  split
  · exact hinner
  · next hne =>
    exact filled_append_iff.mpr ⟨houter.resolve_left fun h => hne (String.isEmpty_iff.mpr h), hinner⟩

end Dotted

/-! ### Paths seen from above -/

namespace Path

open Dotted

/-- The path as it is seen from a path above it, if that is above it. -/
def relativeTo? (p root : Path) : Option Path :=
  if p.root = root.root ∧ root.parts <+: p.parts then some ⟨.relative, p.parts.drop root.parts.length⟩
  else none

/-- Further parts are what is seen. -/
theorem relativeTo?_append (root : Path) (further : List String) :
    (⟨root.root, root.parts ++ further⟩ : Path).relativeTo? root = some ⟨.relative, further⟩ := by
  rw [relativeTo?, if_pos ⟨rfl, List.prefix_append _ _⟩, List.drop_left]

/-- A directory on the way to a path. -/
def Above (p q : Path) : Prop := ∃ further : List String, further ≠ [] ∧ q = ⟨p.root, p.parts ++ further⟩

/-- What stands before the last point of a name, if nothing is empty. -/
theorem stemLength_append {stem suffix : List Char} (hstem : stem ≠ []) (hsuffix : suffix ≠ [])
    (h : '.' ∉ suffix) : stemLength (stem ++ '.' :: suffix) = some stem.length := by
  have hafter : ((stem ++ '.' :: suffix).reverse.takeWhile (· != '.')) = suffix.reverse := by
    rw [List.reverse_append, List.reverse_cons, List.append_assoc,
      List.takeWhile_append_of_pos fun c hc => ?_]
    · simp
    · rw [bne_iff_ne]
      rintro rfl
      exact h (List.mem_reverse.mp hc)
  have hbefore := List.length_pos_iff.mpr hstem
  have hbehind := List.length_pos_iff.mpr hsuffix
  have hlength : stem.length + (suffix.length + 1) - suffix.length - 1 = stem.length := by omega
  rw [stemLength, hafter]
  simp only [List.length_append, List.length_cons, List.length_reverse, hlength]
  rw [if_pos (by simp; omega)]

/-- The characters of the name of a file with a module. -/
theorem toList_file (last : String) : (last ++ ".py").toList = last.toList ++ '.' :: ['p', 'y'] :=
  String.toList_append

/-- The suffix of modules is taken from a file again. -/
theorem withoutSuffix_file (root : PathRoot) (front : List String) {last : String} (h : last ≠ "") :
    (⟨root, front ++ [last ++ ".py"]⟩ : Path).withoutSuffix = ⟨root, front ++ [last]⟩ := by
  have hstem : stemLength (last ++ ".py").toList = some last.toList.length := by
    rw [toList_file]
    exact stemLength_append (fun hnil => h (String.toList_eq_nil_iff.mp hnil)) (by simp) (by decide)
  rw [withoutSuffix, withSuffix, List.getLast?_concat]
  simp only [hstem, List.dropLast_concat]
  rw [toList_file, List.take_left, String.ofList_toList, String.append_empty]

/-- A text that is one part of a path. -/
structure IsPart (text : String) : Prop where
  /-- It is not left out. -/
  keeps : keeps text = true
  /-- It is not taken apart. -/
  not_mem : '/' ∉ text.toList

/-- Such texts are further parts of a path. -/
theorem appendTexts_of_isPart (p : Path) {texts : List String} (h : ∀ text ∈ texts, IsPart text) :
    p.appendTexts texts = ⟨p.root, p.parts ++ texts⟩ := by
  rw [appendTexts_of_not_mem p fun text htext => (h text htext).not_mem,
    List.filter_eq_self.mpr fun text htext => (h text htext).keeps]

/-- The name of a file with a module is one part. -/
theorem isPart_file {last : String} (h : '/' ∉ last.toList) : IsPart (last ++ ".py") := by
  have hlength : 2 < (last ++ ".py").toList.length := by
    rw [toList_file, List.length_append, List.length_cons, List.length_cons, List.length_singleton]
    omega
  refine ⟨?_, by simp [h]⟩
  rw [Path.keeps, Bool.and_eq_true, bne_iff_ne, bne_iff_ne]
  exact ⟨fun heq => by rw [heq] at hlength; exact absurd hlength (by decide),
    fun heq => by rw [heq] at hlength; exact absurd hlength (by decide)⟩

end Path

namespace Dotted

variable {name : String}

/-- The segments of a name that can be placed are parts of a path. -/
theorem Placeable.isPart (h : Placeable name) : ∀ segment ∈ segments name, Path.IsPart segment := by
  refine fun segment hsegment => ⟨?_, (h segment hsegment).2⟩
  rw [Path.keeps, Bool.and_eq_true, bne_iff_ne, bne_iff_ne]
  refine ⟨(h segment hsegment).1, ?_⟩
  rintro rfl
  exact not_mem_of_mem_segments hsegment (by decide)

end Dotted

/-! ### Names of files -/

namespace Processing

open Dotted

/-- The name of the module in a file below a root, and whether it is a package. -/
def moduleNameIn (root file : Path) : Option (String × Bool) := (file.relativeTo? root).map moduleNameOf

/-- It is the name that loading gives to the module. -/
theorem moduleNameIn_append (root : Path) (place : Place) :
    moduleNameIn root ⟨root.root, root.parts ++ place⟩ = some (moduleNameOf ⟨.relative, place⟩) := by
  rw [moduleNameIn, Path.relativeTo?_append, Option.map_some]

/-- The name of a module is read off its file. -/
theorem moduleNameIn_file (root : Path) {front : List String} {last : String} (hlast : last ≠ "")
    (hinit : last ≠ "__init__") :
    moduleNameIn root ⟨root.root, root.parts ++ (front ++ [last ++ ".py"])⟩ =
      some (join (front ++ [last]), false) := by
  rw [moduleNameIn_append, moduleNameOf, Path.withoutSuffix_file _ _ hlast]
  simp [hinit]

/-- The name of a package is read off the file in it. -/
theorem moduleNameIn_package (root : Path) (front : List String) :
    moduleNameIn root ⟨root.root, root.parts ++ (front ++ ["__init__.py"])⟩ = some (join front, true) := by
  have hfile := Path.withoutSuffix_file .relative front (show "__init__" ≠ "" by decide)
  have hname : "__init__" ++ ".py" = "__init__.py" := by decide
  rw [hname] at hfile
  rw [moduleNameIn_append, moduleNameOf, hfile]
  simp

/-- **The file of a module has its name**, below whatever root. -/
theorem moduleNameIn_modulePath (root : Path) {name : String} (h : Placeable name) {isPackage : Bool}
    (hinit : isPackage = false → lastSegment name ≠ "__init__") :
    moduleNameIn root (root ++ Source.modulePath name isPackage) = some (name, isPackage) := by
  cases isPackage with
  | true =>
    have hpath : Source.modulePath name true = ⟨.relative, segments name ++ ["__init__.py"]⟩ := by
      rw [Source.modulePath, if_pos rfl, Path.appendTexts_of_isPart]
      · rfl
      · exact List.forall_mem_append.mpr ⟨h.isPart, List.forall_mem_singleton.mpr ⟨by decide, by decide⟩⟩
    rw [hpath, Path.append_of_relative, moduleNameIn_package, join_segments]
  | false =>
    obtain ⟨front, hsegments⟩ := segments_eq_concat name
    have hplaceable : ∀ segment ∈ front ++ [lastSegment name], segment ≠ "" ∧ '/' ∉ segment.toList :=
      hsegments ▸ h
    obtain ⟨-, hlast⟩ := List.forall_mem_append.mp hplaceable
    obtain ⟨hne, hslash⟩ := List.forall_mem_singleton.mp hlast
    have hpath : Source.modulePath name false = ⟨.relative, front ++ [lastSegment name ++ ".py"]⟩ := by
      have hparts := h.isPart
      rw [hsegments] at hparts
      rw [Source.modulePath, if_neg Bool.false_ne_true, hsegments, List.dropLast_concat,
        List.getLastD_concat, Path.appendTexts_of_isPart]
      · rfl
      · exact List.forall_mem_append.mpr ⟨(List.forall_mem_append.mp hparts).1,
          List.forall_mem_singleton.mpr (Path.isPart_file hslash)⟩
    rw [hpath, Path.append_of_relative, moduleNameIn_file root hne (hinit rfl), ← hsegments,
      join_segments]

end Processing

/-! ### Files of builders -/

namespace Schema

open Dotted Processing

variable {schema schema' : Schema} {b b' : Blueprint}

/-- The names of a class can be placed; its module may be outside every package. -/
structure Placeable (schema : Schema) : Prop where
  /-- The package, if there is one. -/
  package : schema.package = "" ∨ Dotted.Placeable schema.package
  /-- The name in the module. -/
  qualname : Dotted.Placeable schema.qualname

/-- There is no slash in the names of such a class. -/
theorem Placeable.without (h : schema.Placeable) : schema.Without '/' where
  package := by
    rcases h.package with hempty | hplaceable
    · rw [hempty]
      decide
    · exact (placeable_iff.mp hplaceable).2
  qualname := (placeable_iff.mp h.qualname).2

/-- The scope around such a class is empty, or none of its segments is. -/
theorem Placeable.filled_enclosingScope (h : schema.Placeable) :
    schema.enclosingScope = "" ∨ Filled schema.enclosingScope := by
  have hpackage : schema.package = "" ∨ Filled schema.package :=
    h.package.imp_right fun h => (placeable_iff.mp h).1
  have houter := (placeable_iff.mp h.qualname).1.parent
  rw [enclosingScope]
  by_cases hnone : schema.package = "" <;> by_cases houtermost : Dotted.parent schema.qualname = ""
  · exact .inl (by simp [hnone, houtermost]; decide)
  · exact .inr (by simpa [hnone, houtermost, join_singleton] using houter.resolve_left houtermost)
  · exact .inr (by simpa [hnone, houtermost, join_singleton] using hpackage.resolve_left hnone)
  · refine .inr ?_
    have hparts : [schema.package, Dotted.parent schema.qualname].filter (fun part => !part.isEmpty) =
        [schema.package, Dotted.parent schema.qualname] := by
      simp [hnone, houtermost]
    rw [hparts, join_cons _ (List.cons_ne_nil _ _), join_singleton]
    exact filled_append_iff.mpr ⟨hpackage.resolve_left hnone, houter.resolve_left houtermost⟩

/-- **The module of the builder of such a class can be placed**, and its last segment is not that of the
file of a package. -/
theorem Placeable.moduleName (hplaceable : schema.Placeable) (h : Blueprint.ofSchema schema = .ok b) :
    Dotted.Placeable b.moduleName ∧ lastSegment b.moduleName ≠ "__init__" := by
  obtain ⟨-, hname, hnamespace, -, -, -, -⟩ := ofSchema_eq_ok h
  obtain ⟨c, rest, -, hchars⟩ := exists_toList_builderName schema.simpleName
  rw [← hname] at hchars
  have hpoint : '.' ∉ b.name.toList := hname ▸ not_mem_builderName (not_mem_lastSegment _)
  have hlast : lastSegment b.moduleName = b.name := by
    rw [Blueprint.moduleName, within]
    split
    · exact lastSegment_of_not_mem hpoint
    · rw [lastSegment_append, lastSegment_of_not_mem hpoint]
  have hends : b.name.toList.getLast? = some 'r' := by
    rw [hchars, List.getLast?_concat]
  refine ⟨placeable_iff.mpr ⟨?_, hplaceable.without.not_mem_moduleName foreign_slash h⟩, fun hinit => ?_⟩
  · rw [Blueprint.moduleName]
    refine filled_within ?_ (filled_of_not_mem (fun hempty => ?_) hpoint)
    · rw [hnamespace]
      rcases hplaceable.filled_enclosingScope with hempty | hfilled
      · exact .inl (by rw [hempty]; decide)
      · exact .inr (Text.filled_lowerText hfilled)
    · rw [hempty] at hends
      cases hends
  · rw [← hlast, hinit] at hends
    exact absurd hends (by decide)

/-- The file of the builder of such a class is the file of its module. -/
theorem Placeable.exists_segments (hplaceable : schema.Placeable) (h : Blueprint.ofSchema schema = .ok b)
    (root : Path) : ∃ front last, segments b.moduleName = front ++ [last] ∧ last ≠ "" ∧
      last ≠ "__init__" ∧ b.outputPath root = ⟨root.root, root.parts ++ (front ++ [last ++ ".py"])⟩ := by
  obtain ⟨hmodule, hinit⟩ := hplaceable.moduleName h
  obtain ⟨front, hsegments⟩ := segments_eq_concat b.moduleName
  have hlast := List.mem_append_right front (List.mem_singleton_self (lastSegment b.moduleName))
  rw [← hsegments] at hlast
  refine ⟨front, lastSegment b.moduleName, hsegments, (hmodule _ hlast).1, hinit, ?_⟩
  rw [Blueprint.outputPath, Path.appendTexts_of_isPart root hmodule.isPart, hsegments, ← List.append_assoc,
    Path.withSuffix_of_not_mem _ _ (not_mem_of_mem_segments hlast), List.append_assoc]

/-- **The name of the module of a builder is read off its file**, below whatever root. -/
theorem Placeable.moduleNameIn_outputPath (hplaceable : schema.Placeable)
    (h : Blueprint.ofSchema schema = .ok b) (root : Path) :
    moduleNameIn root (b.outputPath root) = some (b.moduleName, false) := by
  obtain ⟨front, last, hsegments, hne, hinit, hpath⟩ := hplaceable.exists_segments h root
  rw [hpath, moduleNameIn_file root hne hinit, ← hsegments, join_segments]

/-- No file of a builder stands where another one needs a directory: the file has a suffix, and segments
have no point in them. -/
theorem Placeable.not_above (hplaceable : schema.Placeable) (hplaceable' : schema'.Placeable)
    (h : Blueprint.ofSchema schema = .ok b) (h' : Blueprint.ofSchema schema' = .ok b') (root : Path) :
    ¬ Path.Above (b.outputPath root) (b'.outputPath root) := by
  obtain ⟨front, last, -, -, -, hpath⟩ := hplaceable.exists_segments h root
  obtain ⟨front', last', hsegments', -, -, hpath'⟩ := hplaceable'.exists_segments h' root
  rintro ⟨further, hne, habove⟩
  rw [hpath, hpath', Path.mk.injEq, and_iff_right rfl, List.append_assoc] at habove
  have hparts := List.append_cancel_left habove
  -- All parts but the last one are segments.
  obtain ⟨further, lastPart, rfl⟩ := (List.eq_nil_or_concat' further).resolve_left hne
  rw [← List.append_assoc] at hparts
  obtain ⟨hfront, -⟩ := List.append_inj' hparts rfl
  have hmem : last ++ ".py" ∈ segments b'.moduleName := by
    rw [hsegments', hfront]
    simp
  exact not_mem_of_mem_segments hmem (by simp [String.toList_append])

end Schema

namespace Processing

open Dotted

/-- **Files and names of modules answer to each other.** The file of a builder stands below the root, and
the name of its module is read off it, which is no package; so two builders have one file iff they have
one module, and no file stands where another one needs a directory. And the name of a module or a package
is read off its file. This holds of all names whose segments are not empty and have no slash. -/
theorem layout_round_trip (root : Path) :
    (∀ schema b, schema.Placeable → Blueprint.ofSchema schema = .ok b →
      Path.Below root (b.outputPath root) ∧
        moduleNameIn root (b.outputPath root) = some (b.moduleName, false)) ∧
    (∀ schema schema' b b', schema.Placeable → schema'.Placeable → Blueprint.ofSchema schema = .ok b →
      Blueprint.ofSchema schema' = .ok b' →
      (b.outputPath root = b'.outputPath root ↔ b.moduleName = b'.moduleName) ∧
        ¬ Path.Above (b.outputPath root) (b'.outputPath root)) ∧
    ∀ name isPackage, Placeable name → (isPackage = false → lastSegment name ≠ "__init__") →
      moduleNameIn root (root ++ Source.modulePath name isPackage) = some (name, isPackage) := by
  refine ⟨fun schema b hplaceable h => ⟨hplaceable.without.below_outputPath h root,
    hplaceable.moduleNameIn_outputPath h root⟩, fun schema schema' b b' hplaceable hplaceable' h h' => ?_,
    fun name isPackage hname hinit => moduleNameIn_modulePath root hname hinit⟩
  refine ⟨⟨fun hpath => ?_, fun hmodule => ?_⟩, hplaceable.not_above hplaceable' h h' root⟩
  · have hname := hplaceable.moduleNameIn_outputPath h root
    rw [hpath, hplaceable'.moduleNameIn_outputPath h' root] at hname
    exact (Prod.mk.inj (Option.some.inj hname)).1.symm
  · rw [Blueprint.outputPath, hmodule, Blueprint.outputPath]

/-- A class in a class of a module in a package. -/
def engineSchema : Schema := ⟨"shop.Parts.engines", "Car.Engine", "shop.Parts", []⟩

/-- A class in a module outside every package. -/
def carSchema : Schema := ⟨"cars", "Car", "", []⟩

/-- The builders of both classes have files of their own, which have the names of their modules; and so
has the file of a package. -/
theorem layout_of_engine :
    ∃ b b', Blueprint.ofSchema engineSchema = .ok b ∧ Blueprint.ofSchema carSchema = .ok b' ∧
      engineSchema.Placeable ∧ carSchema.Placeable ∧ Placeable "shop.parts" ∧
      b.outputPath ⟨.absolute, ["out"]⟩ =
        ⟨.absolute, ["out", "shop", "parts", "car", "EngineBuilder.py"]⟩ ∧
      moduleNameIn ⟨.absolute, ["out"]⟩ (b.outputPath ⟨.absolute, ["out"]⟩) =
        some ("shop.parts.car.EngineBuilder", false) ∧
      b.outputPath ⟨.absolute, ["out"]⟩ ≠ b'.outputPath ⟨.absolute, ["out"]⟩ ∧
      moduleNameIn ⟨.absolute, ["out"]⟩ (⟨.absolute, ["out"]⟩ ++ Source.modulePath "shop.parts" true) =
        some ("shop.parts", true) := by
  obtain ⟨b, hb⟩ : ∃ b, Blueprint.ofSchema engineSchema = .ok b := ⟨_, rfl⟩
  obtain ⟨b', hb'⟩ : ∃ b, Blueprint.ofSchema carSchema = .ok b := ⟨_, rfl⟩
  have hengine : engineSchema.Placeable := ⟨.inr (by decide), by decide⟩
  have hcar : carSchema.Placeable := ⟨.inl rfl, by decide⟩
  have hpackage : Placeable "shop.parts" := by decide
  have hmodule : b.moduleName = "shop.parts.car.EngineBuilder" := by
    obtain rfl := Except.ok.inj hb
    decide
  have hmodule' : b'.moduleName = "CarBuilder" := by
    obtain rfl := Except.ok.inj hb'
    decide
  obtain ⟨hbuilder, hbuilders, hmodules⟩ := layout_round_trip ⟨.absolute, ["out"]⟩
  obtain ⟨-, hname⟩ := hbuilder engineSchema b hengine hb
  obtain ⟨hsame, -⟩ := hbuilders engineSchema carSchema b b' hengine hcar hb hb'
  refine ⟨b, b', hb, hb', hengine, hcar, hpackage, ?_, hmodule ▸ hname, fun hpath => ?_,
    hmodules "shop.parts" true hpackage (fun h => Bool.noConfusion h)⟩
  · rw [Blueprint.outputPath, hmodule]
    decide
  · rw [hsame.mp hpath, hmodule'] at hmodule
    exact absurd hmodule (by decide)

end Processing
end FluentBuilder
