import FluentBuilder.Proofs.Library
import FluentBuilder.Proofs.Resolving.Memo
import FluentBuilder.Proofs.Source.Split

/-!
# References to names outside the library

The reference to a name outside the library writes that name again (`name_writes_name`). Its module is the
longest one of the tree that encloses the name, which is the module of a class where no module is called
like a class. Where no module encloses the name, the custom for names says where it is taken apart.

**The route.** However a name is taken apart, its parts make up the name with a point between them
(`guessedSplit_append`, `splitLast_append`), and what they write is lost only where a part is empty or is
the module of the built-in names (`render_named`). Names outside the library without empty segments have
no such parts (`canonical_of_filled`).
-/

namespace FluentBuilder

open Dotted Stateful

namespace Dotted

variable {name outer inner : String}

/-- The first segment of a name is that of what encloses it. -/
theorem splitHead_append (outer inner : String) :
    (splitHead (outer ++ "." ++ inner)).1 = (splitHead outer).1 := by
  obtain ⟨head, rest, hsegments⟩ := exists_segments_eq_cons outer
  rw [splitHead_fst hsegments]
  have hboth : segments (outer ++ "." ++ inner) = head :: (rest ++ segments inner) := by
    rw [segments_append, hsegments, List.cons_append]
  exact splitHead_fst hboth

/-- A name with a point in it has more than one segment. -/
theorem one_lt_length_segments (h : '.' ∈ name.toList) : 1 < (segments name).length := by
  obtain ⟨first, rest, hsegments⟩ := exists_segments_eq_cons name
  cases rest with
  | nil =>
    have hname : name = first := by rw [← join_segments name, hsegments, join_singleton]
    have hpoint : '.' ∉ first.toList := not_mem_of_mem_segments (hsegments ▸ List.mem_cons_self)
    exact absurd h (hname ▸ hpoint)
  | cons next rest =>
    rw [hsegments, List.length_cons, List.length_cons]
    omega

/-- What comes before the last point and the last segment make up the name. -/
theorem splitLast_append (h : '.' ∈ name.toList) :
    (splitLast name).1 ++ "." ++ (splitLast name).2 = name := by
  have hlength := one_lt_length_segments h
  have hne : segments name ≠ [] := List.ne_nil_of_length_pos (by omega)
  have hfront : (segments name).dropLast ≠ [] :=
    List.ne_nil_of_length_pos (by rw [List.length_dropLast]; omega)
  have hlast : (segments name).getLastD "" = join [(segments name).getLast hne] := by
    rw [join_singleton, List.getLastD_eq_getLast?, List.getLast?_eq_some_getLast hne, Option.getD_some]
  rw [splitLast, hlast, ← join_append hfront (List.cons_ne_nil _ _), List.dropLast_concat_getLast,
    join_segments]

/-- A name is not empty if its last segment is not. -/
theorem join_concat_ne_empty (front : List String) {last : String} (h : last ≠ "") :
    join (front ++ [last]) ≠ "" := by
  by_cases hfront : front = []
  · rwa [hfront, List.nil_append, join_singleton]
  · rw [join_append hfront (List.cons_ne_nil last []), ← String.toList_inj.ne, toList_append_point]
    simp

/-- No segment of the name is empty. -/
def Filled (name : String) : Prop := ∀ segment ∈ segments name, segment ≠ ""

instance (name : String) : Decidable (Filled name) :=
  inferInstanceAs (Decidable (∀ segment ∈ segments name, segment ≠ ""))

/-- No segment is empty in either part of such a name. -/
theorem filled_append_iff : Filled (outer ++ "." ++ inner) ↔ Filled outer ∧ Filled inner := by
  rw [Filled, segments_append, List.forall_mem_append, Filled, Filled]

/-- Such a name is not empty. -/
theorem Filled.ne_empty (h : Filled name) : name ≠ "" := by
  rintro rfl
  exact h "" (by decide) rfl

end Dotted

section

variable {s : Surroundings} {name module qualname outer inner : String}

/-- The custom for names takes a name apart at a point. -/
theorem guessedSplit_append (h : '.' ∈ name.toList) :
    (guessedSplit name).1 ++ "." ++ (guessedSplit name).2 = name := by
  rw [guessedSplit]
  split
  · next hlt => rw [join_take_append_drop hlt, join_segments]
  · exact splitLast_append h

/-- A name belongs to the library with what encloses it. -/
theorem owns_append (library : Library) (outer inner : String) :
    library.owns (outer ++ "." ++ inner) = library.owns outer := by
  rw [Library.owns, splitHead_append, Library.owns]

/-- The built-in names belong to every library. -/
theorem owns_builtins (library : Library) : library.owns "builtins" = true := by
  have hhead : (splitHead "builtins").1 = "builtins" := by decide
  rw [Library.owns, hhead, beq_self_eq_true, Bool.true_or]

/-- A reference without arguments writes its module and its name, unless the module needs no writing. -/
theorem render_named (hmodule : module ≠ "") (hbuiltins : module ≠ "builtins") (hname : qualname ≠ "") :
    (TypeRef.named module qualname).render = module ++ "." ++ qualname := by
  have hempty : qualname.isEmpty = false := by rwa [← Bool.not_eq_true, String.isEmpty_iff]
  rw [TypeRef.named, TypeRef.render]
  simp [hempty, TypeRef.name, hmodule, hbuiltins]

/-- A reference without a module writes its name. -/
theorem render_named_empty (hname : qualname ≠ "") : (TypeRef.named "" qualname).render = qualname := by
  have hempty : qualname.isEmpty = false := by rwa [← Bool.not_eq_true, String.isEmpty_iff]
  rw [TypeRef.named, TypeRef.render]
  simp [hempty, TypeRef.name]

/-- The reference to a name outside the library is its place in the tree, or follows the custom. -/
theorem canonical_of_not_owns (h : s.library.owns name = false) :
    s.canonical name =
      match s.tree.splitQualified name with
      | some (module, qualname) => .named module qualname
      | none => if parent name = "" then .named "" (lastSegment name) else guessedRef name := by
  have hbuiltins : (splitLast name).1 ≠ "builtins" := by
    intro hmodule
    have hparent : parent name ≠ "" := by
      rw [parent, hmodule]
      decide
    obtain ⟨rest, hrest⟩ := encloses_parent hparent
    rw [hrest, owns_append, parent, hmodule, owns_builtins] at h
    cases h
  cases hsplit : s.tree.splitQualified name with
  | some parts => simp [Surroundings.canonical, h, hbuiltins, hsplit]
  | none =>
    by_cases hmodule : (splitLast name).1 = "" <;>
      simp [Surroundings.canonical, h, hbuiltins, hsplit, parent, lastSegment, hmodule]

/-- **A name outside the library is taken apart, and nothing of it is lost.** -/
theorem canonical_of_filled (hfilled : Filled name) (howns : s.library.owns name = false) :
    ∃ module qualname, s.canonical name = .named module qualname ∧
      (module = "" ∧ qualname = name ∧ '.' ∉ name.toList ∨ module ++ "." ++ qualname = name) ∧
      ∀ outer ∈ s.tree.modules.names, Encloses outer name →
        module ∈ s.tree.modules.names ∧ (outer = module ∨ Encloses outer module) := by
  rw [canonical_of_not_owns howns]
  cases hsplit : s.tree.splitQualified name with
  | some parts =>
    obtain ⟨module, qualname⟩ := parts
    obtain ⟨hname, hmodule, hlongest⟩ := Source.Tree.splitQualified_eq_some_iff.mp hsplit
    exact ⟨module, qualname, rfl, .inr hname.symm, fun outer houter hencloses =>
      ⟨hmodule, hlongest outer houter hencloses⟩⟩
  | none =>
    have hnone : ∀ outer ∈ s.tree.modules.names, ¬ Encloses outer name := fun _ =>
      Source.Tree.not_encloses_of_splitQualified_eq_none hsplit
    by_cases hpoint : '.' ∈ name.toList
    · have hparent : parent name ≠ "" := by
        rw [← splitLast_append hpoint] at hfilled
        exact (filled_append_iff.mp hfilled).1.ne_empty
      exact ⟨_, _, if_neg hparent, .inr (guessedSplit_append hpoint), fun outer houter hencloses =>
        absurd hencloses (hnone outer houter)⟩
    · refine ⟨"", name, ?_, .inl ⟨rfl, rfl, hpoint⟩, fun outer houter hencloses =>
        absurd hencloses (hnone outer houter)⟩
      show (if parent name = "" then _ else _) = _
      rw [if_pos (parent_of_not_mem hpoint), lastSegment_of_not_mem hpoint]

/-- The parts of a name outside the library write the name. -/
theorem render_of_append (hfilled : Filled (module ++ "." ++ qualname))
    (howns : s.library.owns (module ++ "." ++ qualname) = false) :
    (TypeRef.named module qualname).render = module ++ "." ++ qualname := by
  obtain ⟨hmodule, hqualname⟩ := filled_append_iff.mp hfilled
  refine render_named hmodule.ne_empty ?_ hqualname.ne_empty
  rintro rfl
  rw [owns_append, owns_builtins] at howns
  cases howns

/-- **References to names outside the library write these names.** Where no module is called like a class,
the qualified name of a class is taken apart into its module and the name in it, and the reference to it
is made of these. The reference to any name without empty segments has a module that encloses the name,
or none if there is one segment, and this is the longest module of the tree that encloses the name, if
there is one. What is asked of names here holds of every tree that is read (`Tree.Spelled.simple_name`). -/
theorem name_writes_name (s : Surroundings) (hnamed : ∀ entry ∈ s.tree.modules, entry.2.name = entry.1)
    (hspelled : ∀ d ∈ s.tree.declarations, d.name ≠ "" ∧ '.' ∉ d.name.toList) :
    ((∀ c ∈ s.tree.declarations, c.isClass = true → c.qualifiedName ∉ s.tree.modules.names) →
      ∀ d ∈ s.tree.declarations, d.isClass = true → d.module.name ≠ "" →
        s.library.owns d.module.name = false →
        s.tree.splitQualified d.qualifiedName = some (d.module.name, d.qualname) ∧
        (∀ table, Resolving.Sound s table → (exec (Resolving.name s d.qualifiedName) table).1 =
          .ok (.named d.module.name d.qualname)) ∧
        (TypeRef.named d.module.name d.qualname).render = d.qualifiedName) ∧
    ∀ name, Filled name → s.library.owns name = false →
      ∃ module qualname,
        (∀ table, Resolving.Sound s table →
          (exec (Resolving.name s name) table).1 = .ok (.named module qualname)) ∧
        (TypeRef.named module qualname).render = name ∧
        (module = "" ∧ '.' ∉ name.toList ∨ Encloses module name) ∧
        ∀ outer ∈ s.tree.modules.names, Encloses outer name →
          module ∈ s.tree.modules.names ∧ (outer = module ∨ Encloses outer module) := by
  constructor
  · intro hfree d hd hclass hmodule howns
    have hsplit := Source.Tree.splitQualified_qualifiedName hnamed (fun c hc => (hspelled c hc).2) hfree hd
    have howned : s.library.owns d.qualifiedName = false := by
      rw [Source.Declaration.qualifiedName, owns_append, howns]
    have hbuiltins : d.module.name ≠ "builtins" := by
      intro heq
      rw [heq, owns_builtins] at howns
      cases howns
    have hqualname : d.qualname ≠ "" := join_concat_ne_empty d.scope (hspelled d hd).1
    refine ⟨hsplit, fun table htable => ?_, render_named hmodule hbuiltins hqualname⟩
    rw [(Resolving.exec_name htable d.qualifiedName).1, canonical_of_not_owns howned, hsplit]
  · intro name hfilled howns
    obtain ⟨module, qualname, hcanonical, hparts, hlongest⟩ := canonical_of_filled hfilled howns
    refine ⟨module, qualname, fun table htable => ?_, ?_, ?_, hlongest⟩
    · rw [(Resolving.exec_name htable name).1, hcanonical]
    · rcases hparts with ⟨rfl, rfl, -⟩ | rfl
      · exact render_named_empty hfilled.ne_empty
      · exact render_of_append hfilled howns
    · exact hparts.imp (fun h => ⟨h.1, h.2.2⟩) fun hname => ⟨qualname, hname.symm⟩

end

/-! ### Classes in each other -/

open Source

/-- A module with a class that has a class in a class in it. -/
def carsModule : Module :=
  ⟨"shop.cars", .ofText "shop/cars.py", false,
    [.classDef "Car" [] [] [.classDef "Engine" [] [] [.classDef "Valve" [] [] [] ⟨3, 8⟩] ⟨2, 4⟩] ⟨1, 0⟩]⟩

/-- The innermost class. -/
def valve : Declaration := ⟨carsModule, ["Car", "Engine"], "Valve", [], ⟨3, 8⟩, .classDef [] []⟩

/-- A package with this module and with a module within the name of this module. -/
def carsTree : Tree :=
  ⟨[("shop", ⟨"shop", .ofText "shop/__init__.py", true, []⟩), ("shop.cars", carsModule),
    ("shop.cars.parts", ⟨"shop.cars.parts", .ofText "shop/cars/parts.py", false, []⟩)]⟩

set_option maxRecDepth 10000 in
/-- The library has no module that begins with this segment. -/
theorem shop_notMem_libraryRoots : ∀ w ∈ libraryRoots, w.toList ≠ ['s', 'h', 'o', 'p'] := by
  rw [libraryRoots]
  repeat refine forall_mem_wordsOf_cons (P := (· ≠ _)) (by decide +kernel) ?_
  exact fun w hw => absurd hw List.not_mem_nil

/-- What begins with this segment does not belong to the library. -/
theorem not_owns_of_head_shop {name : String} (h : (splitHead name).1 = "shop") :
    Library.standard.owns name = false := by
  have hroots : libraryRoots.contains "shop" = false := by
    rw [← Bool.not_eq_true, List.contains_iff_mem]
    exact fun hmem => shop_notMem_libraryRoots "shop" hmem (by decide)
  have hbuiltins : ("shop" == "builtins") = false := by decide
  rw [Library.owns, h, hbuiltins, Bool.false_or]
  exact hroots

/-- The reference to a class in a class in a class has the module and the name in it, and the reference to
what is not in the tree has the longest module around it. -/
theorem name_writes_name_valve :
    (∀ c ∈ carsTree.declarations, c.isClass = true → c.qualifiedName ∉ carsTree.modules.names) ∧
    valve ∈ carsTree.declarations ∧ Library.standard.owns "shop.cars" = false ∧
    carsTree.splitQualified "shop.cars.Car.Engine.Valve" = some ("shop.cars", "Car.Engine.Valve") ∧
    (exec (Resolving.name (.ofTree carsTree) "shop.cars.Car.Engine.Valve") []).1 =
      .ok (.named "shop.cars" "Car.Engine.Valve") ∧
    ∃ module qualname,
      (exec (Resolving.name (.ofTree carsTree) "shop.cars.parts.wheel.Rim") []).1 =
        .ok (.named module qualname) ∧
      (TypeRef.named module qualname).render = "shop.cars.parts.wheel.Rim" ∧
      module = "shop.cars.parts" := by
  have hfree : ∀ c ∈ carsTree.declarations, c.isClass = true →
      c.qualifiedName ∉ carsTree.modules.names := by decide +kernel
  have hvalve : valve ∈ carsTree.declarations :=
    List.mem_cons_of_mem _ (List.mem_cons_of_mem _ List.mem_cons_self)
  have howns : ∀ name, (splitHead name).1 = "shop" →
      (Surroundings.ofTree carsTree).library.owns name = false := fun _ => not_owns_of_head_shop
  obtain ⟨hclasses, hnames⟩ :=
    name_writes_name (.ofTree carsTree) (by decide +kernel) (by decide +kernel)
  obtain ⟨hsplit, hname, -⟩ := hclasses hfree valve hvalve rfl (by decide) (howns _ (by decide))
  obtain ⟨module, qualname, hrim, hrender, -, hlongest⟩ :=
    hnames "shop.cars.parts.wheel.Rim" (by decide +kernel) (howns _ (by decide +kernel))
  have hqualname : valve.qualname = "Car.Engine.Valve" := by decide +kernel
  have hqualified : valve.qualifiedName = "shop.cars.Car.Engine.Valve" := by decide +kernel
  have hmodule : valve.module.name = "shop.cars" := rfl
  rw [hqualified, hqualname, hmodule] at hsplit hname
  refine ⟨hfree, hvalve, not_owns_of_head_shop (by decide), hsplit, hname [] (Resolving.sound_nil _),
    module, qualname, hrim [] (Resolving.sound_nil _), hrender, ?_⟩
  obtain ⟨hloaded, heq | hencloses⟩ := hlongest "shop.cars.parts" (by decide +kernel) (by decide +kernel)
  · exact heq.symm
  · have hall : ∀ outer ∈ carsTree.modules.names, ¬ Encloses "shop.cars.parts" outer := by decide +kernel
    exact absurd hencloses (hall module hloaded)

end FluentBuilder
