import FluentBuilder.Proofs.Source.Extending

/-!
# Where a qualified name is taken apart

A qualified name is taken apart behind the module of the tree that encloses it, and where several do,
behind the longest of them (`splitQualified_eq_some_iff`). This is the module of a class whenever no
class around it is called like a module (`splitQualified_qualifiedName`): what encloses the qualified name
of a class is its module, or encloses that, or is the qualified name of a class around it
(`exists_class_of_encloses`, by induction on the statements that declare it).
-/

namespace FluentBuilder

namespace Dotted

variable {name outer : String}

/-- Segments are joined with a point at each place between two of them. -/
theorem join_take_append_drop {parts : List String} {i : Nat} (h : i + 1 < parts.length) :
    join (parts.take (i + 1)) ++ "." ++ join (parts.drop (i + 1)) = join parts := by
  rw [← join_append, List.take_append_drop]
  · exact List.ne_nil_of_length_pos (by rw [List.length_take]; omega)
  · exact List.ne_nil_of_length_pos (by rw [List.length_drop]; omega)

/-- What encloses a name is the join of some of its first segments, but not of all of them. -/
theorem encloses_iff_take :
    Encloses outer name ↔
      ∃ i < (segments name).length - 1, outer = join ((segments name).take (i + 1)) := by
  constructor
  · rintro ⟨rest, rfl⟩
    obtain ⟨head, tail, hhead⟩ := exists_segments_eq_cons outer
    obtain ⟨next, others, hnext⟩ := exists_segments_eq_cons rest
    refine ⟨tail.length, ?_, ?_⟩
    · rw [segments_append, hhead, hnext, List.length_append, List.length_cons, List.length_cons]
      omega
    · have hlength : tail.length + 1 = (segments outer).length := by rw [hhead, List.length_cons]
      rw [segments_append, hlength, List.take_left, join_segments]
  · rintro ⟨i, hi, rfl⟩
    exact ⟨join ((segments name).drop (i + 1)),
      by rw [join_take_append_drop (by omega), join_segments]⟩

/-- An enclosing name is shorter. -/
theorem Encloses.length_lt (h : Encloses outer name) : outer.toList.length < name.toList.length := by
  obtain ⟨rest, rfl⟩ := h
  rw [toList_append_point, List.length_append, List.length_cons]
  omega

/-- More first segments make a name that fewer of them enclose. -/
theorem encloses_join_take {parts : List String} {i j : Nat} (hij : i < j) (hj : j < parts.length) :
    Encloses (join (parts.take (i + 1))) (join (parts.take (j + 1))) := by
  have hfront : parts.take (i + 1) = (parts.take (j + 1)).take (i + 1) := by
    rw [List.take_take, Nat.min_eq_left (by omega)]
  have hlength : i + 1 < (parts.take (j + 1)).length := by rw [List.length_take]; omega
  exact ⟨join ((parts.take (j + 1)).drop (i + 1)), by rw [hfront, join_take_append_drop hlength]⟩

/-- Behind the same point the rest of a name is the same. -/
theorem append_point_inj {rest rest' : String} (h : outer ++ "." ++ rest = outer ++ "." ++ rest') :
    rest = rest' := by
  have hchars := congrArg String.toList h
  rw [toList_append_point, toList_append_point] at hchars
  exact String.toList_inj.mp (List.cons.inj (List.append_cancel_left hchars)).2

/-- A name with one point is taken apart there. -/
theorem append_point_inj_of_not_mem {inner front back : String} (hfront : '.' ∉ front.toList)
    (hback : '.' ∉ back.toList) (h : outer ++ "." ++ inner = front ++ "." ++ back) :
    outer = front ∧ inner = back := by
  obtain rfl : outer = front := by
    rcases (encloses_append_iff hback).mp ⟨inner, h.symm⟩ with heq | hencloses
    · exact heq
    · exact absurd hencloses (not_encloses_of_not_mem hfront)
  exact ⟨rfl, append_point_inj h⟩

end Dotted

/-! ### The longest module -/

/-- What is found first from above is found at the greatest number. -/
theorem findSome?_reverse_range_eq_some_iff {α : Type} {f : Nat → Option α} {n : Nat} {a : α} :
    (List.range n).reverse.findSome? f = some a ↔
      ∃ i < n, f i = some a ∧ ∀ j < n, i < j → f j = none := by
  induction n with
  | zero => simp
  | succ n ih =>
    rw [List.range_succ, List.reverse_append, List.reverse_singleton, List.singleton_append,
      List.findSome?_cons]
    cases hlast : f n with
    | some b =>
      constructor
      · rintro h
        exact ⟨n, n.lt_succ_self, hlast.trans h, fun j hj hnj => absurd hj (by omega)⟩
      · rintro ⟨i, hi, hfound, hlater⟩
        rcases Nat.lt_succ_iff_lt_or_eq.mp hi with hlt | rfl
        · exact absurd (hlater n n.lt_succ_self hlt) (by rw [hlast]; exact Option.some_ne_none b)
        · exact hlast.symm.trans hfound
    | none =>
      rw [ih]
      constructor
      · rintro ⟨i, hi, hfound, hlater⟩
        refine ⟨i, Nat.lt_succ_of_lt hi, hfound, fun j hj hij => ?_⟩
        rcases Nat.lt_succ_iff_lt_or_eq.mp hj with hlt | rfl
        · exact hlater j hlt hij
        · exact hlast
      · rintro ⟨i, hi, hfound, hlater⟩
        rcases Nat.lt_succ_iff_lt_or_eq.mp hi with hlt | rfl
        · exact ⟨i, hlt, hfound, fun j hj => hlater j (Nat.lt_succ_of_lt hj)⟩
        · exact absurd (hlast.symm.trans hfound) (Option.some_ne_none a).symm

namespace Source

open Dotted

namespace Tree

variable {tree : Tree} {name module qualname : String}

/-- Taking a name apart tries the places between its segments from behind. -/
theorem splitQualified_eq_findSome? (tree : Tree) (name : String) :
    tree.splitQualified name =
      (List.range ((segments name).length - 1)).reverse.findSome? fun i =>
        if (tree.modules.find? (join ((segments name).take (i + 1)))).isSome then
          some (join ((segments name).take (i + 1)), join ((segments name).drop (i + 1)))
        else none := by
  rw [splitQualified, splits, List.findSome?_map]
  rfl

/-- **A name is taken apart behind the longest module that encloses it.** -/
theorem splitQualified_eq_some_iff :
    tree.splitQualified name = some (module, qualname) ↔
      name = module ++ "." ++ qualname ∧ module ∈ tree.modules.names ∧
        ∀ outer ∈ tree.modules.names, Encloses outer name → outer = module ∨ Encloses outer module := by
  rw [splitQualified_eq_findSome?, findSome?_reverse_range_eq_some_iff]
  constructor
  · rintro ⟨i, hi, hfound, hlater⟩
    split at hfound
    · next hloaded =>
      obtain ⟨rfl, rfl⟩ := Prod.mk.inj (Option.some.inj hfound)
      refine ⟨?_, Table.isSome_find?_iff.mp hloaded, fun outer houter hencloses => ?_⟩
      · rw [join_take_append_drop (by omega), join_segments]
      · obtain ⟨j, hj, rfl⟩ := encloses_iff_take.mp hencloses
        rcases Nat.lt_trichotomy i j with hlt | rfl | hgt
        · have hnone := hlater j hj hlt
          rw [if_pos (Table.isSome_find?_iff.mpr houter)] at hnone
          exact absurd hnone (Option.some_ne_none _)
        · exact .inl rfl
        · exact .inr (encloses_join_take hgt (by omega))
    · exact absurd hfound.symm (Option.some_ne_none _)
  · rintro ⟨hname, hmodule, hlongest⟩
    obtain ⟨i, hi, hfront⟩ := encloses_iff_take.mp ⟨qualname, hname⟩
    have hwhole : module ++ "." ++ qualname = module ++ "." ++ join ((segments name).drop (i + 1)) := by
      rw [← hname, hfront, join_take_append_drop (by omega), join_segments]
    have hback := append_point_inj hwhole
    refine ⟨i, hi, ?_, fun j hj hij => if_neg fun hloaded => ?_⟩
    · rw [← hfront, ← hback, if_pos (Table.isSome_find?_iff.mpr hmodule)]
    · -- A longer module would enclose the longest one.
      have hlonger : Encloses module (join ((segments name).take (j + 1))) :=
        hfront ▸ encloses_join_take hij (by omega)
      rcases hlongest _ (Table.isSome_find?_iff.mp hloaded) (encloses_iff_take.mpr ⟨j, hj, rfl⟩) with
        heq | hshorter
      · exact absurd hlonger.length_lt (by rw [heq]; omega)
      · exact absurd hlonger.length_lt (Nat.lt_asymm hshorter.length_lt)

/-- A name that is not taken apart has no module around it. -/
theorem not_encloses_of_splitQualified_eq_none (h : tree.splitQualified name = none) {outer : String}
    (houter : outer ∈ tree.modules.names) : ¬ Encloses outer name := by
  intro hencloses
  obtain ⟨i, hi, rfl⟩ := encloses_iff_take.mp hencloses
  rw [splitQualified_eq_findSome?, List.findSome?_eq_none_iff] at h
  have hnone := h i (List.mem_reverse.mpr (List.mem_range.mpr hi))
  rw [if_pos (Table.isSome_find?_iff.mpr houter)] at hnone
  exact absurd hnone (Option.some_ne_none _)

end Tree

/-! ### What encloses a class -/

variable {m : Module} {d : Declaration} {scope : List String} {outer : String}

/-- What encloses a declaration is what its scope is called, or encloses that. -/
theorem Declaration.encloses_qualifiedName_iff (h : '.' ∉ d.name.toList) :
    Encloses outer d.qualifiedName ↔
      outer = join (d.module.name :: d.scope) ∨ Encloses outer (join (d.module.name :: d.scope)) := by
  rw [d.qualifiedName_eq, encloses_append_iff h]

mutual

/-- What encloses something that a statement declares is what the scope is called, or encloses that, or is
a class that the statement declares. -/
theorem exists_class_of_encloses_of : (statement : Syntax.Statement) → {scope : List String} →
    (∀ c ∈ declarationsOf m scope statement, '.' ∉ c.name.toList) →
    d ∈ declarationsOf m scope statement → Encloses outer d.qualifiedName →
    outer = join (m.name :: scope) ∨ Encloses outer (join (m.name :: scope)) ∨
      ∃ c ∈ declarationsOf m scope statement, c.isClass = true ∧ outer = c.qualifiedName
  | .classDef name bases decorators body position, scope, hnames, hd, hencloses => by
    rw [declarationsOf] at hnames hd ⊢
    obtain ⟨hself, hbody⟩ := List.forall_mem_cons.mp hnames
    generalize hc : Declaration.mk m scope name decorators position (.classDef bases body) = c at *
    have hscope : join (c.module.name :: c.scope) = join (m.name :: scope) := by rw [← hc]
    have hclass : c.isClass = true := by rw [← hc]; rfl
    have hinner : join (m.name :: (scope ++ [name])) = c.qualifiedName := by
      rw [c.qualifiedName_eq, hscope, ← hc, ← List.cons_append, join_append (by simp) (by simp),
        join_singleton]
    have hself : Encloses outer c.qualifiedName ↔
        outer = join (m.name :: scope) ∨ Encloses outer (join (m.name :: scope)) := by
      rw [c.encloses_qualifiedName_iff hself, hscope]
    rcases List.mem_cons.mp hd with rfl | hd
    · exact (hself.mp hencloses).imp_right .inl
    · rcases exists_class_of_encloses_in body hbody hd hencloses with hcalled | hbeyond | hdeeper
      · exact .inr (.inr ⟨c, List.mem_cons_self, hclass, hcalled.trans hinner⟩)
      · exact (hself.mp (hinner ▸ hbeyond)).imp_right .inl
      · obtain ⟨c', hc', hfound⟩ := hdeeper
        exact .inr (.inr ⟨c', List.mem_cons_of_mem _ hc', hfound⟩)
  | .functionDef name decorators position, scope, hnames, hd, hencloses => by
    rw [declarationsOf] at hnames hd
    have hscope := (Declaration.encloses_qualifiedName_iff (hnames d hd)).mp hencloses
    rw [List.mem_singleton.mp hd] at hscope
    exact hscope.imp_right .inl
  | .importModules _, _, _, hd, _ => by cases hd
  | .importFrom _ _ _, _, _, hd, _ => by cases hd
  | .assign _, _, _, hd, _ => by cases hd
  | .annotated _ _ _, _, _, hd, _ => by cases hd
  | .other, _, _, hd, _ => by cases hd

/-- What encloses something that statements declare is what the scope is called, or encloses that, or is
a class that the statements declare. -/
theorem exists_class_of_encloses_in : (statements : List Syntax.Statement) → {scope : List String} →
    (∀ c ∈ declarationsIn m scope statements, '.' ∉ c.name.toList) →
    d ∈ declarationsIn m scope statements → Encloses outer d.qualifiedName →
    outer = join (m.name :: scope) ∨ Encloses outer (join (m.name :: scope)) ∨
      ∃ c ∈ declarationsIn m scope statements, c.isClass = true ∧ outer = c.qualifiedName
  | [], _, _, hd, _ => by cases hd
  | statement :: rest, scope, hnames, hd, hencloses => by
    rw [declarationsIn] at hnames hd ⊢
    obtain ⟨hfirst, hrest⟩ := List.forall_mem_append.mp hnames
    rcases List.mem_append.mp hd with hd | hd
    · refine (exists_class_of_encloses_of statement hfirst hd hencloses).imp_right (.imp_right ?_)
      rintro ⟨c, hc, hfound⟩
      exact ⟨c, List.mem_append_left _ hc, hfound⟩
    · refine (exists_class_of_encloses_in rest hrest hd hencloses).imp_right (.imp_right ?_)
      rintro ⟨c, hc, hfound⟩
      exact ⟨c, List.mem_append_right _ hc, hfound⟩

end

namespace Tree

variable {tree : Tree}

/-- **The qualified name of a class is taken apart into its module and the name in it**, where no module is
called like a class. -/
theorem splitQualified_qualifiedName (hnamed : ∀ entry ∈ tree.modules, entry.2.name = entry.1)
    (hpoint : ∀ c ∈ tree.declarations, '.' ∉ c.name.toList)
    (hfree : ∀ c ∈ tree.declarations, c.isClass = true → c.qualifiedName ∉ tree.modules.names)
    (hd : d ∈ tree.declarations) :
    tree.splitQualified d.qualifiedName = some (d.module.name, d.qualname) := by
  obtain ⟨entry, hentry, hin⟩ := List.mem_flatMap.mp hd
  have hmodule : d.module = entry.2 := module_of_mem_declarationsIn _ hin
  have hloaded : d.module.name ∈ tree.modules.names := by
    rw [hmodule, hnamed entry hentry]
    exact List.mem_map_of_mem hentry
  refine splitQualified_eq_some_iff.mpr ⟨rfl, hloaded, fun outer houter hencloses => ?_⟩
  have hpoints : ∀ c ∈ entry.2.declarations, '.' ∉ c.name.toList := fun c hc =>
    hpoint c (List.mem_flatMap.mpr ⟨entry, hentry, hc⟩)
  rcases exists_class_of_encloses_in entry.2.body hpoints hin hencloses with hcalled | hbeyond | hclass
  · exact .inl (by rw [hcalled, join_singleton, hmodule])
  · rw [join_singleton, ← hmodule] at hbeyond
    exact .inr hbeyond
  · obtain ⟨c, hc, hisClass, rfl⟩ := hclass
    exact absurd houter (hfree c (List.mem_flatMap.mpr ⟨entry, hentry, hc⟩) hisClass)

end Tree

end Source

end FluentBuilder
