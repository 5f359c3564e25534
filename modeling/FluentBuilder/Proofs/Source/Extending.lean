import FluentBuilder.Proofs.Source.Marked
import FluentBuilder.Proofs.Text.Dotted

/-!
# Trees with further modules

A tree has further modules under names of their own (`Extends`). What is looked up in it by a name that
none of the new modules encloses is what it was: the class of that name (`Extends.findClass?_eq`), and the
module that the name is taken apart at (`Extends.splitQualified_eq`). So are the names that are seen from
a class whose own name none of them encloses (`Extends.qualify_eq`).
-/

namespace FluentBuilder.Source

open Dotted

/-- The qualified name of a declaration is its own name within that of the scope. -/
theorem Declaration.qualifiedName_eq (d : Declaration) :
    d.qualifiedName = join (d.module.name :: d.scope) ++ "." ++ d.name := by
  rw [qualifiedName, qualname, ← join_cons _ (List.append_ne_nil_of_right_ne_nil _ (by simp)),
    ← List.cons_append, join_append (by simp) (by simp), join_singleton]

namespace Tree

variable {tree tree' : Tree} {d : Declaration} {name : String}

/-- A tree has further modules: those of the first tree are among its own, which have distinct names. -/
structure Extends (tree tree' : Tree) : Prop where
  /-- The modules are among those of the other tree. -/
  sublist : tree.modules.Sublist tree'.modules
  /-- These have distinct names. -/
  nodup : tree'.modules.names.Nodup
  /-- They stand under their names. -/
  named : ∀ entry ∈ tree'.modules, entry.2.name = entry.1

/-- No new module encloses the name. -/
def Untouched (tree tree' : Tree) (name : String) : Prop :=
  ∀ m ∈ tree'.modules.names, Encloses m name → m ∈ tree.modules.names

instance (tree tree' : Tree) (name : String) : Decidable (Untouched tree tree' name) :=
  inferInstanceAs (Decidable (∀ m ∈ tree'.modules.names, Encloses m name → m ∈ tree.modules.names))

/-- **Modules that are added to others make a tree with further modules.** -/
theorem extends_ofModules {modules modules' : Table Module} (hdistinct : modules.names.Nodup)
    (hdistinct' : modules'.names.Nodup) (hnamed : ∀ entry ∈ modules', entry.2.name = entry.1)
    (hsub : modules ⊆ modules') : (ofModules modules).Extends (ofModules modules') where
  sublist := by
    have hkept : modules.sorted.filter (fun entry => modules.names.contains entry.1) =
        modules'.sorted.filter fun entry => modules.names.contains entry.1 := by
      refine Table.sorted_filter_eq hdistinct hdistinct' fun entry hentry => ⟨fun hmem => hsub hmem, ?_⟩
      intro hmem
      obtain ⟨old, hold, hname⟩ := List.mem_map.mp (List.contains_iff_mem.mp hentry)
      -- There is one entry of the name.
      have hfind := Table.find?_of_mem hdistinct' hmem
      have hfind' := Table.find?_of_mem hdistinct' (hsub hold)
      rw [hname, hfind] at hfind'
      rwa [show entry = old from Prod.ext hname.symm (Option.some.inj hfind')]
    have hall : modules.sorted.filter (fun entry => modules.names.contains entry.1) = modules.sorted := by
      rw [List.filter_eq_self]
      intro entry hentry
      exact List.contains_iff_mem.mpr (List.mem_map_of_mem (mem_sortedBy.mp hentry))
    rw [hall] at hkept
    show modules.sorted.Sublist modules'.sorted
    rw [hkept]
    exact List.filter_sublist
  nodup := ((perm_sortedBy modules').map Prod.fst).nodup_iff.mpr hdistinct'
  named := fun entry hentry => hnamed entry (mem_sortedBy.mp hentry)

/-- What encloses the beginning of a name encloses the name. -/
theorem Untouched.of_append {rest : String} (h : Untouched tree tree' (name ++ "." ++ rest)) :
    Untouched tree tree' name := by
  rintro m hm ⟨between, rfl⟩
  exact h m hm ⟨between ++ "." ++ rest, by simp only [String.append_assoc]⟩

/-! ### Items of lists with further ones -/

section

variable {α β γ : Type}

/-- What is left of a list are the items with the keys that are left, if all keys are distinct. -/
theorem eq_filter_of_sublist [BEq β] [LawfulBEq β] {key : α → β} {xs ys : List α} (h : xs.Sublist ys)
    (hdistinct : (ys.map key).Nodup) : xs = ys.filter fun y => (xs.map key).contains (key y) := by
  induction h with
  | slnil => rfl
  | @cons xs ys y h ih =>
    obtain ⟨hfresh, hrest⟩ := List.nodup_cons.mp hdistinct
    have hother : ¬ (xs.map key).contains (key y) = true := fun hmem =>
      hfresh (h.map key |>.subset (List.contains_iff_mem.mp hmem))
    rw [List.filter_cons, if_neg hother, ← ih hrest]
  | @cons_cons xs ys y h ih =>
    obtain ⟨hfresh, hrest⟩ := List.nodup_cons.mp hdistinct
    have hothers : ∀ x ∈ ys, ((y :: xs).map key).contains (key x) = (xs.map key).contains (key x) := by
      intro x hx
      have hne : (key x == key y) = false := by
        rw [beq_eq_false_iff_ne]
        exact fun heq => hfresh (heq ▸ List.mem_map_of_mem hx)
      rw [List.map_cons, List.contains_cons, hne, Bool.false_or]
    rw [List.filter_cons_of_pos (by simp), List.filter_congr hothers, ← ih hrest]

/-- What is found first is found alike by functions that agree. -/
theorem findSome?_congr {f g : α → Option β} {xs : List α} (h : ∀ x ∈ xs, f x = g x) :
    xs.findSome? f = xs.findSome? g := by
  induction xs with
  | nil => rfl
  | cons x xs ih =>
    obtain ⟨hfirst, hrest⟩ := List.forall_mem_cons.mp h
    rw [List.findSome?_cons, List.findSome?_cons, hfirst, ih hrest]

/-- Items that nothing is looked for among can be left out. -/
theorem find?_reverse_flatMap_filter {f : α → List β} {p : β → Bool} {q : α → Bool} {xs : List α}
    (h : ∀ x ∈ xs, q x = false → ∀ y ∈ f x, p y = false) :
    ((xs.filter q).flatMap f).reverse.find? p = (xs.flatMap f).reverse.find? p := by
  induction xs with
  | nil => rfl
  | cons x xs ih =>
    obtain ⟨hfirst, hrest⟩ := List.forall_mem_cons.mp h
    rw [List.flatMap_cons, List.reverse_append, List.find?_append, ← ih hrest]
    cases hq : q x with
    | true =>
      rw [List.filter_cons_of_pos hq, List.flatMap_cons, List.reverse_append, List.find?_append]
    | false =>
      have hnone : (f x).reverse.find? p = none := by
        rw [List.find?_eq_none]
        intro y hy
        simp [hfirst hq y (List.mem_reverse.mp hy)]
      rw [List.filter_cons_of_neg (by simp [hq]), hnone, Option.or_none]

end

/-- The proper prefixes of segments, each with what follows it. -/
theorem mem_splits_iff {parts front back : List String} :
    (front, back) ∈ splits parts ↔ parts = front ++ back ∧ front ≠ [] ∧ back ≠ [] := by
  rw [splits, List.mem_map]
  constructor
  · rintro ⟨i, hi, hsplit⟩
    rw [List.mem_reverse, List.mem_range] at hi
    obtain ⟨rfl, rfl⟩ := Prod.mk.inj hsplit
    refine ⟨(List.take_append_drop _ _).symm, ?_, ?_⟩
    · exact List.ne_nil_of_length_pos (by rw [List.length_take]; omega)
    · exact List.ne_nil_of_length_pos (by rw [List.length_drop]; omega)
  · rintro ⟨rfl, hfront, hback⟩
    have hpos := List.length_pos_iff.mpr hfront
    have hpos' := List.length_pos_iff.mpr hback
    refine ⟨front.length - 1, ?_, ?_⟩
    · rw [List.mem_reverse, List.mem_range, List.length_append]
      omega
    · rw [Nat.sub_add_cancel hpos, List.take_left, List.drop_left]

/-- The first part of a name that is taken apart encloses the name. -/
theorem encloses_of_mem_splits {front back : List String} (h : (front, back) ∈ splits (segments name)) :
    Encloses (join front) name := by
  obtain ⟨hname, hfront, hback⟩ := mem_splits_iff.mp h
  exact ⟨join back, by rw [← join_append hfront hback, ← hname, join_segments]⟩

namespace Extends

variable (h : Extends tree tree')

include h

/-- The modules are those of the other tree that are not new. -/
theorem modules_eq :
    tree.modules = tree'.modules.filter fun entry => tree.modules.names.contains entry.1 :=
  eq_filter_of_sublist h.sublist h.nodup

/-- The declarations are among those of the other tree. -/
theorem mem_declarations (hd : d ∈ tree.declarations) : d ∈ tree'.declarations := by
  obtain ⟨entry, hentry, hd⟩ := List.mem_flatMap.mp hd
  exact List.mem_flatMap.mpr ⟨entry, h.sublist.subset hentry, hd⟩

/-- **A class is looked up alike** by a name that no new module encloses. -/
theorem findClass?_eq (hname : Untouched tree tree' name) : tree'.findClass? name = tree.findClass? name := by
  rw [findClass?, findClass?, declarations, declarations, h.modules_eq]
  refine (find?_reverse_flatMap_filter fun entry hentry hnew d hd => ?_).symm
  -- What is declared in a new module has a name that this module encloses.
  by_contra hfound
  rw [Bool.not_eq_false, Bool.and_eq_true, beq_iff_eq] at hfound
  have hencloses : Encloses entry.1 name := by
    rw [← h.named entry hentry, ← module_of_mem_declarationsIn _ hd, ← hfound.2]
    exact ⟨d.qualname, rfl⟩
  have hold := hname entry.1 (List.mem_map_of_mem hentry) hencloses
  rw [List.contains_iff_mem.mpr hold] at hnew
  cases hnew

/-- Names are seen alike in a scope, if no new module encloses that of the class around it. -/
theorem qualify_congr {m : Module} {scope : List String}
    (hscope : scope ≠ [] → Untouched tree tree' (join (m.name :: scope))) :
    tree'.qualify m scope = tree.qualify m scope := by
  have howner : (if scope.isEmpty then none else tree'.findClass? (join (m.name :: scope))) =
      if scope.isEmpty then none else tree.findClass? (join (m.name :: scope)) := by
    by_cases hnil : scope = []
    · simp [hnil]
    · rw [h.findClass?_eq (hscope hnil)]
  funext name
  simp only [qualify, qualifyHead, howner]

/-- **A name is taken apart alike**, if no new module encloses it. -/
theorem splitQualified_eq (hname : Untouched tree tree' name) :
    tree'.splitQualified name = tree.splitQualified name := by
  have hfind : ∀ m, Encloses m name → (tree'.modules.find? m).isSome = (tree.modules.find? m).isSome := by
    intro m hencloses
    rw [Bool.eq_iff_iff, Table.isSome_find?_iff, Table.isSome_find?_iff]
    exact ⟨fun hm => hname m hm hencloses, fun hm => (h.sublist.map Prod.fst).subset hm⟩
  rw [splitQualified, splitQualified]
  refine findSome?_congr fun (front, back) hsplit => ?_
  simp only [hfind (join front) (encloses_of_mem_splits hsplit)]

/-- **Names are seen alike** from the body of a class whose name no new module encloses. -/
theorem qualify_innerScope_eq (hd : Untouched tree tree' d.qualifiedName) :
    tree'.qualify d.module d.innerScope = tree.qualify d.module d.innerScope := by
  refine h.qualify_congr fun hne => ?_
  rw [join_cons _ hne]
  exact hd

/-- So are they from around it. -/
theorem qualify_scope_eq (hd : Untouched tree tree' d.qualifiedName) :
    tree'.qualify d.module d.scope = tree.qualify d.module d.scope := by
  refine h.qualify_congr fun _ => ?_
  rw [d.qualifiedName_eq] at hd
  exact hd.of_append

end Extends

end Tree
end FluentBuilder.Source
