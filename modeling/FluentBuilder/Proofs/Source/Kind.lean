import Mathlib
import FluentBuilder.Source.Kind

/-!
# The steps of the search for a kind

The search for the special kind of a class is given as many steps as there are base expressions. These
suffice (`specialKind_eq_of_le`): a class that is looked at for the first time leads on to no more
classes than it has base expressions, and a class that was seen before leads on to none. So more steps
change nothing, and the kind of a class is the same in a tree that has further classes, if it leads to
none of these.
-/

namespace FluentBuilder.Source.Tree

variable {tree : Tree} {classes pending : List Declaration} {seen : List String} {d : Declaration}

/-- The number of base expressions of the classes that are not seen. -/
def unseenBases (classes : List Declaration) (seen : List String) : Nat :=
  ((classes.filter fun c => !seen.contains c.qualifiedName).map fun c => c.baseExprs.length).sum

/-- What is seen takes its base expressions away. -/
theorem unseenBases_cons (hd : d ∈ classes) (hfresh : seen.contains d.qualifiedName = false) :
    unseenBases classes (d.qualifiedName :: seen) + d.baseExprs.length ≤ unseenBases classes seen := by
  have hperm : (classes.filter fun c => !seen.contains c.qualifiedName).Perm
      ((classes.filter fun c => !(d.qualifiedName :: seen).contains c.qualifiedName) ++
        (classes.filter fun c => !seen.contains c.qualifiedName).filter
          fun c => c.qualifiedName == d.qualifiedName) := by
    refine (List.filter_append_perm (fun c => c.qualifiedName == d.qualifiedName) _).symm.trans
      (List.perm_append_comm.trans (List.Perm.append_right _ (.of_eq ?_)))
    rw [List.filter_filter]
    refine List.filter_congr fun c _ => ?_
    rw [List.contains_cons, Bool.not_or]
  have hmem : d.baseExprs.length ∈ ((classes.filter fun c => !seen.contains c.qualifiedName).filter
      fun c => c.qualifiedName == d.qualifiedName).map fun c => c.baseExprs.length := by
    refine List.mem_map_of_mem (List.mem_filter.mpr ⟨List.mem_filter.mpr ⟨hd, ?_⟩, beq_self_eq_true _⟩)
    rw [hfresh, Bool.not_false]
  have hsum := (hperm.map fun c => c.baseExprs.length).sum_eq
  rw [List.map_append, List.sum_append] at hsum
  rw [unseenBases, unseenBases, hsum]
  exact Nat.add_le_add_left (List.single_le_sum (fun _ _ => Nat.zero_le _) _ hmem) _

/-- A function has no bases. -/
theorem baseClasses_of_not_isClass (h : d.isClass = false) : tree.baseClasses d = [] := by
  rw [Declaration.isClass] at h
  split at h
  · cases h
  · next hform =>
    rw [baseClasses, Declaration.baseExprs, hform]
    rfl

/-- A class leads on to no more classes than it has base expressions. -/
theorem length_filterMap_baseClasses_le (tree : Tree) (d : Declaration) :
    ((tree.baseClasses d).filterMap tree.findClass?).length ≤ d.baseExprs.length := by
  refine (List.length_filterMap_le _ _).trans ?_
  rw [baseClasses, List.length_map]
  exact List.length_filterMap_le _ _

/-- **Enough steps are enough**: one for each class that is pending, and one for each base expression of
a class that is not seen. -/
theorem specialKind_add (hfound : ∀ name c, tree.findClass? name = some c → c ∈ classes) {fuel : Nat}
    (hpending : pending ⊆ classes) (hfuel : pending.length + unseenBases classes seen ≤ fuel)
    (extra : Nat) :
    tree.specialKind (fuel + extra) seen pending = tree.specialKind fuel seen pending := by
  induction fuel generalizing seen pending with
  | zero =>
    obtain rfl : pending = [] := List.length_eq_zero_iff.mp (by omega)
    cases extra <;> rfl
  | succ fuel ih =>
    rw [Nat.add_right_comm]
    cases pending with
    | nil => rfl
    | cons d rest =>
      obtain ⟨hd, hrest⟩ := List.cons_subset.mp hpending
      rw [List.length_cons] at hfuel
      rw [specialKind, specialKind]
      cases hseen : seen.contains d.qualifiedName with
      | true =>
        rw [if_pos rfl, if_pos rfl]
        exact ih hrest (by omega)
      | false =>
        rw [if_neg Bool.false_ne_true, if_neg Bool.false_ne_true]
        cases hspecial : (tree.baseClasses d).findSome? Kind.ofBase with
        | some kind => simp only [hspecial]
        | none =>
          simp only [hspecial]
          refine ih (List.append_subset.mpr ⟨fun c hc => ?_, hrest⟩) ?_
          · obtain ⟨name, -, hname⟩ := List.mem_filterMap.mp (List.mem_reverse.mp hc)
            exact hfound name c hname
          · have hbases := length_filterMap_baseClasses_le tree d
            have hunseen := unseenBases_cons hd hseen
            rw [List.length_append, List.length_reverse]
            omega

/-- The steps that are given are one for the class, and one for each base expression of it and of the
declarations of the tree. -/
theorem kindFuel_eq (tree : Tree) (d : Declaration) :
    tree.kindFuel d = 1 + unseenBases (d :: tree.declarations) [] := by
  have hfold : ∀ (cs : List Declaration) (n : Nat),
      cs.foldl (fun n c => n + c.baseExprs.length) n = n + (cs.map fun c => c.baseExprs.length).sum := by
    intro cs
    induction cs with
    | nil => exact fun n => rfl
    | cons c rest ih =>
      intro n
      rw [List.foldl_cons, ih, List.map_cons, List.sum_cons, Nat.add_assoc]
  have hunseen : unseenBases (d :: tree.declarations) [] =
      d.baseExprs.length + (tree.declarations.map fun c => c.baseExprs.length).sum := by
    have hall : (d :: tree.declarations).filter (fun c => !([] : List String).contains c.qualifiedName) =
        d :: tree.declarations := List.filter_eq_self.mpr fun _ _ => rfl
    rw [unseenBases, hall, List.map_cons, List.sum_cons]
  rw [kindFuel, hfold, hunseen, Nat.add_assoc]

/-- **More steps than are given change nothing.** -/
theorem specialKind_eq_of_le {fuel : Nat} (h : tree.kindFuel d ≤ fuel) :
    tree.specialKind fuel [] [d] = tree.specialKind (tree.kindFuel d) [] [d] := by
  obtain ⟨extra, rfl⟩ := Nat.exists_eq_add_of_le h
  refine specialKind_add (fun name c hfound => ?_)
    (List.cons_subset.mpr ⟨List.mem_cons_self, List.nil_subset _⟩)
    (kindFuel_eq tree d).ge extra
  exact List.mem_cons_of_mem _ (List.mem_reverse.mp (List.mem_of_find?_eq_some hfound))

/-- The kind of a declaration, with any number of steps that suffices. -/
theorem kindOf_eq_of_le {fuel : Nat} (h : tree.kindFuel d ≤ fuel) :
    tree.kindOf d = if d.isClass then (tree.specialKind fuel [] [d]).getD .plainClass else .function := by
  rw [kindOf, specialKind_eq_of_le (Nat.le_succ _), specialKind_eq_of_le h]

end FluentBuilder.Source.Tree
