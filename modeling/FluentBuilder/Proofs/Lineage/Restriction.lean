import FluentBuilder.Proofs.Lineage.Line

/-!
# Lines of a part of a graph

Of a graph some classes are kept, and the others are left out as if they were no bases. A class that is
kept may then have another line than before. Leaving out commutes with a merge unless a class is held
back in it (`HeldBack`): in the whole graph the merge takes a class that is kept at a place where it
would take another one if only the classes that are kept stood in the lists. What holds the other one
back is a class that is left out and stands before it in a list.

**The route.** A step of the merge that takes a class that is left out changes nothing in what is kept
(`restrict_removeHead_of_neg`). A step that takes a class that is kept is a step of the merge of what is
kept, if it is the class taken there too (`restrict_removeHead_of_pos`). So `merges_restrict_iff` is an
induction on the merge. For lines it is used class by class. A line with some classes left out is found
where no class of it has a merge that holds back, and only there (`hasLine_filter_iff`): lines of
bases are parts of it, and parts of a list without repetition are known by what is in them.
-/

namespace FluentBuilder.Lineage

variable {α : Type} [DecidableEq α] {p : α → Bool} {lists lists' : List (List α)}
  {merged : List α} {head x : α}

/-! ### Lists without empty ones -/

/-- The lists that are not empty. -/
def filled (lists : List (List α)) : List (List α) := lists.filter fun list => !list.isEmpty

omit [DecidableEq α] in
/-- The lists that are not empty, of two lots of lists. -/
theorem filled_append (lists lists' : List (List α)) :
    filled (lists ++ lists') = filled lists ++ filled lists' :=
  List.filter_append lists lists'

omit [DecidableEq α] in
/-- Only lists that are not empty have heads. -/
theorem filterMap_head?_filled (lists : List (List α)) :
    (filled lists).filterMap List.head? = lists.filterMap List.head? := by
  rw [filled, List.filterMap_filter]
  refine List.filterMap_congr fun list _ => ?_
  cases list <;> rfl

/-- Empty lists do not matter for the free head. -/
theorem freeHead_filled (lists : List (List α)) : freeHead (filled lists) = freeHead lists := by
  have htails : ∀ head, (filled lists).any (fun list => list.tail.contains head) =
      lists.any fun list => list.tail.contains head := by
    intro head
    rw [filled, List.any_filter]
    congr 1
    funext list
    cases list <;> rfl
  rw [freeHead, filterMap_head?_filled]
  simp only [htails, freeHead]

/-- Empty lists do not matter for what is left when a head is removed. -/
theorem filled_removeHead_filled (head : α) (lists : List (List α)) :
    filled (removeHead head (filled lists)) = filled (removeHead head lists) := by
  rw [filled, removeHead, filled, removeHead, filled, List.filter_map, List.filter_map,
    List.filter_filter]
  congr 1
  refine List.filter_congr fun list _ => ?_
  cases list <;> simp

omit [DecidableEq α] in
/-- Nothing is left iff all lists are empty. -/
theorem filled_eq_nil_iff : filled lists = [] ↔ ∀ list ∈ lists, list = [] := by
  simp [filled, List.filter_eq_nil_iff]

/-- **Lists that differ in empty ones merge alike.** -/
theorem Merges.of_filled_eq (h : Merges lists merged) (heq : filled lists = filled lists') :
    Merges lists' merged := by
  induction h generalizing lists' with
  | done hempty =>
    rw [filled_eq_nil_iff.mpr hempty, eq_comm, filled_eq_nil_iff] at heq
    exact .done heq
  | @step lists head rest hfree _ ih =>
    refine .step ?_ (ih ?_)
    · rw [← freeHead_filled lists', ← heq, freeHead_filled lists, hfree]
    · rw [← filled_removeHead_filled, heq, filled_removeHead_filled]

/-! ### Leaving out -/

/-- What is kept of lists. -/
def restrict (p : α → Bool) (lists : List (List α)) : List (List α) := lists.map (·.filter p)

/-- Removing a class that is left out changes nothing in what is kept. -/
theorem restrict_removeHead_of_neg (hp : p head = false) (lists : List (List α)) :
    restrict p (removeHead head lists) = restrict p lists := by
  rw [restrict, removeHead, List.map_map]
  refine List.map_congr_left fun list _ => ?_
  rw [Function.comp_apply]
  split
  · next hfirst =>
    rw [← List.cons_head?_tail hfirst, List.filter_cons_of_neg (by simp [hp]), List.tail_cons]
  · rfl

/-- Removing a free head that is kept is removing it from what is kept. -/
theorem restrict_removeHead_of_pos (hp : p head = true) (hfree : freeHead lists = some head) :
    restrict p (removeHead head lists) = removeHead head (restrict p lists) := by
  rw [restrict, removeHead, removeHead, restrict, List.map_map, List.map_map]
  refine List.map_congr_left fun list hlist => ?_
  have htail := not_mem_tail_of_freeHead hfree hlist
  rw [Function.comp_apply, Function.comp_apply]
  cases list with
  | nil => rfl
  | cons y ys =>
    rw [List.tail_cons] at htail
    by_cases hy : y = head
    · rw [hy, List.filter_cons_of_pos hp, List.head?_cons, List.head?_cons, if_pos rfl, if_pos rfl,
        List.tail_cons, List.tail_cons]
    · have hnot : head ∉ (y :: ys).filter p := by
        intro hmem
        rcases List.mem_cons.mp (List.mem_filter.mp hmem).1 with hsame | htaken
        · exact hy hsame.symm
        · exact htail htaken
      rw [List.head?_cons, if_neg fun h => hy (Option.some.inj h),
        if_neg fun h => hnot (List.mem_of_head? h)]

omit [DecidableEq α] in
/-- What is kept of a list has no more in its tail than the list. -/
theorem mem_tail_of_mem_tail_filter {list : List α} (h : x ∈ (list.filter p).tail) : x ∈ list.tail := by
  cases list with
  | nil => exact h
  | cons y ys =>
    rw [List.filter_cons] at h
    split at h
    · exact (List.mem_filter.mp h).1
    · exact (List.mem_filter.mp (List.mem_of_mem_tail h)).1

/-- If a free head is kept, what is kept has a free head. -/
theorem exists_freeHead_restrict (hp : p head = true) (hfree : freeHead lists = some head) :
    ∃ first, freeHead (restrict p lists) = some first := by
  rw [← Option.isSome_iff_exists, freeHead, List.find?_isSome]
  refine ⟨head, ?_, ?_⟩
  · obtain ⟨list, hlist, hfirst⟩ := head_of_freeHead hfree
    refine List.mem_filterMap.mpr ⟨list.filter p, List.mem_map_of_mem hlist, ?_⟩
    rw [← List.cons_head?_tail hfirst, List.filter_cons_of_pos hp, List.head?_cons]
  · rw [Bool.not_eq_true', List.any_eq_false]
    intro kept hkept hcontains
    obtain ⟨list, hlist, rfl⟩ := List.mem_map.mp hkept
    have htail := mem_tail_of_mem_tail_filter (List.contains_iff_mem.mp hcontains)
    exact not_mem_tail_of_freeHead hfree hlist htail

/-! ### Holding back -/

/-- A merge holds back: at some step it takes a class that is kept, where another one would be taken if
only the classes that are kept stood in the lists. -/
inductive HeldBack (p : α → Bool) : List (List α) → Prop where
  /-- This step takes another class. -/
  | here {lists : List (List α)} {head first : α} (hfree : freeHead lists = some head)
    (hkept : p head = true) (hfirst : freeHead (restrict p lists) = some first)
    (hne : first ≠ head) : HeldBack p lists
  /-- A later step does. -/
  | later {lists : List (List α)} {head : α} (hfree : freeHead lists = some head)
    (hlater : HeldBack p (removeHead head lists)) : HeldBack p lists

/-- A merge holds back at its first step or after it. -/
theorem heldBack_iff (hfree : freeHead lists = some head) :
    HeldBack p lists ↔
      (p head = true ∧ freeHead (restrict p lists) ≠ some head) ∨
        HeldBack p (removeHead head lists) := by
  constructor
  · rintro (⟨hfree', hkept, hfirst, hne⟩ | ⟨hfree', hlater⟩)
    · obtain rfl := Option.some.inj (hfree.symm.trans hfree')
      exact .inl ⟨hkept, fun h => hne (Option.some.inj (hfirst.symm.trans h))⟩
    · obtain rfl := Option.some.inj (hfree.symm.trans hfree')
      exact .inr hlater
  · rintro (⟨hkept, hother⟩ | hlater)
    · obtain ⟨first, hfirst⟩ := exists_freeHead_restrict hkept hfree
      exact .here hfree hkept hfirst fun h => hother (h ▸ hfirst)
    · exact .later hfree hlater

/-- A merge begins with the free head. -/
theorem merges_cons_iff : Merges lists (head :: merged) ↔
    freeHead lists = some head ∧ Merges (removeHead head lists) merged := by
  constructor
  · rintro (_ | ⟨hfree, hrest⟩)
    exact ⟨hfree, hrest⟩
  · rintro ⟨hfree, hrest⟩
    exact .step hfree hrest

/-- **What is kept merges into what is kept of the merge iff the merge does not hold back.** -/
theorem merges_restrict_iff (h : Merges lists merged) :
    Merges (restrict p lists) (merged.filter p) ↔ ¬ HeldBack p lists := by
  induction h with
  | @done lists hempty =>
    have hnone : ¬ HeldBack p lists := by
      have hno : ∀ head, freeHead lists ≠ some head := by
        intro head hfree
        obtain ⟨list, hlist, hfirst⟩ := head_of_freeHead hfree
        rw [hempty list hlist] at hfirst
        cases hfirst
      rintro (⟨hfree, -⟩ | ⟨hfree, -⟩)
      · exact hno _ hfree
      · exact hno _ hfree
    refine ⟨fun _ => hnone, fun _ => .done fun kept hkept => ?_⟩
    obtain ⟨list, hlist, rfl⟩ := List.mem_map.mp hkept
    rw [hempty list hlist, List.filter_nil]
  | @step lists head rest hfree _ ih =>
    rw [heldBack_iff hfree, not_or, ← ih]
    cases hp : p head with
    | true =>
      rw [List.filter_cons_of_pos hp, merges_cons_iff, restrict_removeHead_of_pos hp hfree]
      simp
    | false =>
      rw [List.filter_cons_of_neg (by simp [hp]), restrict_removeHead_of_neg hp]
      simp

/-! ### Lines of what is kept -/

/-- A part of a list without repetition is known by what is in it. -/
theorem eq_filter_of_sublist {l part : List α} (hnodup : l.Nodup)
    (hsub : part.Sublist l) : part = l.filter (· ∈ part) := by
  induction hsub with
  | slnil => rfl
  | @cons part l y hsub ih =>
    obtain ⟨hy, hl⟩ := List.nodup_cons.mp hnodup
    rw [List.filter_cons_of_neg (by simpa using fun hmem => hy (hsub.subset hmem)), ← ih hl]
  | @cons_cons part l y hsub ih =>
    obtain ⟨hy, hl⟩ := List.nodup_cons.mp hnodup
    rw [List.filter_cons_of_pos (by simp)]
    congr 1
    refine (ih hl).trans (List.filter_congr fun x hx => ?_)
    have hne : x ≠ y := fun h => hy (h ▸ hx)
    simp [hne]

/-- Parts of a list without repetition that have the same in them are the same. -/
theorem eq_of_sublist {l part part' : List α} (hnodup : l.Nodup) (hsub : part.Sublist l)
    (hsub' : part'.Sublist l) (hmem : ∀ x, x ∈ part ↔ x ∈ part') : part = part' := by
  rw [eq_filter_of_sublist hnodup hsub, eq_filter_of_sublist hnodup hsub']
  exact List.filter_congr fun x _ => by simp [hmem x]

section graph

/- A graph, and classes of it that are kept. The others have no bases. -/
variable {bases : α → List α} {cls : α} {l kept : List α}

/-- The graph of the classes that are kept. -/
def keptBases (p : α → Bool) (bases : α → List α) (cls : α) : List α := (bases cls).filter p

/-- In the merge for the line of a class something is held back. -/
def HeldBackAt (p : α → Bool) (bases : α → List α) (cls : α) : Prop :=
  ∃ lines, List.Forall₂ (HasLine bases) (bases cls) lines ∧ HeldBack p (lines ++ [bases cls])

variable (hout : ∀ x, p x = false → bases x = [])

include hout

omit [DecidableEq α] in
/-- Among what is kept a class descends from what it descends from and is kept. -/
theorem descends_keptBases_iff (hcls : p cls = true) :
    Descends (keptBases p bases) cls x ↔ Descends bases cls x ∧ p x = true := by
  constructor
  · intro h
    induction h with
    | refl => exact ⟨.refl, hcls⟩
    | tail _ hbase ih =>
      obtain ⟨hmem, hp⟩ := List.mem_filter.mp hbase
      exact ⟨ih.1.tail hmem, hp⟩
  · rintro ⟨h, hx⟩
    induction h using Relation.ReflTransGen.head_induction_on with
    | refl => exact .refl
    | @head cls base hbase hrest ih =>
      cases hp : p base with
      | true => exact .head (List.mem_filter.mpr ⟨hbase, hp⟩) (ih hp)
      | false =>
        -- What is left out has no bases and leads nowhere.
        rcases descends_iff.mp hrest with rfl | ⟨next, hnext, -⟩
        · rw [hp] at hx
          cases hx
        · rw [hout base hp] at hnext
          exact absurd hnext List.not_mem_nil

/-- The line of a class that is left out has nothing that is kept. -/
theorem filter_eq_nil_of_hasLine (hcls : p cls = false) (h : HasLine bases cls l) :
    l.filter p = [] := by
  refine List.filter_eq_nil_iff.mpr fun x hx => ?_
  rcases descends_iff.mp (h.mem_iff.mp hx) with rfl | ⟨base, hbase, -⟩
  · simp [hcls]
  · rw [hout cls hcls] at hbase
    exact absurd hbase List.not_mem_nil

/-- The lines of the bases that are kept are the lines of the bases but for what is left out, if that is
so for every base. -/
theorem exists_restrict {classes : List α} {lines : List (List α)}
    (h : List.Forall₂ (HasLine bases) classes lines)
    (hkept : ∀ base ∈ classes, p base = true → ∀ l, HasLine bases base l →
      HasLine (keptBases p bases) base (l.filter p)) :
    ∃ found, List.Forall₂ (HasLine (keptBases p bases)) (classes.filter p) found ∧
      filled (restrict p lines) = filled found := by
  induction h with
  | nil => exact ⟨[], .nil, rfl⟩
  | @cons base line classes lines hline _ ih =>
    obtain ⟨hbase, hrest⟩ := List.forall_mem_cons.mp hkept
    obtain ⟨found, hfound, heq⟩ := ih hrest
    cases hp : p base with
    | true =>
      refine ⟨line.filter p :: found, ?_, ?_⟩
      · rw [List.filter_cons_of_pos hp]
        exact .cons (hbase hp line hline) hfound
      · show filled ([line.filter p] ++ restrict p lines) = filled ([line.filter p] ++ found)
        rw [filled_append, filled_append, heq]
    | false =>
      refine ⟨found, ?_, ?_⟩
      · rw [List.filter_cons_of_neg (by simp [hp])]
        exact hfound
      · rw [restrict, List.map_cons, filter_eq_nil_of_hasLine hout hp hline]
        exact heq

/-- **One class**: its line among what is kept is what is kept of its line iff nothing is held back, if
that is so for its bases. -/
theorem hasLine_keptBases_iff (hcls : p cls = true) (h : HasLine bases cls l)
    (hkept : ∀ base ∈ bases cls, p base = true → ∀ l, HasLine bases base l →
      HasLine (keptBases p bases) base (l.filter p)) :
    HasLine (keptBases p bases) cls (l.filter p) ↔ ¬ HeldBackAt p bases cls := by
  obtain ⟨lines, merged, hlines, hmerges, rfl⟩ := hasLine_iff.mp h
  obtain ⟨found, hfound, heq⟩ := exists_restrict hout hlines hkept
  have hfilled : filled (restrict p (lines ++ [bases cls])) =
      filled (found ++ [keptBases p bases cls]) := by
    rw [restrict, List.map_append, filled_append, filled_append]
    exact congrArg (· ++ _) heq
  have hheld : HeldBackAt p bases cls ↔ HeldBack p (lines ++ [bases cls]) := by
    constructor
    · rintro ⟨lines', hlines', hback⟩
      rwa [HasLine.unique_forall₂ hlines hlines']
    · exact fun hback => ⟨lines, hlines, hback⟩
  rw [hheld, ← merges_restrict_iff hmerges, List.filter_cons_of_pos hcls, hasLine_iff]
  constructor
  · rintro ⟨found', merged', hfound', hmerges', heq'⟩
    obtain rfl := HasLine.unique_forall₂ hfound hfound'
    rw [(List.cons.inj heq').2]
    exact hmerges'.of_filled_eq hfilled.symm
  · intro hmerges'
    exact ⟨found, merged.filter p, hfound, hmerges'.of_filled_eq hfilled, rfl⟩

/-- If a class has among what is kept what is kept of its line, then so has every class that it descends
from: lines are parts of the line of the class, and have in them what their classes descend from. -/
theorem hasLine_filter_of_mem (hcls : p cls = true) (h : HasLine bases cls l)
    (hline : HasLine (keptBases p bases) cls (l.filter p)) (hx : x ∈ l) (hp : p x = true)
    {found : List α} (hfound : HasLine bases x found) :
    HasLine (keptBases p bases) x (found.filter p) := by
  have hdescends := h.mem_iff.mp hx
  obtain ⟨found', hfound', hsub⟩ := h.exists_of_descends hdescends
  obtain rfl := hfound.unique hfound'
  obtain ⟨short, hshort, hsub'⟩ :=
    hline.exists_of_descends ((descends_keptBases_iff hout hcls).mpr ⟨hdescends, hp⟩)
  have hmem : ∀ y, y ∈ short ↔ y ∈ found.filter p := by
    intro y
    rw [hshort.mem_iff, descends_keptBases_iff hout hp, List.mem_filter, hfound.mem_iff]
  rw [← eq_of_sublist hline.nodup hsub' (hsub.filter p) hmem]
  exact hshort

/-- **A whole line**: what is kept of the line of a class is the line that it has among what is kept iff
no class of the line that is kept has something held back. -/
theorem hasLine_filter_iff (hcls : p cls = true) (h : HasLine bases cls l) :
    HasLine (keptBases p bases) cls (l.filter p) ↔
      ∀ x ∈ l, p x = true → ¬ HeldBackAt p bases x := by
  constructor
  · intro hline x hx hp
    have hdescends := h.mem_iff.mp hx
    obtain ⟨found, hfound, hsub⟩ := h.exists_of_descends hdescends
    refine (hasLine_keptBases_iff hout hp hfound fun base hbase hp' l' hl' => ?_).mp
      (hasLine_filter_of_mem hout hcls h hline hx hp hfound)
    have hin : base ∈ l := h.mem_iff.mpr (hdescends.tail hbase)
    exact hasLine_filter_of_mem hout hcls h hline hin hp' hl'
  · -- The induction is on the length of the line: those of the bases are shorter.
    induction hn : l.length using Nat.strongRecOn generalizing cls l with
    | ind n ih =>
      intro hnone
      have hself : cls ∈ l := h.mem_iff.mpr .refl
      refine (hasLine_keptBases_iff hout hcls h fun base hbase hp l' hl' => ?_).mpr
        (hnone cls hself hcls)
      obtain ⟨lines, merged, hlines, hmerges, rfl⟩ := hasLine_iff.mp h
      obtain ⟨found, hfound, hline⟩ := Outcome.exists_of_mem_left hlines hbase
      obtain rfl := hl'.unique hline
      have hsub := hmerges.sublist (List.mem_append_left [bases cls] hfound)
      have hshorter : l'.length < n := by
        rw [← hn, List.length_cons]
        exact Nat.lt_succ_of_le hsub.length_le
      exact ih l'.length hshorter hp hl' rfl fun x hx =>
        hnone x (List.mem_cons_of_mem cls (hsub.subset hx))

end graph

end FluentBuilder.Lineage
