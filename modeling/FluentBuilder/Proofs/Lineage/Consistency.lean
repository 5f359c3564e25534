import FluentBuilder.Proofs.Lineage.Restriction

/-!
# Lists that can be merged

A merge takes heads without looking ahead. All the same it fails only where nothing else would do: lists
merge iff there is an order of their items, each once, that has every list as a part (`IsOrderOf`), and
the merge is then such an order itself (`merge_spec`). Otherwise it comes to a point where items are left
and no head is free (`Sticks`), and a class with such lists has no line.

**The route.** An order of the items of some lists begins with an item that is the head of every list it
is in, so that some head is free (`IsOrderOf.exists_freeHead`). It need not be the item that the merge
takes. But whichever that is, the order without it is an order of what the lists have left
(`IsOrderOf.of_takes`), since taking a free head from lists is leaving it out of them
(`removeHead_eq_restrict`). So lists with an order never stick (`IsOrderOf.not_sticks`), by induction on
the steps. Since every step leaves fewer items (`takes_wellFounded`), lists that do not stick are merged.
-/

namespace FluentBuilder.Lineage

variable {α : Type} [DecidableEq α] {lists : List (List α)} {order merged : List α} {head x : α}

/-! ### Steps -/

/-- A step of a merge: the free head is taken. -/
def Takes (lists next : List (List α)) : Prop :=
  ∃ head, freeHead lists = some head ∧ next = removeHead head lists

/-- **Merges come to an end**: there is no infinite sequence of steps. -/
theorem takes_wellFounded : WellFounded fun next lists : List (List α) => Takes lists next := by
  refine Subrelation.wf (fun {next lists} htakes => ?_) (measure (itemCount (α := α))).wf
  obtain ⟨head, hfree, rfl⟩ := htakes
  obtain ⟨list, hlist, hfirst⟩ := head_of_freeHead hfree
  exact itemCount_removeHead_lt hlist hfirst

/-- A merge sticks: at some step items are left, and no head is free. -/
inductive Sticks : List (List α) → Prop where
  /-- At this step. -/
  | here {lists : List (List α)} (hleft : ∃ list ∈ lists, list ≠ []) (hnone : freeHead lists = none) :
    Sticks lists
  /-- At a later step. -/
  | later {lists : List (List α)} {head : α} (hfree : freeHead lists = some head)
    (hlater : Sticks (removeHead head lists)) : Sticks lists

/-- Lists merge or stick. -/
theorem merges_or_sticks (lists : List (List α)) : (∃ merged, Merges lists merged) ∨ Sticks lists := by
  induction lists using (takes_wellFounded (α := α)).induction
  next lists ih =>
  cases hfree : freeHead lists with
  | none =>
    by_cases hempty : ∀ list ∈ lists, list = []
    · exact .inl ⟨[], .done hempty⟩
    · push Not at hempty
      exact .inr (.here hempty hfree)
  | some head =>
    rcases ih (removeHead head lists) ⟨head, hfree, rfl⟩ with ⟨merged, hmerged⟩ | hsticks
    · exact .inl ⟨head :: merged, .step hfree hmerged⟩
    · exact .inr (.later hfree hsticks)

/-! ### The head that is taken -/

/-- The first list whose head stands in no tail begins with this head. -/
def FirstFree (head : α) (lists : List (List α)) : Prop :=
  ∃ before tail after, lists = before ++ (head :: tail) :: after ∧
    (∀ list ∈ lists, head ∉ list.tail) ∧
    ∀ list ∈ before, ∀ first, list.head? = some first → ∃ other ∈ lists, first ∈ other.tail

/-- **The free head is that of the first list whose head stands in no tail.** -/
theorem firstFree_of_freeHead (h : freeHead lists = some head) : FirstFree head lists := by
  obtain ⟨-, passed, heads, hheads, hpassed⟩ := List.find?_eq_some_iff_append.mp h
  obtain ⟨front, back, rfl, hfront, hback⟩ := List.filterMap_eq_append_iff.mp hheads
  obtain ⟨empty, list, after, rfl, hempty, hfirst, -⟩ := List.filterMap_eq_cons_iff.mp hback
  refine ⟨front ++ empty, list.tail, after, ?_, fun other => not_mem_tail_of_freeHead h, ?_⟩
  · rw [List.cons_head?_tail hfirst, List.append_assoc]
  -- A list before it has a head that was passed over, or it is empty.
  intro skipped hskipped first hhead
  rcases List.mem_append.mp hskipped with hmem | hmem
  · have htail := hpassed first (hfront ▸ List.mem_filterMap.mpr ⟨skipped, hmem, hhead⟩)
    rw [Bool.not_not, List.any_eq_true] at htail
    obtain ⟨other, hother, hcontains⟩ := htail
    exact ⟨other, hother, List.contains_iff_mem.mp hcontains⟩
  · exact absurd (hhead.symm.trans (hempty skipped hmem)) (Option.some_ne_none first)

/-- Removing a free head is leaving it out. -/
theorem removeHead_eq_restrict (h : freeHead lists = some head) :
    removeHead head lists = restrict (· ≠ head) lists := by
  have hleft : restrict (· ≠ head) (removeHead head lists) = restrict (· ≠ head) lists :=
    restrict_removeHead_of_neg (by simp) lists
  rw [← hleft, restrict, eq_comm]
  refine (List.map_congr_left fun list hlist => ?_).trans (List.map_id (removeHead head lists))
  refine List.filter_eq_self.mpr fun y hy => decide_eq_true ?_
  rintro rfl
  exact not_mem_of_mem_removeHead h hlist hy

/-- **What is left when some items are taken**, at any point of a merge: the lists without these. The item
that comes next is the free head of that. -/
theorem Merges.freeHead_restrict {taken rest : List α} (h : Merges lists (taken ++ head :: rest)) :
    freeHead (restrict (· ∉ taken) lists) = some head := by
  induction taken generalizing lists with
  | nil => simpa [restrict] using (merges_cons_iff.mp h).1
  | cons first taken ih =>
    obtain ⟨hfree, hrest⟩ := merges_cons_iff.mp h
    have hleft := ih hrest
    have hboth : restrict (· ∉ first :: taken) lists =
        restrict (· ∉ taken) (restrict (· ≠ first) lists) := by
      simp [restrict, Bool.and_comm]
    rw [hboth, ← removeHead_eq_restrict hfree, hleft]

/-! ### Orders -/

/-- A list is an order of the items of some lists: it has each of them once, and every list is a part of
it. -/
structure IsOrderOf (order : List α) (lists : List (List α)) : Prop where
  /-- No item comes twice. -/
  nodup : order.Nodup
  /-- Its items are those of the lists. -/
  mem_iff : ∀ x, x ∈ order ↔ ∃ list ∈ lists, x ∈ list
  /-- The items of every list come one after the other. -/
  sublist : ∀ list ∈ lists, list.Sublist order

/-- A merge is an order. -/
theorem Merges.isOrderOf (h : Merges lists merged) : IsOrderOf merged lists :=
  ⟨h.nodup, fun _ => h.mem_iff, fun _ => h.sublist⟩

namespace IsOrderOf

omit [DecidableEq α] in
/-- What is kept of an order is an order of what is kept. -/
theorem filter (h : IsOrderOf order lists) (p : α → Bool) :
    IsOrderOf (order.filter p) (restrict p lists) where
  nodup := h.nodup.filter p
  mem_iff x := by
    simp only [restrict, List.mem_filter, h.mem_iff x, List.mem_map]
    constructor
    · rintro ⟨⟨list, hlist, hx⟩, hp⟩
      exact ⟨list.filter p, ⟨list, hlist, rfl⟩, List.mem_filter.mpr ⟨hx, hp⟩⟩
    · rintro ⟨_, ⟨list, hlist, rfl⟩, hx⟩
      exact ⟨⟨list, hlist, (List.mem_filter.mp hx).1⟩, (List.mem_filter.mp hx).2⟩
  sublist kept hkept := by
    obtain ⟨list, hlist, rfl⟩ := List.mem_map.mp hkept
    exact (h.sublist list hlist).filter p

/-- **An order without a free head is one of what is left.** -/
theorem of_takes (h : IsOrderOf order lists) (hfree : freeHead lists = some head) :
    IsOrderOf (order.filter (· ≠ head)) (removeHead head lists) :=
  removeHead_eq_restrict hfree ▸ h.filter _

omit [DecidableEq α] in
/-- The first item of an order stands in no tail. -/
theorem not_mem_tail {rest list : List α} (h : IsOrderOf (x :: rest) lists) (hlist : list ∈ lists) :
    x ∉ list.tail := by
  have hfresh : x ∉ rest := (List.nodup_cons.mp h.nodup).1
  have hpart : list.tail.Sublist rest := (h.sublist list hlist).tail
  exact fun hmem => hfresh (hpart.subset hmem)

/-- **Where there is an order, a head is free**: the first item of the order is, if not an earlier one. -/
theorem exists_freeHead (h : IsOrderOf order lists) (hleft : ∃ list ∈ lists, list ≠ []) :
    ∃ head, freeHead lists = some head := by
  obtain ⟨left, hmem, hne⟩ := hleft
  obtain ⟨y, ys, rfl⟩ := List.exists_cons_of_ne_nil hne
  cases order with
  | nil => exact absurd ((h.mem_iff y).mpr ⟨_, hmem, List.mem_cons_self⟩) List.not_mem_nil
  | cons x rest =>
    obtain ⟨list, hlist, hx⟩ := (h.mem_iff x).mp List.mem_cons_self
    have hfirst : list.head? = some x := by
      cases list with
      | nil => exact absurd hx List.not_mem_nil
      | cons first tail =>
        rcases List.mem_cons.mp hx with rfl | htail
        · rfl
        · exact absurd htail (h.not_mem_tail hlist)
    rw [← Option.isSome_iff_exists, freeHead, List.find?_isSome]
    refine ⟨x, List.mem_filterMap.mpr ⟨list, hlist, hfirst⟩, ?_⟩
    rw [Bool.not_eq_true', List.any_eq_false]
    exact fun other hother hcontains =>
      h.not_mem_tail hother (List.contains_iff_mem.mp hcontains)

/-- **Lists with an order never stick.** -/
theorem not_sticks (h : IsOrderOf order lists) : ¬ Sticks lists := by
  intro hsticks
  induction hsticks generalizing order with
  | here hleft hnone =>
    obtain ⟨head, hfree⟩ := h.exists_freeHead hleft
    cases hnone.symm.trans hfree
  | later hfree _ ih => exact ih (h.of_takes hfree)

end IsOrderOf

/-! ### Merging -/

/-- Lists that have an order are merged. -/
theorem exists_merge_iff : (∃ merged, merge lists = some merged) ↔ ∃ order, IsOrderOf order lists := by
  constructor
  · rintro ⟨merged, hmerge⟩
    exact ⟨merged, (merge_eq_some_iff.mp hmerge).isOrderOf⟩
  · rintro ⟨order, horder⟩
    rcases merges_or_sticks lists with ⟨merged, hmerges⟩ | hsticks
    · exact ⟨merged, merge_eq_some_iff.mpr hmerges⟩
    · exact absurd hsticks horder.not_sticks

/-- A merge that gives nothing sticks; it does not run out of steps. -/
theorem merge_eq_none_iff : merge lists = none ↔ Sticks lists := by
  constructor
  · intro hnone
    rcases merges_or_sticks lists with ⟨merged, hmerges⟩ | hsticks
    · cases hnone.symm.trans (merge_eq_some_iff.mpr hmerges)
    · exact hsticks
  · intro hsticks
    cases hmerge : merge lists with
    | none => rfl
    | some merged => exact absurd hsticks (merge_eq_some_iff.mp hmerge).isOrderOf.not_sticks

/-- **What a merge does.** It comes to an end. It gives a list iff there is an order of the items of all
lists; otherwise it sticks, which is what leaves a class without a line when its bases have theirs. What it
gives is such an order, in which every item is the head of the first list whose head stands in no tail, of
what the lists have left when the items before it are taken. -/
theorem merge_spec (lists : List (List α)) :
    WellFounded (fun next lists : List (List α) => Takes lists next) ∧
    ((∃ merged, merge lists = some merged) ↔ ∃ order, IsOrderOf order lists) ∧
    (merge lists = none ↔ Sticks lists) ∧
    (∀ (bases : α → List α) (depth : Nat) (way : List α) (cls : α) (own : List α)
        (lines : List (List α)), cls ∉ way →
      (own.mapM fun base => line bases depth (way ++ [cls]) base (bases base)) = .ok lines →
      lists = lines ++ [own] →
        (line bases (depth + 1) way cls own = .error .inconsistent ↔
          ¬ ∃ order, IsOrderOf order lists)) ∧
    ∀ merged, merge lists = some merged → IsOrderOf merged lists ∧
      ∀ taken head rest, merged = taken ++ head :: rest →
        FirstFree head (restrict (· ∉ taken) lists) := by
  refine ⟨takes_wellFounded, exists_merge_iff, merge_eq_none_iff, ?_, fun merged hmerge => ?_⟩
  · rintro bases depth way cls own lines hway hlines rfl
    rw [← exists_merge_iff, line_succ, if_neg hway, hlines, Except.bind]
    cases merge (lines ++ [own]) <;> simp
  · have hmerges := merge_eq_some_iff.mp hmerge
    refine ⟨hmerges.isOrderOf, ?_⟩
    rintro taken head rest rfl
    exact firstFree_of_freeHead hmerges.freeHead_restrict

/-- Classes with two bases that have the same bases in different orders. -/
def crossedBases : Nat → List Nat
  | 0 => [1, 2]
  | 1 => [3, 4]
  | 2 => [4, 3]
  | _ => []

/-- Lists in which the second head is the first that is free. -/
def staggered : List (List Nat) := [[0, 1], [2, 0], [2, 3]]

/-- The lines of crossed bases have no order, so that there is no line of their class. The staggered lists
are merged, with the head of the second one first. -/
theorem merge_of_staggered :
    line crossedBases 3 [] 0 [1, 2] = .error .inconsistent ∧
      merge staggered = some [2, 0, 1, 3] ∧ IsOrderOf [2, 0, 1, 3] staggered ∧
      FirstFree 2 staggered := by
  have hnone : merge [[1, 3, 4], [2, 4, 3], [1, 2]] = none := by decide
  have hsome : merge staggered = some [2, 0, 1, 3] := by decide
  have hcrossed := merge_spec [[1, 3, 4], [2, 4, 3], [1, 2]]
  have hstaggered := (merge_spec staggered).2.2.2.2 [2, 0, 1, 3] hsome
  refine ⟨?_, hsome, hstaggered.1, ?_⟩
  · refine (hcrossed.2.2.2.1 crossedBases 2 [] 0 [1, 2] [[1, 3, 4], [2, 4, 3]] List.not_mem_nil
      (by decide) rfl).mpr fun horder => ?_
    obtain ⟨merged, hmerged⟩ := hcrossed.2.1.mpr horder
    cases hnone.symm.trans hmerged
  · simpa [restrict] using hstaggered.2 [] 2 [0, 1, 3] rfl

end FluentBuilder.Lineage
