import FluentBuilder.Lineage
import Mathlib.Data.List.Nodup

/-!
# Merging keeps every order

What a merge gives, when it gives something: the items of the lists (`mem_merge`), each once
(`merge_nodup`), and in the order of every list (`sublist_merge`).

A merge that succeeds is a derivation of `Merges`: it takes a free head, removes it, and merges what
is left, until nothing is left. The three facts are inductions on that derivation. What carries them
is that the head taken stands at the front of some list and in no tail (`head_of_freeHead`,
`not_mem_tail_of_freeHead`), so that after the step it stands in no list at all
(`not_mem_of_mem_removeHead`).

A merge is given as many steps as there are items. That is enough, because every step takes one away
(`itemCount_removeHead_lt`), and so the bound decides nothing (`mergeWithin_eq_merge`).
-/

namespace FluentBuilder.Lineage

variable {α : Type} [DecidableEq α] {lists : List (List α)} {merged : List α} {head x : α}

/-! ### One step -/

/-- The free head is the head of a list. -/
theorem head_of_freeHead (h : freeHead lists = some head) :
    ∃ list ∈ lists, list.head? = some head := by
  have hmem : head ∈ lists.filterMap List.head? := List.mem_of_find?_eq_some h
  exact List.mem_filterMap.mp hmem

/-- The free head stands in no tail. -/
theorem not_mem_tail_of_freeHead (h : freeHead lists = some head) {list : List α}
    (hlist : list ∈ lists) : head ∉ list.tail := by
  have hfree := List.find?_some h
  simp only [Bool.not_eq_true', List.any_eq_false, List.contains_iff_mem] at hfree
  exact hfree list hlist

/-- What a list has left when a head is removed. -/
theorem left_mem_removeHead (head : α) {list : List α} (hlist : list ∈ lists) :
    (if list.head? = some head then list.tail else list) ∈ removeHead head lists :=
  List.mem_map_of_mem hlist

/-- What is left is left of a list. -/
theorem exists_of_mem_removeHead {rest : List α} (hrest : rest ∈ removeHead head lists) :
    ∃ list ∈ lists, rest = if list.head? = some head then list.tail else list := by
  obtain ⟨list, hlist, rfl⟩ := List.mem_map.mp hrest
  exact ⟨list, hlist, rfl⟩

/-- Removing a head adds nothing. -/
theorem mem_of_mem_removeHead {rest : List α} (hrest : rest ∈ removeHead head lists)
    (hx : x ∈ rest) : ∃ list ∈ lists, x ∈ list := by
  obtain ⟨list, hlist, rfl⟩ := exists_of_mem_removeHead hrest
  refine ⟨list, hlist, ?_⟩
  split at hx
  · exact List.mem_of_mem_tail hx
  · exact hx

/-- After its removal a free head stands in no list. -/
theorem not_mem_of_mem_removeHead (h : freeHead lists = some head) {rest : List α}
    (hrest : rest ∈ removeHead head lists) : head ∉ rest := by
  obtain ⟨list, hlist, rfl⟩ := exists_of_mem_removeHead hrest
  have htail := not_mem_tail_of_freeHead h hlist
  split
  · exact htail
  · next hfirst =>
    cases list with
    | nil => exact List.not_mem_nil
    | cons y ys =>
      intro hmem
      rcases List.mem_cons.mp hmem with rfl | hmem
      · exact hfirst rfl
      · exact htail hmem

/-! ### All steps -/

/-- Lists merge into a list: step by step the first free head is taken and removed, until all lists
are empty. -/
inductive Merges : List (List α) → List α → Prop where
  /-- Nothing is left. -/
  | done {lists : List (List α)} (hempty : ∀ list ∈ lists, list = []) : Merges lists []
  /-- A head is taken. -/
  | step {lists : List (List α)} {head : α} {rest : List α} (hfree : freeHead lists = some head)
    (hrest : Merges (removeHead head lists) rest) : Merges lists (head :: rest)

/-- What a merge gives is merged step by step. -/
theorem merges_of_mergeWithin {fuel : Nat} (h : mergeWithin fuel lists = some merged) :
    Merges lists merged := by
  induction fuel generalizing lists merged with
  | zero =>
    simp only [mergeWithin, Option.ite_none_right_eq_some, Option.some.injEq,
      List.all_eq_true, List.isEmpty_iff] at h
    obtain ⟨hempty, rfl⟩ := h
    exact .done hempty
  | succ fuel ih =>
    rw [mergeWithin] at h
    split at h
    · next hempty =>
      obtain rfl := Option.some.inj h
      exact .done fun list hlist => List.isEmpty_iff.mp (List.all_eq_true.mp hempty list hlist)
    · split at h
      · next head hfree =>
        obtain ⟨rest, hrest, rfl⟩ := Option.map_eq_some_iff.mp h
        exact .step hfree (ih hrest)
      · cases h

/-- A merge keeps the order of every list. -/
theorem Merges.sublist (h : Merges lists merged) {list : List α} (hlist : list ∈ lists) :
    list.Sublist merged := by
  induction h generalizing list with
  | done hempty => rw [hempty list hlist]
  | @step lists head rest hfree hrest ih =>
    have hleft := ih (left_mem_removeHead head hlist)
    split at hleft
    · next hfirst =>
      rw [← List.cons_head?_tail hfirst]
      exact hleft.cons_cons head
    · exact hleft.cons head

/-- The items of a merge are those of the lists. -/
theorem Merges.mem_iff (h : Merges lists merged) : x ∈ merged ↔ ∃ list ∈ lists, x ∈ list := by
  constructor
  · intro hx
    induction h with
    | done hempty => exact absurd hx List.not_mem_nil
    | @step lists head rest hfree hrest ih =>
      rcases List.mem_cons.mp hx with rfl | hx
      · obtain ⟨list, hlist, hfirst⟩ := head_of_freeHead hfree
        exact ⟨list, hlist, List.mem_of_head? hfirst⟩
      · obtain ⟨left, hleft, hx⟩ := ih hx
        exact mem_of_mem_removeHead hleft hx
  · rintro ⟨list, hlist, hx⟩
    exact (h.sublist hlist).subset hx

/-- A merge has every item once. -/
theorem Merges.nodup (h : Merges lists merged) : merged.Nodup := by
  induction h with
  | done _ => exact List.nodup_nil
  | @step lists head rest hfree hrest ih =>
    refine List.nodup_cons.mpr ⟨?_, ih⟩
    -- The head that was taken is in no list any more.
    rw [hrest.mem_iff]
    rintro ⟨left, hleft, hmem⟩
    exact not_mem_of_mem_removeHead hfree hleft hmem

/-! ### The number of steps -/

/-- The number of items of all lists. -/
def itemCount (lists : List (List α)) : Nat :=
  lists.flatten.length

omit [DecidableEq α] in
/-- The bound on the steps of a merge is the number of items. -/
theorem foldl_length_eq (lists : List (List α)) (n : Nat) :
    lists.foldl (fun n l => n + l.length) n = n + itemCount lists := by
  induction lists generalizing n with
  | nil => rfl
  | cons list rest ih =>
    rw [List.foldl_cons, ih, itemCount, itemCount, List.flatten_cons, List.length_append,
      Nat.add_assoc]

/-- Removing a head leaves no more items. -/
theorem itemCount_removeHead_le (head : α) (lists : List (List α)) :
    itemCount (removeHead head lists) ≤ itemCount lists := by
  induction lists with
  | nil => exact Nat.le_refl 0
  | cons list rest ih =>
    simp only [itemCount, removeHead, List.map_cons, List.flatten_cons, List.length_append] at ih ⊢
    refine Nat.add_le_add ?_ ih
    split
    · exact (List.length_tail ▸ Nat.sub_le _ 1)
    · exact Nat.le_refl _

/-- Removing the head of a list leaves fewer items. -/
theorem itemCount_removeHead_lt {list : List α} (hlist : list ∈ lists)
    (hfirst : list.head? = some head) : itemCount (removeHead head lists) < itemCount lists := by
  induction lists with
  | nil => exact absurd hlist List.not_mem_nil
  | cons other rest ih =>
    have hle := itemCount_removeHead_le head rest
    simp only [itemCount, removeHead, List.map_cons, List.flatten_cons, List.length_append]
      at ih hle ⊢
    rcases List.mem_cons.mp hlist with rfl | hrest
    · have hpos : 0 < list.length := List.length_pos_of_mem (List.mem_of_head? hfirst)
      rw [if_pos hfirst, List.length_tail]
      omega
    · have hlt := ih hrest
      split
      · rw [List.length_tail]
        omega
      · omega

/-- Steps beyond a number that suffices change nothing. -/
theorem mergeWithin_add {steps : Nat} (hsteps : itemCount lists ≤ steps) (extra : Nat) :
    mergeWithin (steps + extra) lists = mergeWithin steps lists := by
  induction steps generalizing lists with
  | zero =>
    have hempty : lists.all List.isEmpty = true := by
      have hnil := List.flatten_eq_nil_iff.mp (List.length_eq_zero_iff.mp (Nat.le_zero.mp hsteps))
      simpa [List.all_eq_true, List.isEmpty_iff] using hnil
    cases extra <;> simp only [mergeWithin, hempty, if_true]
  | succ steps ih =>
    rw [Nat.succ_add, mergeWithin, mergeWithin]
    split
    · rfl
    · cases hfree : freeHead lists with
      | none => rfl
      | some head =>
        obtain ⟨list, hlist, hfirst⟩ := head_of_freeHead hfree
        have hlt := itemCount_removeHead_lt hlist hfirst
        simp only [ih (Nat.le_of_lt_succ (Nat.lt_of_lt_of_le hlt hsteps))]

/-- **A merge ends by itself**: more steps than items change nothing. -/
theorem mergeWithin_eq_merge (lists : List (List α)) (extra : Nat) :
    mergeWithin (itemCount lists + extra) lists = merge lists := by
  rw [mergeWithin_add (Nat.le_refl _), merge, foldl_length_eq, Nat.zero_add]

/-- What merges step by step is merged within as many steps as it has items. -/
theorem mergeWithin_of_merges (h : Merges lists merged) (extra : Nat) :
    mergeWithin (merged.length + extra) lists = some merged := by
  induction h with
  | done hempty =>
    have hall : (_ : List (List α)).all List.isEmpty = true :=
      List.all_eq_true.mpr fun list hlist => List.isEmpty_iff.mpr (hempty list hlist)
    cases extra <;> simp only [List.length_nil, Nat.zero_add, mergeWithin, hall, if_true]
  | @step lists head rest hfree _ ih =>
    obtain ⟨list, hlist, hfirst⟩ := head_of_freeHead hfree
    have hnot : ¬ lists.all List.isEmpty = true := by
      intro hall
      rw [List.isEmpty_iff.mp (List.all_eq_true.mp hall list hlist)] at hfirst
      cases hfirst
    rw [List.length_cons, Nat.add_right_comm, mergeWithin, if_neg hnot, hfree]
    simp only [ih, Option.map_some]

/-- **A merge gives what merges step by step**, and nothing else. -/
theorem merge_eq_some_iff : merge lists = some merged ↔ Merges lists merged := by
  refine ⟨merges_of_mergeWithin, fun h => ?_⟩
  rw [← mergeWithin_eq_merge lists merged.length, Nat.add_comm, mergeWithin_of_merges h]

/-! ### Merging -/

/-- **The items of a merge are those of the lists.** -/
theorem mem_merge (h : merge lists = some merged) : x ∈ merged ↔ ∃ list ∈ lists, x ∈ list :=
  (merges_of_mergeWithin h).mem_iff

/-- **A merge has every item once.** -/
theorem merge_nodup (h : merge lists = some merged) : merged.Nodup :=
  (merges_of_mergeWithin h).nodup

/-- **A merge keeps the order of every list.** -/
theorem sublist_merge (h : merge lists = some merged) {list : List α} (hlist : list ∈ lists) :
    list.Sublist merged :=
  (merges_of_mergeWithin h).sublist hlist

end FluentBuilder.Lineage
