import FluentBuilder.Table
import Mathlib.Data.List.Induction
import Mathlib.Data.List.Nodup
import Mathlib.Data.String.Basic

/-!
# Looking up what was put

A table is known by what is found in it. Putting a value changes what is found under its name and
nothing else (`find?_put`), so that a table of entries has under every name the last of them
(`find?_ofEntries`). The names stand in the order in which they first came, each once
(`names_ofEntries_ordered`). Sorting changes the order of a table and not what is in it
(`mem_sortedBy`).
-/

namespace FluentBuilder

namespace Table

variable {α : Type}

/-- Nothing is found in the empty table. -/
theorem find?_nil (name : String) : Table.find? ([] : Table α) name = none := rfl

/-- The first entry is found under its name, and the others behind it. -/
theorem find?_cons (entry : String × α) (rest : Table α) (name : String) :
    Table.find? (entry :: rest) name =
      if entry.1 = name then some entry.2 else Table.find? rest name := by
  by_cases h : entry.1 = name
  · rw [if_pos h, Table.find?, List.find?_cons_of_pos (by simpa using h), Option.map_some]
  · rw [if_neg h, Table.find?, List.find?_cons_of_neg (by simpa using h), Table.find?]

/-- **What is put is found under its name, and nothing else changes.** -/
theorem find?_put (table : Table α) (name other : String) (value : α) :
    (table.put name value).find? other = if name = other then some value else table.find? other := by
  induction table with
  | nil => rw [put, find?_cons]
  | cons entry rest ih =>
    by_cases hname : entry.1 = name
    · rw [put, if_pos hname, find?_cons, find?_cons, hname]
      split <;> rfl
    · rw [put, if_neg hname, find?_cons, find?_cons, ih]
      by_cases hother : entry.1 = other
      · have hne : ¬ name = other := fun h => hname (hother.trans h.symm)
        rw [if_pos hother, if_neg hne, if_pos hother]
      · rw [if_neg hother, if_neg hother]

/-- A value that is found under a name changes nothing when it is put there again. -/
theorem put_of_find? {table : Table α} {name : String} {value : α}
    (h : table.find? name = some value) : table.put name value = table := by
  induction table with
  | nil => cases h
  | cons entry rest ih =>
    rw [find?_cons] at h
    split at h
    · next hname => rw [put, if_pos hname, ← hname, ← Option.some.inj h]
    · next hname => rw [put, if_neg hname, ih h]

/-- Nothing is found under a name that no entry has. -/
theorem find?_eq_none {table : Table α} {name : String} (h : name ∉ table.names) :
    table.find? name = none := by
  rw [Table.find?, Option.map_eq_none_iff, List.find?_eq_none]
  intro entry hentry
  rw [beq_iff_eq]
  rintro rfl
  exact h (List.mem_map_of_mem hentry)

/-- What is in a table with one name each is found under its name. -/
theorem find?_of_mem {table : Table α} (hdistinct : table.names.Nodup) {entry : String × α}
    (hentry : entry ∈ table) : table.find? entry.1 = some entry.2 := by
  induction table with
  | nil => exact absurd hentry List.not_mem_nil
  | cons first rest ih =>
    obtain ⟨hfresh, hrest⟩ := List.nodup_cons.mp hdistinct
    rw [find?_cons]
    rcases List.mem_cons.mp hentry with rfl | hmem
    · rw [if_pos rfl]
    · have hne : first.1 ≠ entry.1 := by
        intro heq
        exact hfresh (heq ▸ List.mem_map_of_mem hmem)
      rw [if_neg hne]
      exact ih hrest hmem

/-- There is a value under every name of the table. -/
theorem isSome_find?_iff {table : Table α} {name : String} :
    (table.find? name).isSome = true ↔ name ∈ table.names := by
  rw [find?, Option.isSome_map, List.find?_isSome, names, List.mem_map]
  simp

/-- What is found under a name is in the table. -/
theorem mem_of_find? {table : Table α} {name : String} {value : α}
    (h : table.find? name = some value) : (name, value) ∈ table := by
  obtain ⟨found, hfound, hvalue⟩ := Option.map_eq_some_iff.mp h
  have hname : found.1 = name := by simpa using List.find?_some hfound
  have hentry : found = (name, value) := Prod.ext hname hvalue
  exact hentry ▸ List.mem_of_find?_eq_some hfound

/-- What is found under a name is in the table, and the other way round if every name is there once. -/
theorem find?_eq_some_iff {table : Table α} (hdistinct : table.names.Nodup) {entry : String × α} :
    table.find? entry.1 = some entry.2 ↔ entry ∈ table :=
  ⟨mem_of_find?, find?_of_mem hdistinct⟩

/-! ### Names -/

/-- A name that is there keeps its place, and another one comes behind all others. -/
theorem names_put (table : Table α) (name : String) (value : α) :
    (table.put name value).names =
      if name ∈ table.names then table.names else table.names ++ [name] := by
  induction table with
  | nil => simp [put, names]
  | cons entry rest ih =>
    simp only [names, List.map_cons] at ih ⊢
    by_cases hname : entry.1 = name
    · simp [put, hname]
    · have hother : name ≠ entry.1 := fun h => hname h.symm
      rw [put, if_neg hname, List.map_cons, ih]
      by_cases hmem : name ∈ rest.map Prod.fst
      · simp [hmem]
      · simp [hmem, hother]

/-- A value comes behind all others if its name is new. -/
theorem put_of_notMem {table : Table α} {name : String} (h : name ∉ table.names) (value : α) :
    table.put name value = table ++ [(name, value)] := by
  induction table with
  | nil => rfl
  | cons entry rest ih =>
    obtain ⟨hfirst, hrest⟩ := not_or.mp (List.mem_cons.not.mp h)
    rw [put, if_neg (Ne.symm hfirst), ih hrest, List.cons_append]

/-- What is in a table after a value was put into it. -/
theorem mem_of_mem_put {table : Table α} {name : String} {value : α} {entry : String × α}
    (h : entry ∈ table.put name value) : entry = (name, value) ∨ entry ∈ table := by
  induction table with
  | nil => exact .inl (List.mem_singleton.mp h)
  | cons first rest ih =>
    rw [put] at h
    split at h
    · rcases List.mem_cons.mp h with hfirst | hrest
      · exact .inl hfirst
      · exact .inr (List.mem_cons_of_mem first hrest)
    · rcases List.mem_cons.mp h with hfirst | hrest
      · exact .inr (hfirst ▸ List.mem_cons_self)
      · exact (ih hrest).imp_right (List.mem_cons_of_mem first)

/-! ### Tables of entries -/

/-- The last entry is put last. -/
theorem ofEntries_concat (entries : List (String × α)) (entry : String × α) :
    ofEntries (entries ++ [entry]) = (ofEntries entries).put entry.1 entry.2 := by
  rw [ofEntries, List.foldl_append, List.foldl_cons, List.foldl_nil, ← ofEntries]

/-- **Under every name the last entry is found.** -/
theorem find?_ofEntries (entries : List (String × α)) (name : String) :
    (ofEntries entries).find? name =
      ((entries.filter (·.1 == name)).getLast?).map Prod.snd := by
  induction entries using List.reverseRecOn with
  | nil => rfl
  | append_singleton entries entry ih =>
    rw [ofEntries_concat, find?_put, List.filter_append]
    by_cases hname : entry.1 = name
    · simp [hname]
    · rw [if_neg hname, ih]
      simp [hname]

/-- A value is found in the last of several lists of entries that has the name. -/
theorem find?_ofEntries_flatMap {β : Type} (xs : List β) (entries : β → List (String × α)) (name : String) :
    (ofEntries (xs.flatMap entries)).find? name =
      (xs.map fun x => (ofEntries (entries x)).find? name).reverse.findSome? id := by
  have hmap : ∀ (ys : List β) (f : β → Option (String × α)),
      (ys.findSome? f).map Prod.snd = ys.findSome? fun y => (f y).map Prod.snd := by
    intro ys f
    induction ys with
    | nil => rfl
    | cons y ys ih =>
      rw [List.findSome?_cons, List.findSome?_cons, ← ih]
      cases f y <;> rfl
  simp only [find?_ofEntries]
  rw [List.filter_flatMap, List.getLast?_flatMap, hmap, ← List.map_reverse, List.findSome?_map]
  rfl

/-- What is in a table of entries is one of these. -/
theorem mem_of_mem_ofEntries {entries : List (String × α)} {entry : String × α}
    (h : entry ∈ ofEntries entries) : entry ∈ entries := by
  induction entries using List.reverseRecOn with
  | nil => exact absurd h List.not_mem_nil
  | append_singleton entries last ih =>
    rw [ofEntries_concat] at h
    rcases mem_of_mem_put h with rfl | hmem
    · exact List.mem_append_right _ List.mem_cons_self
    · exact List.mem_append_left _ (ih hmem)

/-- The names are those of the entries. -/
theorem mem_names_ofEntries {entries : List (String × α)} {name : String} :
    name ∈ (ofEntries entries).names ↔ name ∈ entries.map Prod.fst := by
  induction entries using List.reverseRecOn with
  | nil => exact Iff.rfl
  | append_singleton entries entry ih =>
    rw [ofEntries_concat, names_put, List.map_append, List.mem_append, ← ih]
    split
    · next hmem =>
      have hlast : name ∈ [entry].map Prod.fst → name ∈ (ofEntries entries).names := by
        rw [List.map_singleton, List.mem_singleton]
        rintro rfl
        exact hmem
      exact ⟨.inl, fun h => h.elim id hlast⟩
    · rw [List.mem_append, List.map_singleton]

/-- **The names stand in the order in which the entries first had them.** -/
theorem names_ofEntries_ordered (entries : List (String × α)) :
    (ofEntries entries).names.Pairwise fun a b =>
      (entries.map Prod.fst).idxOf a < (entries.map Prod.fst).idxOf b := by
  induction entries using List.reverseRecOn with
  | nil => exact List.Pairwise.nil
  | append_singleton entries entry ih =>
    have hknown : ∀ name ∈ (ofEntries entries).names,
        ((entries ++ [entry]).map Prod.fst).idxOf name = (entries.map Prod.fst).idxOf name := by
      intro name hname
      rw [List.map_append, List.idxOf_append, if_pos (mem_names_ofEntries.mp hname)]
    have hbefore : (ofEntries entries).names.Pairwise fun a b =>
        ((entries ++ [entry]).map Prod.fst).idxOf a <
          ((entries ++ [entry]).map Prod.fst).idxOf b := by
      refine ih.imp_of_mem fun {a b} ha hb hlt => ?_
      rw [hknown a ha, hknown b hb]
      exact hlt
    rw [ofEntries_concat, names_put]
    split
    · exact hbefore
    · next hfresh =>
      refine List.pairwise_append.mpr ⟨hbefore, List.pairwise_singleton _ _, fun a ha b hb => ?_⟩
      obtain rfl := List.mem_singleton.mp hb
      -- A new name comes first where the entries before it end.
      have hnew : entry.1 ∉ entries.map Prod.fst := fun h => hfresh (mem_names_ofEntries.mpr h)
      have hlt := List.idxOf_lt_length_of_mem (mem_names_ofEntries.mp ha)
      rw [hknown a ha, List.map_append, List.idxOf_append, if_neg hnew]
      omega

/-- Every name stands in a table of entries once. -/
theorem nodup_names_ofEntries (entries : List (String × α)) : (ofEntries entries).names.Nodup :=
  (names_ofEntries_ordered entries).imp fun {a b} hlt heq => by
    subst heq
    exact Nat.lt_irrefl _ hlt

/-- **What is in a table of entries** is the last entry of its name. -/
theorem mem_ofEntries_iff {entries : List (String × α)} {entry : String × α} :
    entry ∈ ofEntries entries ↔
      ∃ front back, entries = front ++ entry :: back ∧ ∀ later ∈ back, later.1 ≠ entry.1 := by
  rw [← find?_eq_some_iff (nodup_names_ofEntries entries), find?_ofEntries, List.getLast?_filter,
    Option.map_eq_some_iff]
  constructor
  · rintro ⟨found, hfound, hvalue⟩
    obtain ⟨hname, back, front, hreverse, hback⟩ := List.find?_eq_some_iff_append.mp hfound
    obtain rfl : found = entry := Prod.ext (by simpa using hname) hvalue
    refine ⟨front.reverse, back.reverse, ?_, fun later hlater => ?_⟩
    · rw [← List.reverse_reverse entries, hreverse]
      simp
    · simpa using hback later (List.mem_reverse.mp hlater)
  · rintro ⟨front, back, rfl, hback⟩
    refine ⟨entry, List.find?_eq_some_iff_append.mpr ⟨beq_self_eq_true _, back.reverse, front.reverse,
      by simp, fun later hlater => ?_⟩, rfl⟩
    simpa using hback later (List.mem_reverse.mp hlater)

/-- There is an entry of every name. -/
theorem exists_mem_ofEntries {entries : List (String × α)} {entry : String × α} (h : entry ∈ entries) :
    ∃ value, (entry.1, value) ∈ ofEntries entries := by
  obtain ⟨found, hfound, hname⟩ := List.mem_map.mp
    (mem_names_ofEntries.mpr (List.mem_map_of_mem (f := Prod.fst) h))
  exact ⟨found.2, by rw [← hname]; exact hfound⟩

/-- Entries before the others change nothing about what these give. -/
theorem mem_ofEntries_append {entries later : List (String × α)} {entry : String × α}
    (h : entry ∈ ofEntries later) : entry ∈ ofEntries (entries ++ later) := by
  obtain ⟨front, back, rfl, hback⟩ := mem_ofEntries_iff.mp h
  exact mem_ofEntries_iff.mpr ⟨entries ++ front, back, by rw [List.append_assoc], hback⟩

/-- Where all entries hold one value, that value is found or nothing. -/
theorem find?_ofEntries_const (names : List String) (value : α) (name : String) :
    (Table.ofEntries (names.map fun n => (n, value))).find? name =
      if name ∈ names then some value else none := by
  rw [find?_ofEntries, List.filter_map, List.getLast?_map, Option.map_map, List.getLast?_filter]
  cases hfound : names.reverse.find? ((fun entry => entry.1 == name) ∘ fun n => (n, value)) with
  | none =>
    have hnot : name ∉ names := by
      intro hmem
      have hnone := List.find?_eq_none.mp hfound name (List.mem_reverse.mpr hmem)
      simp at hnone
    rw [if_neg hnot]
    rfl
  | some n =>
    have hname : n = name := by simpa using List.find?_some hfound
    have hmem : n ∈ names := List.mem_reverse.mp (List.mem_of_find?_eq_some hfound)
    rw [if_pos (hname ▸ hmem)]
    rfl

end Table

/-! ### Sorting -/

section sorting

variable {α : Type} {key : α → String}

/-- An item is put among the others. -/
theorem perm_insertSorted (x : α) (xs : List α) : (insertSorted key x xs).Perm (x :: xs) := by
  induction xs with
  | nil => exact .refl _
  | cons y xs ih =>
    rw [insertSorted]
    split
    · exact .refl _
    · exact (ih.cons y).trans (.swap x y xs)

/-- **Sorting keeps the items**, each as often as it is there. -/
theorem perm_sortedBy (xs : List α) : (sortedBy key xs).Perm xs := by
  have hfold : ∀ (xs sorted : List α),
      (xs.foldl (fun sorted x => insertSorted key x sorted) sorted).Perm (sorted ++ xs) := by
    intro xs
    induction xs with
    | nil => intro sorted; rw [List.append_nil]; exact .refl _
    | cons x xs ih =>
      intro sorted
      exact (ih _).trans (((perm_insertSorted x sorted).append_right xs).trans
        List.perm_middle.symm)
  exact hfold xs []

/-- What is sorted has the same items. -/
theorem mem_sortedBy {y : α} {xs : List α} : y ∈ sortedBy key xs ↔ y ∈ xs :=
  (perm_sortedBy xs).mem_iff

/-- An item is put where it belongs. -/
theorem pairwise_insertSorted (x : α) {xs : List α} (h : xs.Pairwise fun a b => key a ≤ key b) :
    (insertSorted key x xs).Pairwise fun a b => key a ≤ key b := by
  induction xs with
  | nil => exact List.pairwise_singleton _ x
  | cons y xs ih =>
    obtain ⟨hfirst, hrest⟩ := List.pairwise_cons.mp h
    rw [insertSorted]
    split
    · next hlt =>
      refine List.pairwise_cons.mpr ⟨fun z hz => ?_, h⟩
      rcases List.mem_cons.mp hz with rfl | hz
      · exact hlt.le
      · exact hlt.le.trans (hfirst z hz)
    · next hle =>
      refine List.pairwise_cons.mpr ⟨fun z hz => ?_, ih hrest⟩
      rcases List.mem_cons.mp ((perm_insertSorted x xs).mem_iff.mp hz) with rfl | hz
      · exact not_lt.mp hle
      · exact hfirst z hz

/-- **What is sorted stands in ascending order.** -/
theorem pairwise_sortedBy (xs : List α) : (sortedBy key xs).Pairwise fun a b => key a ≤ key b := by
  have hfold : ∀ (xs sorted : List α), sorted.Pairwise (fun a b => key a ≤ key b) →
      (xs.foldl (fun sorted x => insertSorted key x sorted) sorted).Pairwise
        fun a b => key a ≤ key b := by
    intro xs
    induction xs with
    | nil => exact fun _ => id
    | cons x xs ih => exact fun sorted h => ih _ (pairwise_insertSorted x h)
  exact hfold xs [] .nil

/-- What stands in strictly ascending order is known by its items. -/
theorem eq_of_mem_iff {xs ys : List α} (hxs : xs.Pairwise fun a b => key a < key b)
    (hys : ys.Pairwise fun a b => key a < key b) (h : ∀ x, x ∈ xs ↔ x ∈ ys) : xs = ys := by
  have hnodup : ∀ {zs : List α}, zs.Pairwise (fun a b => key a < key b) → zs.Nodup := fun hzs =>
    hzs.imp fun {a b} hlt heq => (heq ▸ hlt).false
  refine ((List.perm_ext_iff_of_nodup (hnodup hxs) (hnodup hys)).mpr h).eq_of_pairwise ?_ hxs hys
  exact fun a b _ _ hab hba => absurd hab hba.asymm

/-- Items with different keys stand in strictly ascending order. -/
theorem pairwise_lt_of_nodup {xs : List α} (h : xs.Pairwise fun a b => key a ≤ key b)
    (hkeys : (xs.map key).Nodup) : xs.Pairwise fun a b => key a < key b := by
  have hne : xs.Pairwise fun a b => key a ≠ key b := List.pairwise_map.mp hkeys
  exact h.imp₂ (fun _ _ hle hne => lt_of_le_of_ne hle hne) hne

/-- What is found last in ascending order has the greatest key. -/
theorem exists_of_findSome?_reverse {β : Type} {f : α → Option β} {xs : List α} {y : β}
    (h : xs.Pairwise fun a b => key a ≤ key b) (hfound : xs.reverse.findSome? f = some y) :
    ∃ x ∈ xs, f x = some y ∧ ∀ x' ∈ xs, f x' ≠ none → key x' ≤ key x := by
  induction xs using List.reverseRecOn with
  | nil => cases hfound
  | append_singleton front last ih =>
    obtain ⟨hfront, -, hlast⟩ := List.pairwise_append.mp h
    rw [List.reverse_append, List.reverse_singleton, List.singleton_append, List.findSome?_cons] at hfound
    cases hf : f last with
    | some y' =>
      rw [hf] at hfound
      refine ⟨last, List.mem_append_right _ List.mem_cons_self, hf.trans hfound, fun x' hx' _ => ?_⟩
      rcases List.mem_append.mp hx' with hx' | hx'
      · exact hlast x' hx' last List.mem_cons_self
      · rw [List.mem_singleton.mp hx']
    | none =>
      rw [hf] at hfound
      obtain ⟨x, hx, hfx, hmax⟩ := ih hfront hfound
      refine ⟨x, List.mem_append_left _ hx, hfx, fun x' hx' hne => ?_⟩
      rcases List.mem_append.mp hx' with hx' | hx'
      · exact hmax x' hx' hne
      · rw [List.mem_singleton.mp hx'] at hne
        exact absurd hf hne

/-- **What is found last in ascending order** is the same in two lists in which the same can be found,
where different items have different keys. -/
theorem findSome?_reverse_eq {β : Type} {f g : α → Option β} {xs ys : List α}
    (hxs : xs.Pairwise fun a b => key a ≤ key b) (hys : ys.Pairwise fun a b => key a ≤ key b)
    (hkeys : ∀ x ∈ xs, ∀ y ∈ xs, key x = key y → x = y)
    (hleft : ∀ x ∈ xs, f x ≠ none → x ∈ ys ∧ g x = f x)
    (hright : ∀ y ∈ ys, g y ≠ none → y ∈ xs ∧ g y = f y) :
    xs.reverse.findSome? f = ys.reverse.findSome? g := by
  rcases hf : xs.reverse.findSome? f with _ | a
  · symm
    rw [List.findSome?_eq_none_iff] at hf ⊢
    intro y hy
    by_contra hne
    obtain ⟨hmem, heq⟩ := hright y (List.mem_reverse.mp hy) hne
    exact hne (heq.trans (hf y (List.mem_reverse.mpr hmem)))
  · obtain ⟨x, hx, hfx, hmax⟩ := exists_of_findSome?_reverse hxs hf
    obtain ⟨hxy, hgx⟩ := hleft x hx (by rw [hfx]; simp)
    rcases hg : ys.reverse.findSome? g with _ | a'
    · rw [List.findSome?_eq_none_iff] at hg
      cases (hgx.trans hfx).symm.trans (hg x (List.mem_reverse.mpr hxy))
    · obtain ⟨y, hy, hgy, hmax'⟩ := exists_of_findSome?_reverse hys hg
      obtain ⟨hyx, hfy⟩ := hright y hy (by rw [hgy]; simp)
      have hle := hmax y hyx (by rw [← hfy, hgy]; simp)
      have hge := hmax' x hxy (by rw [hgx, hfx]; simp)
      obtain rfl := hkeys x hx y hyx (le_antisymm hge hle)
      rw [← hfx, ← hgx, hgy]

end sorting

namespace Table

variable {α : Type}

/-- **A sorted table is known by its entries**, where each name is there once. -/
theorem sorted_filter_eq {table other : Table α} {p : String × α → Bool} (h : table.names.Nodup)
    (h' : other.names.Nodup) (hmem : ∀ entry, p entry = true → (entry ∈ table ↔ entry ∈ other)) :
    table.sorted.filter p = other.sorted.filter p := by
  have hstrict : ∀ {table : Table α}, table.names.Nodup →
      (table.sorted.filter p).Pairwise fun a b => a.1 < b.1 := by
    intro table h
    refine (pairwise_lt_of_nodup (pairwise_sortedBy table) ?_).filter p
    exact ((perm_sortedBy table).map Prod.fst).nodup_iff.mpr h
  refine eq_of_mem_iff (hstrict h) (hstrict h') fun entry => ?_
  rw [List.mem_filter, List.mem_filter, sorted, sorted, mem_sortedBy, mem_sortedBy]
  exact and_congr_left fun hp => hmem entry hp

/-- Sorted tables in which the same is found under every name are equal. -/
theorem sorted_eq_of_find?_eq {table other : Table α} (h : table.names.Nodup) (h' : other.names.Nodup)
    (hfind : ∀ name, table.find? name = other.find? name) : table.sorted = other.sorted := by
  have hall := sorted_filter_eq (p := fun _ => true) h h' fun entry _ => by
    rw [← find?_eq_some_iff h, ← find?_eq_some_iff h', hfind]
  rwa [List.filter_true, List.filter_true] at hall

end Table

end FluentBuilder
