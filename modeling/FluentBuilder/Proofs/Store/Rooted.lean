import FluentBuilder.Proofs.Path
import Mathlib.Data.List.Induction

/-!
# Rooted stores

In a store that is rooted everything stands below directories. So where a path does not lead up, it is
found as soon as something stands at its place (`placeOf_of_rooted`): the directories on the way are
there. This is how a file that is there late was there before, if it did not change in between
(`bytes_of_evolves`).
-/

namespace FluentBuilder.Store

variable {s s' : Store} {root p : Path} {place : Place}

/-- Everything stands below directories. -/
def Rooted (s : Store) : Prop :=
  ∀ place name, s.node? (place ++ [name]) ≠ none → s.node? place = some .directory

/-- What has something below it is a directory. -/
theorem Rooted.directory (h : s.Rooted) {names : List String} (hne : names ≠ [])
    (hnode : s.node? (place ++ names) ≠ none) : s.node? place = some .directory := by
  induction names using List.reverseRecOn with
  | nil => exact absurd rfl hne
  | append_singleton front last ih =>
    rw [← List.append_assoc] at hnode
    have hfront := h (place ++ front) last hnode
    by_cases hnil : front = []
    · rw [hnil, List.append_nil] at hfront
      exact hfront
    · refine ih hnil ?_
      rw [hfront]
      exact Option.some_ne_none _

/-- A store is rooted if what is listed stands below directories. -/
theorem rooted_of_nodes (h : ∀ entry ∈ s.nodes, s.node? entry.1.dropLast = some .directory) :
    s.Rooted := by
  intro place name hnode
  rw [node?_of_ne_nil s (by simp), Ne, Option.map_eq_none_iff, List.find?_eq_none] at hnode
  push Not at hnode
  obtain ⟨entry, hentry, heq⟩ := hnode
  have hdirectory := h entry hentry
  rw [eq_of_beq heq, List.dropLast_concat] at hdirectory
  exact hdirectory

/-! ### Finding paths -/

/-- A way that is found somewhere is found where something stands at its end. -/
theorem walk_of_rooted (h : s.Rooted) {path : String} {start : Place} {names : List String}
    (hnames : ".." ∉ names) (hwalk : s'.walk path start names = .ok place)
    (hnode : s.node? place ≠ none) : s.walk path start names = .ok place := by
  induction names generalizing start with
  | nil => exact hwalk
  | cons name rest ih =>
    rw [List.mem_cons, not_or] at hnames
    have hplace := eq_reach_of_walk hwalk
    have hup : ¬ (name == "..") = true := by simpa using Ne.symm hnames.1
    rw [reach, List.foldl_cons, if_neg hup] at hplace
    rw [walk, if_neg hup] at hwalk ⊢
    split at hwalk
    · cases hwalk
    · next hshort =>
      rw [if_neg hshort]
      simp only at hwalk ⊢
      split at hwalk
      · next hlast =>
        rw [if_pos hlast]
        exact hwalk
      · next hlast =>
        have hnext : place = start ++ [name] ++ rest := by
          rw [hplace, ← reach_of_not_mem _ hnames.2]
          rfl
        have hdirectory : s.node? (start ++ [name]) = some .directory :=
          h.directory (by simpa using hlast) (hnext ▸ hnode)
        rw [if_neg hlast, hdirectory]
        split at hwalk
        · exact ih hnames.2 hwalk
        · cases hwalk
        · cases hwalk

/-- A path that is found somewhere is found where something stands at its place. -/
theorem placeOf_of_rooted (h : s.Rooted) (hcurrent : s'.current = s.current)
    (hup : ".." ∉ p.parts) (hplace : s'.placeOf p = .ok place) (hnode : s.node? place ≠ none) :
    s.placeOf p = .ok place := by
  unfold placeOf origin at hplace ⊢
  rw [hcurrent] at hplace
  split at hplace
  · cases hplace
  · next hshort =>
    rw [if_neg hshort]
    exact walk_of_rooted h hup hplace hnode

/-- Where a way is found, its beginning is found too. -/
theorem walk_append {path : String} {start : Place} {names further : List String}
    (h : s.walk path start (names ++ further) = .ok place) (path' : String) :
    ∃ before, s.walk path' start names = .ok before := by
  induction names generalizing start with
  | nil => exact ⟨start, rfl⟩
  | cons name rest ih =>
    rw [List.cons_append, walk] at h
    rw [walk]
    split at h
    · next hup =>
      rw [if_pos hup]
      exact ih h
    · next hup =>
      rw [if_neg hup]
      split at h
      · cases h
      · next hshort =>
        rw [if_neg hshort]
        simp only at h ⊢
        by_cases hlast : rest = []
        · exact ⟨start ++ [name], by simp [hlast]⟩
        · rw [if_neg (by simp [hlast])] at h ⊢
          split at h
          · next hnode => exact ih h
          · cases h
          · cases h

/-- Where a path is found, a root above it is found too. -/
theorem exists_placeOf_of_below (hp : Path.Below root p) (hplace : s.placeOf p = .ok place) :
    ∃ before, s.placeOf root = .ok before := by
  obtain ⟨further, rfl, -, -⟩ := hp
  unfold placeOf at hplace ⊢
  split at hplace
  · cases hplace
  · next hshort =>
    have hsize := Path.size_render_le root further
    have hone : 1 ≤ pathLimit := by decide
    rw [if_neg (by omega)]
    exact walk_append hplace _

/-! ### Files that stay -/

/-- A file that did not change and is there late was there before. -/
theorem bytes_of_evolves {changed : Place → Prop} (h : s.Rooted) (hevolves : Evolves changed s s')
    (hup : ".." ∉ p.parts) (hkept : ∀ place, s'.placeOf p = .ok place → ¬ changed place)
    {bytes : List UInt8} (hbytes : s'.bytes p = .ok bytes) : s.bytes p = .ok bytes := by
  obtain ⟨hnull, place, hplace, hfile⟩ := bytes_eq_ok_iff.mp hbytes
  rw [hevolves.fileAt_eq place (hkept place hplace)] at hfile
  have hnode := fileAt_eq_some_iff.mp hfile
  refine bytes_eq_ok_iff.mpr ⟨hnull, place, ?_, hfile⟩
  refine placeOf_of_rooted h hevolves.current_eq hup hplace ?_
  rw [hnode]
  exact Option.some_ne_none _

end FluentBuilder.Store
