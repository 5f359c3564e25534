import FluentBuilder.Store

/-!
# What stands where

A store is seen through `Store.node?`, which says what stands at a place. Putting something at a place
and removing it change what stands there and nothing else (`node?_putNode`, `node?_removeNode`).

The place of a path depends on its names alone (`reach`), and whether it is found depends on the
directories on the way. So a path that is found is still found when there are more directories
(`Evolves.placeOf_eq`). `Evolves` is how a store develops while builders are written: directories
stay, and only files at some places change.
-/

namespace FluentBuilder

namespace Store

/-! ### Places -/

/-- The bytes of the file at a place. -/
def fileAt (s : Store) (place : Place) : Option (List UInt8) :=
  match s.node? place with
  | some (.file bytes) => some bytes
  | _ => none

/-- At the root stands a directory. -/
theorem node?_nil (s : Store) : s.node? [] = some .directory := rfl

/-- Where no directory stands is not the root. -/
theorem ne_nil_of_node?_ne {s : Store} {place : Place} (h : s.node? place ≠ some .directory) :
    place ≠ [] := by
  rintro rfl
  exact h (node?_nil s)

/-- Where nothing stands is not the root. -/
theorem ne_nil_of_node?_eq_none {s : Store} {place : Place} (h : s.node? place = none) :
    place ≠ [] := by
  rintro rfl
  cases h

/-- What stands elsewhere is looked up. -/
theorem node?_of_ne_nil (s : Store) {place : Place} (h : place ≠ []) :
    s.node? place = (s.nodes.find? fun entry => entry.1 == place).map Prod.snd := by
  rw [node?, if_neg]
  simpa using h

/-- A node that is put stands at its place, and nothing else changes. -/
theorem node?_putNode (s : Store) {place : Place} (h : place ≠ []) (node : Node) (other : Place) :
    (s.putNode place node).node? other = if other = place then some node else s.node? other := by
  by_cases hother : other = []
  · subst hother
    rw [if_neg (Ne.symm h), node?_nil, node?_nil]
  · rw [node?_of_ne_nil _ hother, node?_of_ne_nil _ hother, putNode]
    by_cases hany : (s.nodes.any fun entry => entry.1 == place) = true
    · rw [if_pos hany]
      have hkey : ((fun entry : Place × Node => entry.1 == other) ∘ fun entry =>
          if entry.1 == place then (place, node) else entry) = fun entry => entry.1 == other := by
        funext entry
        by_cases hentry : entry.1 = place <;> simp [hentry]
      rw [List.find?_map, hkey, Option.map_map]
      by_cases hplace : other = place
      · obtain ⟨entry, hentry⟩ := List.find?_isSome.mpr (List.any_eq_true.mp hany) |>
          Option.isSome_iff_exists.mp
        have hfirst : entry.1 = place := by simpa using List.find?_some hentry
        rw [if_pos hplace, hplace, hentry]
        simp [hfirst]
      · rw [if_neg hplace]
        refine Option.map_congr fun entry hentry => ?_
        have hfirst : entry.1 = other := by simpa using List.find?_some hentry
        simp [hfirst, hplace]
    · rw [if_neg hany, List.find?_append]
      by_cases hplace : other = place
      · have hnone : (s.nodes.find? fun entry => entry.1 == place) = none := by
          rw [List.find?_eq_none]
          exact fun entry hentry hfirst => hany (List.any_eq_true.mpr ⟨entry, hentry, hfirst⟩)
        simp [hplace, hnone]
      · simp [hplace, Ne.symm hplace]

/-- Putting a node keeps the current directory. -/
@[simp] theorem putNode_current (s : Store) (place : Place) (node : Node) :
    (s.putNode place node).current = s.current := by
  unfold putNode
  split <;> rfl

/-- Putting a node keeps the home directory. -/
@[simp] theorem putNode_home (s : Store) (place : Place) (node : Node) :
    (s.putNode place node).home = s.home := by
  unfold putNode
  split <;> rfl

/-- Removing a node keeps the current directory. -/
@[simp] theorem removeNode_current (s : Store) (place : Place) :
    (s.removeNode place).current = s.current := rfl

/-- Removing a node keeps the home directory. -/
@[simp] theorem removeNode_home (s : Store) (place : Place) :
    (s.removeNode place).home = s.home := rfl

/-- A node that is removed stands nowhere, and nothing else changes. -/
theorem node?_removeNode (s : Store) {place : Place} (h : place ≠ []) (other : Place) :
    (s.removeNode place).node? other = if other = place then none else s.node? other := by
  by_cases hother : other = []
  · subst hother
    rw [if_neg (Ne.symm h), node?_nil, node?_nil]
  · rw [node?_of_ne_nil _ hother, node?_of_ne_nil _ hother, removeNode, List.find?_filter]
    by_cases hplace : other = place
    · subst hplace
      simp
    · rw [if_neg hplace]
      congr 2
      funext entry
      by_cases hentry : entry.1 = other
      · simp [hentry, hplace]
      · simp [hentry]

/-- The file at a place is what stands there. -/
theorem fileAt_eq_some_iff {s : Store} {place : Place} {bytes : List UInt8} :
    s.fileAt place = some bytes ↔ s.node? place = some (.file bytes) := by
  unfold fileAt
  split
  · next bytes' h => simp [h]
  · next h => simp only [reduceCtorEq, false_iff]; exact h bytes

/-- The same stands where the same file stands. -/
theorem fileAt_congr {s s' : Store} {place : Place} (h : s'.node? place = s.node? place) :
    s'.fileAt place = s.fileAt place := by
  rw [fileAt, fileAt, h]

/-! ### Ways through directories -/

/-- The place that names lead to from a place on, whatever stands there. -/
def reach (start : Place) (names : List String) : Place :=
  names.foldl (fun place name => if name == ".." then place.dropLast else place ++ [name]) start

/-- A way that is found leads to its place. -/
theorem eq_reach_of_walk {s : Store} {path : String} {start place : Place} {names : List String}
    (h : s.walk path start names = .ok place) : place = reach start names := by
  induction names generalizing start with
  | nil => exact (Except.ok.inj h).symm
  | cons name rest ih =>
    rw [walk] at h
    rw [reach, List.foldl_cons]
    by_cases hup : (name == "..") = true
    · rw [if_pos hup] at h ⊢
      exact ih h
    · rw [if_neg hup] at h ⊢
      split at h
      · cases h
      · simp only at h
        split at h
        · next hlast =>
          rw [List.isEmpty_iff.mp hlast]
          exact (Except.ok.inj h).symm
        · split at h
          · exact ih h
          · cases h
          · cases h

/-- A way that is found is found where the same directories stand, and more. -/
theorem walk_mono {s s' : Store}
    (h : ∀ place, s.node? place = some .directory → s'.node? place = some .directory)
    {path : String} {start place : Place} {names : List String}
    (hwalk : s.walk path start names = .ok place) : s'.walk path start names = .ok place := by
  induction names generalizing start with
  | nil => exact hwalk
  | cons name rest ih =>
    rw [walk] at hwalk ⊢
    by_cases hup : (name == "..") = true
    · rw [if_pos hup] at hwalk ⊢
      exact ih hwalk
    · rw [if_neg hup] at hwalk ⊢
      split at hwalk
      · cases hwalk
      · next hshort =>
        rw [if_neg hshort]
        simp only at hwalk ⊢
        split at hwalk
        · next hlast =>
          rw [if_pos hlast]
          exact hwalk
        · next hlast =>
          rw [if_neg hlast]
          split at hwalk
          · next hnode =>
            rw [h _ hnode]
            exact ih hwalk
          · cases hwalk
          · cases hwalk

/-- The place of a path is where its names lead. -/
theorem eq_reach_of_placeOf {s : Store} {p : Path} {place : Place} (h : s.placeOf p = .ok place) :
    place = reach (s.origin p) p.parts := by
  unfold placeOf at h
  split at h
  · cases h
  · exact eq_reach_of_walk h

/-- A path that is found is found where the same directories stand, and more. -/
theorem placeOf_mono {s s' : Store} (hcurrent : s'.current = s.current)
    (h : ∀ place, s.node? place = some .directory → s'.node? place = some .directory)
    {p : Path} {place : Place} (hplace : s.placeOf p = .ok place) : s'.placeOf p = .ok place := by
  unfold placeOf origin at hplace ⊢
  rw [hcurrent]
  split at hplace
  · cases hplace
  · next hshort =>
    rw [if_neg hshort]
    exact walk_mono h hplace

/-- The bytes of the file at a path are those of the file at its place. -/
theorem bytes_eq_ok_iff {s : Store} {p : Path} {bytes : List UInt8} :
    s.bytes p = .ok bytes ↔
      hasNull p = false ∧ ∃ place, s.placeOf p = .ok place ∧ s.fileAt place = some bytes := by
  unfold Store.bytes status
  by_cases hnull : hasNull p = true
  · simp [hnull]
  · rw [if_neg hnull]
    rcases hplace : s.placeOf p with fault | place
    · simp [bind, Except.bind]
    · rcases hnode : s.node? place with _ | _ | _ <;>
        simp [bind, Except.bind, pure, Except.pure, throw, throwThe, MonadExceptOf.throw, hnode,
          fileAt, hnull]

/-! ### Development -/

/-- A store develops: directories stay, and files change at some places only. -/
structure Evolves (changed : Place → Prop) (before after : Store) : Prop where
  /-- The current directory stays. -/
  current_eq : after.current = before.current
  /-- The home directory stays. -/
  home_eq : after.home = before.home
  /-- Directories stay. -/
  directory : ∀ place, before.node? place = some .directory → after.node? place = some .directory
  /-- Files at other places stay. -/
  fileAt_eq : ∀ place, ¬ changed place → after.fileAt place = before.fileAt place

namespace Evolves

variable {changed changed' : Place → Prop} {s s' s'' : Store}

/-- A store that stays as it is develops. -/
theorem refl (changed : Place → Prop) (s : Store) : Evolves changed s s :=
  ⟨rfl, rfl, fun _ h => h, fun _ _ => rfl⟩

/-- Developments follow each other. -/
theorem trans (h : Evolves changed s s') (h' : Evolves changed s' s'') : Evolves changed s s'' where
  current_eq := h'.current_eq.trans h.current_eq
  home_eq := h'.home_eq.trans h.home_eq
  directory := fun place hplace => h'.directory place (h.directory place hplace)
  fileAt_eq := fun place hplace => (h'.fileAt_eq place hplace).trans (h.fileAt_eq place hplace)

/-- Changes at more places are allowed for. -/
theorem mono (h : Evolves changed s s') (hle : ∀ place, changed place → changed' place) :
    Evolves changed' s s' :=
  ⟨h.current_eq, h.home_eq, h.directory, fun place hplace =>
    h.fileAt_eq place fun hchanged => hplace (hle place hchanged)⟩

/-- A path that is found is still found, at the same place. -/
theorem placeOf_eq (h : Evolves changed s s') {p : Path} {place : Place}
    (hplace : s.placeOf p = .ok place) : s'.placeOf p = .ok place :=
  placeOf_mono h.current_eq h.directory hplace

/-- The bytes of a file at a place without changes can still be read. -/
theorem bytes_eq (h : Evolves changed s s') {p : Path} {place : Place} {bytes : List UInt8}
    (hplace : s.placeOf p = .ok place) (hkept : ¬ changed place)
    (hbytes : s.bytes p = .ok bytes) : s'.bytes p = .ok bytes := by
  obtain ⟨hnull, found, hfound, hfile⟩ := bytes_eq_ok_iff.mp hbytes
  obtain rfl : found = place := Except.ok.inj (hfound.symm.trans hplace)
  refine bytes_eq_ok_iff.mpr ⟨hnull, found, h.placeOf_eq hplace, ?_⟩
  rw [h.fileAt_eq found hkept, hfile]

/-- What is put where nothing stands changes its place. -/
theorem putNode {place : Place} (h : s.node? place = none) (node : Node) :
    Evolves (· = place) s (s.putNode place node) := by
  have hne := ne_nil_of_node?_eq_none h
  have hnode := node?_putNode s hne node
  refine ⟨by simp, by simp, fun other hother => ?_, fun other hother => ?_⟩
  · rw [hnode, if_neg]
    · exact hother
    · rintro rfl
      rw [h] at hother
      cases hother
  · refine fileAt_congr ?_
    rw [hnode, if_neg hother]

end Evolves

end Store
end FluentBuilder
