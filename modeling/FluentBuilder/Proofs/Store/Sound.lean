import FluentBuilder.Proofs.Store.Rooted
import FluentBuilder.Proofs.Store.Writing

/-!
# Stores that are sound

A store is sound if it is one that a file system can be in: what is listed at a place is what stands
there, it stands below directories, and the current directory is there (`Sound`). Writing a file keeps a
store sound, whether it fails or not (`Sound.writeWhole`). A path leads to a place below a directory,
unless it is not found (`Sound.directory_of_placeOf`), so that nothing is ever put where it would stand
below nothing; and nothing but files is removed or replaced.
-/

namespace FluentBuilder

namespace Store

variable {s : Store} {p : Path} {place : Place}

/-- The store is one that a file system can be in. -/
structure Sound (s : Store) : Prop where
  /-- Everything stands below directories. -/
  rooted : s.Rooted
  /-- What is listed at a place is what stands there. -/
  listed : ∀ entry ∈ s.nodes, s.node? entry.1 = some entry.2
  /-- The current directory is there. -/
  current : s.node? s.current = some .directory

/-- What stands at a place other than the root is listed. -/
theorem mem_nodes_of_node? {node : Node} (hne : place ≠ []) (h : s.node? place = some node) :
    (place, node) ∈ s.nodes := by
  rw [node?_of_ne_nil s hne, Option.map_eq_some_iff] at h
  obtain ⟨entry, hentry, rfl⟩ := h
  obtain rfl : entry.1 = place := by simpa using List.find?_some hentry
  exact List.mem_of_find?_eq_some hentry

/-! ### Changes -/

/-- A node that is put is listed, and all others were listed before. -/
theorem mem_nodes_putNode {node : Node} {entry : Place × Node}
    (h : entry ∈ (s.putNode place node).nodes) :
    entry = (place, node) ∨ entry.1 ≠ place ∧ entry ∈ s.nodes := by
  rw [putNode] at h
  split at h
  · obtain ⟨old, hold, rfl⟩ := List.mem_map.mp h
    by_cases heq : old.1 = place
    · rw [if_pos (by simpa using heq)]
      exact .inl rfl
    · rw [if_neg (by simpa using heq)]
      exact .inr ⟨heq, hold⟩
  · next hnone =>
    rcases List.mem_append.mp h with hold | hnew
    · refine .inr ⟨fun heq => hnone (List.any_eq_true.mpr ⟨entry, hold, by simpa using heq⟩), hold⟩
    · exact .inl (List.mem_singleton.mp hnew)

namespace Sound

/-- Around what stands somewhere is a directory. -/
theorem directory_dropLast (h : s.Sound) (hnode : s.node? place ≠ none) :
    s.node? place.dropLast = some .directory := by
  rcases List.eq_nil_or_concat place with rfl | ⟨front, last, rfl⟩
  · rfl
  · rw [List.concat_eq_append] at hnode ⊢
    rw [List.dropLast_concat]
    exact h.rooted front last hnode

/-- A path begins at a directory. -/
theorem origin (h : s.Sound) (p : Path) : s.node? (s.origin p) = some .directory := by
  rw [Store.origin]
  split
  · exact node?_nil s
  · exact h.current

/-- A way that is found from a directory on ends below one. -/
theorem directory_of_walk (h : s.Sound) {path : String} {start : Place} {names : List String}
    (hstart : s.node? start = some .directory) (hwalk : s.walk path start names = .ok place) :
    s.node? place.dropLast = some .directory := by
  induction names generalizing start with
  | nil =>
    cases hwalk
    exact h.directory_dropLast (by rw [hstart]; simp)
  | cons name rest ih =>
    rw [walk] at hwalk
    split at hwalk
    · exact ih (h.directory_dropLast (by rw [hstart]; simp)) hwalk
    · split at hwalk
      · cases hwalk
      · simp only at hwalk
        split at hwalk
        · cases hwalk
          rw [List.dropLast_concat]
          exact hstart
        · split at hwalk
          · next hnext => exact ih hnext hwalk
          · cases hwalk
          · cases hwalk

/-- **A path that is found leads to a place below a directory.** -/
theorem directory_of_placeOf (h : s.Sound) (hplace : s.placeOf p = .ok place) :
    s.node? place.dropLast = some .directory := by
  rw [placeOf] at hplace
  split at hplace
  · cases hplace
  · exact h.directory_of_walk (h.origin p) hplace

/-- A node that is put below a directory, and not in the place of one, keeps a store sound. -/
theorem putNode (h : s.Sound) (hbelow : s.node? place.dropLast = some .directory)
    (hplace : s.node? place ≠ some .directory) (node : Node) : (s.putNode place node).Sound := by
  have hnode := node?_putNode s (ne_nil_of_node?_ne hplace) node
  -- Directories stay, since none of them is replaced.
  have hstays : ∀ other, s.node? other = some .directory →
      (s.putNode place node).node? other = some .directory := by
    intro other hother
    rw [hnode, if_neg, hother]
    rintro rfl
    exact hplace hother
  refine ⟨fun other name hother => hstays other ?_, fun entry hentry => ?_, ?_⟩
  · rw [hnode] at hother
    split at hother
    · next heq =>
      rw [← heq, List.dropLast_concat] at hbelow
      exact hbelow
    · exact h.rooted other name hother
  · rw [hnode]
    rcases mem_nodes_putNode hentry with rfl | ⟨hne, hold⟩
    · exact if_pos rfl
    · rw [if_neg hne]
      exact h.listed entry hold
  · rw [putNode_current]
    exact hstays _ h.current

/-- A store without a file is sound. -/
theorem removeNode (h : s.Sound) (hplace : s.node? place ≠ some .directory) :
    (s.removeNode place).Sound := by
  have hnode := node?_removeNode s (ne_nil_of_node?_ne hplace)
  have hstays : ∀ other, s.node? other = some .directory →
      (s.removeNode place).node? other = some .directory := by
    intro other hother
    rw [hnode, if_neg, hother]
    rintro rfl
    exact hplace hother
  refine ⟨fun other name hother => hstays other (h.rooted other name fun hnone => hother ?_),
    fun entry hentry => ?_, hstays _ h.current⟩
  · rw [hnode, hnone, ite_self]
  · obtain ⟨hold, hne⟩ := List.mem_filter.mp hentry
    rw [hnode, if_neg (by simpa using hne)]
    exact h.listed entry hold

end Sound

end Store

namespace Filing

open Stateful Store

variable {s : Store} {p : Path}

/-- Making a directory keeps a store sound. -/
theorem sound_makeDirectory (p : Path) : Keeps (fun s s' : Store => s.Sound → s'.Sound) (makeDirectory p) := by
  intro s hsound
  rcases create_spec "mkdir" .directory p s with ⟨fault, h⟩ | ⟨place, h, -, hplace, hnode⟩
  · rw [makeDirectory, h]
    exact hsound
  · rw [makeDirectory, h]
    refine hsound.putNode (hsound.directory_of_placeOf hplace) ?_ _
    rw [hnode]
    simp

/-- The temporary file keeps a store sound. -/
theorem sound_staged (hsound : s.Sound) {place : Place} {temporary : Path}
    (hplace : s.placeOf temporary = .ok place) (hfree : s.node? place = none) (bytes : List UInt8) :
    (staged s place bytes).Sound := by
  have hempty := Staged.create hfree []
  have hmade := hsound.putNode (hsound.directory_of_placeOf hplace) (by rw [hfree]; simp) (.file [])
  refine hmade.putNode (hmade.directory_of_placeOf (hempty.placeOf_eq hplace)) ?_ _
  rw [hempty.node?_eq, if_pos rfl]
  simp

/-- **Writing a file as a whole keeps a store sound**, whether it fails or not. -/
theorem sound_writeWhole (hsound : s.Sound) (p : Path) (bytes : List UInt8) :
    (exec (writeWhole p bytes) s).2.Sound := by
  have hsteps := steps_writeWhole p bytes s
  have hmade := keeps_ensureDirectories (P := fun _ => True) (fun _ => id)
    (fun _ _ _ h h' hs => h' (h hs)) (fun _ => id) (fun p _ => sound_makeDirectory p) p.parts.length
    (p := p.parent) trivial s hsound
  generalize exec (writeWhole p bytes) s = outcome at hsteps ⊢
  obtain ⟨result, s'⟩ := outcome
  cases hsteps with
  | directories h =>
    rw [h] at hmade
    exact hmade
  | temporary h _ =>
    rw [h] at hmade
    exact hmade
  | target h _ hplace hfree _ =>
    rw [h] at hmade
    refine (sound_staged hmade hplace hfree bytes).removeNode ?_
    rw [(staged_spec hfree bytes).node?_eq, if_pos rfl]
    simp
  | @done s₀ k place after h _ hplace hfree _ hafter hnode =>
    rw [h] at hmade
    have hwritten := sound_staged hmade hplace hfree bytes
    have hfile : (staged s₀ place bytes).node? place = some (.file bytes) := by
      rw [(staged_spec hfree bytes).node?_eq, if_pos rfl]
    have hremoved : ((staged s₀ place bytes).removeNode place).Sound :=
      hwritten.removeNode (by rw [hfile]; simp)
    have hremaining := node?_removeNode (staged s₀ place bytes)
      (ne_nil_of_node?_ne (by rw [hfile]; simp))
    -- The directory around the file is not the temporary file.
    have hparent := hwritten.directory_of_placeOf hafter
    refine hremoved.putNode ?_ ?_ _
    · rw [hremaining, if_neg, hparent]
      intro heq
      rw [heq, hfile] at hparent
      cases hparent
    · rw [hremaining]
      split
      · simp
      · exact hnode

end Filing
end FluentBuilder
