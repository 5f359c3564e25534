import FluentBuilder.Proofs.Store.Faults
import FluentBuilder.Proofs.Store.Sound

/-!
# Resolved paths

The names in a store are those that files can have (`Proper`). So a path that was resolved leads from the
root down to where it leads to (`resolved_of_resolve`), and what stands below it is found by following the
names from there on (`Resolved.placeOf_eq`).
-/

namespace FluentBuilder

namespace Store

variable {s s' : Store} {p root : Path} {place : Place}

/-! ### Names -/

/-- The names in a store are those that files can have: none has a slash or the character of code zero,
and none leads up. -/
def Proper (s : Store) : Prop :=
  ∀ entry ∈ s.nodes, ∀ name ∈ entry.1, '/' ∉ name.toList ∧ '\x00' ∉ name.toList ∧ name ≠ ".."

/-- The names of a place at which something stands are such names. -/
theorem Proper.names (h : s.Proper) {node : Node} (hnode : s.node? place = some node) :
    ∀ name ∈ place, '/' ∉ name.toList ∧ '\x00' ∉ name.toList ∧ name ≠ ".." := by
  by_cases hne : place = []
  · rw [hne]
    exact fun _ hmem => absurd hmem List.not_mem_nil
  · exact h _ (mem_nodes_of_node? hne hnode)

/-- Names that are followed from a place on add nothing but themselves, and leave no way up. -/
theorem mem_of_mem_reach {start : Place} {names : List String} {name : String}
    (h : name ∈ reach start names) : name ∈ start ∨ name ∈ names ∧ name ≠ ".." := by
  induction names generalizing start with
  | nil => exact .inl h
  | cons first rest ih =>
    rw [reach, List.foldl_cons, ← reach] at h
    rcases ih h with hstart | ⟨hrest, hup⟩
    · split at hstart
      · exact .inl (List.dropLast_subset _ hstart)
      · next hup =>
        rcases List.mem_append.mp hstart with hstart | hfirst
        · exact .inl hstart
        · rw [List.mem_singleton.mp hfirst]
          exact .inr ⟨List.mem_cons_self, fun heq => hup (by rw [heq]; rfl)⟩
    · exact .inr ⟨List.mem_cons_of_mem first hrest, hup⟩

/-! ### Resolved paths -/

/-- A path that is as resolved paths are: it begins at the root, does not lead up, and can be looked at. -/
structure Resolved (p : Path) : Prop where
  /-- It begins at the root. -/
  isAbsolute : p.isAbsolute = true
  /-- It does not lead up. -/
  not_up : ".." ∉ p.parts
  /-- It has not the character of code zero. -/
  not_null : hasNull p = false

/-- What a path is resolved to. -/
theorem resolved_of_resolve (h : s.Sound) (hproper : s.Proper) (hresolve : s.resolve p = .ok root) :
    Resolved root := by
  rw [resolve] at hresolve
  split at hresolve
  · cases hresolve
  · next hnull =>
    obtain rfl := Except.ok.inj hresolve
    have horigin := hproper.names (h.origin p)
    refine ⟨?_, fun hmem => ?_, ?_⟩
    · rw [Path.isAbsolute]
      split <;> rfl
    · rcases mem_of_mem_reach hmem with hstart | ⟨-, hup⟩
      · exact (horigin _ hstart).2.2 rfl
      · exact hup rfl
    · rw [hasNull, List.any_eq_false]
      intro part hpart
      rcases mem_of_mem_reach hpart with hstart | ⟨hparts, -⟩
      · simpa using (horigin part hstart).2.1
      · rw [hasNull, Bool.not_eq_true, List.any_eq_false] at hnull
        exact hnull part hparts

/-- Names below a resolved path are followed from its place on. -/
theorem Resolved.placeOf_eq (h : Resolved root) {names : List String} (hnames : ".." ∉ names)
    (hplace : s.placeOf ⟨root.root, root.parts ++ names⟩ = .ok place) : place = root.parts ++ names := by
  have horigin : s.origin ⟨root.root, root.parts ++ names⟩ = [] := if_pos h.isAbsolute
  rw [eq_reach_of_placeOf hplace, horigin, reach_of_not_mem, List.nil_append]
  rw [List.mem_append, not_or]
  exact ⟨h.not_up, hnames⟩

/-- The place of a resolved path is where its own names lead. -/
theorem Resolved.eq_of_placeOf (h : Resolved p) (hplace : s.placeOf p = .ok place) : place = p.parts := by
  have horigin : s.origin p = [] := if_pos h.isAbsolute
  rw [eq_reach_of_placeOf hplace, horigin, reach_of_not_mem [] h.not_up, List.nil_append]

/-- Around a path that was resolved is one. -/
theorem Resolved.parent (h : Resolved p) : Resolved p.parent where
  isAbsolute := h.isAbsolute
  not_up := fun hmem => h.not_up (List.dropLast_subset _ hmem)
  not_null := hasNull_parent h.not_null

/-- A path is resolved in the same way while the current directory stays. -/
theorem resolve_eq (h : s'.current = s.current) (p : Path) : s'.resolve p = s.resolve p := by
  rw [resolve, resolve, origin, origin, h]

/-! ### Directories -/

/-- A directory is found by looking, if its path is found. -/
theorem isDirectory_eq_true_iff :
    s.isDirectory p = .ok true ↔ hasNull p = false ∧ ∃ place, s.placeOf p = .ok place ∧
      s.node? place = some .directory := by
  unfold isDirectory look status
  by_cases hnull : hasNull p = true
  · simp [hnull, Except.map]
  rw [if_neg hnull]
  rcases hplace : s.placeOf p with fault | place
  · cases fault <;> simp [hnull, Except.map, bind, Except.bind]
  · rcases hnode : s.node? place with _ | _ | _ <;>
      simp [hnull, Except.map, bind, Except.bind, pure, Except.pure, throw, throwThe,
        MonadExceptOf.throw, hnode]

/-- Directories are still found when a store has developed. -/
theorem Evolves.isDirectory {changed : Place → Prop} (h : Evolves changed s s')
    (hdirectory : s.isDirectory p = .ok true) : s'.isDirectory p = .ok true := by
  rw [isDirectory_eq_true_iff] at hdirectory ⊢
  obtain ⟨hnull, place, hplace, hnode⟩ := hdirectory
  exact ⟨hnull, place, h.placeOf_eq hplace, h.directory place hnode⟩

end Store

end FluentBuilder
