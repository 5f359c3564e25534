import FluentBuilder.Proofs.Store.Resolved

/-!
# How writing files extends a store

`Extended` says all that may differ in a store after files were written: there are new directories on the
way to them, where nothing stood, and the files themselves, where no directory stood. All else is as it
was. It does not matter whether the files could be written (`extended_writeWhole`), and writings follow
each other (`Extended.trans`).
-/

namespace FluentBuilder

open Stateful

namespace Store

variable {s s' s'' : Store} {p : Path} {paths paths' : List Path} {place : Place}

/-- What stands at a place before and after files were written: the same, or a new directory around one of
them, or one of them. -/
inductive Extension (paths : List Path) (place : Place) : Option Node → Option Node → Prop
  /-- The same stands there. -/
  | same {node : Option Node} : Extension paths place node node
  /-- Nothing stood there, and now a directory around a file does. -/
  | directory {p : Path} (hp : p ∈ paths) (hplace : place <+: p.parts.dropLast) :
    Extension paths place none (some .directory)
  /-- No directory stood there, and now a file does. -/
  | file {p : Path} {node : Option Node} {bytes : List UInt8} (hp : p ∈ paths) (hplace : place = p.parts)
    (hnode : node ≠ some .directory) : Extension paths place node (some (.file bytes))

/-- A store after files were written. -/
structure Extended (paths : List Path) (before after : Store) : Prop where
  /-- The current directory stays. -/
  current_eq : after.current = before.current
  /-- What stands where. -/
  extension : ∀ place, Extension paths place (before.node? place) (after.node? place)

namespace Extended

/-- Nothing was written. -/
theorem refl (paths : List Path) (s : Store) : Extended paths s s := ⟨rfl, fun _ => .same⟩

/-- Files are written one after the other. -/
theorem trans (h : Extended paths s s') (h' : Extended paths s' s'') : Extended paths s s'' := by
  refine ⟨h'.current_eq.trans h.current_eq, fun place => ?_⟩
  have hfirst := h.extension place
  have hsecond := h'.extension place
  generalize s.node? place = before, s'.node? place = middle, s''.node? place = after
    at hfirst hsecond ⊢
  cases hfirst with
  | same => exact hsecond
  | directory hp hplace =>
    cases hsecond with
    | same => exact .directory hp hplace
    | file _ _ hnode => exact absurd rfl hnode
  | file hp hplace hnode =>
    cases hsecond with
    | same => exact .file hp hplace hnode
    | file => exact .file hp hplace hnode

/-- Further files may be written. -/
theorem mono (h : Extended paths s s') (hsub : paths ⊆ paths') : Extended paths' s s' := by
  refine ⟨h.current_eq, fun place => ?_⟩
  have hplace := h.extension place
  generalize s.node? place = before, s'.node? place = after at hplace ⊢
  cases hplace with
  | same => exact .same
  | directory hp hplace => exact .directory (hsub hp) hplace
  | file hp hplace hnode => exact .file (hsub hp) hplace hnode

/-- Directories stay. -/
theorem directory (h : Extended paths s s') (hnode : s.node? place = some .directory) :
    s'.node? place = some .directory := by
  have hplace := h.extension place
  rw [hnode] at hplace
  generalize s'.node? place = after at hplace
  cases hplace with
  | same => rfl
  | file _ _ hnot => exact absurd rfl hnot

end Extended
end Store

namespace Filing

open Store

variable {s : Store} {p q : Path}

/-- Making a directory around a file extends a store. -/
theorem extended_makeDirectory (hq : Resolved q) (hfront : q.parts <+: p.parts.dropLast) :
    Keeps (Extended [p]) (makeDirectory q) := by
  intro s
  rcases create_spec "mkdir" .directory q s with ⟨fault, h⟩ | ⟨place, h, -, hplace, hnode⟩
  · rw [makeDirectory, h]
    exact .refl _ s
  · rw [makeDirectory, h]
    obtain rfl := hq.eq_of_placeOf hplace
    refine ⟨putNode_current s _ _, fun other => ?_⟩
    rw [node?_putNode s (ne_nil_of_node?_eq_none hnode)]
    split
    · next heq =>
      rw [heq, hnode]
      exact .directory List.mem_cons_self hfront
    · exact .same

/-- Making all directories around a file does. -/
theorem extended_ensureDirectories (h : Resolved p) (fuel : Nat) :
    Keeps (Extended [p]) (ensureDirectories fuel p.parent) := by
  refine keeps_ensureDirectories (P := fun q => Resolved q ∧ q.parts <+: p.parts.dropLast)
    (Extended.refl _) (fun _ _ _ => Extended.trans) (fun q hq => ⟨hq.1.parent, ?_⟩)
    (fun q hq => extended_makeDirectory hq.1 hq.2) fuel ⟨h.parent, List.prefix_refl _⟩
  exact (List.dropLast_prefix _).trans hq.2

/-- **Writing a file extends a store**, whether it fails or not. -/
theorem extended_writeWhole (h : Resolved p) (bytes : List UInt8) :
    Keeps (Extended [p]) (writeWhole p bytes) := by
  intro s
  have hsteps := steps_writeWhole p bytes s
  have hmade := extended_ensureDirectories h p.parts.length s
  generalize exec (writeWhole p bytes) s = outcome at hsteps ⊢
  obtain ⟨result, s'⟩ := outcome
  cases hsteps with
  | directories hdirectories =>
    rw [hdirectories] at hmade
    exact hmade
  | temporary hdirectories _ =>
    rw [hdirectories] at hmade
    exact hmade
  | @target _ s₀ _ place hdirectories _ _ hfree _ =>
    rw [hdirectories] at hmade
    have hwritten := staged_spec hfree bytes
    have hremoved : Extended [p] s₀ ((staged s₀ place bytes).removeNode place) :=
      ⟨hwritten.current_eq, fun other => by rw [hwritten.node?_removeNode]; exact .same⟩
    exact hmade.trans hremoved
  | @done s₀ _ place after hdirectories _ _ hfree _ hafter hnode =>
    rw [hdirectories] at hmade
    have hwritten := staged_spec hfree bytes
    obtain rfl := h.eq_of_placeOf hafter
    have hreplaced : Extended [p] s₀
        (((staged s₀ place bytes).removeNode place).putNode p.parts (.file bytes)) := by
      refine ⟨by rw [putNode_current, removeNode_current, hwritten.current_eq], fun other => ?_⟩
      rw [node?_putNode _ (ne_nil_of_node?_ne hnode), hwritten.node?_removeNode]
      split
      · next heq =>
        exact .file List.mem_cons_self heq fun hdirectory =>
          hnode (heq ▸ hwritten.directory hdirectory)
      · exact .same
    exact hmade.trans hreplaced

end Filing
end FluentBuilder
