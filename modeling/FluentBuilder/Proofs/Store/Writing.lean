import FluentBuilder.Proofs.Stateful
import FluentBuilder.Proofs.Store.Nodes

/-!
# Writing a file as a whole

`writeWhole_spec` says all that can come of writing a file: either the file has its bytes at the end,
or the writing fails; and in both cases no other file has changed. New directories may stay in both.

**The temporary file.** The bytes are first written to a file beside the one that is to be written. It
is made where nothing stands (`createTemporary_spec`), so that it replaces nothing, and it is gone in
the end: either it takes the place of the file (`replaceFile_spec`), or it is removed. The state in
between differs from the first one at its place only, and there by a file that was not there before.
-/

namespace FluentBuilder.Filing

open Stateful Store

variable {s s' : Store} {p : Path}

/-! ### Looking and creating -/

/-- A look changes nothing. -/
@[simp] theorem exec_look {α : Type} (f : Store → Except StoreFault α) (s : Store) :
    exec (look f) s = (f s, s) := rfl

/-- Something is put where nothing stands, or nothing happens. -/
theorem create_spec (operation : String) (node : Node) (p : Path) (s : Store) :
    (∃ fault, exec (create operation node p) s = (.error fault, s)) ∨
      ∃ place, exec (create operation node p) s = (.ok (), s.putNode place node) ∧
        hasNull p = false ∧ s.placeOf p = .ok place ∧ s.node? place = none := by
  by_cases hnull : hasNull p = true
  · refine .inl ⟨.nullCharacter operation, ?_⟩
    simp [create, hnull]
  · rcases hplace : s.placeOf p with fault | place
    · refine .inl ⟨fault, ?_⟩
      simp [create, hnull, exec_bind, hplace]
    · rcases hnode : s.node? place with _ | node'
      · refine .inr ⟨place, ?_, by simpa using hnull, rfl, hnode⟩
        simp [create, hnull, exec_bind, hplace, hnode]
      · refine .inl ⟨.exists p.render, ?_⟩
        simp [create, hnull, exec_bind, hplace, hnode]

/-! ### Directories -/

/-- A directory that is put where nothing stands changes no file. -/
theorem evolves_putNode_directory {place : Place} (h : s.node? place = none) :
    Evolves (fun _ => False) s (s.putNode place .directory) := by
  have hput := Evolves.putNode h .directory
  refine ⟨hput.current_eq, hput.home_eq, hput.directory, fun other _ => ?_⟩
  by_cases hother : other = place
  · have hne := ne_nil_of_node?_eq_none h
    subst hother
    rw [fileAt, fileAt, node?_putNode s hne, if_pos rfl, h]
  · exact hput.fileAt_eq other hother

/-- Making a directory changes no file. -/
theorem keeps_makeDirectory (p : Path) : Keeps (Evolves fun _ => False) (makeDirectory p) := by
  intro s
  rcases create_spec "mkdir" .directory p s with ⟨fault, h⟩ | ⟨place, h, -, -, hnode⟩
  · rw [makeDirectory, h]
    exact Evolves.refl _ s
  · rw [makeDirectory, h]
    exact evolves_putNode_directory hnode

section keeping

variable {P : Path → Prop} {R : Store → Store → Prop} (hrefl : ∀ s, R s s)
variable (htrans : ∀ s s' s'', R s s' → R s' s'' → R s s'')
include hrefl htrans

/-- Making sure of a directory keeps what making it keeps. -/
theorem keeps_ensureDirectory (hmake : Keeps R (makeDirectory p)) : Keeps R (ensureDirectory p) := by
  refine Keeps.tryCatch htrans hmake fun fault => ?_
  refine Keeps.of_eq hrefl fun s => ?_
  split
  · rfl
  · rfl
  · simp only [exec_bind, exec_look, exec_ite]
    rcases s.isDirectory p with fault | answer
    · rfl
    · cases answer <;> rfl

/-- Making sure of directories keeps what making one keeps, if this is so of each directory around one
of which it is so. -/
theorem keeps_ensureDirectories (hparent : ∀ p, P p → P p.parent)
    (hmake : ∀ p, P p → Keeps R (makeDirectory p)) (fuel : Nat) (hp : P p) :
    Keeps R (ensureDirectories fuel p) := by
  induction fuel generalizing p with
  | zero => exact keeps_ensureDirectory hrefl htrans (hmake p hp)
  | succ fuel ih =>
    have hensure := keeps_ensureDirectory hrefl htrans (hmake p hp)
    refine Keeps.tryCatch htrans hensure fun fault => ?_
    have hfail : Keeps R (throw fault : Filing Unit) := Keeps.of_eq hrefl fun _ => rfl
    have hbelow : Keeps R (do ensureDirectories fuel p.parent; ensureDirectory p) :=
      Keeps.bind htrans (ih (hparent p hp)) fun _ => hensure
    split
    · exact Keeps.ite (Keeps.bind htrans hfail fun _ => hbelow) hbelow
    · exact hfail

end keeping

/-- Making sure of directories changes no file. -/
theorem evolves_ensureDirectories (fuel : Nat) (p : Path) :
    Keeps (Evolves fun _ => False) (ensureDirectories fuel p) :=
  keeps_ensureDirectories (P := fun _ => True) (Evolves.refl _) (fun _ _ _ h h' => h.trans h')
    (fun _ => id) (fun p _ => keeps_makeDirectory p) fuel trivial

/-! ### The temporary file -/

/-- The temporary file is put where nothing stands, or nothing happens. -/
theorem createTemporary_spec (p : Path) (tries n : Nat) (s : Store) :
    (∃ fault, exec (createTemporary p tries n) s = (.error fault, s)) ∨
      ∃ temporary place,
        exec (createTemporary p tries n) s = (.ok temporary, s.putNode place (.file [])) ∧
        (∃ k, temporary = temporaryPath p k) ∧ hasNull temporary = false ∧
        s.placeOf temporary = .ok place ∧ s.node? place = none := by
  induction tries generalizing n with
  | zero => exact .inl ⟨_, rfl⟩
  | succ tries ih =>
    rw [createTemporary, exec_tryCatch]
    rcases create_spec "open" (.file []) (temporaryPath p n) s with
      ⟨fault, h⟩ | ⟨place, h, hnull, hplace, hnode⟩
    · rw [exec_bind_of_error h]
      simp only
      split
      · exact ih (n + 1)
      · exact .inl ⟨fault, rfl⟩
    · rw [exec_bind_of_ok h]
      exact .inr ⟨temporaryPath p n, place, rfl, ⟨n, rfl⟩, hnull, hplace, hnode⟩

/-- A name with the character of code zero is in the name of its temporary file. -/
theorem hasNull_of_temporaryPath {n : Nat} (h : hasNull (temporaryPath p n) = false) :
    hasNull p = false := by
  rcases List.eq_nil_or_concat p.parts with hnil | ⟨front, last, hparts⟩
  · rw [hasNull, hnil, List.any_nil]
  · have htemporary : (temporaryPath p n).parts =
        front ++ ["." ++ last ++ "." ++ temporaryMark n ++ ".tmp"] := by
      rw [temporaryPath, Path.name, hparts, List.concat_eq_append, List.dropLast_concat,
        List.getLastD_concat]
    rw [hasNull, htemporary, List.any_append, Bool.or_eq_false_iff] at h
    rw [hasNull, hparts, List.concat_eq_append, List.any_append, Bool.or_eq_false_iff]
    refine ⟨h.1, ?_⟩
    have hlast := h.2
    simp only [List.any_cons, List.any_nil, Bool.or_false, String.toList_append,
      List.contains_eq_mem, List.mem_append, decide_eq_false_iff_not, not_or] at hlast ⊢
    exact hlast.1.1.1.2

/-- A file is written where no directory stands. -/
theorem exec_writeFile {place : Place} (hnull : hasNull p = false)
    (hplace : s.placeOf p = .ok place) (hnode : s.node? place ≠ some .directory)
    (bytes : List UInt8) :
    exec (writeFile p bytes) s = (.ok (), s.putNode place (.file bytes)) := by
  simp [writeFile, hnull, exec_bind, hplace, hnode]

/-- A file is removed where no directory stands. -/
theorem exec_removeFile {place : Place} (hplace : s.placeOf p = .ok place)
    (hnode : s.node? place ≠ some .directory) :
    exec (removeFile p) s = (.ok (), s.removeNode place) := by
  simp [removeFile, exec_bind, hplace, hnode]

/-- A file takes the place of another one where no directory stands, or nothing happens. -/
theorem replaceFile_spec {source target : Path} {before : Place} {bytes : List UInt8}
    (hsource : s.placeOf source = .ok before) (hfile : s.node? before = some (.file bytes)) :
    (∃ fault, exec (replaceFile source target) s = (.error fault, s)) ∨
      ∃ after, exec (replaceFile source target) s =
          (.ok (), (s.removeNode before).putNode after (.file bytes)) ∧
        s.placeOf target = .ok after ∧ s.node? after ≠ some .directory := by
  rcases htarget : s.placeOf target with fault | after
  · refine .inl ⟨fault, ?_⟩
    simp [replaceFile, exec_bind, hsource, htarget]
  · by_cases hnode : s.node? after = some .directory
    · refine .inl ⟨.replacesDirectory source.render target.render, ?_⟩
      simp [replaceFile, exec_bind, hsource, htarget, hfile, hnode]
    · refine .inr ⟨after, ?_, rfl, hnode⟩
      simp [replaceFile, exec_bind, hsource, htarget, hfile]

/-! ### Writing as a whole -/

/-- While a file is written: the store is as before, but for a temporary file at a place where nothing
stood. -/
structure Staged (before during : Store) (place : Place) (bytes : List UInt8) : Prop where
  /-- Nothing stood there. -/
  free : before.node? place = none
  /-- The current directory stays. -/
  current_eq : during.current = before.current
  /-- The home directory stays. -/
  home_eq : during.home = before.home
  /-- Nothing else changes. -/
  node?_eq : ∀ other, during.node? other =
    if other = place then some (.file bytes) else before.node? other

namespace Staged

variable {before during : Store} {place : Place} {bytes : List UInt8}

/-- The temporary file is at no root. -/
theorem ne_nil (h : Staged before during place bytes) : place ≠ [] :=
  ne_nil_of_node?_eq_none h.free

/-- The temporary file is made where nothing stands. -/
theorem create (h : s.node? place = none) (bytes : List UInt8) :
    Staged s (s.putNode place (.file bytes)) place bytes where
  free := h
  current_eq := putNode_current s place _
  home_eq := putNode_home s place _
  node?_eq := node?_putNode s (ne_nil_of_node?_eq_none h) _

/-- The temporary file is written. -/
theorem write (h : Staged before during place bytes) (bytes' : List UInt8) :
    Staged before (during.putNode place (.file bytes')) place bytes' where
  free := h.free
  current_eq := by rw [putNode_current, h.current_eq]
  home_eq := by rw [putNode_home, h.home_eq]
  node?_eq := by
    intro other
    rw [node?_putNode during h.ne_nil, h.node?_eq]
    split <;> rfl

/-- Directories stay. -/
theorem directory (h : Staged before during place bytes) {other : Place}
    (hother : before.node? other = some .directory) : during.node? other = some .directory := by
  rw [h.node?_eq, if_neg, hother]
  rintro rfl
  rw [h.free] at hother
  cases hother

/-- Paths that are found stay found. -/
theorem placeOf_eq (h : Staged before during place bytes) {q : Path} {found : Place}
    (hfound : before.placeOf q = .ok found) : during.placeOf q = .ok found :=
  placeOf_mono h.current_eq (fun _ => h.directory) hfound

/-- When the temporary file is removed, the same stands everywhere as before. -/
theorem node?_removeNode (h : Staged before during place bytes) (other : Place) :
    (during.removeNode place).node? other = before.node? other := by
  rw [Store.node?_removeNode during h.ne_nil, h.node?_eq]
  split
  · next hother => rw [hother, h.free]
  · rfl

/-- A temporary file that is removed leaves no trace. -/
theorem remove (h : Staged before during place bytes) :
    Evolves (fun _ => False) before (during.removeNode place) :=
  ⟨h.current_eq, h.home_eq, fun other hother => by rw [h.node?_removeNode, hother],
    fun other _ => fileAt_congr (h.node?_removeNode other)⟩

/-- A temporary file that takes the place of another one changes that one only. -/
theorem replace (h : Staged before during place bytes) {after : Place}
    (hafter : during.node? after ≠ some .directory) :
    Evolves (· = after) before ((during.removeNode place).putNode after (.file bytes)) ∧
      ((during.removeNode place).putNode after (.file bytes)).fileAt after = some bytes := by
  have hnode := node?_putNode (during.removeNode place) (ne_nil_of_node?_ne hafter) (.file bytes)
  have hremoved := h.remove
  refine ⟨⟨?_, ?_, fun other hother => ?_, fun other hother => ?_⟩, ?_⟩
  · rw [putNode_current, hremoved.current_eq]
  · rw [putNode_home, hremoved.home_eq]
  · rw [hnode, if_neg]
    · exact hremoved.directory other hother
    · rintro rfl
      exact hafter (h.directory hother)
  · rw [← hremoved.fileAt_eq other not_false]
    exact fileAt_congr (by rw [hnode, if_neg hother])
  · rw [fileAt_eq_some_iff, hnode, if_pos rfl]

/-- What is found while a file is written is found after the temporary file took its place. -/
theorem placeOf_replace (h : Staged before during place bytes) {after found : Place}
    (hafter : during.node? after ≠ some .directory) {q : Path}
    (hfound : during.placeOf q = .ok found) :
    ((during.removeNode place).putNode after (.file bytes)).placeOf q = .ok found := by
  refine placeOf_mono (by simp) (fun other hother => ?_) hfound
  have hne : other ≠ after := by
    rintro rfl
    exact hafter hother
  have hne' : other ≠ place := by
    rintro rfl
    rw [h.node?_eq, if_pos rfl] at hother
    cases hother
  rw [node?_putNode _ (ne_nil_of_node?_ne hafter), if_neg hne, Store.node?_removeNode _ h.ne_nil,
    if_neg hne', hother]

end Staged

/-- The store with the temporary file, when it holds the bytes. -/
def staged (s : Store) (place : Place) (bytes : List UInt8) : Store :=
  (s.putNode place (.file [])).putNode place (.file bytes)

/-- What stands where while the temporary file holds the bytes. -/
theorem staged_spec {place : Place} (h : s.node? place = none) (bytes : List UInt8) :
    Staged s (staged s place bytes) place bytes :=
  (Staged.create h []).write bytes

/-- The steps of writing a file as a whole: how far they come, with the result and the store that they
leave. -/
inductive Steps (p : Path) (bytes : List UInt8) (s : Store) : Except StoreFault Unit → Store → Prop
  /-- The directories around the file cannot be made. -/
  | directories {fault : StoreFault} {s₀ : Store}
    (hmade : exec (ensureDirectories p.parts.length p.parent) s = (.error fault, s₀)) :
    Steps p bytes s (.error fault) s₀
  /-- The temporary file cannot be made. -/
  | temporary {fault : StoreFault} {s₀ : Store}
    (hmade : exec (ensureDirectories p.parts.length p.parent) s = (.ok (), s₀))
    (hcreate : exec (createTemporary p (s₀.nodes.length + 1) 0) s₀ = (.error fault, s₀)) :
    Steps p bytes s (.error fault) s₀
  /-- The temporary file cannot take the place of the file, and is removed. -/
  | target {fault : StoreFault} {s₀ : Store} {k : Nat} {place : Place}
    (hmade : exec (ensureDirectories p.parts.length p.parent) s = (.ok (), s₀))
    (hcreate : exec (createTemporary p (s₀.nodes.length + 1) 0) s₀ =
      (.ok (temporaryPath p k), s₀.putNode place (.file [])))
    (hplace : s₀.placeOf (temporaryPath p k) = .ok place) (hfree : s₀.node? place = none)
    (hreplace : exec (replaceFile (temporaryPath p k) p) (staged s₀ place bytes) =
      (.error fault, staged s₀ place bytes)) :
    Steps p bytes s (.error fault) ((staged s₀ place bytes).removeNode place)
  /-- The temporary file takes the place of the file. -/
  | done {s₀ : Store} {k : Nat} {place after : Place}
    (hmade : exec (ensureDirectories p.parts.length p.parent) s = (.ok (), s₀))
    (hcreate : exec (createTemporary p (s₀.nodes.length + 1) 0) s₀ =
      (.ok (temporaryPath p k), s₀.putNode place (.file [])))
    (hplace : s₀.placeOf (temporaryPath p k) = .ok place) (hfree : s₀.node? place = none)
    (hnull : hasNull (temporaryPath p k) = false)
    (hafter : (staged s₀ place bytes).placeOf p = .ok after)
    (hnode : (staged s₀ place bytes).node? after ≠ some .directory) :
    Steps p bytes s (.ok ()) (((staged s₀ place bytes).removeNode place).putNode after (.file bytes))

/-- **The steps of writing a file as a whole.** -/
theorem steps_writeWhole (p : Path) (bytes : List UInt8) (s : Store) :
    Steps p bytes s (exec (writeWhole p bytes) s).1 (exec (writeWhole p bytes) s).2 := by
  rcases hmade : exec (ensureDirectories p.parts.length p.parent) s with ⟨fault | _, s₀⟩
  · rw [writeWhole, exec_bind_of_error hmade]
    exact .directories hmade
  rw [writeWhole, exec_bind_of_ok hmade, exec_bind_of_ok (exec_get s₀)]
  rcases createTemporary_spec p (s₀.nodes.length + 1) 0 s₀ with
    ⟨fault, hcreate⟩ | ⟨temporary, place, hcreate, ⟨k, rfl⟩, hnull, hplace, hfree⟩
  · rw [exec_bind_of_error hcreate]
    exact .temporary hmade hcreate
  rw [exec_bind_of_ok hcreate, exec_tryCatch]
  -- The temporary file is there from now on, first empty and then with the bytes.
  have hempty := Staged.create hfree []
  have hwritten := staged_spec hfree bytes
  have hwrite := exec_writeFile hnull (hempty.placeOf_eq hplace)
    (by rw [hempty.node?_eq, if_pos rfl]; simp) bytes
  have htemporary := hwritten.placeOf_eq hplace
  have hfile : (staged s₀ place bytes).node? place = some (.file bytes) := by
    rw [hwritten.node?_eq, if_pos rfl]
  rw [exec_bind_of_ok hwrite, ← staged]
  rcases replaceFile_spec htemporary hfile with ⟨fault, hreplace⟩ | ⟨after, hreplace, hafter, hnode⟩
  · have hremove := exec_removeFile htemporary (by rw [hfile]; simp)
    rw [hreplace]
    simp only [exec_bind_of_ok hremove, exec_throw]
    exact .target hmade hcreate hplace hfree hreplace
  · rw [hreplace]
    exact .done hmade hcreate hplace hfree hnull hafter hnode

/-- **Writing a file as a whole** gives the file its bytes, or fails; no other file changes. -/
theorem writeWhole_spec (p : Path) (bytes : List UInt8) (s : Store) :
    (∃ fault s', exec (writeWhole p bytes) s = (.error fault, s') ∧
      Evolves (fun _ => False) s s') ∨
    ∃ place s', exec (writeWhole p bytes) s = (.ok (), s') ∧ hasNull p = false ∧
      s'.placeOf p = .ok place ∧ s'.fileAt place = some bytes ∧ Evolves (· = place) s s' := by
  have hsteps := steps_writeWhole p bytes s
  have hmade := evolves_ensureDirectories p.parts.length p.parent s
  generalize exec (writeWhole p bytes) s = outcome at hsteps ⊢
  obtain ⟨result, s'⟩ := outcome
  cases hsteps with
  | directories h =>
    rw [h] at hmade
    exact .inl ⟨_, s', rfl, hmade⟩
  | temporary h _ =>
    rw [h] at hmade
    exact .inl ⟨_, s', rfl, hmade⟩
  | target h _ _ hfree _ =>
    rw [h] at hmade
    exact .inl ⟨_, _, rfl, hmade.trans (staged_spec hfree bytes).remove⟩
  | @done s₀ k place after h _ _ hfree hnull hafter hnode =>
    rw [h] at hmade
    have hwritten := staged_spec hfree bytes
    obtain ⟨hevolves, hbytes⟩ := hwritten.replace hnode
    exact .inr ⟨after, _, rfl, hasNull_of_temporaryPath hnull, hwritten.placeOf_replace hnode hafter,
      hbytes, (hmade.mono (by simp)).trans hevolves⟩

end FluentBuilder.Filing
