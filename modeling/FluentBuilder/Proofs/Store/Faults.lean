import FluentBuilder.Proofs.Store.Rooted
import FluentBuilder.Proofs.Store.Writing

/-!
# How operations on files fail

There are two kinds of faults: those of the file system, and the one of a path with the character of
code zero, which is refused before the file system is asked. So where a path has no such character,
writing a file fails with a fault of the file system only (`failsWith_writeWhole`): the directories
around the file and the temporary file beside it have no such character in their paths either.
-/

namespace FluentBuilder

open Stateful

/-- It is a fault of the file system. -/
def StoreFault.Systemic (fault : StoreFault) : Prop := fault.isOfSystem = true

namespace Store

variable {s : Store} {p : Path}

/-- A way is not found because of the file system. -/
theorem systemic_of_walk {path : String} {start : Place} {names : List String} {fault : StoreFault}
    (h : s.walk path start names = .error fault) : fault.Systemic := by
  induction names generalizing start with
  | nil => cases h
  | cons name rest ih =>
    rw [walk] at h
    split at h
    · exact ih h
    · split at h
      · cases h
        rfl
      · simp only at h
        split at h
        · cases h
        · split at h
          · exact ih h
          · cases h
            rfl
          · cases h
            rfl

/-- A path is not found because of the file system. -/
theorem systemic_of_placeOf {fault : StoreFault} (h : s.placeOf p = .error fault) :
    fault.Systemic := by
  unfold placeOf at h
  split at h
  · cases h
    rfl
  · exact systemic_of_walk h

/-- Only a name that is too long keeps one from looking. -/
theorem look_eq_error {fault : StoreFault} (h : s.look p = .error fault) :
    s.status p = .error fault ∧ fault.Systemic := by
  unfold look at h
  split at h
  · cases h
  · split at h
    · cases h
    · next path hstatus =>
      obtain rfl := Except.error.inj h
      exact ⟨hstatus, rfl⟩
    · cases h

/-- A path that is found can be looked at. -/
theorem look_ne_error {place : Place} (h : s.placeOf p = .ok place) (fault : StoreFault) :
    s.look p ≠ .error fault := by
  unfold look status
  rw [h]
  split
  · simp
  · rcases hnode : s.node? place with _ | node <;>
      simp [bind, Except.bind, pure, Except.pure, throw, throwThe, MonadExceptOf.throw, hnode]

/-- What is no directory is not found because of the file system. -/
theorem systemic_of_isDirectory {fault : StoreFault} (h : s.isDirectory p = .error fault) :
    fault.Systemic := by
  unfold isDirectory at h
  rcases hlook : s.look p with fault' | node
  · rw [hlook] at h
    obtain rfl := Except.error.inj h
    exact (look_eq_error hlook).2
  · rw [hlook] at h
    cases h

/-- A file that can be read is found by looking. -/
theorem look_of_bytes {bytes : List UInt8} (h : s.bytes p = .ok bytes) :
    s.look p = .ok (some (.file bytes)) := by
  obtain ⟨hnull, place, hplace, hfile⟩ := bytes_eq_ok_iff.mp h
  have hstatus : s.status p = .ok (.file bytes) := by
    simp [status, hplace, fileAt_eq_some_iff.mp hfile, bind, Except.bind, pure, Except.pure]
  simp [look, hnull, hstatus]

/-- A file that is found by looking can be read. -/
theorem bytes_of_look {bytes : List UInt8} (h : s.look p = .ok (some (.file bytes))) :
    s.bytes p = .ok bytes := by
  unfold look at h
  split at h
  · cases h
  · next hnull =>
    split at h
    · next node hstatus =>
      obtain rfl := Option.some.inj (Except.ok.inj h)
      simp [Store.bytes, hnull, hstatus, bind, Except.bind, pure, Except.pure]
    · cases h
    · cases h

/-- A name that is too long keeps one from looking at a path. -/
theorem look_eq_error_iff {fault : StoreFault} :
    s.look p = .error fault ↔ ∃ path, fault = .nameTooLong path ∧ hasNull p = false ∧
      s.placeOf p = .error (.nameTooLong path) := by
  unfold look status
  by_cases hnull : hasNull p = true
  · simp [hnull]
  rw [if_neg hnull]
  rcases hplace : s.placeOf p with reason | place
  · cases reason <;> simp [hnull, bind, Except.bind, eq_comm]
  · rcases hnode : s.node? place with _ | node <;>
      simp [bind, Except.bind, pure, Except.pure, throw, throwThe, MonadExceptOf.throw, hnode]

/-- A name on a way that is too long is so where the same directories stand, and more. -/
theorem walk_eq_tooLong {s' : Store}
    (h : ∀ place, s.node? place = some .directory → s'.node? place = some .directory)
    {path : String} {start : Place} {names : List String} {name : String}
    (hwalk : s.walk path start names = .error (.nameTooLong name)) :
    s'.walk path start names = .error (.nameTooLong name) := by
  induction names generalizing start with
  | nil => cases hwalk
  | cons first rest ih =>
    rw [walk] at hwalk ⊢
    by_cases hup : (first == "..") = true
    · rw [if_pos hup] at hwalk ⊢
      exact ih hwalk
    · rw [if_neg hup] at hwalk ⊢
      split at hwalk
      · next hlong =>
        rw [if_pos hlong]
        exact hwalk
      · next hshort =>
        rw [if_neg hshort]
        simp only at hwalk ⊢
        split at hwalk
        · cases hwalk
        · next hlast =>
          rw [if_neg hlast]
          split at hwalk
          · next hnode =>
            rw [h _ hnode]
            exact ih hwalk
          · cases hwalk
          · cases hwalk

/-- A path that cannot be looked at still cannot when a store has developed. -/
theorem Evolves.look_eq_error {changed : Place → Prop} {s' : Store} (h : Evolves changed s s')
    {fault : StoreFault} (hlook : s.look p = .error fault) : s'.look p = .error fault := by
  obtain ⟨path, rfl, hnull, hplace⟩ := look_eq_error_iff.mp hlook
  refine look_eq_error_iff.mpr ⟨path, rfl, hnull, ?_⟩
  unfold placeOf origin at hplace ⊢
  rw [h.current_eq]
  split at hplace
  · next hlong =>
    rw [if_pos hlong]
    exact hplace
  · next hshort =>
    rw [if_neg hshort]
    exact walk_eq_tooLong h.directory hplace

/-- A path that can be looked at when a store has developed could be looked at before. -/
theorem Evolves.exists_look {changed : Place → Prop} {s' : Store} (h : Evolves changed s s')
    (hlook : ∃ node, s'.look p = .ok node) : ∃ node, s.look p = .ok node := by
  obtain ⟨node, hnode⟩ := hlook
  rcases hbefore : s.look p with fault | node'
  · cases hnode.symm.trans (h.look_eq_error hbefore)
  · exact ⟨node', rfl⟩

/-- Where a file is found below a root, the root can be looked at, and still can when the store has
developed. -/
theorem Evolves.exists_look_of_below {changed : Place → Prop} {s' : Store} (h : Evolves changed s s')
    {root : Path} (hp : Path.Below root p) {bytes : List UInt8} (hbytes : s.bytes p = .ok bytes) :
    ∃ node, s'.look root = .ok node := by
  obtain ⟨-, place, hplace, -⟩ := bytes_eq_ok_iff.mp hbytes
  obtain ⟨place', hplace'⟩ := exists_placeOf_of_below hp hplace
  rcases hlook : s'.look root with fault | node
  · exact absurd hlook (look_ne_error (h.placeOf_eq hplace') fault)
  · exact ⟨node, rfl⟩

/-- The directory around a path has the character of code zero only if the path has it. -/
theorem hasNull_parent (h : hasNull p = false) : hasNull p.parent = false := by
  rw [hasNull, List.any_eq_false] at h ⊢
  exact fun part hpart => h part (List.dropLast_subset _ hpart)

/-- The mark of a temporary file has no character of code zero. -/
theorem not_mem_temporaryMark (n : Nat) : '\x00' ∉ (Filing.temporaryMark n).toList := by
  have hdigits : '\x00' ∉ (toString n).toList := by
    intro hmem
    rw [Nat.toString_eq_repr, Nat.toList_repr] at hmem
    exact absurd (Nat.isDigit_of_mem_toDigits (by decide) (by decide) hmem) (by decide)
  rw [Filing.temporaryMark, String.toList_ofList, List.mem_append]
  rintro (hmem | hmem)
  · exact absurd (List.eq_of_mem_replicate hmem) (by decide)
  · split at hmem
    · cases hmem
    · exact hdigits hmem

/-- The temporary file has the character of code zero only if the file beside it has it. -/
theorem hasNull_temporaryPath (h : hasNull p = false) (n : Nat) :
    hasNull (Filing.temporaryPath p n) = false := by
  have hparts : ∀ part ∈ p.parts, '\x00' ∉ part.toList := by
    simpa [hasNull] using h
  have hname : '\x00' ∉ p.name.toList := by
    rcases List.eq_nil_or_concat p.parts with hnil | ⟨front, last, hconcat⟩
    · rw [Path.name, hnil]
      exact List.not_mem_nil
    · rw [Path.name, hconcat, List.concat_eq_append, List.getLastD_concat]
      exact hparts last (by simp [hconcat])
  rw [hasNull, Filing.temporaryPath, List.any_eq_false]
  intro part hpart hcontains
  have hmem := List.contains_iff_mem.mp hcontains
  rcases List.mem_append.mp hpart with hfront | hlast
  · exact hparts part (List.dropLast_subset _ hfront) hmem
  · rw [List.mem_singleton.mp hlast] at hmem
    have hmark := not_mem_temporaryMark n
    simp [String.toList_append, hname, hmark] at hmem

end Store

namespace Filing

variable {p : Path}

/-- A look that fails because of the file system only. -/
theorem failsWith_look {α : Type} {f : Store → Except StoreFault α}
    (h : ∀ s fault, f s = .error fault → fault.Systemic) :
    FailsWith StoreFault.Systemic (look f) := by
  intro s e s' he
  rw [exec_look] at he
  exact h s e (Prod.mk.inj he).1

/-- Nothing is wrong with the state and its changes. -/
theorem failsWith_get : FailsWith StoreFault.Systemic (get : Filing Store) :=
  FailsWith.of_ok fun s => ⟨s, s, rfl⟩

/-- Nothing is wrong with a change. -/
theorem failsWith_modify (f : Store → Store) :
    FailsWith StoreFault.Systemic (modify f : Filing PUnit) :=
  FailsWith.of_ok fun s => ⟨⟨⟩, f s, rfl⟩

/-- Nothing is wrong with a result. -/
theorem failsWith_pure {α : Type} (a : α) : FailsWith StoreFault.Systemic (pure a : Filing α) :=
  FailsWith.of_ok fun s => ⟨a, s, rfl⟩

/-- Finding a path fails because of the file system. -/
theorem failsWith_placeOf (p : Path) : FailsWith StoreFault.Systemic (look (·.placeOf p)) :=
  failsWith_look fun _ _ => Store.systemic_of_placeOf

/-- Putting something where nothing stands fails because of the file system. -/
theorem failsWith_create (h : Store.hasNull p = false) (operation : String) (node : Node) :
    FailsWith StoreFault.Systemic (create operation node p) := by
  intro s e s' he
  rcases hplace : s.placeOf p with fault | place
  · simp [create, h, exec_bind, hplace] at he
    exact he.1 ▸ Store.systemic_of_placeOf hplace
  · rcases hnode : s.node? place with _ | node'
    · simp [create, h, exec_bind, hplace, hnode] at he
    · simp [create, h, exec_bind, hplace, hnode] at he
      exact he.1 ▸ rfl

/-- Making sure of a directory fails because of the file system. -/
theorem failsWith_ensureDirectory (h : Store.hasNull p = false) :
    FailsWith StoreFault.Systemic (ensureDirectory p) := by
  refine FailsWith.tryCatch (failsWith_create h _ _) fun fault hfault => ?_
  split
  · exact FailsWith.throw hfault
  · exact FailsWith.throw hfault
  · exact FailsWith.bind (failsWith_look fun _ _ => Store.systemic_of_isDirectory) fun _ =>
      FailsWith.ite (FailsWith.throw hfault) (failsWith_pure _)

/-- Making sure of directories fails because of the file system. -/
theorem failsWith_ensureDirectories (fuel : Nat) (h : Store.hasNull p = false) :
    FailsWith StoreFault.Systemic (ensureDirectories fuel p) := by
  induction fuel generalizing p with
  | zero => exact failsWith_ensureDirectory h
  | succ fuel ih =>
    refine FailsWith.tryCatch (failsWith_ensureDirectory h) fun fault hfault => ?_
    have hbelow : FailsWith StoreFault.Systemic
        (do ensureDirectories fuel p.parent; ensureDirectory p) :=
      FailsWith.bind (ih (Store.hasNull_parent h)) fun _ => failsWith_ensureDirectory h
    split
    · exact FailsWith.ite (FailsWith.bind (FailsWith.throw hfault) fun _ => hbelow) hbelow
    · exact FailsWith.throw hfault

/-- Making the temporary file fails because of the file system. -/
theorem failsWith_createTemporary (h : Store.hasNull p = false) (tries n : Nat) :
    FailsWith StoreFault.Systemic (createTemporary p tries n) := by
  induction tries generalizing n with
  | zero => exact FailsWith.throw rfl
  | succ tries ih =>
    refine FailsWith.tryCatch ?_ fun fault hfault => ?_
    · exact FailsWith.bind (failsWith_create (Store.hasNull_temporaryPath h n) _ _) fun _ =>
        failsWith_pure _
    · split
      · exact ih (n + 1)
      · exact FailsWith.throw hfault

/-- Writing to a file fails because of the file system. -/
theorem failsWith_writeFile (h : Store.hasNull p = false) (bytes : List UInt8) :
    FailsWith StoreFault.Systemic (writeFile p bytes) := by
  rw [writeFile, if_neg (by simp [h])]
  refine FailsWith.bind (failsWith_placeOf p) fun place => FailsWith.bind failsWith_get fun s => ?_
  exact FailsWith.ite (FailsWith.bind (FailsWith.throw rfl) fun _ => failsWith_modify _)
    (failsWith_modify _)

/-- Letting a file take the place of another one fails because of the file system. -/
theorem failsWith_replaceFile (source target : Path) :
    FailsWith StoreFault.Systemic (replaceFile source target) := by
  refine FailsWith.bind (failsWith_placeOf source) fun before =>
    FailsWith.bind (failsWith_placeOf target) fun after => FailsWith.bind failsWith_get fun s =>
    FailsWith.bind failsWith_get fun s' => ?_
  split
  · exact FailsWith.throw rfl
  · exact FailsWith.bind (failsWith_modify _) fun _ => failsWith_modify _
  · exact FailsWith.throw rfl

/-- Removing a file fails because of the file system. -/
theorem failsWith_removeFile (p : Path) : FailsWith StoreFault.Systemic (removeFile p) := by
  refine FailsWith.bind (failsWith_placeOf p) fun place => FailsWith.bind failsWith_get fun s => ?_
  exact FailsWith.ite (FailsWith.bind (FailsWith.throw rfl) fun _ => failsWith_modify _)
    (failsWith_modify _)

/-- **Writing a file as a whole fails because of the file system**, if its path has no character of
code zero. -/
theorem failsWith_writeWhole (h : Store.hasNull p = false) (bytes : List UInt8) :
    FailsWith StoreFault.Systemic (writeWhole p bytes) := by
  refine FailsWith.bind (failsWith_ensureDirectories _ (Store.hasNull_parent h)) fun _ =>
    FailsWith.bind failsWith_get fun s => ?_
  intro s e s' he
  rcases exec_bind_cases he with ⟨e', hcreate, heq⟩ | ⟨temporary, s'', hcreate, hrest⟩
  · obtain rfl := Except.error.inj heq
    exact failsWith_createTemporary h _ _ _ _ _ hcreate
  · -- The temporary file has a name without this character, as it has been made.
    rcases createTemporary_spec p _ 0 _ with ⟨fault, herror⟩ | ⟨made, place, hok, -, hnull, -, -⟩
    · rw [herror] at hcreate
      cases hcreate
    · rw [hok] at hcreate
      obtain rfl := Except.ok.inj (Prod.mk.inj hcreate).1
      refine FailsWith.tryCatch ?_ (fun fault hfault => ?_) _ _ _ hrest
      · exact FailsWith.bind (failsWith_writeFile hnull bytes) fun _ => failsWith_replaceFile _ _
      · exact FailsWith.bind (failsWith_removeFile _) fun _ => FailsWith.throw hfault

/-- A file cannot be written where its path cannot be looked at, or the path of a root above it. -/
theorem writeWhole_of_look_error {s : Store} {root : Path} {fault : StoreFault}
    (hp : p = root ∨ Path.Below root p) (hlook : s.look root = .error fault) (bytes : List UInt8) :
    ∃ reason s', exec (writeWhole p bytes) s = (.error reason, s') := by
  rcases writeWhole_spec p bytes s with ⟨reason, s', h, -⟩ | ⟨place, s', h, -, hplace, -, hevolves⟩
  · exact ⟨reason, s', h⟩
  · -- Where the file is found then, the root is found too, which it is not.
    have hroot : ∃ before, s'.placeOf root = .ok before := by
      rcases hp with rfl | hbelow
      · exact ⟨place, hplace⟩
      · exact Store.exists_placeOf_of_below hbelow hplace
    obtain ⟨before, hbefore⟩ := hroot
    exact absurd (hevolves.look_eq_error hlook) (Store.look_ne_error hbefore fault)

end Filing
end FluentBuilder
