import FluentBuilder.Proofs.Store.Extension
import Mathlib.Data.List.NodupEquivFin

/-!
# What is in the way of writing a file

`writing_writeWhole` says which result the writing of a file has, by what stands in its way before. There
are four cases: a file stands where a directory is to be made, or a name is too long, or a directory stands
where the file is to be written, or else the file is written.

**Ways.** The path is one that was resolved, so that its names lead down from the root. They are followed
until one of them is too long, or leads to something that is no directory (`Walked`). In a store that is
rooted nothing stands below a file or below nothing. So making the directories around a file
(`exec_ensureDirectories_of_blocked`, `exec_ensureDirectories_of_free`) fails at a file at once, and
otherwise makes all of them, unless it comes to a name that is too long; some directories have been made by
then.

**The temporary file.** It gets the first name that nothing has (`First`). There is one among as many names
as there are nodes and one more, because different numbers make different names (`exists_first`).
-/

namespace FluentBuilder

open Stateful

namespace Store

variable {s s' : Store} {p : Path} {place : Place}

/-! ### Where a way ends -/

/-- None of the names is too long. -/
def Short (names : List String) : Prop := ∀ name ∈ names, Utf8.size name.toList ≤ nameLimit

/-- Names of a beginning are not too long if those of the whole are not. -/
theorem Short.of_prefix {front names : List String} (h : Short names) (hfront : front <+: names) :
    Short front :=
  fun name hname => h name (hfront.subset hname)

/-- Neither the path nor one of its names is too long. -/
structure Fits (p : Path) : Prop where
  /-- The path is not too long. -/
  path : Utf8.size p.render.toList ≤ pathLimit
  /-- Its names are not. -/
  names : Short p.parts

instance (names : List String) : Decidable (Short names) :=
  inferInstanceAs (Decidable (∀ name ∈ names, Utf8.size name.toList ≤ nameLimit))

instance (p : Path) : Decidable (Fits p) :=
  decidable_of_iff (Utf8.size p.render.toList ≤ pathLimit ∧ Short p.parts)
    ⟨fun h => ⟨h.1, h.2⟩, fun h => ⟨h.path, h.names⟩⟩

/-- What is around a path is not too long if the path is not. -/
theorem size_parent_le (h : Utf8.size p.render.toList ≤ pathLimit) :
    Utf8.size p.parent.render.toList ≤ pathLimit := by
  have hsize := Path.size_render_le p.parent (p.parts.drop (p.parts.length - 1))
  have hwhole : p.parent.parts ++ p.parts.drop (p.parts.length - 1) = p.parts := by
    rw [Path.parent, List.dropLast_eq_take, List.take_append_drop]
  rw [hwhole] at hsize
  have hone : 1 ≤ pathLimit := by decide
  exact hsize.trans (max_le hone h)

/-- What is around a path fits if the path does. -/
theorem Fits.parent (h : Fits p) : Fits p.parent :=
  ⟨size_parent_le h.path, h.names.of_prefix (List.dropLast_prefix _)⟩

/-- Directories stand all along a way. -/
def Paved (s : Store) (start : Place) (names : List String) : Prop :=
  ∀ front, front <+: names → front ≠ [] → s.node? (start ++ front) = some .directory

/-- There is nothing on no way. -/
theorem paved_nil (s : Store) (start : Place) : Paved s start [] :=
  fun _ hfront hne => absurd (List.prefix_nil.mp hfront) hne

/-- A beginning is the whole or a beginning of what stands before the last name. -/
theorem prefix_dropLast {front names : List String} (hfront : front <+: names) (hne : front ≠ names) :
    front <+: names.dropLast := by
  obtain ⟨further, rfl⟩ := hfront
  have hfurther : further ≠ [] := by
    rintro rfl
    exact hne (List.append_nil front).symm
  rw [List.dropLast_append_of_ne_nil hfurther]
  exact List.prefix_append front _

/-- A way is paved from a directory on. -/
theorem Paved.cons {start : Place} {name : String} {names : List String}
    (hnode : s.node? (start ++ [name]) = some .directory) (h : Paved s (start ++ [name]) names) :
    Paved s start (name :: names) := by
  intro front hfront hne
  obtain ⟨rest, rfl, hrest⟩ := (List.prefix_cons_iff.mp hfront).resolve_left hne
  by_cases hnil : rest = []
  · rw [hnil]
    exact hnode
  · have hdirectory := h rest hrest hnil
    rwa [List.append_assoc, List.singleton_append] at hdirectory

/-- The same holds of the directories on it. -/
theorem Paved.cons_dropLast {start : Place} {name : String} {names : List String}
    (hnode : s.node? (start ++ [name]) = some .directory) (h : Paved s (start ++ [name]) names.dropLast) :
    Paved s start (name :: names).dropLast := by
  by_cases hnil : names = []
  · rw [hnil]
    exact paved_nil s start
  · rw [List.dropLast_cons_of_ne_nil hnil]
    exact h.cons hnode

/-- Directories stand at all beginnings of a paved way from the root on. -/
theorem Paved.node? {names front : List String} (h : Paved s [] names) (hfront : front <+: names) :
    s.node? front = some .directory := by
  by_cases hnil : front = []
  · rw [hnil]
    exact node?_nil s
  · exact h front hfront hnil

/-- Where names lead that are followed from a place on, and why no further. -/
inductive Walked (s : Store) (path : String) (start : Place) (names : List String) :
    Except StoreFault Place → Prop
  /-- They are followed to the end. -/
  | found (hshort : Short names) (hpaved : Paved s start names.dropLast) :
    Walked s path start names (.ok (start ++ names))
  /-- One of them is too long. -/
  | tooLong {front back : List String} {name : String} (hsplit : names = front ++ name :: back)
    (hlong : nameLimit < Utf8.size name.toList) (hpaved : Paved s start front) :
    Walked s path start names (.error (.nameTooLong path))
  /-- They lead through a file. -/
  | blocked {front : List String} {bytes : List UInt8} (hfront : front <+: names) (hrest : front ≠ names)
    (hshort : Short front) (hnode : s.node? (start ++ front) = some (.file bytes)) :
    Walked s path start names (.error (.notDirectory path))
  /-- They lead to nothing. -/
  | missing {front : List String} (hfront : front <+: names) (hrest : front ≠ names)
    (hpaved : Paved s start front.dropLast) (hnode : s.node? (start ++ front) = none) :
    Walked s path start names (.error (.missing path))

/-- One more name is followed before, to a directory. -/
theorem Walked.cons {path name : String} {start : Place} {names : List String}
    {result : Except StoreFault Place} (hname : Utf8.size name.toList ≤ nameLimit)
    (hnode : s.node? (start ++ [name]) = some .directory)
    (h : Walked s path (start ++ [name]) names result) : Walked s path start (name :: names) result := by
  have hassoc : ∀ front : List String, start ++ [name] ++ front = start ++ name :: front := by simp
  cases h with
  | found hshort hpaved =>
    rw [hassoc]
    exact .found (List.forall_mem_cons.mpr ⟨hname, hshort⟩) (hpaved.cons_dropLast hnode)
  | tooLong hsplit hlong hpaved =>
    exact .tooLong (by rw [hsplit, List.cons_append]) hlong (hpaved.cons hnode)
  | blocked hfront hrest hshort hfile =>
    exact .blocked (List.cons_prefix_cons.mpr ⟨rfl, hfront⟩) (by simpa using hrest)
      (List.forall_mem_cons.mpr ⟨hname, hshort⟩) (hassoc _ ▸ hfile)
  | missing hfront hrest hpaved hnone =>
    exact .missing (List.cons_prefix_cons.mpr ⟨rfl, hfront⟩) (by simpa using hrest)
      (hpaved.cons_dropLast hnode) (hassoc _ ▸ hnone)

/-- **Where names lead.** -/
theorem walked_walk (s : Store) (path : String) {names : List String} (hup : ".." ∉ names)
    (start : Place) : Walked s path start names (s.walk path start names) := by
  induction names generalizing start with
  | nil =>
    have hend : Walked s path start [] (.ok (start ++ [])) :=
      .found (List.forall_mem_nil _) (paved_nil s start)
    rwa [List.append_nil] at hend
  | cons name rest ih =>
    rw [List.mem_cons, not_or] at hup
    rw [walk, if_neg (by simpa using Ne.symm hup.1)]
    split
    · next hlong =>
      have hsplit : name :: rest = [] ++ name :: rest := rfl
      exact .tooLong hsplit hlong (paved_nil s start)
    · next hshort =>
      rw [not_lt] at hshort
      have hname : Short [name] := List.forall_mem_singleton.mpr hshort
      simp only
      split
      · next hlast =>
        obtain rfl := List.isEmpty_iff.mp hlast
        exact .found hname (paved_nil s start)
      · next hlast =>
        have hrest : [name] ≠ name :: rest := fun heq =>
          hlast (List.isEmpty_iff.mpr (List.cons.inj heq).2.symm)
        have hfirst : [name] <+: name :: rest := by simp
        split
        · next hnode => exact (ih hup.2 (start ++ [name])).cons hshort hnode
        · next hnode => exact .blocked hfirst hrest hname hnode
        · next hnode => exact .missing hfirst hrest (paved_nil s start) hnode

/-- Where a path leads that was resolved. -/
theorem Resolved.placeOf_cases (h : Resolved p) (s : Store) :
    (pathLimit < Utf8.size p.render.toList ∧ s.placeOf p = .error (.nameTooLong p.render)) ∨
      Utf8.size p.render.toList ≤ pathLimit ∧ Walked s p.render [] p.parts (s.placeOf p) := by
  rw [placeOf]
  split
  · next hlong => exact .inl ⟨hlong, rfl⟩
  · next hshort =>
    have horigin : s.origin p = [] := if_pos h.isAbsolute
    rw [horigin]
    exact .inr ⟨not_lt.mp hshort, walked_walk s p.render h.not_up []⟩

/-- A path that was resolved is found where directories stand around it and nothing in it is too long. -/
theorem Resolved.placeOf_of_paved (h : Resolved p) (hfits : Fits p)
    (hpaved : Paved s [] p.parts.dropLast) : s.placeOf p = .ok p.parts := by
  rcases h.placeOf_cases s with ⟨hlong, -⟩ | ⟨-, hwalked⟩
  · exact absurd hfits.path (not_le.mpr hlong)
  generalize hresult : s.placeOf p = result at hwalked
  cases hwalked with
  | found => rfl
  | tooLong hsplit hlong => exact absurd (hfits.names _ (by rw [hsplit]; simp)) (not_le.mpr hlong)
  | blocked hfront hrest _ hnode =>
    cases (hpaved.node? (prefix_dropLast hfront hrest)).symm.trans hnode
  | missing hfront hrest _ hnode =>
    cases (hpaved.node? (prefix_dropLast hfront hrest)).symm.trans hnode

/-- It is not found there if something in it is too long. -/
theorem Resolved.placeOf_of_not_fits (h : Resolved p) (hlong : ¬ Fits p)
    (hpaved : Paved s [] p.parts.dropLast) : s.placeOf p = .error (.nameTooLong p.render) := by
  rcases h.placeOf_cases s with ⟨-, hplace⟩ | ⟨hpath, hwalked⟩
  · exact hplace
  generalize s.placeOf p = result at hwalked
  cases hwalked with
  | found hshort => exact absurd ⟨hpath, hshort⟩ hlong
  | tooLong => rfl
  | blocked hfront hrest _ hnode =>
    cases (hpaved.node? (prefix_dropLast hfront hrest)).symm.trans hnode
  | missing hfront hrest _ hnode =>
    cases (hpaved.node? (prefix_dropLast hfront hrest)).symm.trans hnode

/-- A directory stands at a path along which directories stand. -/
theorem Resolved.look_of_paved (h : Resolved p) (hfits : Fits p) (hpaved : Paved s [] p.parts) :
    s.look p = .ok (some .directory) := by
  have hplace := h.placeOf_of_paved hfits fun front hfront hne =>
    hpaved front (hfront.trans (List.dropLast_prefix _)) hne
  simp [Store.look, h.not_null, status, hplace, hpaved.node? (List.prefix_refl _), bind, Except.bind, pure,
    Except.pure]

/-- Nothing stands at a path to which no directories lead. Only names are looked at that are on the way. -/
theorem Resolved.look_of_not_paved (h : Resolved p) (hsize : Utf8.size p.render.toList ≤ pathLimit)
    (hshort : Short p.parts.dropLast) (hpaved : ¬ Paved s [] p.parts.dropLast) : s.look p = .ok none := by
  have hother : ∀ fault, s.placeOf p = .error fault → (∀ path, fault ≠ .nameTooLong path) →
      s.look p = .ok none := by
    intro fault hplace hfault
    rw [Store.look, h.not_null, status, hplace]
    cases fault with
    | nameTooLong path => exact absurd rfl (hfault path)
    | _ => rfl
  rcases h.placeOf_cases s with ⟨hlong, -⟩ | ⟨-, hwalked⟩
  · exact absurd hsize (not_le.mpr hlong)
  generalize hresult : s.placeOf p = result at hwalked
  cases hwalked with
  | found _ hfound => exact absurd hfound hpaved
  | blocked => exact hother _ hresult fun path => StoreFault.noConfusion
  | missing => exact hother _ hresult fun path => StoreFault.noConfusion
  | @tooLong front back name hsplit hlong hfront =>
    -- Either a name on the way is too long, or directories lead to the last one.
    rw [hsplit] at hshort hpaved
    cases back with
    | nil =>
      rw [List.dropLast_concat] at hpaved
      exact absurd hfront hpaved
    | cons next rest =>
      have hname : name ∈ (front ++ name :: next :: rest).dropLast := by
        rw [List.dropLast_append_of_ne_nil (by simp)]
        simp
      exact absurd (hshort name hname) (not_le.mpr hlong)

end Store

namespace Filing

open Store

variable {s s' : Store} {p : Path} {place : Place}

/-! ### Directories -/

/-- What comes of making sure of a directory. -/
theorem exec_ensureDirectory (h : Resolved p) (s : Store) :
    exec (ensureDirectory p) s = match s.placeOf p with
      | .error fault => (.error fault, s)
      | .ok place => match s.node? place with
        | some .directory => (.ok (), s)
        | some (.file _) => (.error (.exists p.render), s)
        | none => (.ok (), s.putNode place .directory) := by
  rcases hplace : s.placeOf p with fault | place
  · have hlook : s.isDirectory p = .ok false ∨ s.isDirectory p = .error fault := by
      rw [isDirectory, Store.look, h.not_null, status, hplace]
      cases fault <;> simp [Except.map, bind, Except.bind]
    simp only [ensureDirectory, makeDirectory, create, exec_tryCatch, exec_bind, exec_look,
      h.not_null, hplace, Bool.false_eq_true, if_false]
    rcases hlook with hlook | hlook
    · cases fault <;> simp [exec_bind, hlook]
    · cases fault <;> simp [exec_bind, hlook]
  · have hlook : ∀ {node : Node}, s.node? place = some node →
        s.isDirectory p = .ok (node == .directory) := by
      intro node hnode
      simp [isDirectory, Store.look, h.not_null, status, hplace, hnode, Except.map, bind, Except.bind,
        pure, Except.pure]
    simp only [ensureDirectory, makeDirectory, create, exec_tryCatch, exec_bind, exec_look,
      h.not_null, hplace, Bool.false_eq_true, if_false, exec_get]
    rcases hnode : s.node? place with _ | node
    · simp
    · cases node <;> simp [exec_bind, hlook hnode]

/-- A file stands on the way to a directory, and nothing that leads to it is too long. -/
structure Obstructed (s : Store) (p : Path) (place : Place) : Prop where
  /-- The path is not too long. -/
  path : Utf8.size p.render.toList ≤ pathLimit
  /-- The file stands on the way, or at its end. -/
  front : place <+: p.parts
  /-- No name up to the file is too long. -/
  short : Short place
  /-- It is a file. -/
  file : ∃ bytes, s.node? place = some (.file bytes)

/-- The fault of a directory that cannot be made because of a file. -/
def obstruction (p : Path) (place : Place) : StoreFault :=
  if place = p.parts then .exists p.render else .notDirectory p.render

/-- No directory stands where a file stands. -/
theorem Obstructed.not_paved (h : Obstructed s p place) {names : List String} (hplace : place <+: names) :
    ¬ Paved s [] names := by
  obtain ⟨bytes, hfile⟩ := h.file
  intro hpaved
  cases (hpaved.node? hplace).symm.trans hfile

/-- There is one such file at most. -/
theorem Obstructed.unique (h : Obstructed s p place) (hrooted : s.Rooted) {place' : Place}
    (h' : Obstructed s p place') : place = place' := by
  have hlonger : ∀ {place place' : Place}, Obstructed s p place → Obstructed s p place' →
      place <+: place' → place = place' := by
    rintro place _ ⟨-, -, -, bytes, hfile⟩ ⟨-, -, -, bytes', hfile'⟩ ⟨further, rfl⟩
    by_cases hnil : further = []
    · rw [hnil, List.append_nil]
    · cases (hrooted.directory hnil (by rw [hfile']; simp)).symm.trans hfile
  rcases List.prefix_or_prefix_of_prefix h.front h'.front with hfront | hfront
  · exact hlonger h h' hfront
  · exact (hlonger h' h hfront).symm

/-- A file on the way to a directory is a fault at once. -/
theorem exec_ensureDirectory_of_obstructed (h : Resolved p) (hrooted : s.Rooted)
    (hfile : Obstructed s p place) :
    exec (ensureDirectory p) s = (.error (obstruction p place), s) := by
  obtain ⟨bytes, hnode⟩ := hfile.file
  rw [exec_ensureDirectory h]
  rcases h.placeOf_cases s with ⟨hlong, -⟩ | ⟨-, hwalked⟩
  · exact absurd hfile.path (not_le.mpr hlong)
  generalize s.placeOf p = result at hwalked
  cases hwalked with
  | found hshort hpaved =>
    have hend : place = p.parts := by
      by_contra hne
      exact hfile.not_paved (prefix_dropLast hfile.front hne) hpaved
    rw [obstruction, if_pos hend]
    simp only [List.nil_append, ← hend, hnode]
  | @tooLong front back name hsplit hlong hpaved =>
    exfalso
    have hbegin : front ++ [name] <+: p.parts := by rw [hsplit]; simp
    rcases List.prefix_or_prefix_of_prefix hfile.front hbegin with hbefore | hafter
    · by_cases hwhole : place = front ++ [name]
      · exact absurd (hfile.short name (by rw [hwhole]; simp)) (not_le.mpr hlong)
      · refine hfile.not_paved (prefix_dropLast hbefore hwhole) ?_
        rwa [List.dropLast_concat]
    · exact absurd (hfile.short name (hafter.subset (by simp))) (not_le.mpr hlong)
  | blocked hfront hrest hshort hother =>
    obtain rfl := hfile.unique hrooted ⟨hfile.path, hfront, hshort, _, hother⟩
    rw [obstruction, if_neg hrest]
  | @missing front hfront hrest hpaved hnone =>
    exfalso
    rcases List.prefix_or_prefix_of_prefix hfile.front hfront with hbefore | ⟨further, rfl⟩
    · by_cases hwhole : place = front
      · rw [hwhole] at hnode
        cases hnode.symm.trans hnone
      · exact hfile.not_paved (prefix_dropLast hbefore hwhole) hpaved
    · by_cases hnil : further = []
      · rw [hnil, List.append_nil] at hnode
        cases hnode.symm.trans hnone
      · rw [List.nil_append] at hnone
        cases (hrooted.directory hnil (by rw [hnode]; simp)).symm.trans hnone

/-- Any fault but that of something missing ends the making of directories. -/
theorem exec_ensureDirectories_of_error {fault : StoreFault}
    (h : exec (ensureDirectory p) s = (.error fault, s')) (hfault : ∀ path, fault ≠ .missing path)
    (fuel : Nat) : exec (ensureDirectories fuel p) s = (.error fault, s') := by
  cases fuel with
  | zero => exact h
  | succ fuel =>
    rw [ensureDirectories, exec_tryCatch, h]
    cases fault with
    | missing path => exact absurd rfl (hfault path)
    | _ => rfl

/-- Where something is missing on the way, the directories around are made first. -/
theorem exec_ensureDirectories_of_missing {path : String} {s₁ : Store} {result : Except StoreFault Unit}
    {fuel : Nat} (hne : p.parent ≠ p) (hmissing : exec (ensureDirectory p) s = (.error (.missing path), s₁))
    (habove : exec (ensureDirectories fuel p.parent) s₁ = (.ok (), s'))
    (hagain : exec (ensureDirectory p) s' = (result, s')) :
    exec (ensureDirectories (fuel + 1) p) s = (result, s') := by
  rw [ensureDirectories, exec_tryCatch, hmissing]
  simp only [if_neg hne]
  rw [exec_bind_of_ok habove, hagain]

/-- **A file on the way ends the making of directories**, and none has been made. -/
theorem exec_ensureDirectories_of_obstructed (h : Resolved p) (hrooted : s.Rooted)
    (hfile : Obstructed s p place) (fuel : Nat) :
    exec (ensureDirectories fuel p) s = (.error (obstruction p place), s) := by
  refine exec_ensureDirectories_of_error (exec_ensureDirectory_of_obstructed h hrooted hfile) ?_ fuel
  intro path
  unfold obstruction
  split <;> simp

/-- What comes of making sure of a directory where no file is in the way: it is there then, or something
is too long, or something is missing on the way. -/
theorem exec_ensureDirectory_cases (h : Resolved p) (hfree : ∀ place, ¬ Obstructed s p place) :
    (Fits p ∧ ∃ s', exec (ensureDirectory p) s = (.ok (), s') ∧ Paved s' [] p.parts) ∨
      (¬ Fits p ∧ exec (ensureDirectory p) s = (.error (.nameTooLong p.render), s)) ∨
      Utf8.size p.render.toList ≤ pathLimit ∧ exec (ensureDirectory p) s = (.error (.missing p.render), s) ∧
        ∃ front, front <+: p.parts ∧ front ≠ p.parts ∧ s.node? front = none := by
  rw [exec_ensureDirectory h]
  rcases h.placeOf_cases s with ⟨hlong, hplace⟩ | ⟨hpath, hwalked⟩
  · rw [hplace]
    exact .inr (.inl ⟨fun hfits => absurd hfits.path (not_le.mpr hlong), rfl⟩)
  generalize s.placeOf p = result at hwalked
  cases hwalked with
  | found hshort hpaved =>
    -- The directories on the way stay, and the last one is there then.
    have hdone : ∀ {s' : Store}, (∀ place, s.node? place = some .directory →
        s'.node? place = some .directory) → s'.node? p.parts = some .directory →
          Paved s' [] p.parts := by
      intro s' hstays hlast front hfront hne
      by_cases hwhole : front = p.parts
      · rw [hwhole]
        exact hlast
      · exact hstays front (hpaved.node? (prefix_dropLast hfront hwhole))
    refine .inl ⟨⟨hpath, hshort⟩, ?_⟩
    simp only [List.nil_append]
    rcases hnode : s.node? p.parts with _ | bytes | _
    · have hput := evolves_putNode_directory hnode
      refine ⟨_, rfl, hdone hput.directory ?_⟩
      rw [node?_putNode s (ne_nil_of_node?_eq_none hnode), if_pos rfl]
    · exact absurd ⟨hpath, List.prefix_refl _, hshort, bytes, hnode⟩ (hfree p.parts)
    · exact ⟨s, rfl, hdone (fun _ hdirectory => hdirectory) hnode⟩
  | tooLong hsplit hlong =>
    refine .inr (.inl ⟨fun hfits => ?_, rfl⟩)
    exact absurd (hfits.names _ (by rw [hsplit]; simp)) (not_le.mpr hlong)
  | blocked hfront hrest hshort hnode =>
    exact absurd ⟨hpath, hfront, hshort, _, hnode⟩ (hfree _)
  | missing hfront hrest _ hnode => exact .inr (.inr ⟨hpath, rfl, _, hfront, hrest, hnode⟩)

/-- **Where no file is in the way, all directories are made**, unless something is too long. -/
theorem exec_ensureDirectories_of_free (h : Resolved p) (hrooted : s.Rooted)
    (hfree : ∀ place, ¬ Obstructed s p place) {fuel : Nat} (hfuel : p.parts.length ≤ fuel) :
    (Fits p ∧ ∃ s', exec (ensureDirectories fuel p) s = (.ok (), s') ∧ Paved s' [] p.parts) ∨
      ¬ Fits p ∧ ∃ path s', exec (ensureDirectories fuel p) s = (.error (.nameTooLong path), s') := by
  -- Where something is missing on the way, there are directories to be made.
  have hparts : ∀ {front names : List String}, front <+: names → front ≠ names → names ≠ [] := by
    rintro front names hfront hrest rfl
    exact hrest (List.prefix_nil.mp hfront)
  induction fuel generalizing p with
  | zero =>
    rcases exec_ensureDirectory_cases h hfree with hmade | ⟨hlong, hfailed⟩ | ⟨-, -, front, hfront, hrest, -⟩
    · exact .inl hmade
    · exact .inr ⟨hlong, _, _, hfailed⟩
    · exact absurd (List.eq_nil_of_length_eq_zero (Nat.le_zero.mp hfuel)) (hparts hfront hrest)
  | succ fuel ih =>
    rw [ensureDirectories, exec_tryCatch]
    rcases exec_ensureDirectory_cases h hfree with
      ⟨hfits, s', hmade, hpaved⟩ | ⟨hlong, hfailed⟩ | ⟨hpath, hfailed, front, hfront, hrest, hnone⟩
    · rw [hmade]
      exact .inl ⟨hfits, s', rfl, hpaved⟩
    · rw [hfailed]
      exact .inr ⟨hlong, _, _, rfl⟩
    have hlength : p.parent.parts.length + 1 = p.parts.length := by
      have hpos := List.length_pos_iff.mpr (hparts hfront hrest)
      rw [Path.parent, List.length_dropLast]
      omega
    have hparent : p.parent ≠ p := fun heq => by
      rw [heq] at hlength
      omega
    have habove : ∀ place, ¬ Obstructed s p.parent place := fun place hfile =>
      hfree place ⟨hpath, hfile.front.trans (List.dropLast_prefix _), hfile.short, hfile.file⟩
    rw [hfailed]
    simp only [if_neg hparent]
    rcases ih h.parent habove (by omega) with
      ⟨hfits, s₁, hmade, hpaved⟩ | ⟨hlong, path, s₁, hfailed'⟩
    · rw [exec_bind_of_ok hmade]
      have hkept : Evolves (fun _ => False) s s₁ := by
        have hevolves := evolves_ensureDirectories fuel p.parent s
        rwa [hmade] at hevolves
      have hfree' : ∀ place, ¬ Obstructed s₁ p place := by
        intro place hfile
        by_cases hwhole : place = p.parts
        · -- Nothing stood there, since something was missing on the way.
          obtain ⟨bytes, hnode⟩ := hfile.file
          obtain ⟨further, heq⟩ := hfront
          have hfurther : further ≠ [] := by
            rintro rfl
            exact hrest (by rw [← heq, List.append_nil])
          rw [← fileAt_eq_some_iff, hkept.fileAt_eq _ not_false, fileAt_eq_some_iff, hwhole, ← heq] at hnode
          cases (hrooted.directory hfurther (by rw [hnode]; simp)).symm.trans hnone
        · exact hfile.not_paved (prefix_dropLast hfile.front hwhole) hpaved
      rcases exec_ensureDirectory_cases h hfree' with
        hdone | ⟨hlong, hfailed'⟩ | ⟨-, -, front', hfront', hrest', hnone'⟩
      · exact .inl hdone
      · exact .inr ⟨hlong, _, _, hfailed'⟩
      · cases (hpaved.node? (prefix_dropLast hfront' hrest')).symm.trans hnone'
    · rw [exec_bind_of_error hfailed']
      exact .inr ⟨fun hfits => hlong hfits.parent, path, s₁, rfl⟩

/-! ### The temporary file -/

/-- Different numbers make different marks. -/
theorem temporaryMark_inj {j k : Nat} (h : temporaryMark j = temporaryMark k) : j = k := by
  -- The digits are what is left without the filling.
  have hdigits : ∀ n : Nat, (temporaryMark n).toList.filter (· != 'X') =
      if n = 0 then [] else n.repr.toList := by
    intro n
    have hkept : ∀ c ∈ (if n = 0 then [] else n.repr.toList), (c != 'X') = true := by
      intro c hc
      split at hc
      · cases hc
      · rw [Nat.toList_repr] at hc
        have hdigit := Nat.isDigit_of_mem_toDigits (by decide) (by decide) hc
        rw [bne_iff_ne]
        rintro rfl
        cases hdigit
    simp only [temporaryMark, String.toList_ofList, Nat.toString_eq_repr]
    rw [List.filter_append, List.filter_replicate, if_neg (by decide), List.nil_append,
      List.filter_eq_self.mpr hkept]
  -- They write the number again; no digits write nought.
  have hnumber : ∀ n : Nat, Nat.ofDigitChars 10 (if n = 0 then [] else n.repr.toList) 0 = n := by
    intro n
    split
    · next hn => rw [hn, Nat.ofDigitChars_nil]
    · rw [Nat.toList_repr, Nat.ofDigitChars_toDigits (by decide) (by decide)]
  rw [← hnumber j, ← hnumber k, ← hdigits, ← hdigits, h]

/-- The name of a temporary file. -/
def temporaryName (p : Path) (n : Nat) : String := "." ++ p.name ++ "." ++ temporaryMark n ++ ".tmp"

/-- The temporary file stands beside the file. -/
theorem temporaryPath_parts (p : Path) (n : Nat) :
    (temporaryPath p n).parts = p.parts.dropLast ++ [temporaryName p n] := rfl

/-- Different numbers make different temporary files. -/
theorem temporaryPath_parts_inj {j k : Nat}
    (h : (temporaryPath p j).parts = (temporaryPath p k).parts) : j = k := by
  rw [temporaryPath_parts, temporaryPath_parts] at h
  have hname := List.singleton_inj.mp (List.append_cancel_left h)
  simp only [temporaryName, String.append_assoc] at hname
  have hmarks := congrArg String.toList hname
  simp only [String.toList_append, List.append_cancel_left_eq, List.append_cancel_right_eq] at hmarks
  exact temporaryMark_inj (String.toList_inj.mp hmarks)

/-- The path of a temporary file is one that was resolved. -/
theorem resolved_temporaryPath (h : Resolved p) (n : Nat) : Resolved (temporaryPath p n) where
  isAbsolute := h.isAbsolute
  not_up := by
    rw [temporaryPath_parts, List.mem_append, List.mem_singleton, not_or]
    refine ⟨fun hmem => h.not_up (List.dropLast_subset _ hmem), fun heq => ?_⟩
    have hlength := congrArg (fun name => name.toList.length) heq
    simp only [temporaryName, String.toList_append, List.length_append] at hlength
    simp at hlength
  not_null := hasNull_temporaryPath h.not_null n

/-- The temporary file is found where directories stand around it, unless it is too long. -/
theorem exec_create_temporary (h : Resolved p) (hpaved : Paved s [] p.parts.dropLast) (n : Nat) :
    exec (create "open" (.file []) (temporaryPath p n)) s =
      if ¬ Fits (temporaryPath p n) then (.error (.nameTooLong (temporaryPath p n).render), s)
      else if s.node? (temporaryPath p n).parts = none then
        (.ok (), s.putNode (temporaryPath p n).parts (.file []))
      else (.error (.exists (temporaryPath p n).render), s) := by
  have hresolved := resolved_temporaryPath h n
  have hpaved' : Paved s [] (temporaryPath p n).parts.dropLast := by
    rwa [temporaryPath_parts, List.dropLast_concat]
  by_cases hfits : Fits (temporaryPath p n)
  · have hplace := hresolved.placeOf_of_paved hfits hpaved'
    rw [if_neg (not_not.mpr hfits)]
    rcases hnode : s.node? (temporaryPath p n).parts with _ | node
    · simp [create, exec_bind, hresolved.not_null, hplace, hnode]
    · simp [create, exec_bind, hresolved.not_null, hplace, hnode]
  · have hplace := hresolved.placeOf_of_not_fits hfits hpaved'
    rw [if_pos hfits]
    simp [create, exec_bind, hresolved.not_null, hplace]

/-- A name for a temporary file that something has. -/
def Occupied (s : Store) (p : Path) (n : Nat) : Prop :=
  Fits (temporaryPath p n) ∧ s.node? (temporaryPath p n).parts ≠ none

/-- The first name for a temporary file that nothing has. -/
structure First (s : Store) (p : Path) (n : Nat) : Prop where
  /-- Nothing has it, or it is too long. -/
  free : ¬ Occupied s p n
  /-- Something has all those before it. -/
  before : ∀ k < n, Occupied s p k

/-- There is one first name. -/
theorem First.unique {j k : Nat} (h : First s p j) (h' : First s p k) : j = k := by
  rcases Nat.lt_trichotomy j k with hlt | heq | hgt
  · exact absurd (h'.before j hlt) h.free
  · exact heq
  · exact absurd (h.before k hgt) h'.free

/-- **There is a first name** among as many as there are nodes and one more. -/
theorem exists_first (s : Store) (p : Path) : ∃ n < s.nodes.length + 1, First s p n := by
  classical
  have hfree : ∃ n < s.nodes.length + 1, ¬ Occupied s p n := by
    by_contra hnone
    push Not at hnone
    -- Otherwise there were more places than nodes.
    let places := (List.range (s.nodes.length + 1)).map fun n => (temporaryPath p n).parts
    have hnodup : places.Nodup :=
      (List.nodup_map_iff fun _ _ h => temporaryPath_parts_inj h).mpr List.nodup_range
    have hlisted : places ⊆ s.nodes.map Prod.fst := by
      intro place hplace
      obtain ⟨n, hn, rfl⟩ := List.mem_map.mp hplace
      obtain ⟨node, hnode⟩ := Option.ne_none_iff_exists'.mp (hnone n (List.mem_range.mp hn)).2
      have hne : (temporaryPath p n).parts ≠ [] := by simp [temporaryPath_parts]
      exact List.mem_map_of_mem (mem_nodes_of_node? hne hnode)
    have hlength := (List.subperm_of_subset hnodup hlisted).length_le
    simp only [places, List.length_map, List.length_range] at hlength
    omega
  obtain ⟨n, hn, hnot⟩ := hfree
  have hexists : ∃ n, ¬ Occupied s p n := ⟨n, hnot⟩
  exact ⟨Nat.find hexists, (Nat.find_min' hexists hnot).trans_lt hn, Nat.find_spec hexists,
    fun k hk => not_not.mp (Nat.find_min hexists hk)⟩

/-- The temporary file gets the first name, unless that is too long. -/
theorem exec_createTemporary (h : Resolved p) (hpaved : Paved s [] p.parts.dropLast) {k n tries : Nat}
    (hfirst : First s p k) (hle : n ≤ k) (hlt : k < n + tries) :
    exec (createTemporary p tries n) s =
      if Fits (temporaryPath p k) then
        (.ok (temporaryPath p k), s.putNode (temporaryPath p k).parts (.file []))
      else (.error (.nameTooLong (temporaryPath p k).render), s) := by
  induction tries generalizing n with
  | zero => omega
  | succ tries ih =>
    have hcreate := exec_create_temporary h hpaved n
    rw [createTemporary, exec_tryCatch]
    rcases Nat.eq_or_lt_of_le hle with rfl | hbefore
    · by_cases hfits : Fits (temporaryPath p n)
      · have hnone : s.node? (temporaryPath p n).parts = none := by
          by_contra hnode
          exact hfirst.free ⟨hfits, hnode⟩
        rw [if_neg (not_not.mpr hfits), if_pos hnone] at hcreate
        rw [exec_bind_of_ok hcreate, if_pos hfits]
        rfl
      · rw [if_pos hfits] at hcreate
        rw [exec_bind_of_error hcreate, if_neg hfits]
        rfl
    · obtain ⟨hfits, hnode⟩ := hfirst.before n hbefore
      rw [if_neg (not_not.mpr hfits), if_neg hnode] at hcreate
      rw [exec_bind_of_error hcreate]
      exact ih hbefore (by omega)

end Filing
end FluentBuilder
